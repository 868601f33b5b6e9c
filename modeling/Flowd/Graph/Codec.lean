import Flowd.Graph.Requests

namespace Flowd.Stored

/-! The JSON form of a graph. -/

open JsonValue

variable {V : Type}

def mapToJson (encode : V → JsonValue) (map : HashMap String V) : JsonValue :=
  .object ((SortedMap.ofHashMap map).map fun entry => (entry.1, encode entry.2))

def mapOfJson (decode : JsonValue → Option V) (value : JsonValue) : Option (HashMap String V) := do
  let entries ← value.toMap
  let pairs ← entries.mapM fun entry => (decode entry.2).map fun value => (entry.1, value)
  return SortedMap.toHashMap pairs

namespace GraphPropertiesEnvironment

def toJson (environment : GraphPropertiesEnvironment) : JsonValue :=
  ofFields [("type", .string environment.typ), ("content", .string environment.content)]

def ofJson (value : JsonValue) : Option GraphPropertiesEnvironment := do
  let fields ← value.toMap
  return ⟨← field toText "type" fields, ← field toText "content" fields⟩

end GraphPropertiesEnvironment

namespace GraphProperties

def toJson (properties : GraphProperties) : JsonValue :=
  ofFields [("name", .string properties.name), ("environment", properties.environment.toJson),
    ("description", .string properties.description), ("icon", .string properties.icon)]

def ofJson (value : JsonValue) : Option GraphProperties := do
  let fields ← value.toMap
  return ⟨← field toText "name" fields, ← field GraphPropertiesEnvironment.ofJson "environment" fields,
    ← field toText "description" fields, ← field toText "icon" fields⟩

end GraphProperties

namespace GraphPortMetadata

def toJson (metadata : GraphPortMetadata) : JsonValue := ofFields [("x", ofI32 metadata.x), ("y", ofI32 metadata.y)]

def ofJson (value : JsonValue) : Option GraphPortMetadata := do
  let fields ← value.toMap
  return ⟨← field toI32 "x" fields, ← field toI32 "y" fields⟩

end GraphPortMetadata

namespace GraphPort

def toJson (port : GraphPort) : JsonValue :=
  ofFields [("process", .string port.process), ("port", .string port.port), ("metadata", port.metadata.toJson)]

def ofJson (value : JsonValue) : Option GraphPort := do
  let fields ← value.toMap
  return ⟨← field toText "process" fields, ← field toText "port" fields,
    ← field GraphPortMetadata.ofJson "metadata" fields⟩

end GraphPort

namespace GraphGroup

def toJson (group : GraphGroup) : JsonValue :=
  ofFields [("name", .string group.name), ("nodes", .array (group.nodes.map .string)),
    ("metadata", ofFields [("description", .string group.metadata.description)])]

def metadataOfJson (value : JsonValue) : Option GraphGroupMetadata := do
  let fields ← value.toMap
  return ⟨← field toText "description" fields⟩

def ofJson (value : JsonValue) : Option GraphGroup := do
  let fields ← value.toMap
  return ⟨← field toText "name" fields, ← field (JsonValue.toList toText) "nodes" fields,
    ← field metadataOfJson "metadata" fields⟩

end GraphGroup

namespace GraphNodeMetadata

def toJson (metadata : GraphNodeMetadata) : JsonValue :=
  ofFields [("x", ofI32 metadata.x), ("y", ofI32 metadata.y), ("width", ofOption ofU32 metadata.width),
    ("height", ofOption ofU32 metadata.height), ("label", ofOption .string metadata.label),
    ("icon", ofOption .string metadata.icon)]

def ofJson (value : JsonValue) : Option GraphNodeMetadata := do
  let fields ← value.toMap
  return ⟨← field toI32 "x" fields, ← field toI32 "y" fields, ← optionalField toU32 "width" fields,
    ← optionalField toU32 "height" fields, ← optionalField toText "label" fields,
    ← optionalField toText "icon" fields⟩

end GraphNodeMetadata

namespace GraphNode

/-- `protocol_metadata` is skipped. -/
def toJson (node : GraphNode) : JsonValue :=
  ofFields [("component", .string node.component), ("metadata", node.metadata.toJson)]

def ofJson (value : JsonValue) : Option GraphNode := do
  let fields ← value.toMap
  let component ← field toText "component" fields
  let metadata ← field GraphNodeMetadata.ofJson "metadata" fields
  let protocolMetadata ←
    match SortedMap.get "protocol_metadata" fields with
    | none => some []
    | some value => value.toMap
  return ⟨component, metadata, protocolMetadata⟩

end GraphNode

namespace GraphEdgeMetadata

def toJson (metadata : GraphEdgeMetadata) : JsonValue :=
  ofFields (ofOptional "route" (metadata.route.map ofI32) ++ ofOptional "schema" (metadata.schema.map .string) ++
    ofOptional "secure" (metadata.secure.map .bool))

def ofJson (value : JsonValue) : Option GraphEdgeMetadata := do
  let fields ← value.toMap
  return ⟨← optionalField toI32 "route" fields, ← optionalField toText "schema" fields,
    ← optionalField toBool "secure" fields⟩

end GraphEdgeMetadata

namespace GraphNodeSpec

def toJson (spec : GraphNodeSpec) : JsonValue :=
  ofFields ([("process", .string spec.process), ("port", .string spec.port)] ++
    ofOptional "index" (spec.index.map .string))

def ofJson (value : JsonValue) : Option GraphNodeSpec := do
  let fields ← value.toMap
  return ⟨← field toText "process" fields, ← field toText "port" fields, ← optionalField toText "index" fields⟩

end GraphNodeSpec

namespace GraphEdge

def toJson (edge : GraphEdge) : JsonValue :=
  ofFields ([("src", edge.source.toJson)] ++ ofOptional "data" (edge.data.map .string) ++
    [("tgt", edge.target.toJson), ("metadata", edge.metadata.toJson)])

def ofJson (value : JsonValue) : Option GraphEdge := do
  let fields ← value.toMap
  return ⟨← field GraphNodeSpec.ofJson "src" fields, ← optionalField toText "data" fields,
    ← field GraphNodeSpec.ofJson "tgt" fields, ← field GraphEdgeMetadata.ofJson "metadata" fields⟩

end GraphEdge

namespace Graph

def toJson (graph : Graph) : JsonValue :=
  ofFields [("caseSensitive", .bool graph.caseSensitive), ("properties", graph.properties.toJson),
    ("inports", mapToJson GraphPort.toJson graph.inports), ("outports", mapToJson GraphPort.toJson graph.outports),
    ("groups", .array (graph.groups.map GraphGroup.toJson)), ("processes", mapToJson GraphNode.toJson graph.nodes),
    ("connections", .array (graph.edges.map GraphEdge.toJson))]

def ofJson (value : JsonValue) : Option Graph := do
  let fields ← value.toMap
  return ⟨← field toBool "caseSensitive" fields, ← field GraphProperties.ofJson "properties" fields,
    ← field (mapOfJson GraphPort.ofJson) "inports" fields, ← field (mapOfJson GraphPort.ofJson) "outports" fields,
    ← field (JsonValue.toList GraphGroup.ofJson) "groups" fields, ← field (mapOfJson GraphNode.ofJson) "processes" fields,
    ← field (JsonValue.toList GraphEdge.ofJson) "connections" fields⟩

end Graph

/-! Reading what was written. -/

/-- A map is read entry by entry. -/
theorem mapOfJson_mapToJson {W : Type} {encode : V → JsonValue} {decode : JsonValue → Option W} {change : V → W}
    (map : HashMap String V) (inverse : ∀ value, decode (encode value) = some (change value)) :
    ∃ read, mapOfJson decode (mapToJson encode map) = some read ∧
      ∀ key, read.lookup key = (map.lookup key).map change := by
  have pairs : ((SortedMap.ofHashMap map).map fun entry => (entry.1, encode entry.2)).mapM (fun entry =>
      (decode entry.2).map fun value => (entry.1, value)) =
        some ((SortedMap.ofHashMap map).map fun entry => (entry.1, change entry.2)) := by
    induction SortedMap.ofHashMap map with
    | nil => rfl
    | cons head tail ih =>
        rw [List.map_cons, List.mapM_cons, ih, inverse]
        rfl
  have distinct : (((SortedMap.ofHashMap map).map fun entry => (entry.1, change entry.2)).map Prod.fst).Nodup := by
    rw [List.map_map]
    exact (SortedMap.sorted_ofHashMap map).nodup
  refine ⟨SortedMap.toHashMap ((SortedMap.ofHashMap map).map fun entry => (entry.1, change entry.2)), ?_, ?_⟩
  · rw [mapOfJson, mapToJson, toMap_object, Option.bind_eq_bind, Option.bind_some, pairs]
    rfl
  · intro key
    rw [SortedMap.lookup_toHashMap distinct, SortedMap.get_map, SortedMap.get_ofHashMap]

theorem GraphPropertiesEnvironment.ofJson_toJson (environment : GraphPropertiesEnvironment) :
    ofJson environment.toJson = some environment := by
  simp [ofJson, toJson, ofFields, field, SortedMap.get_ofList, SortedMap.get_cons]

theorem GraphProperties.ofJson_toJson (properties : GraphProperties) : ofJson properties.toJson = some properties := by
  simp [ofJson, toJson, ofFields, field, SortedMap.get_ofList, SortedMap.get_cons, GraphPropertiesEnvironment.ofJson_toJson]

theorem GraphPort.ofJson_toJson (port : GraphPort) : ofJson port.toJson = some port := by
  simp [ofJson, toJson, ofFields, field, SortedMap.get_ofList, SortedMap.get_cons, GraphPortMetadata.ofJson,
    GraphPortMetadata.toJson]

theorem GraphGroup.ofJson_toJson (group : GraphGroup) : ofJson group.toJson = some group := by
  have nodes : (array (group.nodes.map string)).toList toText = some group.nodes :=
    toList_array fun node _ => toText_string node
  simp [ofJson, toJson, ofFields, field, SortedMap.get_ofList, SortedMap.get_cons, metadataOfJson, nodes]

theorem GraphNodeMetadata.ofJson_toJson (metadata : GraphNodeMetadata) : ofJson metadata.toJson = some metadata := by
  simp [ofJson, toJson, ofFields, field, optionalField, SortedMap.get_ofList, SortedMap.get_cons,
    optional_ofOption optional_ofU32, optional_ofOption optional_string]

/-- The protocol metadata is lost. -/
theorem GraphNode.ofJson_toJson (node : GraphNode) : ofJson node.toJson = some { node with protocolMetadata := [] } := by
  simp [ofJson, toJson, ofFields, field, SortedMap.get_ofList, SortedMap.get_cons, GraphNodeMetadata.ofJson_toJson]

theorem GraphEdgeMetadata.ofJson_toJson (metadata : GraphEdgeMetadata) : ofJson metadata.toJson = some metadata := by
  obtain ⟨route, schema, secure⟩ := metadata
  cases route <;> cases schema <;> cases secure <;>
    simp [ofJson, toJson, ofFields, ofOptional, optionalField, SortedMap.get_ofList, SortedMap.get_cons]

theorem GraphNodeSpec.ofJson_toJson (spec : GraphNodeSpec) : ofJson spec.toJson = some spec := by
  obtain ⟨process, port, index⟩ := spec
  cases index <;>
    simp [ofJson, toJson, ofFields, ofOptional, field, optionalField, SortedMap.get_ofList, SortedMap.get_cons]

theorem GraphEdge.ofJson_toJson (edge : GraphEdge) : ofJson edge.toJson = some edge := by
  obtain ⟨source, data, target, metadata⟩ := edge
  cases data <;>
    simp [ofJson, toJson, ofFields, ofOptional, field, optionalField, SortedMap.get_ofList, SortedMap.get_cons,
      GraphNodeSpec.ofJson_toJson, GraphEdgeMetadata.ofJson_toJson]

end Flowd.Stored
