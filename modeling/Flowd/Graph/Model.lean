import Flowd.Api.Json
import Flowd.Runtime.Start

namespace Flowd.Stored

/-! A graph as the server stores it, and the operations clients edit it with. -/

structure GraphPropertiesEnvironment where
  typ : String
  content : String

def GraphPropertiesEnvironment.default : GraphPropertiesEnvironment := ⟨"flowd", ""⟩

structure GraphProperties where
  name : String
  environment : GraphPropertiesEnvironment
  description : String
  icon : String

structure GraphPortMetadata where
  x : Int32
  y : Int32

structure GraphPort where
  process : String
  port : String
  metadata : GraphPortMetadata

structure GraphGroupMetadata where
  description : String

structure GraphGroup where
  name : String
  nodes : List String
  metadata : GraphGroupMetadata

def NODE_WIDTH_DEFAULT : UInt32 := 72

def NODE_HEIGHT_DEFAULT : UInt32 := 72

structure GraphNodeMetadata where
  x : Int32
  y : Int32
  width : Option UInt32
  height : Option UInt32
  label : Option String
  icon : Option String

def GraphNodeMetadata.default : GraphNodeMetadata := ⟨0, 0, some NODE_WIDTH_DEFAULT, some NODE_HEIGHT_DEFAULT, none, none⟩

/-- `protocolMetadata` is what clients sent as the metadata of the node. -/
structure GraphNode where
  component : String
  metadata : GraphNodeMetadata
  protocolMetadata : JsonMap

structure GraphEdgeMetadata where
  route : Option Int32
  schema : Option String
  secure : Option Bool

structure GraphNodeSpec where
  process : String
  port : String
  index : Option String
deriving DecidableEq

/-- An initial packet is an edge with data. -/
structure GraphEdge where
  source : GraphNodeSpec
  data : Option String
  target : GraphNodeSpec
  metadata : GraphEdgeMetadata

structure Graph where
  caseSensitive : Bool
  properties : GraphProperties
  inports : HashMap String GraphPort
  outports : HashMap String GraphPort
  groups : List GraphGroup
  nodes : HashMap String GraphNode
  edges : List GraphEdge

/-- An `std::io::Error`, or the text of a failed `expect`. -/
abbrev Failure := StartFailure

def GraphNodeSpec.ofNetwork (spec : GraphNodeSpecNetwork) : GraphNodeSpec := ⟨spec.node, spec.port, spec.index⟩

def GraphNodeSpec.network (spec : GraphNodeSpec) : GraphNodeSpecNetwork := ⟨spec.process, spec.port, spec.index⟩

/-- `x as i32` of a number of the payload, if it is an integer. -/
def i32Of (name : String) (metadata : JsonMap) (otherwise : Int32) : Int32 :=
  match SortedMap.get name metadata with
  | some (.number value) => (value.asI64.map Int32.ofInt).getD otherwise
  | _ => otherwise

def u32Of (name : String) (metadata : JsonMap) (otherwise : Option UInt32) : Option UInt32 :=
  match SortedMap.get name metadata with
  | some (.number value) => value.asU64.map UInt32.ofNat
  | _ => otherwise

def textOf (name : String) (metadata : JsonMap) (otherwise : Option String) : Option String :=
  match SortedMap.get name metadata with
  | some (.string value) => some value
  | _ => otherwise

def graphNodeMetadataFromPayload (metadata : JsonMap) : GraphNodeMetadata where
  x := i32Of "x" metadata GraphNodeMetadata.default.x
  y := i32Of "y" metadata GraphNodeMetadata.default.y
  width := u32Of "width" metadata GraphNodeMetadata.default.width
  height := u32Of "height" metadata GraphNodeMetadata.default.height
  label := textOf "label" metadata GraphNodeMetadata.default.label
  icon := textOf "icon" metadata GraphNodeMetadata.default.icon

def graphNodeMetadataToPayload (metadata : GraphNodeMetadata) : JsonMap :=
  SortedMap.ofList ([("x", .ofI32 metadata.x), ("y", .ofI32 metadata.y)] ++
    JsonValue.ofOptional "width" (metadata.width.map .ofU32) ++
    JsonValue.ofOptional "height" (metadata.height.map .ofU32) ++
    JsonValue.ofOptional "label" (metadata.label.map .string) ++
    JsonValue.ofOptional "icon" (metadata.icon.map .string))

/-- The last part of a component name such as "core/Repeat". -/
def afterSlash (component : String) : String :=
  String.ofList (component.toList.reverse.takeWhile (· ≠ '/')).reverse

/-- The edge starts or ends at the node. -/
def GraphEdge.touches (edge : GraphEdge) (name : String) : Bool :=
  edge.source.process == name || edge.target.process == name

/-- The endpoint, if its node is renamed. -/
def GraphNodeSpec.renamed (spec : GraphNodeSpec) (old new : String) : GraphNodeSpec :=
  if spec.process = old then { spec with process := new } else spec

def GraphEdge.joins (edge : GraphEdge) (source target : GraphNodeSpecNetwork) : Bool :=
  edge.source.network == source && edge.target.network == target

/-- The edge is an initial packet for the target, with the data if it is given. -/
def GraphEdge.initial (edge : GraphEdge) (data : Option String) (target : GraphNodeSpecNetwork) : Bool :=
  edge.data.isSome && (data.isNone || edge.data == data) && edge.target.network == target

/-- Replaces the first item that is meant, if there is one. -/
def updateFirst {α : Type} (meant : α → Bool) (update : α → List α) : List α → Option (List α)
  | [] => none
  | item :: rest =>
      if meant item then some (update item ++ rest) else (updateFirst meant update rest).map (item :: ·)

namespace Graph

def new (name description icon : String) : Graph where
  caseSensitive := true
  properties := ⟨name, .default, description, icon⟩
  inports := ∅
  outports := ∅
  groups := []
  nodes := ∅
  edges := []

/-- The check most operations begin with. -/
def addressed (graph : Graph) (name : String) : Except Failure Unit :=
  if name = graph.properties.name then .ok () else .error (.error .notFound "wrong graph addressed")

/-- `running` is the status of the runtime. -/
def clear (graph : Graph) (running : Bool) (name : String) (description icon : Option String) :
    Except Failure Graph :=
  if running then .error (.error .resourceBusy "network still running")
  else .ok { graph with
    properties := { graph.properties with name, description := description.getD "", icon := icon.getD "" }
    groups := []
    edges := []
    inports := ∅
    outports := ∅
    nodes := ∅ }

/-! The exported ports.  `what` is "inport" or "outport". -/

def addPort (what : String) (ports : HashMap String GraphPort) (name : String) (portdef : GraphPort) :
    Except Failure (HashMap String GraphPort) :=
  match ports.tryInsert name portdef with
  | some ports => .ok ports
  | none => .error (.error .alreadyExists (what ++ " with that name already exists"))

def removePort (what : String) (ports : HashMap String GraphPort) (name : String) :
    Except Failure (HashMap String GraphPort) :=
  if name ∈ ports then .ok (AList.erase name ports) else .error (.error .notFound (what ++ " not found"))

def renamePort (what : String) (ports : HashMap String GraphPort) (old new : String) :
    Except Failure (HashMap String GraphPort) :=
  if new ∈ ports then .error (.error .alreadyExists (what ++ " already exists"))
  else
    match ports.lookup old with
    | some port =>
        match HashMap.tryInsert (AList.erase old ports) new port with
        | some ports => .ok ports
        | none => .error (.panicked "wtf key occupied on insertion")
    | none => .error (.error .notFound (what ++ " not found"))

def addInport (graph : Graph) (name : String) (portdef : GraphPort) : Except Failure Graph :=
  (addPort "inport" graph.inports name portdef).map fun inports => { graph with inports }

def addOutport (graph : Graph) (name : String) (portdef : GraphPort) : Except Failure Graph :=
  (addPort "outport" graph.outports name portdef).map fun outports => { graph with outports }

def removeInport (graph : Graph) (name : String) : Except Failure Graph :=
  (removePort "inport" graph.inports name).map fun inports => { graph with inports }

def removeOutport (graph : Graph) (name : String) : Except Failure Graph :=
  (removePort "outport" graph.outports name).map fun outports => { graph with outports }

def renameInport (graph : Graph) (old new : String) : Except Failure Graph :=
  (renamePort "inport" graph.inports old new).map fun inports => { graph with inports }

def renameOutport (graph : Graph) (old new : String) : Except Failure Graph :=
  (renamePort "outport" graph.outports old new).map fun outports => { graph with outports }

/-! The nodes. -/

def addNode (graph : Graph) (name component newName : String) (metadata : GraphNodeMetadata) : Except Failure Graph := do
  graph.addressed name
  match graph.nodes.tryInsert newName ⟨component, metadata, graphNodeMetadataToPayload metadata⟩ with
  | some nodes => .ok { graph with nodes }
  | none => .error (.error .alreadyExists "node with that name already exists")

/-- The metadata is kept as it was sent. -/
def addNodeFromPayload (graph : Graph) (name component newName : String) (metadata : JsonMap) :
    Except Failure Graph := do
  let graph ← graph.addNode name (afterSlash component) newName (graphNodeMetadataFromPayload metadata)
  return { graph with nodes := graph.nodes.adjust newName fun node => { node with protocolMetadata := metadata } }

/-- Also returns the edges that are removed with the node. -/
def removeNode (graph : Graph) (name node : String) : Except Failure (Graph × List GraphEdge) := do
  graph.addressed name
  if node ∈ graph.nodes then
    let edges := graph.edges.filter fun edge => !edge.touches node
    .ok ({ graph with nodes := AList.erase node graph.nodes, edges }, graph.edges.filter fun edge => edge.touches node)
  else .error (.error .notFound "node not found")

def renameNode (graph : Graph) (name old new : String) : Except Failure Graph := do
  graph.addressed name
  if new ∈ graph.nodes then .error (.error .alreadyExists "node with that name already exists")
  else
    match graph.nodes.lookup old with
    | some node =>
        match HashMap.tryInsert (AList.erase old graph.nodes) new node with
        | some nodes =>
            let edges := graph.edges.map fun edge =>
              { edge with source := edge.source.renamed old new, target := edge.target.renamed old new }
            .ok { graph with nodes, edges }
        | none => .error (.panicked "wtf key occupied on insertion")
    | none => .error (.error .notFound "wtf node not found")

/-- `null` deletes a key. -/
def mergeMetadata (metadata : JsonMap) (changes : JsonMap) : JsonMap :=
  changes.foldl (fun metadata change =>
    if change.2.isNull then SortedMap.remove change.1 metadata else SortedMap.insert change.1 change.2 metadata) metadata

def changedNode (node : GraphNode) (changes : JsonMap) : GraphNode :=
  let protocolMetadata := mergeMetadata node.protocolMetadata changes
  { node with
    protocolMetadata
    metadata := { node.metadata with
      x := i32Of "x" protocolMetadata node.metadata.x
      y := i32Of "y" protocolMetadata node.metadata.y } }

/-- Also returns the metadata of the node. -/
def changeNode (graph : Graph) (name node : String) (changes : JsonMap) : Except Failure (Graph × JsonMap) := do
  graph.addressed name
  match graph.nodes.lookup node with
  | some found =>
      .ok ({ graph with nodes := graph.nodes.adjust node fun node => changedNode node changes },
        (changedNode found changes).protocolMetadata)
  | none => .error (.error .notFound "node by that name not found")

/-! The edges and the initial packets. -/

def addEdge (graph : Graph) (name : String) (edge : GraphEdge) : Except Failure Graph := do
  graph.addressed name
  return { graph with edges := graph.edges ++ [edge] }

/-- Replaces the first edge between the endpoints. -/
def updateEdge (graph : Graph) (name : String) (source target : GraphNodeSpecNetwork)
    (update : GraphEdge → List GraphEdge) : Except Failure Graph := do
  graph.addressed name
  match updateFirst (·.joins source target) update graph.edges with
  | some edges => .ok { graph with edges }
  | none => .error (.error .notFound "edge with that src+tgt not found")

def removeEdge (graph : Graph) (name : String) (source target : GraphNodeSpecNetwork) : Except Failure Graph :=
  graph.updateEdge name source target fun _ => []

def changeEdge (graph : Graph) (name : String) (source target : GraphNodeSpecNetwork) (metadata : GraphEdgeMetadata) :
    Except Failure Graph :=
  graph.updateEdge name source target fun edge => [{ edge with metadata }]

/-- `GraphEdge::from(GraphAddedgeRequestPayload)` -/
def plainEdge (source target : GraphNodeSpecNetwork) (metadata : GraphEdgeMetadata) : GraphEdge :=
  ⟨.ofNetwork source, none, .ofNetwork target, metadata⟩

/-- `GraphEdge::from(GraphAddinitialRequestPayload)`: without data there is no initial packet. -/
def initialEdge (data : String) (target : GraphNodeSpecNetwork) (metadata : GraphEdgeMetadata) : GraphEdge :=
  ⟨⟨"", "", some ""⟩, if data.isEmpty then none else some data, .ofNetwork target, metadata⟩

/-- The graph is not checked. -/
def addInitialip (graph : Graph) (data : String) (target : GraphNodeSpecNetwork) (metadata : GraphEdgeMetadata) :
    Graph :=
  { graph with edges := graph.edges ++ [initialEdge data target metadata] }

/-- Also returns the data of the initial packet. -/
def removeInitialip (graph : Graph) (data : Option String) (target : GraphNodeSpecNetwork) :
    Except Failure (Graph × String) :=
  match updateFirst (·.initial data target) (fun _ => []) graph.edges, graph.edges.find? (·.initial data target) with
  | some edges, some found => .ok ({ graph with edges }, found.data.getD "")
  | _, _ => .error (.error .notFound "edge with that data+tgt not found")

/-! The groups. -/

def addGroup (graph : Graph) (name group : String) (nodes : List String) (metadata : GraphGroupMetadata) :
    Except Failure Graph := do
  graph.addressed name
  return { graph with groups := graph.groups ++ [⟨group, nodes, metadata⟩] }

def updateGroup (graph : Graph) (name group : String) (update : GraphGroup → List GraphGroup) :
    Except Failure Graph := do
  graph.addressed name
  match updateFirst (·.name == group) update graph.groups with
  | some groups => .ok { graph with groups }
  | none => .error (.error .notFound "group with that name not found")

def removeGroup (graph : Graph) (name group : String) : Except Failure Graph :=
  graph.updateGroup name group fun _ => []

def renameGroup (graph : Graph) (name old new : String) : Except Failure Graph :=
  graph.updateGroup name old fun group => [{ group with name := new }]

def changeGroup (graph : Graph) (name group : String) (metadata : GraphGroupMetadata) : Except Failure Graph :=
  graph.updateGroup name group fun group => [{ group with metadata }]

/-- What `Runtime::start` reads of a graph. -/
def network (graph : Graph) : Flowd.Graph where
  name := graph.properties.name
  inports := graph.inports.mapValues fun port => ⟨port.process, port.port⟩
  outports := graph.outports.mapValues fun port => ⟨port.process, port.port⟩
  nodes := graph.nodes.mapValues fun node => ⟨node.component⟩
  edges := graph.edges.map fun edge =>
    ⟨⟨edge.source.process, edge.source.port⟩, edge.data, ⟨edge.target.process, edge.target.port⟩⟩

end Graph

end Flowd.Stored
