import Flowd.Graph.Alike
import Flowd.Graph.Answers
import Flowd.Graph.Codec

namespace Flowd.Stored

/-! What clients can tell of a graph that has been persisted and loaded again. -/

open JsonValue

structure PersistedGraphSet where
  activeGraph : String
  graphs : HashMap String Graph

namespace PersistedGraphSet

def toJson (set : PersistedGraphSet) : JsonValue :=
  ofFields [("activeGraph", .string set.activeGraph), ("graphs", mapToJson Graph.toJson set.graphs)]

def ofJson (value : JsonValue) : Option PersistedGraphSet := do
  let fields ← value.toMap
  return ⟨← field toText "activeGraph" fields, ← field (mapOfJson Graph.ofJson) "graphs" fields⟩

end PersistedGraphSet

/-- The copies that `Runtime::persist` makes of the graphs, by way of their JSON form. -/
def cloneGraphs (graphs : HashMap String Graph) : Option (HashMap String Graph) := do
  let clones ← graphs.entries.mapM fun entry => (Graph.ofJson entry.2.toJson).map fun clone => (entry.1, clone)
  return SortedMap.toHashMap clones

/-- The active graph, or else any graph of the set. -/
def activeOf (active : String) (graphs : HashMap String Graph) : String :=
  if active ∈ graphs then active else (graphs.entries.head?.map Sigma.fst).getD active

/-- `Runtime::persist`: the JSON value that is written.  `graph` is stored if there is no other. -/
def persist (graphs : HashMap String Graph) (active : String) (graph : Graph) : Option JsonValue := do
  let clones ← cloneGraphs graphs
  let clones ←
    if clones.entries.isEmpty then (Graph.ofJson graph.toJson).map fun clone => AList.insert active clone clones
    else some clones
  return PersistedGraphSet.toJson ⟨activeOf active clones, clones⟩

/-- `load_or_create_graph_set`, if there is a file with a graph set. -/
def loadGraphSet (file : JsonValue) : Option (HashMap String Graph × String) := do
  let set ← PersistedGraphSet.ofJson file
  if set.graphs.entries.isEmpty then none else some (set.graphs, activeOf set.activeGraph set.graphs)

/-- What is stored under a name after the graphs have been persisted and loaded. -/
def reload (graphs : HashMap String Graph) (active : String) (graph : Graph) (name : String) : Option Graph := do
  let file ← persist graphs active graph
  let (loaded, _) ← loadGraphSet file
  loaded.lookup name

namespace Graph

/-- A sequence of requests, each with the status of the runtime when it is handled. -/
def edits (graph : Graph) : List (Bool × GraphRequest) → Except String (Graph × List GraphResponse)
  | [] => .ok (graph, [])
  | (running, request) :: rest => do
      let (next, responses) ← graph.handle running request
      let (last, later) ← next.edits rest
      return (last, responses ++ later)

/-- The same responses to the requests, and the same graph to serialise at the end. -/
def Indistinguishable (graph copy : Graph) (requests : List (Bool × GraphRequest)) : Prop :=
  ∃ last lastCopy responses, graph.edits requests = .ok (last, responses) ∧
    copy.edits requests = .ok (lastCopy, responses) ∧ last.toJson = lastCopy.toJson

variable {related : GraphNode → GraphNode → Prop} {left right : Graph}

theorem Alike.edits (relation : NodeRelation related) (alike : left.Alike related right)
    (requests : List (Bool × GraphRequest)) :
    Agree (ResultAlike related) (left.edits requests) (right.edits requests) := by
  induction requests generalizing left right with
  | nil => exact .ok ⟨alike, .nil⟩
  | cons entry rest ih =>
      obtain ⟨running, request⟩ := entry
      apply (alike.handle relation running request).bind
      intro leftResult rightResult results
      obtain ⟨next, responses⟩ := leftResult
      obtain ⟨nextRight, responsesRight⟩ := rightResult
      apply (ih results.1).bind
      intro leftLast rightLast lasts
      obtain ⟨last, later⟩ := leftLast
      obtain ⟨lastRight, laterRight⟩ := rightLast
      exact .ok ⟨lasts.1, List.rel_append results.2 lasts.2⟩

theorem Alike.refl (graph : Graph) (self : ∀ node, related node node) : graph.Alike related graph :=
  ⟨rfl, rfl, .refl _ fun _ _ _ => rfl, .refl _ fun _ _ _ => rfl, rfl, .refl _ fun _ node _ => self node, rfl⟩

theorem Alike.trans {relatedNext relatedBoth : GraphNode → GraphNode → Prop} {last : Graph}
    (first : left.Alike related right) (second : right.Alike relatedNext last)
    (both : ∀ node middle other, related node middle → relatedNext middle other → relatedBoth node other) :
    left.Alike relatedBoth last where
  caseSensitive := first.caseSensitive.trans second.caseSensitive
  properties := first.properties.trans second.properties
  inports := first.inports.trans second.inports fun _ _ _ => Eq.trans
  outports := first.outports.trans second.outports fun _ _ _ => Eq.trans
  groups := first.groups.trans second.groups
  nodes := first.nodes.trans second.nodes both
  edges := first.edges.trans second.edges

theorem Alike.weaken {weaker : GraphNode → GraphNode → Prop} (alike : left.Alike related right)
    (implies : ∀ name node other, left.nodes.lookup name = some node → related node other → weaker node other) :
    left.Alike weaker right :=
  { alike with nodes := alike.nodes.weaken implies }

theorem mapToJson_alike {V : Type} {encode : V → JsonValue} {relatedValues : V → V → Prop} {left right : HashMap String V}
    (alike : HashMap.Alike relatedValues left right)
    (same : ∀ value other, relatedValues value other → encode value = encode other) :
    mapToJson encode left = mapToJson encode right := by
  apply congrArg JsonValue.object
  apply ((SortedMap.sorted_ofHashMap left).map encode).ext ((SortedMap.sorted_ofHashMap right).map encode)
  intro key
  rw [SortedMap.get_map, SortedMap.get_map, SortedMap.get_ofHashMap, SortedMap.get_ofHashMap]
  exact alike.lookup_map same key

/-- Alike graphs are written in the same way. -/
theorem Alike.toJson (alike : left.Alike related right)
    (same : ∀ node other, related node other → node.toJson = other.toJson) : left.toJson = right.toJson := by
  unfold Graph.toJson
  rw [alike.caseSensitive, alike.properties, alike.groups, alike.edges, mapToJson_alike alike.nodes same,
    mapToJson_alike alike.inports fun _ _ => congrArg _, mapToJson_alike alike.outports fun _ _ => congrArg _]

/-- `edits` ends with a graph. -/
theorem edits_ok (graph : Graph) (requests : List (Bool × GraphRequest)) : ∃ result, graph.edits requests = .ok result := by
  induction requests generalizing graph with
  | nil => exact ⟨_, rfl⟩
  | cons entry rest ih =>
      obtain ⟨running, request⟩ := entry
      obtain ⟨⟨next, responses⟩, handled⟩ := graph.handle_ok running request
      obtain ⟨⟨last, later⟩, edited⟩ := ih next
      rw [edits, handled]
      change ∃ result, (next.edits rest >>= fun result => _) = .ok result
      rw [edited]
      exact ⟨_, rfl⟩

end Graph

/-- A node as it is read again. -/
def GraphNode.reloaded (node : GraphNode) : GraphNode := { node with protocolMetadata := [] }

namespace Graph

/-- The graph as it is read again. -/
def copy (graph : Graph) : Graph := (ofJson graph.toJson).getD graph

/-- Every graph is read again, without the protocol metadata of its nodes. -/
theorem copy_spec (graph : Graph) :
    ofJson graph.toJson = some graph.copy ∧ graph.Alike (fun node other => other = node.reloaded) graph.copy := by
  have ports : ∀ port : GraphPort, GraphPort.ofJson port.toJson = some (id port) := GraphPort.ofJson_toJson
  obtain ⟨inports, readInports, sameInports⟩ := mapOfJson_mapToJson graph.inports ports
  obtain ⟨outports, readOutports, sameOutports⟩ := mapOfJson_mapToJson graph.outports ports
  obtain ⟨nodes, readNodes, sameNodes⟩ := mapOfJson_mapToJson graph.nodes GraphNode.ofJson_toJson
  have groups : (array (graph.groups.map GraphGroup.toJson)).toList GraphGroup.ofJson = some graph.groups :=
    toList_array fun group _ => group.ofJson_toJson
  have edges : (array (graph.edges.map GraphEdge.toJson)).toList GraphEdge.ofJson = some graph.edges :=
    toList_array fun edge _ => edge.ofJson_toJson
  have read : ofJson graph.toJson =
      some ⟨graph.caseSensitive, graph.properties, inports, outports, graph.groups, nodes, graph.edges⟩ := by
    simp [ofJson, Graph.toJson, ofFields, field, SortedMap.get_ofList, SortedMap.get_cons,
      GraphProperties.ofJson_toJson, readInports, readOutports, readNodes, groups, edges]
  rw [copy, read]
  exact ⟨rfl, rfl, rfl, .of_lookup sameInports fun _ => rfl, .of_lookup sameOutports fun _ => rfl, rfl,
    .of_lookup sameNodes fun _ => rfl, rfl⟩

end Graph

theorem cloneGraphs_lookup (graphs : HashMap String Graph) :
    ∃ clones, cloneGraphs graphs = some clones ∧ ∀ name, clones.lookup name = (graphs.lookup name).map Graph.copy := by
  have pairs : (graphs.entries.mapM fun entry => (Graph.ofJson entry.2.toJson).map fun clone => (entry.1, clone)) =
      some (graphs.entries.map fun entry => (entry.1, entry.2.copy)) := by
    induction graphs.entries with
    | nil => rfl
    | cons head tail ih =>
        rw [List.mapM_cons, ih, head.2.copy_spec.1]
        rfl
  refine ⟨SortedMap.toHashMap (graphs.entries.map fun entry => (entry.1, entry.2.copy)), ?_, ?_⟩
  · rw [cloneGraphs, pairs]
    rfl
  · intro name
    rw [SortedMap.lookup_toHashMap (SortedMap.nodup_entries graphs Graph.copy), SortedMap.get_entries]

theorem PersistedGraphSet.ofJson_toJson (set : PersistedGraphSet) :
    ∃ graphs, ofJson set.toJson = some ⟨set.activeGraph, graphs⟩ ∧
      ∀ name, graphs.lookup name = (set.graphs.lookup name).map Graph.copy := by
  obtain ⟨graphs, read, same⟩ := mapOfJson_mapToJson set.graphs fun graph => graph.copy_spec.1
  refine ⟨graphs, ?_, same⟩
  simp [ofJson, toJson, ofFields, field, SortedMap.get_ofList, SortedMap.get_cons, read]

theorem isEmpty_of_lookup {V : Type} {map : HashMap String V} {name : String} {value : V}
    (found : map.lookup name = some value) : map.entries.isEmpty = false := by
  cases entries : map.entries with
  | nil =>
      rw [AList.lookup, entries] at found
      cases found
  | cons head tail => rfl

/-- What is written when a graph is registered. -/
theorem persist_eq {graphs : HashMap String Graph} {name : String} {graph : Graph}
    (stored : graphs.lookup name = some graph) (active : String) (fallback : Graph) :
    ∃ clones, persist graphs active fallback = some (PersistedGraphSet.toJson ⟨activeOf active clones, clones⟩) ∧
      ∀ name, clones.lookup name = (graphs.lookup name).map Graph.copy := by
  obtain ⟨clones, cloned, sameClones⟩ := cloneGraphs_lookup graphs
  have clone : clones.lookup name = some graph.copy := by rw [sameClones, stored]; rfl
  refine ⟨clones, ?_, sameClones⟩
  simp only [persist, cloned, Option.bind_eq_bind, Option.bind_some, isEmpty_of_lookup clone]
  rfl

/-- What is read from the file of a graph set that is not empty. -/
theorem loadGraphSet_eq (set : PersistedGraphSet) {name : String} {graph : Graph}
    (stored : set.graphs.lookup name = some graph) :
    ∃ loaded, loadGraphSet set.toJson = some (loaded, activeOf set.activeGraph loaded) ∧
      ∀ name, loaded.lookup name = (set.graphs.lookup name).map Graph.copy := by
  obtain ⟨loaded, read, sameLoaded⟩ := set.ofJson_toJson
  have back : loaded.lookup name = some graph.copy := by rw [sameLoaded, stored]; rfl
  refine ⟨loaded, ?_, sameLoaded⟩
  simp only [loadGraphSet, read, Option.bind_eq_bind, Option.bind_some, isEmpty_of_lookup back]
  rfl

/-- A stored graph comes back as a copy of its copy. -/
theorem reload_eq {graphs : HashMap String Graph} {active name : String} {fallback graph : Graph}
    (stored : graphs.lookup name = some graph) : reload graphs active fallback name = some graph.copy.copy := by
  obtain ⟨clones, file, sameClones⟩ := persist_eq stored active fallback
  have clone : clones.lookup name = some graph.copy := by rw [sameClones, stored]; rfl
  obtain ⟨loaded, set, sameLoaded⟩ := loadGraphSet_eq ⟨activeOf active clones, clones⟩ clone
  unfold reload
  rw [file, Option.bind_eq_bind, Option.bind_some, set]
  change loaded.lookup name = _
  rw [sameLoaded]
  change (clones.lookup name).map Graph.copy = _
  rw [clone]
  rfl

theorem NodeRelation.eq : NodeRelation Eq where
  added := fun _ _ => rfl
  changed := by
    intro left right changes same
    rw [same]

namespace Graph

variable {graph copy : Graph}

/-- Graphs that agree in all of their nodes cannot be told apart. -/
theorem Alike.indistinguishable (alike : graph.Alike Eq copy) (requests : List (Bool × GraphRequest)) :
    graph.Indistinguishable copy requests := by
  obtain ⟨⟨last, responses⟩, edited⟩ := graph.edits_ok requests
  obtain ⟨⟨lastCopy, responsesCopy⟩, editedCopy⟩ := copy.edits_ok requests
  have agree := alike.edits .eq requests
  rw [edited, editedCopy] at agree
  cases agree with
  | ok results =>
      obtain ⟨lasts, answers⟩ := results
      have same : responses = responsesCopy := by
        refine List.forall₂_eq_eq_eq ▸ answers.imp fun response other => ?_
        intro alike
        cases alike with
        | same => rfl
        | changenode id name nodes => rw [nodes]
      subst same
      exact ⟨last, lastCopy, responses, edited, editedCopy, lasts.toJson fun _ _ => congrArg _⟩

/-- The answer to a change of no metadata shows what metadata the graph holds. -/
theorem edits_changenode {name : String} {node : GraphNode} (found : graph.nodes.lookup name = some node) :
    ∃ last, graph.edits [(false, .changenode name [] graph.properties.name)] =
      .ok (last, [.changenode name node.protocolMetadata graph.properties.name]) := by
  have performed : graph.perform false (.changenode name [] graph.properties.name) =
      .ok ({ graph with nodes := graph.nodes.adjust name fun node => changedNode node [] },
        [.changenode name node.protocolMetadata graph.properties.name]) := by
    simp only [perform, changeNode, addressed, found, if_true]
    rfl
  refine ⟨{ graph with nodes := graph.nodes.adjust name fun node => changedNode node [] }, ?_⟩
  rw [edits, handle, performed]
  rfl

theorem copy_copy_alike (graph : Graph) : graph.Alike (fun node other => other = node.reloaded) graph.copy.copy := by
  apply graph.copy_spec.2.trans graph.copy.copy_spec.2
  intro node middle other first second
  rw [second, first]
  rfl

/-- A node that looks the same without its metadata has none. -/
theorem metadata_eq_nil {name : String} {node : GraphNode} (found : graph.nodes.lookup name = some node)
    (same : graph.Indistinguishable graph.copy.copy [(false, .changenode name [] graph.properties.name)]) :
    node.protocolMetadata = [] := by
  have twice := graph.copy_copy_alike
  have foundCopy : graph.copy.copy.nodes.lookup name = some node.reloaded := by
    rcases rel_cases (twice.nodes name) with ⟨missing, _⟩ | ⟨value, other, here, there, copied⟩
    · rw [found] at missing
      cases missing
    · rw [found] at here
      cases here
      rw [there, copied]
  obtain ⟨last, lastCopy, responses, edited, editedCopy, _⟩ := same
  obtain ⟨_, answer⟩ := edits_changenode found
  obtain ⟨_, answerCopy⟩ := edits_changenode foundCopy
  rw [← twice.properties] at answerCopy
  rw [answer] at edited
  rw [answerCopy] at editedCopy
  cases edited
  injection editedCopy with pair
  injection pair with _ responses
  injection responses with response
  injection response with _ metadata
  exact metadata.symm

/-- What `Runtime::persist` and `load_or_create_graph_set` make of a graph
looks the same to clients just if no node has metadata of the protocol. -/
theorem reload_invisible_iff {graphs : HashMap String Graph} {active key : String} {fallback graph : Graph}
    (stored : graphs.lookup key = some graph) :
    (∃ copy, reload graphs active fallback key = some copy ∧ ∀ requests, graph.Indistinguishable copy requests) ↔
      ∀ name node, graph.nodes.lookup name = some node → node.protocolMetadata = [] := by
  rw [reload_eq stored]
  constructor
  · intro invisible name node found
    obtain ⟨copy, reloaded, same⟩ := invisible
    cases reloaded
    exact metadata_eq_nil found (same _)
  · intro bare
    have alike : graph.Alike Eq graph.copy.copy := by
      apply graph.copy_copy_alike.weaken
      intro name node other found copied
      rw [copied, GraphNode.reloaded, ← bare name node found]
    exact ⟨_, rfl, alike.indistinguishable⟩

/-- A new graph to which a node is added. -/
def sample (metadata : JsonMap) : Graph :=
  match (Graph.new "main" "" "").edits [(false, .addnode "A" "Repeat" metadata (some "main") none)] with
  | .ok (graph, _) => graph
  | .error _ => Graph.new "main" "" ""

theorem reload_invisible_iff_sample :
    (∃ copy, reload (AList.singleton "main" (sample [])) "main" (sample []) "main" = some copy ∧
        ∀ requests, (sample []).Indistinguishable copy requests) ↔
      ∀ name node, (sample []).nodes.lookup name = some node → node.protocolMetadata = [] :=
  reload_invisible_iff rfl

theorem reload_visible :
    ∃ copy, reload (AList.singleton "main" (sample [("label", .string "first")])) "main"
          (sample [("label", .string "first")]) "main" = some copy ∧
      ¬ (sample [("label", .string "first")]).Indistinguishable copy [(false, .changenode "A" [] "main")] := by
  refine ⟨_, reload_eq rfl, ?_⟩
  intro same
  cases metadata_eq_nil rfl same

end Graph

end Flowd.Stored
