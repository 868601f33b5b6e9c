import Flowd.Graph.Mutations

namespace Flowd.Stored

/-! What an operation that succeeds changes. -/

variable {graph next : Graph}

/-- The collections of a graph. -/
inductive Collection where
  | inports
  | outports
  | groups
  | nodes
  | edges
deriving DecidableEq

/-- Nothing but these collections differs. -/
structure Graph.SameOff (touched : List Collection) (before after : Graph) : Prop where
  caseSensitive : after.caseSensitive = before.caseSensitive
  properties : after.properties = before.properties
  inports : .inports ∉ touched → after.inports = before.inports
  outports : .outports ∉ touched → after.outports = before.outports
  groups : .groups ∉ touched → after.groups = before.groups
  nodes : .nodes ∉ touched → after.nodes = before.nodes
  edges : .edges ∉ touched → after.edges = before.edges

/-- Every other key has the value it had. -/
def AltersOnly {V : Type} (keys : List String) (before after : HashMap String V) : Prop :=
  ∀ key, key ∉ keys → after.lookup key = before.lookup key

/-- One item that is meant is replaced, and the others are where they were. -/
def AltersOne {α : Type} (meant : α → Bool) (update : α → List α) (before after : List α) : Prop :=
  ∃ front item back, before = front ++ item :: back ∧ meant item = true ∧ after = front ++ update item ++ back

/-- The collections an operation addresses; `clear` addresses the whole graph. -/
def Mutation.collections : Mutation → Option (List Collection)
  | .clear .. => none
  | .addInport .. | .removeInport .. | .renameInport .. => some [.inports]
  | .addOutport .. | .removeOutport .. | .renameOutport .. => some [.outports]
  | .addNode .. | .addNodeFromPayload .. | .changeNode .. => some [.nodes]
  | .removeNode .. | .renameNode .. => some [.nodes, .edges]
  | .addEdge .. | .removeEdge .. | .changeEdge .. | .addInitialip .. | .removeInitialip .. => some [.edges]
  | .addGroup .. | .removeGroup .. | .renameGroup .. | .changeGroup .. => some [.groups]

/-- The elements an operation addresses are the only ones that differ. -/
def Mutation.Alters (before after : Graph) : Mutation → Prop
  | .clear .. => True
  | .addInport name _ | .removeInport name => AltersOnly [name] before.inports after.inports
  | .addOutport name _ | .removeOutport name => AltersOnly [name] before.outports after.outports
  | .renameInport old new => AltersOnly [old, new] before.inports after.inports
  | .renameOutport old new => AltersOnly [old, new] before.outports after.outports
  | .addNode _ _ node _ | .addNodeFromPayload _ _ node _ | .changeNode _ node _ =>
      AltersOnly [node] before.nodes after.nodes
  | .removeNode _ node =>
      AltersOnly [node] before.nodes after.nodes ∧ after.edges = before.edges.filter fun edge => !edge.touches node
  | .renameNode _ old new =>
      AltersOnly [old, new] before.nodes after.nodes ∧ after.edges = before.edges.map fun edge =>
        if edge.touches old then Graph.renamedEdge old new edge else edge
  | .addEdge _ edge => after.edges = before.edges ++ [edge]
  | .removeEdge _ source target => AltersOne (·.joins source target) (fun _ => []) before.edges after.edges
  | .changeEdge _ source target metadata =>
      AltersOne (·.joins source target) (fun edge => [{ edge with metadata }]) before.edges after.edges
  | .addInitialip data target metadata => after.edges = before.edges ++ [Graph.initialEdge data target metadata]
  | .removeInitialip data target => AltersOne (·.initial data target) (fun _ => []) before.edges after.edges
  | .addGroup _ group nodes metadata => after.groups = before.groups ++ [⟨group, nodes, metadata⟩]
  | .removeGroup _ group => AltersOne (·.name == group) (fun _ => []) before.groups after.groups
  | .renameGroup _ old new =>
      AltersOne (·.name == old) (fun group => [{ group with name := new }]) before.groups after.groups
  | .changeGroup _ group metadata =>
      AltersOne (·.name == group) (fun group => [{ group with metadata }]) before.groups after.groups

/-- What the operation does not address is as it was. -/
structure Mutation.Frames (mutation : Mutation) (before after : Graph) : Prop where
  others : ∀ touched, mutation.collections = some touched → Graph.SameOff touched before after
  elements : mutation.Alters before after

section
variable {V : Type} {before after : HashMap String V} {key other : String} {value : V}

theorem altersOnly_tryInsert (done : before.tryInsert key value = some after) : AltersOnly [key] before after := by
  intro found apart
  have different : found ≠ key := by simpa using apart
  unfold HashMap.tryInsert at done
  split at done
  · cases done
  · cases done
    rw [HashMap.lookup_insert_ite, if_neg different]

theorem altersOnly_erase (map : HashMap String V) (key : String) : AltersOnly [key] map (AList.erase key map) := by
  intro found apart
  have different : found ≠ key := by simpa using apart
  rw [HashMap.lookup_erase_ite, if_neg different]

theorem altersOnly_adjust (map : HashMap String V) (key : String) (change : V → V) :
    AltersOnly [key] map (map.adjust key change) := by
  intro found apart
  have different : found ≠ key := by simpa using apart
  rw [HashMap.lookup_adjust, if_neg different]

theorem AltersOnly.trans {middle : HashMap String V} {keys others : List String}
    (first : AltersOnly keys before middle) (second : AltersOnly others middle after) :
    AltersOnly (keys ++ others) before after := by
  intro found apart
  have both : found ∉ keys ∧ found ∉ others := by simpa using apart
  rw [second found both.2, first found both.1]

theorem AltersOnly.mono {keys others : List String} (alters : AltersOnly keys before after) (within : keys ⊆ others) :
    AltersOnly others before after := fun found apart => alters found fun member => apart (within member)

end

theorem updateFirst_alters {α : Type} {meant : α → Bool} {update : α → List α} {before after : List α}
    (done : updateFirst meant update before = some after) : AltersOne meant update before after := by
  induction before generalizing after with
  | nil => cases done
  | cons item rest ih =>
      unfold updateFirst at done
      split at done
      · next hit =>
          cases done
          exact ⟨[], item, rest, rfl, hit, rfl⟩
      · obtain ⟨updated, found, rfl⟩ := Option.map_eq_some_iff.mp done
        obtain ⟨front, meantItem, back, rfl, hit, rfl⟩ := ih found
        exact ⟨item :: front, meantItem, back, rfl, hit, rfl⟩

namespace Graph

variable {name node old new : String}

theorem of_addressed {α : Type} {rest : Unit → Except Failure α} {value : α}
    (done : graph.addressed name >>= rest = .ok value) : rest () = .ok value := by
  rw [addressed_bind] at done
  split at done
  · exact done
  · cases done

end Graph

theorem altersOnly_addPort {what name : String} {portdef : GraphPort} {before after : HashMap String GraphPort}
    (done : Graph.addPort what before name portdef = .ok after) : AltersOnly [name] before after := by
  unfold Graph.addPort at done
  split at done
  · next inserted =>
      cases done
      exact altersOnly_tryInsert inserted
  · cases done

theorem altersOnly_removePort {what name : String} {before after : HashMap String GraphPort}
    (done : Graph.removePort what before name = .ok after) : AltersOnly [name] before after := by
  unfold Graph.removePort at done
  split at done
  · cases done
    exact altersOnly_erase before name
  · cases done

theorem altersOnly_renamePort {what old new : String} {before after : HashMap String GraphPort}
    (done : Graph.renamePort what before old new = .ok after) : AltersOnly [old, new] before after := by
  unfold Graph.renamePort at done
  split at done
  · cases done
  · split at done
    · split at done
      · next inserted =>
          cases done
          exact (altersOnly_erase before old).trans (altersOnly_tryInsert inserted)
      · cases done
    · cases done

theorem of_map {α β : Type} {result : Except Failure α} {change : α → β} {value : β}
    (done : result.map change = .ok value) : ∃ first, result = .ok first ∧ change first = value := by
  cases result with
  | error failure => cases done
  | ok first => exact ⟨first, rfl, Except.ok.inj done⟩

namespace Mutation

variable {mutation : Mutation} {answer : Answer} {name node old new : String}

/-- An operation that addresses one collection frames what it does to it. -/
theorem frames_of (touched : List Collection) (only : mutation.collections = some touched)
    (others : Graph.SameOff touched graph next) (elements : mutation.Alters graph next) : mutation.Frames graph next where
  others := by
    intro found same
    rw [only] at same
    cases same
    exact others
  elements := elements

theorem inports_only (graph : Graph) (inports : HashMap String GraphPort) :
    Graph.SameOff [.inports] graph { graph with inports } := by
  constructor <;> simp

theorem outports_only (graph : Graph) (outports : HashMap String GraphPort) :
    Graph.SameOff [.outports] graph { graph with outports } := by
  constructor <;> simp

theorem nodes_only (graph : Graph) (nodes : HashMap String GraphNode) :
    Graph.SameOff [.nodes] graph { graph with nodes } := by
  constructor <;> simp

theorem nodes_edges_only (graph : Graph) (nodes : HashMap String GraphNode) (edges : List GraphEdge) :
    Graph.SameOff [.nodes, .edges] graph { graph with nodes, edges } := by
  constructor <;> simp

theorem edges_only (graph : Graph) (edges : List GraphEdge) : Graph.SameOff [.edges] graph { graph with edges } := by
  constructor <;> simp

theorem groups_only (graph : Graph) (groups : List GraphGroup) :
    Graph.SameOff [.groups] graph { graph with groups } := by
  constructor <;> simp

theorem addNode_nodes {component newName : String} {metadata : GraphNodeMetadata}
    (done : graph.addNode name component newName metadata = .ok next) :
    ∃ nodes, AltersOnly [newName] graph.nodes nodes ∧ next = { graph with nodes } := by
  have inserted := Graph.of_addressed done
  split at inserted
  · next nodes found =>
      cases inserted
      exact ⟨nodes, altersOnly_tryInsert found, rfl⟩
  · cases inserted

theorem addNodeFromPayload_nodes {component newName : String} {metadata : JsonMap}
    (done : graph.addNodeFromPayload name component newName metadata = .ok next) :
    ∃ nodes, AltersOnly [newName] graph.nodes nodes ∧ next = { graph with nodes } := by
  unfold Graph.addNodeFromPayload at done
  cases added : graph.addNode name (afterSlash component) newName (graphNodeMetadataFromPayload metadata) with
  | error failure =>
      rw [added] at done
      cases done
  | ok middle =>
      rw [added] at done
      obtain ⟨nodes, alters, rfl⟩ := addNode_nodes added
      cases done
      have both := alters.trans (altersOnly_adjust nodes newName fun node => { node with protocolMetadata := metadata })
      exact ⟨_, both.mono (by simp), rfl⟩

theorem changeNode_nodes {changes merged : JsonMap} (done : graph.changeNode name node changes = .ok (next, merged)) :
    ∃ nodes, AltersOnly [node] graph.nodes nodes ∧ next = { graph with nodes } := by
  have changed := Graph.of_addressed done
  split at changed
  · cases changed
    exact ⟨_, altersOnly_adjust graph.nodes node _, rfl⟩
  · cases changed

theorem updateEdge_edges {source target : GraphNodeSpecNetwork} {update : GraphEdge → List GraphEdge}
    (done : graph.updateEdge name source target update = .ok next) :
    ∃ edges, AltersOne (·.joins source target) update graph.edges edges ∧ next = { graph with edges } := by
  have updated := Graph.of_addressed done
  split at updated
  · next edges found =>
      cases updated
      exact ⟨edges, updateFirst_alters found, rfl⟩
  · cases updated

theorem updateGroup_groups {group : String} {update : GraphGroup → List GraphGroup}
    (done : graph.updateGroup name group update = .ok next) :
    ∃ groups, AltersOne (·.name == group) update graph.groups groups ∧ next = { graph with groups } := by
  have updated := Graph.of_addressed done
  split at updated
  · next groups found =>
      cases updated
      exact ⟨groups, updateFirst_alters found, rfl⟩
  · cases updated

/-- Renaming leaves an edge that does not touch the node as it is. -/
theorem renamedEdge_untouched (old new : String) (edge : GraphEdge) :
    Graph.renamedEdge old new edge = if edge.touches old then Graph.renamedEdge old new edge else edge := by
  split
  · rfl
  · next apart =>
      have neither : edge.source.process ≠ old ∧ edge.target.process ≠ old := by simpa [GraphEdge.touches] using apart
      simp [Graph.renamedEdge, GraphNodeSpec.renamed, neither.1, neither.2]

/-- An operation that succeeds changes what it addresses and nothing else. -/
theorem result_frames (done : mutation.result graph = .ok (next, answer)) : mutation.Frames graph next := by
  cases mutation with
  | clear running name description icon => exact ⟨fun touched impossible => (by cases impossible), trivial⟩
  | addInport name portdef =>
      obtain ⟨after, added, same⟩ := of_map done
      obtain ⟨inports, inserted, rfl⟩ := of_map added
      cases same
      exact frames_of [.inports] rfl (inports_only graph inports) (altersOnly_addPort inserted)
  | addOutport name portdef =>
      obtain ⟨after, added, same⟩ := of_map done
      obtain ⟨outports, inserted, rfl⟩ := of_map added
      cases same
      exact frames_of [.outports] rfl (outports_only graph outports) (altersOnly_addPort inserted)
  | removeInport name =>
      obtain ⟨after, removed, same⟩ := of_map done
      obtain ⟨inports, erased, rfl⟩ := of_map removed
      cases same
      exact frames_of [.inports] rfl (inports_only graph inports) (altersOnly_removePort erased)
  | removeOutport name =>
      obtain ⟨after, removed, same⟩ := of_map done
      obtain ⟨outports, erased, rfl⟩ := of_map removed
      cases same
      exact frames_of [.outports] rfl (outports_only graph outports) (altersOnly_removePort erased)
  | renameInport old new =>
      obtain ⟨after, renamed, same⟩ := of_map done
      obtain ⟨inports, moved, rfl⟩ := of_map renamed
      cases same
      exact frames_of [.inports] rfl (inports_only graph inports) (altersOnly_renamePort moved)
  | renameOutport old new =>
      obtain ⟨after, renamed, same⟩ := of_map done
      obtain ⟨outports, moved, rfl⟩ := of_map renamed
      cases same
      exact frames_of [.outports] rfl (outports_only graph outports) (altersOnly_renamePort moved)
  | addNode name component newName metadata =>
      obtain ⟨after, added, same⟩ := of_map done
      obtain ⟨nodes, alters, rfl⟩ := addNode_nodes added
      cases same
      exact frames_of [.nodes] rfl (nodes_only graph nodes) alters
  | addNodeFromPayload name component newName metadata =>
      obtain ⟨after, added, same⟩ := of_map done
      obtain ⟨nodes, alters, rfl⟩ := addNodeFromPayload_nodes added
      cases same
      exact frames_of [.nodes] rfl (nodes_only graph nodes) alters
  | removeNode name node =>
      obtain ⟨⟨after, edges⟩, removed, same⟩ := of_map done
      obtain ⟨_, rfl⟩ := Graph.removeNode_ok removed
      cases same
      exact frames_of [.nodes, .edges] rfl (nodes_edges_only graph _ _) ⟨altersOnly_erase graph.nodes node, rfl⟩
  | renameNode name old new =>
      obtain ⟨after, renamed, same⟩ := of_map done
      obtain ⟨_, free, value, found, rfl⟩ := Graph.renameNode_ok renamed
      cases same
      have moved : AltersOnly [old, new] graph.nodes (AList.insert new value (AList.erase old graph.nodes)) := by
        apply (altersOnly_erase graph.nodes old).trans
        intro key apart
        have different : key ≠ new := by simpa using apart
        rw [HashMap.lookup_insert_ite, if_neg different]
      exact frames_of [.nodes, .edges] rfl (nodes_edges_only graph _ _)
        ⟨moved, List.map_congr_left fun edge _ => renamedEdge_untouched old new edge⟩
  | changeNode name node changes =>
      obtain ⟨⟨after, merged⟩, changed, same⟩ := of_map done
      obtain ⟨nodes, alters, rfl⟩ := changeNode_nodes changed
      cases same
      exact frames_of [.nodes] rfl (nodes_only graph nodes) alters
  | addEdge name edge =>
      obtain ⟨after, added, same⟩ := of_map done
      cases same
      cases Graph.of_addressed added
      exact frames_of [.edges] rfl (edges_only graph _) rfl
  | removeEdge name source target =>
      obtain ⟨after, removed, same⟩ := of_map done
      obtain ⟨edges, alters, rfl⟩ := updateEdge_edges removed
      cases same
      exact frames_of [.edges] rfl (edges_only graph edges) alters
  | changeEdge name source target metadata =>
      obtain ⟨after, changed, same⟩ := of_map done
      obtain ⟨edges, alters, rfl⟩ := updateEdge_edges changed
      cases same
      exact frames_of [.edges] rfl (edges_only graph edges) alters
  | addInitialip data target metadata =>
      cases done
      exact frames_of [.edges] rfl (edges_only graph _) rfl
  | removeInitialip data target =>
      obtain ⟨⟨after, text⟩, removed, same⟩ := of_map done
      unfold Graph.removeInitialip at removed
      split at removed
      · next edges found updated _ =>
          cases removed
          cases same
          exact frames_of [.edges] rfl (edges_only graph edges) (updateFirst_alters updated)
      · cases removed
  | addGroup name group nodes metadata =>
      obtain ⟨after, added, same⟩ := of_map done
      cases same
      cases Graph.of_addressed added
      exact frames_of [.groups] rfl (groups_only graph _) rfl
  | removeGroup name group =>
      obtain ⟨after, removed, same⟩ := of_map done
      obtain ⟨groups, alters, rfl⟩ := updateGroup_groups removed
      cases same
      exact frames_of [.groups] rfl (groups_only graph groups) alters
  | renameGroup name old new =>
      obtain ⟨after, renamed, same⟩ := of_map done
      obtain ⟨groups, alters, rfl⟩ := updateGroup_groups renamed
      cases same
      exact frames_of [.groups] rfl (groups_only graph groups) alters
  | changeGroup name group metadata =>
      obtain ⟨after, changed, same⟩ := of_map done
      obtain ⟨groups, alters, rfl⟩ := updateGroup_groups changed
      cases same
      exact frames_of [.groups] rfl (groups_only graph groups) alters

/-- An operation fails and leaves the graph alone, or succeeds and changes only what it addresses. -/
theorem all_or_nothing (mutation : Mutation) (graph : Graph) :
    (∀ failure after, mutation.perform graph = (.error failure, after) → after = graph) ∧
      ∀ answer after, mutation.perform graph = (.ok answer, after) → mutation.Frames graph after := by
  rw [perform_eq]
  cases done : mutation.result graph with
  | error failure =>
      constructor
      · intro other after same
        cases same
        rfl
      · intro answer after same
        cases same
  | ok pair =>
      obtain ⟨next, answer⟩ := pair
      constructor
      · intro failure after same
        cases same
      · intro other after same
        cases same
        exact result_frames done

end Mutation

end Flowd.Stored
