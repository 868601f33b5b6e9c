import Flowd.Graph.Frames
import Flowd.Graph.Requests

namespace Flowd.Stored

/-! Which requests change the graph that they are handled on. -/

/-- The object of a graph:clear is as empty already as it makes it. -/
structure Cleared (graph : Graph) (id : String) (description icon : Option String) : Prop where
  name : graph.properties.name = id
  description : graph.properties.description = description.getD ""
  icon : graph.properties.icon = icon.getD ""
  inports : graph.inports = ∅
  outports : graph.outports = ∅
  groups : graph.groups = []
  nodes : graph.nodes = ∅
  edges : graph.edges = []

theorem clear_same_iff {graph cleared : Graph} {id : String} {description icon : Option String}
    (done : graph.clear false id description icon = .ok cleared) : cleared = graph ↔ Cleared graph id description icon := by
  cases done
  constructor
  · intro same
    constructor <;> rw [← same]
  · intro same
    obtain ⟨caseSensitive, ⟨name, environment, text, image⟩, inports, outports, groups, nodes, edges⟩ := graph
    obtain ⟨name, text, image, inports, outports, groups, nodes, edges⟩ := same
    simp only at name text image inports outports groups nodes edges
    subst name text image inports outports groups nodes edges
    rfl

/-- There is something in the graph for the request to change. -/
def GraphRequest.Changes (graph : Graph) (running : Bool) : GraphRequest → Prop
  | .clear id _ _ _ icon description => running = false ∧ ¬ Cleared graph id description icon
  | .addnode id _ _ name _ => name = some graph.properties.name ∧ id ∉ graph.nodes
  | .removenode id name => name = graph.properties.name ∧ id ∈ graph.nodes
  | .renamenode old new name => name = graph.properties.name ∧ new ∉ graph.nodes ∧ old ∈ graph.nodes
  | .changenode id changes name =>
      name = graph.properties.name ∧ ∃ node, graph.nodes.lookup id = some node ∧ Graph.changedNode node changes ≠ node
  | .addedge _ _ _ name | .addgroup _ name _ _ => name = graph.properties.name
  | .removeedge name src tgt => name = graph.properties.name ∧ ∃ edge ∈ graph.edges, edge.joins src tgt = true
  | .changeedge name metadata src tgt =>
      name = graph.properties.name ∧ ∃ edge, graph.edges.find? (·.joins src tgt) = some edge ∧ metadata ≠ edge.metadata
  | .addinitial .. => True
  | .removeinitial _ data tgt => ∃ edge ∈ graph.edges, edge.initial data tgt = true
  | .addinport _ name _ _ _ => name ∉ graph.inports
  | .removeinport _ name => name ∈ graph.inports
  | .renameinport _ old new => new ∉ graph.inports ∧ old ∈ graph.inports
  | .addoutport _ name _ _ _ => name ∉ graph.outports
  | .removeoutport _ name => name ∈ graph.outports
  | .renameoutport _ old new => new ∉ graph.outports ∧ old ∈ graph.outports
  | .removegroup name group => name = graph.properties.name ∧ ∃ found ∈ graph.groups, found.name = group
  | .renamegroup name old new =>
      name = graph.properties.name ∧ ∃ found, graph.groups.find? (·.name == old) = some found ∧ new ≠ found.name
  | .changegroup name group metadata =>
      name = graph.properties.name ∧
        ∃ found, graph.groups.find? (·.name == group) = some found ∧ metadata ≠ found.metadata

/-- The operation succeeds, and what it was done on is another then. -/
def Changed {α β : Type} (before : β) (result : Except Failure α) (after : α → β) : Prop :=
  ∃ value, result = .ok value ∧ after value ≠ before

namespace Changed

variable {α β γ : Type} {before : β} {result : Except Failure α} {after : α → β}

theorem ok_iff {value : α} : Changed before (.ok value) after ↔ after value ≠ before := by
  constructor
  · rintro ⟨found, same, different⟩
    cases same
    exact different
  · intro different
    exact ⟨value, rfl, different⟩

theorem not_error {failure : Failure} : ¬ Changed before (.error failure) after := by
  rintro ⟨value, same, _⟩
  cases same

/-- What follows a result cannot fail. -/
theorem bind_iff {next : α → γ} {last : γ → β} :
    Changed before (result >>= fun value => Except.ok (next value)) last ↔
      Changed before result fun value => last (next value) := by
  cases result with
  | error failure => exact iff_of_false not_error not_error
  | ok value =>
      have kept : Changed before (Except.ok value : Except Failure α) (fun value => last (next value)) ↔
          last (next value) ≠ before := ok_iff
      exact ok_iff.trans kept.symm

theorem map_iff {next : α → γ} {last : γ → β} :
    Changed before (result.map next) last ↔ Changed before result fun value => last (next value) := by
  cases result with
  | error failure => exact iff_of_false not_error not_error
  | ok value =>
      have kept : Changed before (Except.ok value : Except Failure α) (fun value => last (next value)) ↔
          last (next value) ≠ before := ok_iff
      exact ok_iff.trans kept.symm

theorem addressed_iff {graph : Graph} {name : String} {next : Unit → Except Failure α} :
    Changed before (graph.addressed name >>= next) after ↔
      name = graph.properties.name ∧ Changed before (next ()) after := by
  rw [addressed_bind]
  split
  · next own => simp [own]
  · next other => simp [other, not_error]

theorem congr {other : α → γ} {first : γ} (same : ∀ value, after value ≠ before ↔ other value ≠ first) :
    Changed before result after ↔ Changed first result other :=
  exists_congr fun value => and_congr_right' (same value)

end Changed

/-! A map with another key is another map, and so is one in which a key has another value. -/

section
variable {V : Type} {map next : HashMap String V} {key : String}

theorem ne_of_fresh (absent : key ∉ map) (present : key ∈ next) : next ≠ map := by
  rintro rfl
  exact absent present

theorem ne_of_missing (present : key ∈ map) (absent : key ∉ next) : next ≠ map :=
  (ne_of_fresh absent present).symm

theorem adjust_ne_iff {value : V} {change : V → V} (found : map.lookup key = some value) :
    map.adjust key change ≠ map ↔ change value ≠ value := by
  apply not_congr
  constructor
  · intro same
    have looked := HashMap.lookup_adjust map key key change
    rw [same, if_pos rfl, found] at looked
    exact (Option.some.inj looked).symm
  · exact HashMap.adjust_same found

end

/-- Replacing the first item that is meant makes a difference just if the item is replaced by
something else. -/
theorem updateFirst_changes_iff {α : Type} {meant : α → Bool} {update : α → List α} {items : List α} :
    (∃ after, updateFirst meant update items = some after ∧ after ≠ items) ↔
      ∃ item, items.find? meant = some item ∧ update item ≠ [item] := by
  induction items with
  | nil => simp [updateFirst]
  | cons item rest ih =>
      unfold updateFirst
      cases here : meant item with
      | true =>
          have cancel : update item ++ rest = item :: rest ↔ update item = [item] := by
            exact @List.append_left_inj _ (update item) [item] rest
          simp [here, cancel]
      | false => simpa [List.find?_cons, here] using ih

theorem exists_find?_iff {α : Type} {meant : α → Bool} {items : List α} :
    (∃ item, items.find? meant = some item ∧ [] ≠ [item]) ↔ ∃ item ∈ items, meant item = true := by
  simp [← Option.isSome_iff_exists]

/-! What the operations change. -/

section
variable {ports : HashMap String GraphPort} {what name old new : String} {portdef : GraphPort}

theorem addPort_changes : Changed ports (Graph.addPort what ports name portdef) id ↔ name ∉ ports := by
  unfold Graph.addPort HashMap.tryInsert
  by_cases taken : name ∈ ports
  · simp [taken, Changed.not_error]
  · have fresh : AList.insert name portdef ports ≠ ports := ne_of_fresh taken (by simp)
    simpa [taken, Changed.ok_iff] using fresh

theorem removePort_changes : Changed ports (Graph.removePort what ports name) id ↔ name ∈ ports := by
  unfold Graph.removePort
  by_cases present : name ∈ ports
  · have missing : AList.erase name ports ≠ ports := ne_of_missing present (by simp [AList.mem_erase])
    simpa [present, Changed.ok_iff] using missing
  · simp [present, Changed.not_error]

theorem renamePort_changes : Changed ports (Graph.renamePort what ports old new) id ↔ new ∉ ports ∧ old ∈ ports := by
  unfold Graph.renamePort
  by_cases taken : new ∈ ports
  · simp [taken, Changed.not_error]
  · cases found : ports.lookup old with
    | none => simp [taken, Changed.not_error, AList.lookup_eq_none.mp found]
    | some port =>
        have present : old ∈ ports := AList.lookup_isSome.mp (Option.isSome_of_eq_some found)
        have free : new ∉ AList.erase old ports := fun member => taken (AList.mem_erase.mp member).2
        have fresh : AList.insert new port (AList.erase old ports) ≠ ports :=
          ne_of_fresh taken (by simp)
        simpa [taken, present, HashMap.tryInsert, free, Changed.ok_iff] using fresh

end

namespace Graph

variable {graph : Graph} {name node old new : String}

theorem inports_ne_iff {inports : HashMap String GraphPort} :
    { graph with inports } ≠ graph ↔ inports ≠ graph.inports := by
  obtain ⟨caseSensitive, properties, inports', outports, groups, nodes, edges⟩ := graph
  simp

theorem outports_ne_iff {outports : HashMap String GraphPort} :
    { graph with outports } ≠ graph ↔ outports ≠ graph.outports := by
  obtain ⟨caseSensitive, properties, inports, outports', groups, nodes, edges⟩ := graph
  simp

theorem groups_ne_iff {groups : List GraphGroup} : { graph with groups } ≠ graph ↔ groups ≠ graph.groups := by
  obtain ⟨caseSensitive, properties, inports, outports, groups', nodes, edges⟩ := graph
  simp

theorem nodes_ne_iff {nodes : HashMap String GraphNode} : { graph with nodes } ≠ graph ↔ nodes ≠ graph.nodes := by
  obtain ⟨caseSensitive, properties, inports, outports, groups, nodes', edges⟩ := graph
  simp

theorem edges_ne_iff {edges : List GraphEdge} : { graph with edges } ≠ graph ↔ edges ≠ graph.edges := by
  obtain ⟨caseSensitive, properties, inports, outports, groups, nodes, edges'⟩ := graph
  simp

theorem nodes_edges_ne {nodes : HashMap String GraphNode} {edges : List GraphEdge} (different : nodes ≠ graph.nodes) :
    { graph with nodes, edges } ≠ graph := fun same => different (congrArg Graph.nodes same)

theorem addNodeFromPayload_changes {component : String} {metadata : JsonMap} :
    Changed graph (graph.addNodeFromPayload name component new metadata) id ↔
      name = graph.properties.name ∧ new ∉ graph.nodes := by
  rw [addNodeFromPayload_eq, Changed.addressed_iff]
  apply and_congr_right'
  unfold HashMap.tryInsert
  by_cases taken : new ∈ graph.nodes
  · simp [taken, Changed.not_error]
  · simp only [taken, if_false, not_false_eq_true, iff_true, Changed.ok_iff]
    exact nodes_ne_iff.mpr (ne_of_fresh taken (by simp))

theorem removeNode_changes :
    Changed graph (graph.removeNode name node) Prod.fst ↔ name = graph.properties.name ∧ node ∈ graph.nodes := by
  unfold removeNode
  rw [Changed.addressed_iff]
  apply and_congr_right'
  by_cases present : node ∈ graph.nodes
  · simp only [present, if_true, iff_true, Changed.ok_iff]
    exact nodes_edges_ne (ne_of_missing present (by simp [AList.mem_erase]))
  · simp [present, Changed.not_error]

theorem renameNode_changes :
    Changed graph (graph.renameNode name old new) id ↔
      name = graph.properties.name ∧ new ∉ graph.nodes ∧ old ∈ graph.nodes := by
  unfold renameNode
  rw [Changed.addressed_iff]
  apply and_congr_right'
  by_cases taken : new ∈ graph.nodes
  · simp [taken, Changed.not_error]
  · cases found : graph.nodes.lookup old with
    | none => simp [taken, Changed.not_error, AList.lookup_eq_none.mp found]
    | some value =>
        have present : old ∈ graph.nodes := AList.lookup_isSome.mp (Option.isSome_of_eq_some found)
        have free : new ∉ AList.erase old graph.nodes := fun member => taken (AList.mem_erase.mp member).2
        simp only [taken, if_false, not_false_eq_true, present, true_and, iff_true, HashMap.tryInsert, free, Changed.ok_iff]
        exact nodes_edges_ne (ne_of_fresh taken (by simp))

theorem changeNode_changes {changes : JsonMap} :
    Changed graph (graph.changeNode name node changes) Prod.fst ↔
      name = graph.properties.name ∧ ∃ found, graph.nodes.lookup node = some found ∧ changedNode found changes ≠ found := by
  unfold changeNode
  rw [Changed.addressed_iff]
  apply and_congr_right'
  cases found : graph.nodes.lookup node with
  | none => simp [Changed.not_error]
  | some value =>
      have differs : { graph with nodes := graph.nodes.adjust node fun node => changedNode node changes } ≠ graph ↔
          changedNode value changes ≠ value := nodes_ne_iff.trans (adjust_ne_iff found)
      simpa [Changed.ok_iff] using differs

theorem addEdge_changes {edge : GraphEdge} :
    Changed graph (graph.addEdge name edge) id ↔ name = graph.properties.name := by
  unfold addEdge
  rw [Changed.addressed_iff]
  apply and_iff_left
  apply Changed.ok_iff.mpr
  exact edges_ne_iff.mpr (by simp)

theorem updateEdge_changes {source target : GraphNodeSpecNetwork} {update : GraphEdge → List GraphEdge} :
    Changed graph (graph.updateEdge name source target update) id ↔ name = graph.properties.name ∧
      ∃ edge, graph.edges.find? (·.joins source target) = some edge ∧ update edge ≠ [edge] := by
  unfold updateEdge
  rw [Changed.addressed_iff, ← updateFirst_changes_iff]
  apply and_congr_right'
  cases updated : updateFirst (·.joins source target) update graph.edges with
  | none => simp [Changed.not_error]
  | some edges => simpa [Changed.ok_iff] using @edges_ne_iff graph edges

theorem addInitialip_ne {data : String} {target : GraphNodeSpecNetwork} {metadata : GraphEdgeMetadata} :
    graph.addInitialip data target metadata ≠ graph := edges_ne_iff.mpr (by simp)

theorem removeInitialip_changes {data : Option String} {target : GraphNodeSpecNetwork} :
    Changed graph (graph.removeInitialip data target) Prod.fst ↔ ∃ edge ∈ graph.edges, edge.initial data target = true := by
  have removes := @updateFirst_changes_iff _ (fun edge : GraphEdge => edge.initial data target) (fun _ => []) graph.edges
  unfold removeInitialip
  cases found : graph.edges.find? (·.initial data target) with
  | none =>
      have none := List.find?_eq_none.mp found
      refine iff_of_false ?_ fun some => ?_
      · split
        · next impossible => cases impossible
        · exact Changed.not_error
      · obtain ⟨edge, member, initial⟩ := some
        exact none edge member initial
  | some edge =>
      rw [found] at removes
      obtain ⟨edges, updated, different⟩ := removes.mpr ⟨edge, rfl, by simp⟩
      rw [updated]
      have initial := List.find?_some found
      refine iff_of_true ?_ ⟨edge, List.mem_of_find?_eq_some found, initial⟩
      exact Changed.ok_iff.mpr (edges_ne_iff.mpr different)

theorem addGroup_changes {group : String} {nodes : List String} {metadata : GraphGroupMetadata} :
    Changed graph (graph.addGroup name group nodes metadata) id ↔ name = graph.properties.name := by
  unfold addGroup
  rw [Changed.addressed_iff]
  apply and_iff_left
  apply Changed.ok_iff.mpr
  exact groups_ne_iff.mpr (by simp)

theorem updateGroup_changes {group : String} {update : GraphGroup → List GraphGroup} :
    Changed graph (graph.updateGroup name group update) id ↔ name = graph.properties.name ∧
      ∃ found, graph.groups.find? (·.name == group) = some found ∧ update found ≠ [found] := by
  unfold updateGroup
  rw [Changed.addressed_iff, ← updateFirst_changes_iff]
  apply and_congr_right'
  cases updated : updateFirst (·.name == group) update graph.groups with
  | none => simp [Changed.not_error]
  | some groups => simpa [Changed.ok_iff] using @groups_ne_iff graph groups

theorem clear_changes {running : Bool} {description icon : Option String} :
    Changed graph (graph.clear running new description icon) id ↔
      running = false ∧ ¬ Cleared graph new description icon := by
  cases running with
  | true =>
      refine iff_of_false Changed.not_error ?_
      simp
  | false =>
      rw [← clear_same_iff rfl, and_iff_right rfl]
      exact Changed.ok_iff

/-- A handler that answers with the graph of an operation. -/
theorem answer_changes {result : Except Failure Graph} {answers : Graph → List GraphResponse} :
    Changed graph (result >>= fun next => Except.ok (next, answers next)) Prod.fst ↔ Changed graph result id :=
  Changed.bind_iff

/-- The operation of a handler works on the graph inports. -/
theorem inports_changes {result : Except Failure (HashMap String GraphPort)} {answers : Graph → List GraphResponse} :
    Changed graph ((result.map fun inports => { graph with inports }) >>= fun next => Except.ok (next, answers next))
      Prod.fst ↔ Changed graph.inports result id :=
  answer_changes.trans (Changed.map_iff.trans (Changed.congr fun _ => inports_ne_iff))

theorem outports_changes {result : Except Failure (HashMap String GraphPort)} {answers : Graph → List GraphResponse} :
    Changed graph ((result.map fun outports => { graph with outports }) >>= fun next => Except.ok (next, answers next))
      Prod.fst ↔ Changed graph.outports result id :=
  answer_changes.trans (Changed.map_iff.trans (Changed.congr fun _ => outports_ne_iff))

/-- A request changes the graph it is handled on just if it finds something to change. -/
theorem perform_changes (running : Bool) (request : GraphRequest) :
    Changed graph (graph.perform running request) Prod.fst ↔ request.Changes graph running := by
  cases request with
  | clear id label library main icon description => exact answer_changes.trans clear_changes
  | addnode id component metadata name icon =>
      cases name with
      | none =>
          refine iff_of_false Changed.not_error fun changes => ?_
          cases changes.1
      | some name =>
          refine (answer_changes.trans addNodeFromPayload_changes).trans ?_
          simp [GraphRequest.Changes]
  | removenode id name => exact Changed.bind_iff.trans removeNode_changes
  | renamenode old new name => exact answer_changes.trans renameNode_changes
  | changenode id metadata name => exact Changed.bind_iff.trans changeNode_changes
  | addedge src tgt metadata name => exact answer_changes.trans addEdge_changes
  | removeedge name src tgt =>
      refine (answer_changes.trans updateEdge_changes).trans ?_
      exact and_congr_right' exists_find?_iff
  | changeedge name metadata src tgt =>
      refine (answer_changes.trans updateEdge_changes).trans ?_
      refine and_congr_right' (exists_congr fun edge => and_congr_right' ?_)
      obtain ⟨source, data, target, old⟩ := edge
      simp
  | addinitial name metadata data tgt => exact iff_of_true (Changed.ok_iff.mpr addInitialip_ne) trivial
  | removeinitial name data tgt => exact Changed.bind_iff.trans removeInitialip_changes
  | addinport name publicName node port metadata => exact inports_changes.trans addPort_changes
  | removeinport name publicName => exact inports_changes.trans removePort_changes
  | renameinport name old new => exact inports_changes.trans renamePort_changes
  | addoutport name publicName node port metadata => exact outports_changes.trans addPort_changes
  | removeoutport name publicName => exact outports_changes.trans removePort_changes
  | renameoutport name old new => exact outports_changes.trans renamePort_changes
  | addgroup group name nodes metadata => exact answer_changes.trans addGroup_changes
  | removegroup name group =>
      refine (answer_changes.trans updateGroup_changes).trans ?_
      refine and_congr_right' (exists_find?_iff.trans ?_)
      simp
  | renamegroup name old new =>
      refine (answer_changes.trans updateGroup_changes).trans ?_
      refine and_congr_right' (exists_congr fun group => and_congr_right' ?_)
      obtain ⟨first, nodes, metadata⟩ := group
      simp
  | changegroup name group metadata =>
      refine (answer_changes.trans updateGroup_changes).trans ?_
      refine and_congr_right' (exists_congr fun group => and_congr_right' ?_)
      obtain ⟨first, nodes, old⟩ := group
      simp

theorem handle_changes_iff (running : Bool) (request : GraphRequest) :
    (∃ next responses, graph.handle running request = .ok (next, responses) ∧ next ≠ graph) ↔
      request.Changes graph running := by
  rw [← perform_changes]
  unfold handle Changed
  cases graph.perform running request with
  | ok result =>
      obtain ⟨next, responses⟩ := result
      simp
  | error failure =>
      cases failure with
      | error kind text => simp
      | panicked text => simp

end Graph

end Flowd.Stored
