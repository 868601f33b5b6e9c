import Flowd.Graph.Frames

namespace Flowd.Stored

/-! Initial packets are kept among the edges. -/

/-- An initial packet has data and an empty source, any other edge joins two named processes. -/
def GraphEdge.Proper (edge : GraphEdge) : Prop :=
  match edge.data with
  | some _ => edge.source.process = ""
  | none => edge.source.process ≠ "" ∧ edge.target.process ≠ ""

def Graph.Connected (graph : Graph) : Prop := ∀ edge ∈ graph.edges, edge.Proper

/-- No edge is an initial packet for the target with this data, if it is given. -/
def Graph.Lacks (graph : Graph) (data : Option String) (target : GraphNodeSpecNetwork) : Prop :=
  ∀ edge ∈ graph.edges, edge.initial data target = false

/-- What is added is an initial packet that can be removed again, by its data or as the only one of the target. -/
structure Graph.Cancels (graph : Graph) (data : String) (target : GraphNodeSpecNetwork) (metadata : GraphEdgeMetadata) :
    Prop where
  proper : ∃ added, (graph.addInitialip data target metadata).edges = graph.edges ++ [added] ∧ added.Proper
  named : ∃ next, (graph.addInitialip data target metadata).removeInitialip (some data) target = .ok (next, data) ∧
    (graph.Lacks (some data) target → next = graph)
  only : graph.Lacks none target →
    (graph.addInitialip data target metadata).removeInitialip none target = .ok (graph, data)

namespace Graph

variable {graph : Graph} {data : String} {target : GraphNodeSpecNetwork} {metadata : GraphEdgeMetadata}

theorem updateFirst_append {α : Type} {meant : α → Bool} {update : α → List α} {items : List α} {item : α}
    (none : ∀ found ∈ items, meant found = false) (hit : meant item = true) :
    updateFirst meant update (items ++ [item]) = some (items ++ update item) := by
  induction items with
  | nil => simp [updateFirst, hit]
  | cons first rest ih =>
      have apart : meant first = false := none first (by simp)
      have found := ih fun other member => none other (List.mem_cons_of_mem first member)
      simp [updateFirst, apart, found]

theorem updateFirst_of_mem {α : Type} {meant : α → Bool} (update : α → List α) {items : List α} {item : α}
    (member : item ∈ items) (hit : meant item = true) : ∃ updated, updateFirst meant update items = some updated := by
  induction items with
  | nil => cases member
  | cons first rest ih =>
      by_cases meantFirst : meant first = true
      · exact ⟨update first ++ rest, by simp [updateFirst, meantFirst]⟩
      · have later : item ∈ rest := by
          cases List.mem_cons.mp member with
          | inl same => exact absurd (same ▸ hit) meantFirst
          | inr later => exact later
        obtain ⟨updated, found⟩ := ih later
        exact ⟨first :: updated, by simp [updateFirst, meantFirst, found]⟩

/-- The packet that was added is found again. -/
theorem initialEdge_initial (filled : data ≠ "") (target : GraphNodeSpecNetwork) (metadata : GraphEdgeMetadata) :
    (initialEdge data target metadata).data = some data ∧
      (initialEdge data target metadata).initial (some data) target = true ∧
      (initialEdge data target metadata).initial none target = true := by
  have present : data.isEmpty = false := by simpa using filled
  simp [initialEdge, GraphEdge.initial, present, GraphNodeSpec.ofNetwork, GraphNodeSpec.network]

theorem removeInitialip_added (filled : data ≠ "") {sought : Option String} (lacks : graph.Lacks sought target)
    (either : sought = some data ∨ sought = none) :
    (graph.addInitialip data target metadata).removeInitialip sought target = .ok (graph, data) := by
  have facts := initialEdge_initial filled target metadata
  have hit : (initialEdge data target metadata).initial sought target = true := by
    cases either with
    | inl same => rw [same]; exact facts.2.1
    | inr same => rw [same]; exact facts.2.2
  have removed : updateFirst (·.initial sought target) (fun _ => []) (graph.edges ++ [initialEdge data target metadata]) =
      some (graph.edges ++ []) := updateFirst_append lacks hit
  have found : (graph.edges ++ [initialEdge data target metadata]).find? (·.initial sought target) =
      some (initialEdge data target metadata) := by
    have absent : graph.edges.find? (·.initial sought target) = none := by simpa [Lacks] using lacks
    simp [List.find?_append, absent, hit]
  simp [removeInitialip, addInitialip, removed, found, facts.1]

theorem removeInitialip_equal (filled : data ≠ "") (graph : Graph) (target : GraphNodeSpecNetwork)
    (metadata : GraphEdgeMetadata) :
    ∃ next, (graph.addInitialip data target metadata).removeInitialip (some data) target = .ok (next, data) := by
  have facts := initialEdge_initial filled target metadata
  have member : initialEdge data target metadata ∈ graph.edges ++ [initialEdge data target metadata] := by simp
  obtain ⟨edges, updated⟩ := @updateFirst_of_mem _ (·.initial (some data) target) (fun _ => []) _ _ member facts.2.1
  cases found : (graph.edges ++ [initialEdge data target metadata]).find? (·.initial (some data) target) with
  | none =>
      have missed := List.find?_eq_none.mp found _ member
      exact absurd facts.2.1 missed
  | some edge =>
      have hit : edge.initial (some data) target = true := by simpa using List.find?_some found
      have same : edge.data = some data := by
        simp only [GraphEdge.initial, Bool.and_eq_true, Bool.or_eq_true, beq_iff_eq, Option.isNone_some,
          Bool.false_eq_true, false_or] at hit
        exact hit.1.2
      exact ⟨_, by simp [removeInitialip, addInitialip, updated, found, same]; rfl⟩

/-- Adding and removing an initial packet cancel out exactly if its data is not empty. -/
theorem cancels_iff (graph : Graph) (data : String) (target : GraphNodeSpecNetwork) (metadata : GraphEdgeMetadata) :
    graph.Cancels data target metadata ↔ data ≠ "" := by
  constructor
  · intro cancels empty
    subst empty
    obtain ⟨added, grown, proper⟩ := cancels.proper
    have same : added = initialEdge "" target metadata := by
      have tails := List.append_cancel_left grown
      exact (List.cons.inj tails).1.symm
    subst same
    exact proper.1 rfl
  · intro filled
    have facts := initialEdge_initial filled target metadata
    refine ⟨⟨initialEdge data target metadata, rfl, ?_⟩, ?_, fun lacks => removeInitialip_added filled lacks (.inr rfl)⟩
    · unfold GraphEdge.Proper
      rw [facts.1]
      rfl
    · by_cases lacks : graph.Lacks (some data) target
      · exact ⟨graph, removeInitialip_added filled lacks (.inl rfl), fun _ => rfl⟩
      · obtain ⟨next, removed⟩ := removeInitialip_equal filled graph target metadata
        exact ⟨next, removed, fun other => absurd other lacks⟩

/-! Runs of operations. -/

/-- Renaming a node keeps an edge proper unless a name it has or gets is empty. -/
theorem renamedEdge_proper {edge : GraphEdge} {old new : String} (proper : edge.Proper) (different : old ≠ new) :
    (renamedEdge old new edge).Proper ↔
      (old = "" → edge.data = none) ∧ (new = "" → edge.data = none → edge.touches old = false) := by
  obtain ⟨⟨sourceNode, sourcePort, sourceIndex⟩, found, ⟨targetNode, targetPort, targetIndex⟩, metadata⟩ := edge
  cases found with
  | some text =>
      have source : sourceNode = "" := proper
      subst source
      by_cases empty : old = ""
      · subst empty
        simp [renamedEdge, GraphNodeSpec.renamed, GraphEdge.Proper, Ne.symm different]
      · simp [renamedEdge, GraphNodeSpec.renamed, GraphEdge.Proper, empty, Ne.symm empty]
  | none =>
      obtain ⟨source, target⟩ : sourceNode ≠ "" ∧ targetNode ≠ "" := proper
      by_cases empty : new = ""
      · subst empty
        by_cases first : sourceNode = old
        · simp [renamedEdge, GraphNodeSpec.renamed, GraphEdge.Proper, GraphEdge.touches, first]
        · by_cases second : targetNode = old
          · simp [renamedEdge, GraphNodeSpec.renamed, GraphEdge.Proper, GraphEdge.touches, first, second]
          · simp [renamedEdge, GraphNodeSpec.renamed, GraphEdge.Proper, GraphEdge.touches, first, second, source, target]
      · by_cases first : sourceNode = old
        · by_cases second : targetNode = old
          · simp [renamedEdge, GraphNodeSpec.renamed, GraphEdge.Proper, first, second, empty]
          · simp [renamedEdge, GraphNodeSpec.renamed, GraphEdge.Proper, first, second, empty, target]
        · by_cases second : targetNode = old
          · simp [renamedEdge, GraphNodeSpec.renamed, GraphEdge.Proper, first, second, empty, source]
          · simp [renamedEdge, GraphNodeSpec.renamed, GraphEdge.Proper, first, second, empty, source, target]

end Graph

namespace Mutation

variable {graph next : Graph} {mutation : Mutation}

/-- What an operation must not be asked for: an edge without a name, an initial packet without data, or a name
that is empty given to or taken from a node. -/
def Keeps (graph : Graph) : Mutation → Prop
  | .addEdge name edge => name = graph.properties.name → edge.Proper
  | .addInitialip data _ _ => data ≠ ""
  | .renameNode name old new => name = graph.properties.name → new ∉ graph.nodes → old ∈ graph.nodes →
      (old = "" → ∀ edge ∈ graph.edges, edge.data = none) ∧
        (new = "" → ∀ edge ∈ graph.edges, edge.data = none → edge.touches old = false)
  | _ => True

/-- The graph after the operation. -/
def after (mutation : Mutation) (graph : Graph) : Graph := (mutation.perform graph).2

theorem after_of_error {failure : Failure} (failed : mutation.result graph = .error failure) :
    mutation.after graph = graph := by
  rw [after, perform_eq, failed]
  rfl

theorem after_of_ok {answer : Answer} (done : mutation.result graph = .ok (next, answer)) :
    mutation.after graph = next := by
  rw [after, perform_eq, done]
  rfl

/-- What holds of the graph and is kept by what succeeds holds of the graph afterwards. -/
theorem after_of {kept : Graph → Prop} (holds : kept graph)
    (step : ∀ next answer, mutation.result graph = .ok (next, answer) → kept next) : kept (mutation.after graph) := by
  cases done : mutation.result graph with
  | error failure =>
      rw [after_of_error done]
      exact holds
  | ok pair =>
      rw [after_of_ok done]
      exact step pair.1 pair.2 done

theorem connected_elsewhere {touched : List Collection} (connected : graph.Connected)
    (addressed : mutation.collections = some touched) (apart : Collection.edges ∉ touched) :
    (mutation.after graph).Connected := by
  apply after_of connected
  intro next answer done
  have same := ((result_frames done).others touched addressed).edges apart
  unfold Graph.Connected
  rw [same]
  exact connected

/-- Replacing one edge by edges that are as proper keeps the connections proper. -/
theorem connected_altered {meant : GraphEdge → Bool} {update : GraphEdge → List GraphEdge}
    (connected : graph.Connected) (alters : AltersOne meant update graph.edges next.edges)
    (same : ∀ edge, ∀ updated ∈ update edge, edge.Proper → updated.Proper) : next.Connected := by
  obtain ⟨front, item, back, before, _, altered⟩ := alters
  intro edge member
  rw [altered] at member
  rcases List.mem_append.mp member with inFrontOrItem | inBack
  · rcases List.mem_append.mp inFrontOrItem with inFront | inItem
    · exact connected edge (before ▸ List.mem_append_left _ inFront)
    · exact same item edge inItem (connected item (by simp [before]))
  · exact connected edge (by simp [before, inBack])

theorem connected_appended {edge : GraphEdge} (connected : graph.Connected) (grown : next.edges = graph.edges ++ [edge]) :
    next.Connected ↔ edge.Proper := by
  unfold Graph.Connected
  rw [grown]
  constructor
  · intro all
    exact all edge (by simp)
  · intro proper other member
    rcases List.mem_append.mp member with old | added
    · exact connected other old
    · rw [List.mem_singleton.mp added]
      exact proper

theorem connected_addEdge {name : String} {edge : GraphEdge} (connected : graph.Connected) :
    ((Mutation.addEdge name edge).after graph).Connected ↔ (Mutation.addEdge name edge).Keeps graph := by
  cases done : (Mutation.addEdge name edge).result graph with
  | error failure =>
      have wrong : name ≠ graph.properties.name := by
        intro same
        simp [result, Graph.addEdge, Graph.addressed, same] at done
        cases done
      rw [after_of_error done]
      exact iff_of_true connected fun same => absurd same wrong
  | ok pair =>
      have same : name = graph.properties.name := by
        by_contra wrong
        simp [result, Graph.addEdge, Graph.addressed, wrong] at done
        cases done
      rw [after_of_ok done]
      have grown : pair.1.edges = graph.edges ++ [edge] := (result_frames done).elements
      rw [connected_appended connected grown]
      exact ⟨fun proper _ => proper, fun kept => kept same⟩

theorem connected_addInitialip {data : String} {target : GraphNodeSpecNetwork} {metadata : GraphEdgeMetadata}
    (connected : graph.Connected) : ((Mutation.addInitialip data target metadata).after graph).Connected ↔
      (Mutation.addInitialip data target metadata).Keeps graph := by
  have done : (Mutation.addInitialip data target metadata).result graph =
      .ok (graph.addInitialip data target metadata, .done) := rfl
  rw [after_of_ok done, @connected_appended graph _ _ connected rfl]
  unfold GraphEdge.Proper Graph.initialEdge Keeps
  by_cases empty : data = ""
  · simp [empty]
  · simp [empty]

theorem connected_renameNode {name old new : String} (connected : graph.Connected) :
    ((Mutation.renameNode name old new).after graph).Connected ↔ (Mutation.renameNode name old new).Keeps graph := by
  cases done : (Mutation.renameNode name old new).result graph with
  | error failure =>
      rw [after_of_error done]
      refine iff_of_true connected fun same free present => ?_
      obtain ⟨value, found⟩ := Option.isSome_iff_exists.mp (AList.lookup_isSome.mpr present)
      simp [result, Graph.renameNode_of same free found, Except.map] at done
  | ok pair =>
      obtain ⟨renamed, moved, same⟩ := of_map done
      obtain ⟨name_eq, free, value, found, rfl⟩ := Graph.renameNode_ok moved
      have present : old ∈ graph.nodes := AList.lookup_isSome.mp (by rw [found]; rfl)
      have different : old ≠ new := fun same => free (same ▸ present)
      rw [after_of_ok done, ← same]
      have each : (graph.afterRename old new value).Connected ↔ ∀ edge ∈ graph.edges,
          (old = "" → edge.data = none) ∧ (new = "" → edge.data = none → edge.touches old = false) := by
        simp only [Graph.Connected, Graph.afterRename, List.mem_map, forall_exists_index, and_imp,
          forall_apply_eq_imp_iff₂]
        exact forall₂_congr fun edge member => Graph.renamedEdge_proper (connected edge member) different
      constructor
      · intro after _ _ _
        have facts := each.mp after
        exact ⟨fun empty edge member => (facts edge member).1 empty,
          fun empty edge member => (facts edge member).2 empty⟩
      · intro kept
        have facts := kept name_eq free present
        exact each.mpr fun edge member => ⟨fun empty => facts.1 empty edge member, fun empty => facts.2 empty edge member⟩

/-- An operation keeps the connections proper exactly if it is not asked for one that is not. -/
theorem connected_after (connected : graph.Connected) (mutation : Mutation) :
    (mutation.after graph).Connected ↔ mutation.Keeps graph := by
  cases mutation with
  | addEdge name edge => exact connected_addEdge connected
  | addInitialip data target metadata => exact connected_addInitialip connected
  | renameNode name old new => exact connected_renameNode connected
  | clear running name description icon =>
      refine iff_of_true (after_of connected ?_) trivial
      intro next answer done
      obtain ⟨cleared, emptied, same⟩ := of_map done
      cases same
      unfold Graph.clear at emptied
      split at emptied
      · cases emptied
      · cases emptied
        intro edge member
        cases member
  | removeNode name node =>
      refine iff_of_true (after_of connected ?_) trivial
      intro next answer done edge member
      rw [(result_frames done).elements.2] at member
      exact connected edge (List.mem_filter.mp member).1
  | removeEdge name source target =>
      refine iff_of_true (after_of connected fun next answer done => ?_) trivial
      exact connected_altered connected (result_frames done).elements (by simp)
  | changeEdge name source target metadata =>
      refine iff_of_true (after_of connected fun next answer done => ?_) trivial
      exact connected_altered connected (result_frames done).elements (by simp [GraphEdge.Proper])
  | removeInitialip data target =>
      refine iff_of_true (after_of connected fun next answer done => ?_) trivial
      exact connected_altered connected (result_frames done).elements (by simp)
  | addInport name portdef => exact iff_of_true (connected_elsewhere connected rfl (by decide)) trivial
  | addOutport name portdef => exact iff_of_true (connected_elsewhere connected rfl (by decide)) trivial
  | removeInport name => exact iff_of_true (connected_elsewhere connected rfl (by decide)) trivial
  | removeOutport name => exact iff_of_true (connected_elsewhere connected rfl (by decide)) trivial
  | renameInport old new => exact iff_of_true (connected_elsewhere connected rfl (by decide)) trivial
  | renameOutport old new => exact iff_of_true (connected_elsewhere connected rfl (by decide)) trivial
  | addNode name component newName metadata =>
      exact iff_of_true (connected_elsewhere connected rfl (by decide)) trivial
  | addNodeFromPayload name component newName metadata =>
      exact iff_of_true (connected_elsewhere connected rfl (by decide)) trivial
  | changeNode name node changes => exact iff_of_true (connected_elsewhere connected rfl (by decide)) trivial
  | addGroup name group nodes metadata => exact iff_of_true (connected_elsewhere connected rfl (by decide)) trivial
  | removeGroup name group => exact iff_of_true (connected_elsewhere connected rfl (by decide)) trivial
  | renameGroup name old new => exact iff_of_true (connected_elsewhere connected rfl (by decide)) trivial
  | changeGroup name group metadata => exact iff_of_true (connected_elsewhere connected rfl (by decide)) trivial

/-- The property holds of the graph and after each of the operations. -/
def Throughout (holds : Graph → Prop) (graph : Graph) : List Mutation → Prop
  | [] => holds graph
  | mutation :: rest => holds graph ∧ Throughout holds (mutation.after graph) rest

/-- Each of the operations is one the graph it is performed on allows. -/
def EachKeeps (graph : Graph) : List Mutation → Prop
  | [] => True
  | mutation :: rest => mutation.Keeps graph ∧ EachKeeps (mutation.after graph) rest

theorem throughout_head {holds : Graph → Prop} {mutations : List Mutation} (all : Throughout holds graph mutations) :
    holds graph := by
  cases mutations with
  | nil => exact all
  | cons mutation rest => exact all.1

theorem connected_throughout (connected : graph.Connected) (mutations : List Mutation) :
    Throughout Graph.Connected graph mutations ↔ EachKeeps graph mutations := by
  induction mutations generalizing graph with
  | nil => exact iff_of_true connected trivial
  | cons mutation rest ih =>
      constructor
      · intro all
        have next := throughout_head all.2
        exact ⟨(connected_after connected mutation).mp next, (ih next).mp all.2⟩
      · intro kept
        have next := (connected_after connected mutation).mpr kept.1
        exact ⟨connected, (ih next).mpr kept.2⟩

/-- Initial packets with data can be taken back, and only what was asked for without data or without
a name is in the connections beside initial packets and edges between processes. -/
theorem initial_packets_cancel (graph : Graph) :
    (∀ data target metadata, graph.Cancels data target metadata ↔ data ≠ "") ∧
      ∀ mutations, graph.Connected → (Throughout Graph.Connected graph mutations ↔ EachKeeps graph mutations) :=
  ⟨graph.cancels_iff, fun mutations connected => connected_throughout connected mutations⟩

/-- An initial packet is added, an edge, and the process at both ends is renamed. -/
def packetAndLoop : List Mutation :=
  [.addInitialip "5" ⟨"Repeat", "IN", none⟩ ⟨none, none, none⟩,
    .addEdge "main" ⟨⟨"Repeat", "OUT", none⟩, none, ⟨"Repeat", "IN", none⟩, ⟨none, none, none⟩⟩,
    .renameNode "main" "Repeat" "Loop"]

theorem initial_packets_cancel_packetAndLoop :
    Throughout Graph.Connected { Graph.new "main" "" "" with
      nodes := AList.singleton "Repeat" ⟨"Repeat", .default, []⟩ } packetAndLoop := by
  apply ((initial_packets_cancel _).2 packetAndLoop ?_).mpr
  · refine ⟨show "5" ≠ "" by decide, fun _ => by unfold GraphEdge.Proper; decide, fun _ _ _ => ⟨fun empty => ?_, fun empty => ?_⟩, trivial⟩
    · exact absurd empty (by decide)
    · exact absurd empty (by decide)
  · intro edge member
    cases member

/-- Without data nothing is found to remove, and an edge without data and without a source stays behind. -/
theorem empty_initial_packet_stays :
    ¬ (Graph.new "main" "" "").Cancels "" ⟨"Repeat", "IN", none⟩ ⟨none, none, none⟩ ∧
      (((Graph.new "main" "" "").addInitialip "" ⟨"Repeat", "IN", none⟩ ⟨none, none, none⟩).removeInitialip
        (some "") ⟨"Repeat", "IN", none⟩ = .error (.error .notFound "edge with that data+tgt not found")) ∧
      ¬ ((Graph.new "main" "" "").addInitialip "" ⟨"Repeat", "IN", none⟩ ⟨none, none, none⟩).Connected := by
  constructor
  · intro cancels
    exact (Graph.cancels_iff _ _ _ _).mp cancels rfl
  · constructor
    · rfl
    · intro connected
      have proper := connected (Graph.initialEdge "" ⟨"Repeat", "IN", none⟩ ⟨none, none, none⟩) (by simp [Graph.addInitialip, Graph.new])
      exact proper.1 rfl

end Mutation

end Flowd.Stored
