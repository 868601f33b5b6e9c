import Flowd.Graph.Persist

namespace Flowd.Stored

/-! References to nodes by name, and what removing or renaming a node makes of them. -/

/-- The edge starts or ends at the node; an initial packet only ends there. -/
def GraphEdge.incident (edge : GraphEdge) (name : String) : Bool :=
  edge.target.process == name || edge.data.isNone && edge.source.process == name

/-- Renaming there and back leaves an endpoint alone unless it had the new name before. -/
theorem GraphNodeSpec.renamed_back {spec : GraphNodeSpec} {old new : String} :
    (spec.renamed old new).renamed new old = spec ↔ (spec.process = new → old = new) := by
  cases spec with
  | mk process port index =>
      unfold GraphNodeSpec.renamed
      by_cases first : process = old
      · subst first
        simp [eq_comm]
      · by_cases second : process = new
        · subst second
          simp [first, Ne.symm first]
        · simp [first, second]

namespace Graph

variable {graph next : Graph} {name node old new : String}

/-- No exported port and no group refers to the node. -/
structure Unexported (graph : Graph) (node : String) : Prop where
  inports : ∀ name port, graph.inports.lookup name = some port → port.process ≠ node
  outports : ∀ name port, graph.outports.lookup name = some port → port.process ≠ node
  groups : ∀ group ∈ graph.groups, node ∉ group.nodes

/-- Every reference names an existing node. -/
structure Whole (graph : Graph) : Prop where
  sources : ∀ edge ∈ graph.edges, edge.data = none → edge.source.process ∈ graph.nodes
  targets : ∀ edge ∈ graph.edges, edge.target.process ∈ graph.nodes
  inports : ∀ name port, graph.inports.lookup name = some port → port.process ∈ graph.nodes
  outports : ∀ name port, graph.outports.lookup name = some port → port.process ∈ graph.nodes
  groups : ∀ group ∈ graph.groups, ∀ node ∈ group.nodes, node ∈ graph.nodes

/-- `next` is the graph without the node, the edges at it and what refers to it. -/
structure RemovesExactly (graph : Graph) (node : String) (next : Graph) : Prop where
  caseSensitive : next.caseSensitive = graph.caseSensitive
  properties : next.properties = graph.properties
  nodes : ∀ name, next.nodes.lookup name = if name = node then none else graph.nodes.lookup name
  edges : next.edges = graph.edges.filter fun edge => !edge.incident node
  inports : ∀ name, next.inports.lookup name = (graph.inports.lookup name).filter (·.process ≠ node)
  outports : ∀ name, next.outports.lookup name = (graph.outports.lookup name).filter (·.process ≠ node)
  groups : next.groups = graph.groups.map fun group =>
    { group with nodes := group.nodes.filter (· ≠ node) }

/-- What removing a node makes of the graph. -/
def afterRemove (graph : Graph) (node : String) : Graph :=
  { graph with
    nodes := AList.erase node graph.nodes
    edges := graph.edges.filter fun edge => !edge.touches node }

theorem removeNode_of (same : name = graph.properties.name) (present : node ∈ graph.nodes) :
    graph.removeNode name node =
      .ok (graph.afterRemove node, graph.edges.filter fun edge => edge.touches node) := by
  simp only [removeNode, addressed, same, ↓reduceIte, bind, Except.bind, present]
  rfl

theorem removeNode_ok {removed : List GraphEdge} (done : graph.removeNode name node = .ok (next, removed)) :
    node ∈ graph.nodes ∧ next = graph.afterRemove node := by
  by_cases same : name = graph.properties.name
  · by_cases present : node ∈ graph.nodes
    · rw [removeNode_of same present] at done
      exact ⟨present, (congrArg Prod.fst (Except.ok.inj done)).symm⟩
    · simp [removeNode, addressed, same, bind, Except.bind, present] at done
  · simp [removeNode, addressed, same, bind, Except.bind] at done

/-- An edge with both its endpoints renamed. -/
def renamedEdge (old new : String) (edge : GraphEdge) : GraphEdge :=
  { edge with source := edge.source.renamed old new, target := edge.target.renamed old new }

/-- What renaming a node with this value makes of the graph. -/
def afterRename (graph : Graph) (old new : String) (value : GraphNode) : Graph :=
  { graph with
    nodes := AList.insert new value (AList.erase old graph.nodes)
    edges := graph.edges.map (renamedEdge old new) }

/-- Renaming succeeds for an existing node and a free name. -/
theorem renameNode_of {value : GraphNode} (same : name = graph.properties.name) (free : new ∉ graph.nodes)
    (found : graph.nodes.lookup old = some value) :
    graph.renameNode name old new = .ok (graph.afterRename old new value) := by
  have inserted : HashMap.tryInsert (AList.erase old graph.nodes) new value =
      some (AList.insert new value (AList.erase old graph.nodes)) :=
    if_neg fun member => free (AList.mem_erase.mp member).2
  simp only [renameNode, addressed, same, ↓reduceIte, bind, Except.bind, free, found, inserted]
  rfl

theorem renameNode_ok (done : graph.renameNode name old new = .ok next) :
    name = graph.properties.name ∧ new ∉ graph.nodes ∧ ∃ value, graph.nodes.lookup old = some value ∧
      next = graph.afterRename old new value := by
  by_cases same : name = graph.properties.name
  · by_cases taken : new ∈ graph.nodes
    · simp [renameNode, addressed, same, bind, Except.bind, taken] at done
    · cases found : graph.nodes.lookup old with
      | none => simp [renameNode, addressed, same, bind, Except.bind, taken, found] at done
      | some value =>
          rw [renameNode_of same taken found] at done
          exact ⟨same, taken, value, rfl, (Except.ok.inj done).symm⟩
  · simp [renameNode, addressed, same, bind, Except.bind] at done

/-! Removing a node. -/

theorem filter_eq_self_iff {V : Type} {map : HashMap String V} {keeps : V → Bool} :
    (∀ name, map.lookup name = (map.lookup name).filter keeps) ↔
      ∀ name value, map.lookup name = some value → keeps value = true := by
  constructor
  · intro same name value found
    have kept := same name
    rw [found] at kept
    by_cases keep : keeps value = true
    · exact keep
    · simp [Option.filter, keep] at kept
  · intro kept name
    cases found : map.lookup name with
    | none => rfl
    | some value => simp [Option.filter, kept name value found]

theorem groups_eq_iff {groups : List GraphGroup} :
    (groups = groups.map fun group => { group with nodes := group.nodes.filter (· ≠ node) }) ↔
      ∀ group ∈ groups, node ∉ group.nodes := by
  induction groups with
  | nil => simp
  | cons group rest ih =>
      rw [List.map_cons, List.cons.injEq, ih, List.forall_mem_cons]
      refine and_congr_left fun _ => ?_
      cases group with
      | mk groupName nodes metadata =>
          simp only [GraphGroup.mk.injEq, true_and, and_true]
          rw [eq_comm, List.filter_eq_self]
          constructor
          · intro kept member
            simpa using kept node member
          · intro absent other member
            simpa using fun same : other = node => absent (same ▸ member)

/-- No initial packet for another node carries the name as its source. -/
def InitialsApart (graph : Graph) (node : String) : Prop :=
  ∀ edge ∈ graph.edges, edge.data.isSome = true → edge.source.process = node → edge.target.process = node

theorem edges_eq_iff : (graph.edges.filter (fun edge => !edge.touches node) =
      graph.edges.filter fun edge => !edge.incident node) ↔ graph.InitialsApart node := by
  constructor
  · intro same edge member data source
    by_contra target
    have kept : edge ∈ graph.edges.filter fun edge => !edge.incident node := by
      simp only [List.mem_filter, GraphEdge.incident, Bool.not_eq_true', Bool.or_eq_false_iff,
        Bool.and_eq_false_iff, beq_eq_false_iff_ne]
      refine ⟨member, target, .inl ?_⟩
      simpa using data
    rw [← same] at kept
    simp [GraphEdge.touches, source] at kept
  · intro apart
    apply List.filter_congr
    intro edge member
    have initial := apart edge member
    cases data : edge.data with
    | none => simp [GraphEdge.touches, GraphEdge.incident, data, Bool.or_comm]
    | some value =>
        by_cases source : edge.source.process = node
        · have target := initial (by simp [data]) source
          simp [GraphEdge.touches, GraphEdge.incident, source, target]
        · simp [GraphEdge.touches, GraphEdge.incident, data, source]

/-- What the removal of a node leaves is whole if it is exact. -/
theorem RemovesExactly.whole (removes : graph.RemovesExactly node next) (whole : graph.Whole) : next.Whole := by
  have kept : ∀ other, other ∈ graph.nodes → other ≠ node → other ∈ next.nodes := by
    intro other present different
    rw [← AList.lookup_isSome, removes.nodes, if_neg different, AList.lookup_isSome]
    exact present
  have ports : ∀ {left right : HashMap String GraphPort},
      (∀ name, right.lookup name = (left.lookup name).filter (·.process ≠ node)) →
      (∀ name port, left.lookup name = some port → port.process ∈ graph.nodes) →
      ∀ name port, right.lookup name = some port → port.process ∈ next.nodes := by
    intro left right filtered home name port found
    rw [filtered, Option.filter_eq_some_iff] at found
    exact kept port.process (home name port found.1) (by simpa using found.2)
  refine ⟨?_, ?_, ports removes.inports whole.inports, ports removes.outports whole.outports, ?_⟩
  · intro edge member plain
    rw [removes.edges, List.mem_filter] at member
    have apart : edge.source.process ≠ node := by
      have away := member.2
      simp only [GraphEdge.incident, plain, Option.isNone_none, Bool.true_and, Bool.not_eq_true',
        Bool.or_eq_false_iff, beq_eq_false_iff_ne] at away
      exact away.2
    exact kept _ (whole.sources edge member.1 plain) apart
  · intro edge member
    rw [removes.edges, List.mem_filter] at member
    have apart : edge.target.process ≠ node := by
      have away := member.2
      simp only [GraphEdge.incident, Bool.not_eq_true', Bool.or_eq_false_iff, beq_eq_false_iff_ne] at away
      exact away.1
    exact kept _ (whole.targets edge member.1) apart
  · intro group member other inside
    rw [removes.groups, List.mem_map] at member
    obtain ⟨before, home, rfl⟩ := member
    obtain ⟨inside, different⟩ := List.mem_filter.mp inside
    exact kept other (whole.groups before home other inside) (by simpa using different)

/-- Removing a node is exact iff nothing refers to it but the edges at it. -/
theorem removesExactly_iff {removed : List GraphEdge} (done : graph.removeNode name node = .ok (next, removed)) :
    graph.RemovesExactly node next ↔ graph.Unexported node ∧ graph.InitialsApart node := by
  obtain ⟨_, rfl⟩ := removeNode_ok done
  constructor
  · intro removes
    have inports := filter_eq_self_iff.mp removes.inports
    have outports := filter_eq_self_iff.mp removes.outports
    exact ⟨⟨fun name port found => by simpa using inports name port found,
      fun name port found => by simpa using outports name port found,
      groups_eq_iff.mp removes.groups⟩, edges_eq_iff.mp removes.edges⟩
  · rintro ⟨unexported, apart⟩
    refine ⟨rfl, rfl, fun name => HashMap.lookup_erase_ite _ _ _, edges_eq_iff.mpr apart, ?_, ?_,
      groups_eq_iff.mpr unexported.groups⟩
    · exact filter_eq_self_iff.mpr fun name port found => by simpa using unexported.inports name port found
    · exact filter_eq_self_iff.mpr fun name port found => by simpa using unexported.outports name port found

/-! Renaming a node. -/

theorem mem_renamed {value : GraphNode} {other : String} :
    other ∈ AList.insert new value (AList.erase old graph.nodes) ↔
      other = new ∨ other ≠ old ∧ other ∈ graph.nodes := by
  rw [AList.mem_insert, AList.mem_erase]

/-- A renaming leaves the graph whole iff no exported port and no group refers to the node. -/
theorem whole_renamed (whole : graph.Whole) (done : graph.renameNode name old new = .ok next) :
    next.Whole ↔ graph.Unexported old := by
  obtain ⟨_, free, value, found, rfl⟩ := renameNode_ok done
  have present : old ∈ graph.nodes := AList.lookup_isSome.mp (by rw [found]; rfl)
  have different : old ≠ new := fun same => free (same ▸ present)
  constructor
  · intro renamed
    have gone : ∀ {other}, other ∈ AList.insert new value (AList.erase old graph.nodes) → other ≠ old := by
      intro other member
      rcases mem_renamed.mp member with rfl | ⟨apart, _⟩
      · exact different.symm
      · exact apart
    exact ⟨fun portName port known => gone (renamed.inports portName port known),
      fun portName port known => gone (renamed.outports portName port known),
      fun group member inside => gone (renamed.groups group member old inside) rfl⟩
  · intro unexported
    have endpoint : ∀ {spec : GraphNodeSpec}, spec.process ∈ graph.nodes →
        (spec.renamed old new).process ∈ AList.insert new value (AList.erase old graph.nodes) := by
      intro spec home
      unfold GraphNodeSpec.renamed
      split
      · exact mem_renamed.mpr (.inl rfl)
      · next apart => exact mem_renamed.mpr (.inr ⟨apart, home⟩)
    refine ⟨?_, ?_, ?_, ?_, ?_⟩
    · intro edge member plain
      obtain ⟨before, home, rfl⟩ := List.mem_map.mp member
      exact endpoint (whole.sources before home plain)
    · intro edge member
      obtain ⟨before, home, rfl⟩ := List.mem_map.mp member
      exact endpoint (whole.targets before home)
    · intro portName port known
      exact mem_renamed.mpr (.inr ⟨unexported.inports portName port known, whole.inports portName port known⟩)
    · intro portName port known
      exact mem_renamed.mpr (.inr ⟨unexported.outports portName port known, whole.outports portName port known⟩)
    · intro group member other inside
      refine mem_renamed.mpr (.inr ⟨?_, whole.groups group member other inside⟩)
      rintro rfl
      exact unexported.groups group member inside

/-- Renaming a node there and back puts every node in its place. -/
theorem nodes_back {nodes : HashMap String GraphNode} {value : GraphNode} (free : new ∉ nodes)
    (found : nodes.lookup old = some value) :
    HashMap.Alike Eq (AList.insert old value (AList.erase new (AList.insert new value (AList.erase old nodes))))
      nodes := by
  intro node
  have same : (AList.insert old value (AList.erase new (AList.insert new value (AList.erase old nodes)))).lookup node =
      nodes.lookup node := by
    simp only [HashMap.lookup_insert_ite, HashMap.lookup_erase_ite]
    by_cases first : node = old
    · subst first
      simp [found]
    · by_cases second : node = new
      · subst second
        simp [first, AList.lookup_eq_none.mpr free]
      · simp [first, second]
  rw [same]
  cases nodes.lookup node with
  | none => exact .none
  | some there => exact .some rfl

theorem renamedEdge_back (different : old ≠ new) (edge : GraphEdge) :
    renamedEdge new old (renamedEdge old new edge) = edge ↔
      edge.source.process ≠ new ∧ edge.target.process ≠ new := by
  cases edge with
  | mk source data target metadata =>
      simp only [renamedEdge, GraphEdge.mk.injEq, GraphNodeSpec.renamed_back, different, imp_false, true_and, and_true]

/-- Renaming back succeeds, and restores the graph iff no edge had the new name as its source. -/
theorem renamed_back (whole : graph.Whole) (done : graph.renameNode name old new = .ok next) :
    (∃ back, next.renameNode name new old = .ok back ∧ back.Alike Eq graph) ↔
      ∀ edge ∈ graph.edges, edge.source.process ≠ new := by
  obtain ⟨same, free, value, found, rfl⟩ := renameNode_ok done
  have present : old ∈ graph.nodes := AList.lookup_isSome.mp (by rw [found]; rfl)
  have different : old ≠ new := fun same => free (same ▸ present)
  have freed : old ∉ (graph.afterRename old new value).nodes := by
    intro there
    rcases mem_renamed.mp there with taken | ⟨apart, _⟩
    · exact different taken
    · exact apart rfl
  have back : (graph.afterRename old new value).renameNode name new old =
      .ok ((graph.afterRename old new value).afterRename new old value) :=
    renameNode_of same freed (AList.lookup_insert _)
  have edges : ((graph.afterRename old new value).afterRename new old value).edges = graph.edges ↔
      ∀ edge ∈ graph.edges, edge.source.process ≠ new := by
    have targets : ∀ edge ∈ graph.edges, edge.target.process ≠ new := by
      intro edge member taken
      exact free (taken ▸ whole.targets edge member)
    have twice : ((graph.afterRename old new value).afterRename new old value).edges =
        graph.edges.map (renamedEdge new old ∘ renamedEdge old new) := List.map_map
    rw [twice]
    nth_rewrite 2 [← List.map_id graph.edges]
    rw [List.map_inj_left]
    constructor
    · intro restored edge member
      exact ((renamedEdge_back different edge).mp (restored edge member)).1
    · intro apart edge member
      exact (renamedEdge_back different edge).mpr ⟨apart edge member, targets edge member⟩
  constructor
  · rintro ⟨again, done, alike⟩
    cases Except.ok.inj (back.symm.trans done)
    exact edges.mp alike.edges
  · intro apart
    exact ⟨_, back, rfl, rfl, .refl _ fun _ _ _ => rfl, .refl _ fun _ _ _ => rfl, rfl, nodes_back free found,
      edges.mpr apart⟩

/-- A removed or renamed node leaves no dangling reference iff no exported port and no group refers to it; the
removal is exact, and a renaming can be undone, iff no initial packet's source has the name. -/
theorem references_kept_iff (whole : graph.Whole) (name : String) :
    (∀ node next removed, graph.removeNode name node = .ok (next, removed) →
      (next.Whole ∧ graph.RemovesExactly node next ↔ graph.Unexported node ∧ graph.InitialsApart node)) ∧
    ∀ old new next, graph.renameNode name old new = .ok next →
      ((next.Whole ∧ ∃ back, next.renameNode name new old = .ok back ∧ back.Alike Eq graph) ↔
        graph.Unexported old ∧ ∀ edge ∈ graph.edges, edge.source.process ≠ new) := by
  constructor
  · intro node next removed done
    rw [← removesExactly_iff done]
    exact ⟨fun kept => kept.2, fun removes => ⟨removes.whole whole, removes⟩⟩
  · intro old new next done
    rw [whole_renamed whole done, renamed_back whole done]

/-- Two nodes with an edge from one to the other. -/
def joined : Graph :=
  { Graph.new "main" "" "" with
    nodes := AList.insert "a" ⟨"Copy", .default, ∅⟩ (AList.insert "b" ⟨"Drop", .default, ∅⟩ ∅)
    edges := [⟨⟨"a", "OUT", none⟩, none, ⟨"b", "IN", none⟩, ⟨none, none, none⟩⟩] }

theorem references_kept_iff_joined : ∃ next removed, joined.removeNode "main" "a" = .ok (next, removed) ∧
    next.Whole ∧ joined.RemovesExactly "a" next := by
  have whole : joined.Whole := by
    refine ⟨?_, ?_, ?_, ?_, ?_⟩ <;> simp [joined, Graph.new, -AList.insert_empty]
  have unexported : joined.Unexported "a" := by
    refine ⟨?_, ?_, ?_⟩ <;> simp [joined, Graph.new, -AList.insert_empty]
  have apart : joined.InitialsApart "a" := by
    simp [InitialsApart, joined]
  have done : joined.removeNode "main" "a" = .ok _ := removeNode_of rfl (by simp [joined, -AList.insert_empty])
  exact ⟨_, _, done, ((references_kept_iff whole "main").1 "a" _ _ done).mpr ⟨unexported, apart⟩⟩

/-- A node that is exported and in a group. -/
def exporting : Graph :=
  { Graph.new "main" "" "" with
    nodes := AList.insert "a" ⟨"Copy", .default, ∅⟩ ∅
    inports := AList.insert "in" ⟨"a", "IN", ⟨0, 0⟩⟩ ∅
    groups := [⟨"all", ["a"], ⟨""⟩⟩] }

theorem removed_node_dangles : exporting.Whole ∧
    (∃ next removed, exporting.removeNode "main" "a" = .ok (next, removed) ∧ ¬ next.Whole) ∧
    ∃ next, exporting.renameNode "main" "a" "b" = .ok next ∧ ¬ next.Whole := by
  have whole : exporting.Whole := by
    refine ⟨?_, ?_, ?_, ?_, ?_⟩ <;> simp [exporting, Graph.new, HashMap.lookup_insert_ite, -AList.insert_empty]
  have exported : ¬ exporting.Unexported "a" := by
    intro unexported
    exact unexported.groups _ (List.mem_singleton_self _) (List.mem_singleton_self _)
  have removed : exporting.removeNode "main" "a" = .ok _ := removeNode_of rfl (by simp [exporting, -AList.insert_empty])
  have renamed : exporting.renameNode "main" "a" "b" = .ok _ :=
    renameNode_of rfl (by simp [exporting, -AList.insert_empty]) (AList.lookup_insert _)
  refine ⟨whole, ⟨_, _, removed, ?_⟩, _, renamed, ?_⟩
  · intro dangling
    simpa [exporting, afterRemove] using dangling.groups _ (List.mem_singleton_self _) "a" (List.mem_singleton_self _)
  · intro kept
    exact exported ((whole_renamed whole renamed).mp kept)

end Graph

end Flowd.Stored
