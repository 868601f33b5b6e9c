import Flowd.Runtime.Bindings

namespace Flowd

/-! When every port of a node has exactly one channel. -/

/-- What a component takes: all channels of an array port, the last one of another port. -/
def ComponentInfo.reads (component : ComponentInfo) (inports : MultiMap String ProcessEdgeSource) :
    MultiMap String ProcessEdgeSource :=
  component.inPorts.flatMap fun port =>
    (if port.isArrayport then inports.values port.name else (inports.values port.name).getLast?.toList).map
      fun source => (port.name, source)

/-- One consumer is bound under the name of the in-port, and whatever is meant for the
port, up to ASCII case, gets into its channel. -/
structure InportWired (graph : Graph) (ports : ProcPorts) (process port : String)
    (source : ProcessEdgeSource) : Prop where
  bound : ports.inports.values port = [source]
  edges : ∀ index edge, graph.edges[index]? = some edge → edge.data = none → edge.target.isAt process port = true →
    source.origin = .edge index
  iips : source.ring.buffer = (graph.iipsAt process port).map .text
  exports : ∀ publicName target, graph.inports.lookup publicName = some target →
    target.spec.isAt process port = true → source.origin = .graphInport publicName

/-- One sink is bound under the name of the out-port, and whatever starts at the port,
up to ASCII case, is fed by it. -/
structure OutportWired (graph : Graph) (ports : ProcPorts) (process port : String) (sink : ProcessEdgeSink) :
    Prop where
  bound : ports.outports.values port = [sink]
  edges : ∀ index edge, graph.edges[index]? = some edge → edge.data = none → edge.source.isAt process port = true →
    sink.origin = .edge index
  exports : ∀ publicName source, graph.outports.lookup publicName = some source →
    source.spec.isAt process port = true → sink.origin = .graphOutport publicName

structure NodeWired (graph : Graph) (component : ComponentInfo) (ports : ProcPorts) (process : String) : Prop where
  inports : ∀ port ∈ component.inPorts, port.isArrayport = false →
    ∃ source, InportWired graph ports process port.name source
  /-- No channel is bound that the component never reads. -/
  read : ∀ entry ∈ ports.inports, entry ∈ component.reads ports.inports
  outports : ∀ port ∈ component.outPorts, port.isArrayport = false →
    ∃ sink, OutportWired graph ports process port.name sink

/-- For a node: declared names in upper case, at most one channel for a port that is no
array port, and no target that is not declared. -/
structure Unambiguous (graph : Graph) (component : ComponentInfo) (process : String) : Prop where
  inports : ∀ port ∈ component.inPorts, port.isArrayport = false → toAsciiUppercase port.name = port.name ∧
    (graph.edgesInto process port.name).length + (graph.looseIips process port.name).length +
      (graph.exportsInto process port.name).length ≤ 1
  edges : ∀ edge ∈ graph.edges, edge.target.process = process →
    ∃ port ∈ component.inPorts, port.name = toAsciiUppercase edge.target.port
  exports : ∀ entry ∈ graph.inports.entries, entry.2.process = process →
    ∃ port ∈ component.inPorts, port.name = toAsciiUppercase entry.2.port
  outports : ∀ port ∈ component.outPorts, port.isArrayport = false → toAsciiUppercase port.name = port.name ∧
    (graph.edgesFrom process port.name).length + (graph.exportsFrom process port.name).length ≤ 1

/-- Every node is wired. -/
def Wired (graph : Graph) (components : List ComponentInfo) (ports : AllPorts) : Prop :=
  ∀ process node component, graph.nodes.lookup process = some node →
    findComponent components node.component = some component →
    ∃ bound, ports.lookup process = some bound ∧ NodeWired graph component bound process

/-- Every node is unambiguous. -/
def Clear (graph : Graph) (components : List ComponentInfo) : Prop :=
  ∀ process node component, graph.nodes.lookup process = some node →
    findComponent components node.component = some component → Unambiguous graph component process

namespace Started

variable {graph : Graph} {component : ComponentInfo} {process name key : String} {bound : ProcPorts}

theorem in_upper (started : Started graph component process bound) (some : bound.inports.values key ≠ []) :
    toAsciiUppercase key = key := by
  by_contra mixed
  have views := started.ins key
  have exported : inportViews process key graph.inports.entries = [] :=
    List.flatMap_eq_nil_iff.mpr fun entry _ => only_of_not_upper mixed _ _ _
  rw [edgeViews_of_not_upper mixed, iipViews_of_not_upper mixed, exported] at views
  exact some (List.map_eq_nil_iff.mp views)

theorem out_upper (started : Started graph component process bound) (some : bound.outports.values key ≠ []) :
    toAsciiUppercase key = key := by
  by_contra mixed
  have sinks := started.outs key
  have exported : outportSinks process key graph.outports.entries = [] :=
    List.flatMap_eq_nil_iff.mpr fun entry _ => only_of_not_upper mixed _ _ _
  rw [edgeSinks_of_not_upper mixed, exported] at sinks
  exact some (List.map_eq_nil_iff.mp sinks)

/-- The channels of an in-port in upper case, counted in the graph. -/
theorem in_length (started : Started graph component process bound) (name : String) :
    (bound.inports.values (toAsciiUppercase name)).length =
      (graph.edgesInto process name).length + (graph.looseIips process name).length +
        (graph.exportsInto process name).length := by
  have loose : (iipViews process (toAsciiUppercase name) 0
      (leaveIips graph.edges (Graph.iipsPerTarget graph.edges ∅)).pairs).length =
        (graph.looseIips process name).length := by
    rw [← List.length_map Prod.snd, iipViews_texts, List.length_map, (leftIips_perm graph process name).length_eq,
      looseIips_length]
  rw [← List.length_map ProcessEdgeSource.view, started.ins, List.length_append, List.length_append,
    edgeViews_length, loose, inportViews_eq, List.length_map]
  rfl

theorem out_length (started : Started graph component process bound) (name : String) :
    (bound.outports.values (toAsciiUppercase name)).length =
      (graph.edgesFrom process name).length + (graph.exportsFrom process name).length := by
  rw [← List.length_map ProcessEdgeSink.origin, started.outs, List.length_append, edgeSinks_origins, List.length_map,
    zipIdx_filter_length graph.edges 0 fun edge => edge.data.isNone && edge.source.isAt process name, outportSinks_eq,
    List.length_map]
  rfl

/-- The IIPs for a port are in its only channel. -/
theorem iips_inside (started : Started graph component process bound) {source : ProcessEdgeSource}
    (one : bound.inports.values (toAsciiUppercase name) = [source]) :
    source.ring.buffer = (graph.iipsAt process name).map .text := by
  have total := started.in_length name
  rw [one, List.length_singleton] at total
  have views := congrArg (List.map Prod.snd) (started.ins (toAsciiUppercase name))
  rw [one, List.map_append, List.map_append, iipViews_texts, inportViews_eq, List.map_map] at views
  have perm := leftIips_perm graph process name
  cases single : graph.edgesInto process name with
  | nil =>
      have noEdge : edgeViews process (toAsciiUppercase name) 0 graph.edges (Graph.iipsPerTarget graph.edges ∅) = [] := by
        apply List.length_eq_zero_iff.mp
        rw [edgeViews_length]
        exact congrArg List.length single
      rw [noEdge, List.map_nil, List.nil_append] at views
      rw [iipsAt_of_no_edge single]
      rw [single, List.length_nil, Nat.zero_add] at total
      cases loose : graph.looseIips process name with
      | nil =>
          rw [loose, List.filterMap_nil] at perm
          rw [List.Perm.eq_nil perm, List.map_nil, List.nil_append] at views
          rw [loose, List.length_nil, Nat.zero_add] at total
          obtain ⟨entry, exported⟩ := List.length_eq_one_iff.mp total.symm
          unfold Graph.exportsInto at exported
          rw [exported] at views
          exact (List.cons.inj views).1
      | cons edge rest =>
          rw [loose, List.length_cons] at total
          have only : rest = [] := List.length_eq_zero_iff.mp (by omega)
          have noExport : graph.exportsInto process name = [] := List.length_eq_zero_iff.mp (by omega)
          subst only
          have initial : edge.data.isSome = true := by
            have member : edge ∈ graph.looseIips process name := by
              rw [loose]
              exact List.mem_cons_self
            have both := (List.mem_filter.mp member).2
            simp only [Bool.and_eq_true] at both
            exact both.1.1
          obtain ⟨iip, data⟩ := Option.isSome_iff_exists.mp initial
          have left : ([edge].filterMap fun edge => edge.data.map fun iip => (edge.target, iip)) = [(edge.target, iip)] := by
            simp [data]
          rw [loose, left] at perm
          unfold Graph.exportsInto at noExport
          rw [List.perm_singleton.mp perm, noExport] at views
          rw [List.filterMap_cons, data]
          exact (List.cons.inj views).1
  | cons edge rest =>
      rw [single, List.length_cons] at total
      have only : rest = [] := List.length_eq_zero_iff.mp (by omega)
      have noLoose : graph.looseIips process name = [] := List.length_eq_zero_iff.mp (by omega)
      have noExport : graph.exportsInto process name = [] := List.length_eq_zero_iff.mp (by omega)
      subst only
      rw [noLoose, List.filterMap_nil] at perm
      unfold Graph.exportsInto at noExport
      rw [List.Perm.eq_nil perm, noExport, edgeViews_single single, iipsPerTarget_lookup] at views
      rw [iipsAt_of_single single noLoose]
      exact (List.cons.inj views).1

/-- An in-port is wired exactly if its name is in upper case and there is one channel for it. -/
theorem inport_wired_iff (started : Started graph component process bound) :
    (∃ source, InportWired graph bound process name source) ↔ toAsciiUppercase name = name ∧
      (graph.edgesInto process name).length + (graph.looseIips process name).length +
        (graph.exportsInto process name).length = 1 := by
  have total := started.in_length name
  constructor
  · intro wired
    obtain ⟨source, wired⟩ := wired
    have upper : toAsciiUppercase name = name :=
      started.in_upper (by rw [wired.bound]; exact List.cons_ne_nil _ _)
    rw [upper, wired.bound] at total
    exact ⟨upper, total.symm⟩
  · intro condition
    obtain ⟨upper, one⟩ := condition
    rw [one] at total
    obtain ⟨source, single⟩ := List.length_eq_one_iff.mp total
    have origins := congrArg (List.map Prod.fst) (started.ins (toAsciiUppercase name))
    rw [single, List.map_append, List.map_append, edgeViews_origins, inportViews_eq] at origins
    have only : ∀ origin, origin ∈ [source.origin] → source.origin = origin :=
      fun origin member => (List.mem_singleton.mp member).symm
    refine ⟨source, ?_, ?_, started.iips_inside single, ?_⟩
    · rw [← upper]
      exact single
    · intro index edge known plain here
      apply only
      change _ ∈ List.map Prod.fst (List.map ProcessEdgeSource.view [source])
      rw [origins]
      apply List.mem_append_left
      apply List.mem_append_left
      refine List.mem_map.mpr ⟨(edge, index), List.mem_filter.mpr ⟨List.mk_mem_zipIdx_iff_getElem?.mpr known, ?_⟩, rfl⟩
      simp [plain, here]
    · intro publicName target known here
      apply only
      change _ ∈ List.map Prod.fst (List.map ProcessEdgeSource.view [source])
      rw [origins]
      apply List.mem_append_right
      refine List.mem_map.mpr ⟨(.graphInport publicName, []), List.mem_map.mpr ?_, rfl⟩
      exact ⟨⟨publicName, target⟩, List.mem_filter.mpr ⟨AList.mem_lookup_iff.mp known, here⟩, rfl⟩

theorem outport_wired_iff (started : Started graph component process bound) :
    (∃ sink, OutportWired graph bound process name sink) ↔ toAsciiUppercase name = name ∧
      (graph.edgesFrom process name).length + (graph.exportsFrom process name).length = 1 := by
  have total := started.out_length name
  constructor
  · intro wired
    obtain ⟨sink, wired⟩ := wired
    have upper : toAsciiUppercase name = name :=
      started.out_upper (by rw [wired.bound]; exact List.cons_ne_nil _ _)
    rw [upper, wired.bound] at total
    exact ⟨upper, total.symm⟩
  · intro condition
    obtain ⟨upper, one⟩ := condition
    rw [one] at total
    obtain ⟨sink, single⟩ := List.length_eq_one_iff.mp total
    have origins := started.outs (toAsciiUppercase name)
    rw [single, edgeSinks_origins, outportSinks_eq] at origins
    have only : ∀ origin, origin ∈ [sink.origin] → sink.origin = origin :=
      fun origin member => (List.mem_singleton.mp member).symm
    refine ⟨sink, ?_, ?_, ?_⟩
    · rw [← upper]
      exact single
    · intro index edge known plain here
      apply only
      change _ ∈ List.map ProcessEdgeSink.origin [sink]
      rw [origins]
      apply List.mem_append_left
      refine List.mem_map.mpr ⟨(edge, index), List.mem_filter.mpr ⟨List.mk_mem_zipIdx_iff_getElem?.mpr known, ?_⟩, rfl⟩
      simp [plain, here]
    · intro publicName source known here
      apply only
      change _ ∈ List.map ProcessEdgeSink.origin [sink]
      rw [origins]
      apply List.mem_append_right
      exact List.mem_map.mpr ⟨⟨publicName, source⟩, List.mem_filter.mpr ⟨AList.mem_lookup_iff.mp known, here⟩, rfl⟩

/-- A connected port in upper case has something bound under its name, or is exported. -/
theorem connected_cases {V : Type} {values : MultiMap String V} {exports : HashMap String GraphPort}
    (mixed : ∀ key, values.values key ≠ [] → toAsciiUppercase key = key) (upper : toAsciiUppercase name = name)
    (connected : isConnected values exports process name = true) :
    values.values name ≠ [] ∨ (exports.entries.filter fun entry => entry.2.spec.isAt process name) ≠ [] := by
  unfold isConnected at connected
  rw [Bool.or_eq_true, Bool.or_eq_true] at connected
  rcases connected with (here | lower) | exported
  · exact .inl (MultiMap.containsKey_iff.mp here)
  · have some := MultiMap.containsKey_iff.mp lower
    have same : toAsciiLowercase name = name := by
      rw [← mixed _ some, toAsciiUppercase_lower, upper]
    rw [same] at some
    exact .inl some
  · obtain ⟨entry, member, there⟩ := List.any_eq_true.mp exported
    rw [Bool.and_eq_true, beq_iff_eq] at there
    apply Or.inr
    apply List.ne_nil_of_mem 
    apply List.mem_filter.mpr
    refine ⟨member, ?_⟩
    simp [GraphPort.spec, GraphNodeSpec.isAt, there.1, upper_of_eqIgnoreAsciiCase there.2]

theorem in_connected (started : Started graph component process bound) {port : ComponentPort}
    (member : port ∈ component.inPorts) (upper : toAsciiUppercase port.name = port.name) :
    1 ≤ (graph.edgesInto process port.name).length + (graph.looseIips process port.name).length +
      (graph.exportsInto process port.name).length := by
  rcases connected_cases (fun _ => started.in_upper) upper (started.connectedIn port member) with some | exported
  · have total := started.in_length port.name
    rw [upper] at total
    have positive := List.length_pos_iff.mpr some
    omega
  · have positive : 0 < (graph.exportsInto process port.name).length := List.length_pos_iff.mpr exported
    omega

theorem out_connected (started : Started graph component process bound) {port : ComponentPort}
    (member : port ∈ component.outPorts) (upper : toAsciiUppercase port.name = port.name) :
    1 ≤ (graph.edgesFrom process port.name).length + (graph.exportsFrom process port.name).length := by
  rcases connected_cases (fun _ => started.out_upper) upper (started.connectedOut port member) with some | exported
  · have total := started.out_length port.name
    rw [upper] at total
    have positive := List.length_pos_iff.mpr some
    omega
  · have positive : 0 < (graph.exportsFrom process port.name).length := List.length_pos_iff.mpr exported
    omega

/-- If the ports that are no array ports are wired, the component reads a channel
exactly if it declares the port. -/
theorem mem_reads_iff (wired : ∀ port ∈ component.inPorts, port.isArrayport = false →
    ∃ source, InportWired graph bound process port.name source) {entry : String × ProcessEdgeSource}
    (member : entry ∈ bound.inports) :
    entry ∈ component.reads bound.inports ↔ ∃ port ∈ component.inPorts, port.name = entry.1 := by
  obtain ⟨key, source⟩ := entry
  have there : source ∈ bound.inports.values key := MultiMap.mem_values.mpr member
  unfold ComponentInfo.reads
  rw [List.mem_flatMap]
  constructor
  · intro found
    obtain ⟨port, declared, inside⟩ := found
    obtain ⟨_, _, same⟩ := List.mem_map.mp inside
    exact ⟨port, declared, congrArg Prod.fst same⟩
  · intro declared
    obtain ⟨port, declared, same⟩ := declared
    dsimp only at same
    subst same
    refine ⟨port, declared, List.mem_map.mpr ⟨source, ?_, rfl⟩⟩
    cases array : port.isArrayport with
    | true => exact there
    | false =>
        obtain ⟨only, wired⟩ := wired port declared array
        rw [wired.bound] at there ⊢
        rw [List.mem_singleton.mp there]
        exact List.mem_singleton.mpr rfl

/-- An edge or IIP for a port has a channel there. -/
theorem edge_counts {edge : GraphEdge} (member : edge ∈ graph.edges) (here : edge.target.isAt process name = true) :
    1 ≤ (graph.edgesInto process name).length + (graph.looseIips process name).length := by
  have inside : ∀ other ∈ graph.edges, other.data.isNone = true → other.target = edge.target →
      1 ≤ (graph.edgesInto process name).length := by
    intro other known plain same
    apply List.length_pos_iff.mpr
    apply List.ne_nil_of_mem 
    apply List.mem_filter.mpr
    rw [plain, same, here]
    exact ⟨known, rfl⟩
  cases data : edge.data with
  | none =>
      have one := inside edge member (by rw [data]; rfl) rfl
      omega
  | some iip =>
      cases taken : graph.edges.any fun other => other.data.isNone && other.target == edge.target with
      | true =>
          obtain ⟨other, known, plain⟩ := List.any_eq_true.mp taken
          simp only [Bool.and_eq_true, beq_iff_eq] at plain
          have one := inside other known plain.1 plain.2
          omega
      | false =>
          have one : 0 < (graph.looseIips process name).length := by
            apply List.length_pos_iff.mpr
            apply List.ne_nil_of_mem 
            apply List.mem_filter.mpr
            rw [data, here, taken]
            exact ⟨member, rfl⟩
          omega

theorem isAt_self (spec : GraphNodeSpec) : spec.isAt spec.process spec.port = true := by
  simp [GraphNodeSpec.isAt]

theorem isAt_iff {spec : GraphNodeSpec} : spec.isAt process name = true ↔
    spec.process = process ∧ toAsciiUppercase spec.port = toAsciiUppercase name := by
  simp [GraphNodeSpec.isAt]

/-- A channel under the upper-case spelling of a name is read only if the name is declared. -/
theorem declared_of_read (started : Started graph component process bound)
    (wired : NodeWired graph component bound process)
    (some : 1 ≤ (graph.edgesInto process name).length + (graph.looseIips process name).length +
      (graph.exportsInto process name).length) : ∃ port ∈ component.inPorts, port.name = toAsciiUppercase name := by
  rw [← started.in_length name] at some
  obtain ⟨source, member⟩ := List.exists_mem_of_length_pos some
  have bound := MultiMap.mem_values.mp member
  exact (mem_reads_iff wired.inports bound).mp (wired.read _ bound)

/-- What is bound under a key is declared, if the graph targets only declared ports. -/
theorem bound_declared (started : Started graph component process bound)
    (unambiguous : Unambiguous graph component process) {entry : String × ProcessEdgeSource}
    (member : entry ∈ bound.inports) : ∃ port ∈ component.inPorts, port.name = entry.1 := by
  obtain ⟨key, source⟩ := entry
  have there : source ∈ bound.inports.values key := MultiMap.mem_values.mpr member
  have upper := started.in_upper (List.ne_nil_of_mem there)
  have total := started.in_length key
  rw [upper] at total
  have positive := List.length_pos_of_mem there
  have edge : ∀ edge ∈ graph.edges, edge.target.isAt process key = true → ∃ port ∈ component.inPorts, port.name = key := by
    intro edge known here
    obtain ⟨owner, same⟩ := isAt_iff.mp here
    obtain ⟨port, declared, name⟩ := unambiguous.edges edge known owner
    exact ⟨port, declared, by rw [name, same, upper]⟩
  rcases Nat.eq_zero_or_pos (graph.edgesInto process key).length with noEdge | some
  · rcases Nat.eq_zero_or_pos (graph.looseIips process key).length with noIip | some
    · have some : 0 < (graph.exportsInto process key).length := by omega
      obtain ⟨exported, member⟩ := List.exists_mem_of_length_pos some
      obtain ⟨known, here⟩ := List.mem_filter.mp member
      obtain ⟨owner, same⟩ := isAt_iff.mp here
      obtain ⟨port, declared, name⟩ := unambiguous.exports exported known owner
      exact ⟨port, declared, name.trans (same.trans upper)⟩
    · obtain ⟨loose, member⟩ := List.exists_mem_of_length_pos some
      obtain ⟨known, here⟩ := List.mem_filter.mp member
      simp only [Bool.and_eq_true] at here
      exact edge loose known here.1.2
  · obtain ⟨plain, member⟩ := List.exists_mem_of_length_pos some
    obtain ⟨known, here⟩ := List.mem_filter.mp member
    simp only [Bool.and_eq_true] at here
    exact edge plain known here.2

theorem node_wired_iff (started : Started graph component process bound) :
    NodeWired graph component bound process ↔ Unambiguous graph component process := by
  constructor
  · intro wired
    refine ⟨?_, ?_, ?_, ?_⟩
    · intro port declared array
      obtain ⟨upper, one⟩ := started.inport_wired_iff.mp (wired.inports port declared array)
      exact ⟨upper, Nat.le_of_eq one⟩
    · intro edge member owner
      subst owner
      have some := edge_counts member (isAt_self edge.target)
      exact started.declared_of_read wired (by omega)
    · intro entry member owner
      subst owner
      have some : 0 < (graph.exportsInto entry.2.process entry.2.port).length :=
        List.length_pos_of_mem (List.mem_filter.mpr ⟨member, isAt_self entry.2.spec⟩)
      exact started.declared_of_read wired (by omega)
    · intro port declared array
      obtain ⟨upper, one⟩ := started.outport_wired_iff.mp (wired.outports port declared array)
      exact ⟨upper, Nat.le_of_eq one⟩
  · intro unambiguous
    have inports : ∀ port ∈ component.inPorts, port.isArrayport = false →
        ∃ source, InportWired graph bound process port.name source := by
      intro port declared array
      obtain ⟨upper, atMost⟩ := unambiguous.inports port declared array
      have atLeast := started.in_connected declared upper
      exact started.inport_wired_iff.mpr ⟨upper, by omega⟩
    refine ⟨inports, ?_, ?_⟩
    · intro entry member
      exact (mem_reads_iff inports member).mpr (started.bound_declared unambiguous member)
    · intro port declared array
      obtain ⟨upper, atMost⟩ := unambiguous.outports port declared array
      have atLeast := started.out_connected declared upper
      exact started.outport_wired_iff.mpr ⟨upper, by omega⟩

end Started

/-- A started network is wired exactly if the graph is clear. -/
theorem start_wires_iff {graph : Graph} {components : List ComponentInfo}
    {instantiate : String → ProcPorts → Except StartFailure Unit} {ports : AllPorts}
    (started : graph.start components instantiate = .ok ports) :
    Wired graph components ports ↔ Clear graph components := by
  constructor
  · intro wired process node component known found
    obtain ⟨bound, looked, facts⟩ := graph.start_node started known found
    obtain ⟨other, lookedOther, nodeWired⟩ := wired process node component known found
    cases looked.symm.trans lookedOther
    exact facts.node_wired_iff.mp nodeWired
  · intro clear process node component known found
    obtain ⟨bound, looked, facts⟩ := graph.start_node started known found
    exact ⟨bound, looked, facts.node_wired_iff.mpr (clear process node component known found)⟩

/-- Two nodes in a row; the IIP for the second one may be spelled in either case. -/
def iipGraph (port : String) : Graph where
  name := "main"
  inports := AList.insert "IN" ⟨"first", "IN"⟩ ∅
  outports := AList.insert "OUT" ⟨"second", "OUT"⟩ ∅
  nodes := AList.insert "first" ⟨"Repeat"⟩ (AList.insert "second" ⟨"Repeat"⟩ ∅)
  edges := [⟨⟨"first", "OUT"⟩, none, ⟨"second", "IN"⟩⟩, ⟨⟨"", ""⟩, some "hello", ⟨"second", port⟩⟩]

def repeatLibrary : List ComponentInfo := [⟨"Repeat", [⟨"IN", false⟩], [⟨"OUT", false⟩]⟩]

def instantiateAny (_ : String) (_ : ProcPorts) : Except StartFailure Unit := .ok ()

def iipPorts (port : String) : AllPorts :=
  ((iipGraph port).start repeatLibrary instantiateAny).toOption.getD ∅

theorem start_wires_same_spelling : Wired (iipGraph "IN") repeatLibrary (iipPorts "IN") ↔
    Clear (iipGraph "IN") repeatLibrary := by
  have started : (iipGraph "IN").start repeatLibrary instantiateAny = .ok (iipPorts "IN") := rfl
  exact start_wires_iff started

/-- An IIP that spells the port in lower case gets a second channel for it. -/
theorem start_binds_twice : ¬ ∀ (graph : Graph) (components : List ComponentInfo)
    (instantiate : String → ProcPorts → Except StartFailure Unit) (ports : AllPorts),
    graph.start components instantiate = .ok ports → Wired graph components ports := by
  intro claim
  have started : (iipGraph "in").start repeatLibrary instantiateAny = .ok (iipPorts "in") := rfl
  obtain ⟨bound, looked, wired⟩ := claim _ _ _ _ started "second" ⟨"Repeat"⟩ _ rfl rfl
  obtain ⟨source, inport⟩ := wired.inports ⟨"IN", false⟩ List.mem_cons_self rfl
  have two : ((iipPorts "in").lookup "second").map (fun bound => (bound.inports.values "IN").length) = some 2 := by
    decide
  rw [looked, Option.map_some, inport.bound] at two
  cases two

end Flowd
