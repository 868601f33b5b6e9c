import Mathlib
import Flowd.Runtime.Start

namespace Flowd

/-! Which channels `Runtime::start` binds to the ports of a node, read off the graph. -/

@[simp] theorem toAsciiUppercase_upper (text : String) :
    toAsciiUppercase (toAsciiUppercase text) = toAsciiUppercase text := by
  simp [toAsciiUppercase, Function.comp_def]

@[simp] theorem toAsciiUppercase_lower (text : String) :
    toAsciiUppercase (toAsciiLowercase text) = toAsciiUppercase text := by
  simp [toAsciiUppercase, toAsciiLowercase, Function.comp_def]

theorem upper_of_eqIgnoreAsciiCase {left right : String} (same : eqIgnoreAsciiCase left right = true) :
    toAsciiUppercase left = toAsciiUppercase right := by
  have lower : toAsciiLowercase left = toAsciiLowercase right := by simpa [eqIgnoreAsciiCase] using same
  rw [← toAsciiUppercase_lower left, lower, toAsciiUppercase_lower]

/-- The endpoint is the port of the process, up to ASCII case. -/
def GraphNodeSpec.isAt (spec : GraphNodeSpec) (process port : String) : Bool :=
  spec.process == process && toAsciiUppercase spec.port == toAsciiUppercase port

def GraphPort.spec (port : GraphPort) : GraphNodeSpec := ⟨port.process, port.port⟩

namespace Graph

variable (graph : Graph) (process port : String)

/-- The initial packets for a port, in the order of the graph. -/
def iipsAt : List String :=
  graph.edges.filterMap fun edge => if edge.target.isAt process port then edge.data else none

/-- The edges into a port that are no IIPs. -/
def edgesInto : List GraphEdge := graph.edges.filter fun edge => edge.data.isNone && edge.target.isAt process port

/-- The IIPs for a port whose target no edge has in the same spelling. -/
def looseIips : List GraphEdge :=
  graph.edges.filter fun edge => edge.data.isSome && edge.target.isAt process port &&
    !graph.edges.any fun other => other.data.isNone && other.target == edge.target

def exportsInto : List (Sigma fun _ : String => GraphPort) :=
  graph.inports.entries.filter fun entry => entry.2.spec.isAt process port

def edgesFrom : List GraphEdge := graph.edges.filter fun edge => edge.data.isNone && edge.source.isAt process port

def exportsFrom : List (Sigma fun _ : String => GraphPort) :=
  graph.outports.entries.filter fun entry => entry.2.spec.isAt process port

end Graph

/-! What the loops add to the bindings of a process. -/

/-- What matters about a channel: what it is for and what it holds. -/
def ProcessEdgeSource.view (source : ProcessEdgeSource) : Origin × List FbpMessage :=
  (source.origin, source.ring.buffer)

/-- By process and key, `ins` and `outs` are bound in addition. -/
def Grows (ports : AllPorts) (ins : String → String → List (Origin × List FbpMessage))
    (outs : String → String → List Origin) (next : AllPorts) : Prop :=
  ∀ process bound, ports.lookup process = some bound → ∃ later, next.lookup process = some later ∧ ∀ key,
    (later.inports.values key).map ProcessEdgeSource.view =
      (bound.inports.values key).map ProcessEdgeSource.view ++ ins process key ∧
    (later.outports.values key).map ProcessEdgeSink.origin =
      (bound.outports.values key).map ProcessEdgeSink.origin ++ outs process key

/-- One value, under one key of one process. -/
def only {α : Type} (process key : String) (value : α) (name other : String) : List α :=
  if name = process ∧ key = other then [value] else []

namespace Grows

variable {ports next last : AllPorts} {process key text : String}
variable {ins moreIns : String → String → List (Origin × List FbpMessage)} {outs moreOuts : String → String → List Origin}

theorem refl (ports : AllPorts) : Grows ports (fun _ _ => []) (fun _ _ => []) ports := by
  intro process bound found
  exact ⟨bound, found, fun key => ⟨(List.append_nil _).symm, (List.append_nil _).symm⟩⟩

theorem trans (first : Grows ports ins outs next) (second : Grows next moreIns moreOuts last) :
    Grows ports (fun process key => ins process key ++ moreIns process key)
      (fun process key => outs process key ++ moreOuts process key) last := by
  intro process bound found
  obtain ⟨middle, foundMiddle, grown⟩ := first process bound found
  obtain ⟨later, foundLater, grownLater⟩ := second process middle foundMiddle
  refine ⟨later, foundLater, fun key => ?_⟩
  rw [(grownLater key).1, (grownLater key).2, (grown key).1, (grown key).2, List.append_assoc, List.append_assoc]
  exact ⟨rfl, rfl⟩

theorem congr (grows : Grows ports ins outs next) (sameIns : ∀ process key, moreIns process key = ins process key)
    (sameOuts : ∀ process key, moreOuts process key = outs process key) : Grows ports moreIns moreOuts next := by
  intro process bound found
  obtain ⟨later, foundLater, grown⟩ := grows process bound found
  refine ⟨later, foundLater, fun key => ?_⟩
  rw [sameIns, sameOuts]
  exact grown key

theorem adjust {change : ProcPorts → ProcPorts}
    (here : ∀ bound key, ((change bound).inports.values key).map ProcessEdgeSource.view =
        (bound.inports.values key).map ProcessEdgeSource.view ++ ins process key ∧
      ((change bound).outports.values key).map ProcessEdgeSink.origin =
        (bound.outports.values key).map ProcessEdgeSink.origin ++ outs process key)
    (elsewhere : ∀ name key, name ≠ process → ins name key = [] ∧ outs name key = []) :
    Grows ports ins outs (ports.adjust process change) := by
  intro name bound found
  by_cases same : name = process
  · subst same
    exact ⟨change bound, by rw [HashMap.lookup_adjust, if_pos rfl, found]; rfl, here bound⟩
  · refine ⟨bound, by rw [HashMap.lookup_adjust, if_neg same, found], fun key => ?_⟩
    rw [(elsewhere name key same).1, (elsewhere name key same).2, List.append_nil, List.append_nil]
    exact ⟨rfl, rfl⟩

theorem values_insert {V W : Type} (map : MultiMap String V) (key other : String) (value : V) (view : V → W) :
    ((map.insert key value).values other).map view =
      (map.values other).map view ++ only process key (view value) process other := by
  unfold MultiMap.insert only
  rw [MultiMap.values_append, List.map_append]
  by_cases same : key = other
  · simp [MultiMap.values, same]
  · simp [MultiMap.values, same]

theorem bindIn (ports : AllPorts) (process key : String) (source : ProcessEdgeSource) :
    Grows ports (only process key source.view) (fun _ _ => [])
      (ports.adjust process fun target => target.bindIn key source) := by
  apply adjust
  · intro bound other
    exact ⟨values_insert _ _ _ _ _, (List.append_nil _).symm⟩
  · intro name other different
    exact ⟨if_neg fun both => different both.1, rfl⟩

theorem bindOut (ports : AllPorts) (process key : String) (sink : ProcessEdgeSink) :
    Grows ports (fun _ _ => []) (only process key sink.origin)
      (ports.adjust process fun source => source.bindOut key sink) := by
  apply adjust
  · intro bound other
    exact ⟨(List.append_nil _).symm, values_insert _ _ _ _ _⟩
  · intro name other different
    exact ⟨rfl, if_neg fun both => different both.1⟩

end Grows

theorem Except.bind_ok {ε α β : Type} {first : Except ε α} {next : α → Except ε β} {result : β}
    (done : (first >>= next) = .ok result) : ∃ middle, first = .ok middle ∧ next middle = .ok result := by
  cases first with
  | error reason => cases done
  | ok middle => exact ⟨middle, rfl, done⟩

theorem AllPorts.change_ok {ports next : AllPorts} {process text : String} {change : ProcPorts → ProcPorts}
    (changed : ports.change process text change = .ok next) : next = ports.adjust process change := by
  unfold AllPorts.change at changed
  split at changed
  · exact (Except.ok.inj changed).symm
  · cases changed

theorem injectIips_ok {text : String} {iips : List String} {ring next : Ring FbpMessage}
    (injected : injectIips text ring iips = .ok next) : next.buffer = ring.buffer ++ iips.map .text := by
  induction iips generalizing ring with
  | nil =>
      cases injected
      exact (List.append_nil _).symm
  | cons iip rest ih =>
      unfold injectIips at injected
      split at injected
      · next after pushed =>
          rw [ih injected, (Ring.push_some pushed).2.1, List.append_assoc]
          rfl
      · cases injected

/-- The consumers that `connectEdges` binds. -/
def edgeViews (process key : String) : Nat → List GraphEdge → HashMap GraphNodeSpec (List String) →
    List (Origin × List FbpMessage)
  | _, [], _ => []
  | index, edge :: rest, iips =>
      if edge.data.isSome then edgeViews process key (index + 1) rest iips
      else only edge.target.process (toAsciiUppercase edge.target.port)
          (Origin.edge index, ((iips.lookup edge.target).getD []).map FbpMessage.text) process key ++
        edgeViews process key (index + 1) rest (AList.erase edge.target iips)

/-- The sinks that `connectEdges` binds. -/
def edgeSinks (process key : String) : Nat → List GraphEdge → List Origin
  | _, [] => []
  | index, edge :: rest =>
      if edge.data.isSome then edgeSinks process key (index + 1) rest
      else only edge.source.process (toAsciiUppercase edge.source.port) (Origin.edge index) process key ++
        edgeSinks process key (index + 1) rest

/-- The IIPs that `connectEdges` leaves. -/
def leaveIips : List GraphEdge → HashMap GraphNodeSpec (List String) → HashMap GraphNodeSpec (List String)
  | [], iips => iips
  | edge :: rest, iips =>
      if edge.data.isSome then leaveIips rest iips else leaveIips rest (AList.erase edge.target iips)

theorem connectEdges_grows {index : Nat} {edges : List GraphEdge} {ports next : AllPorts}
    {iips rest : HashMap GraphNodeSpec (List String)}
    (connected : connectEdges index edges ports iips = .ok (next, rest)) :
    Grows ports (fun process key => edgeViews process key index edges iips)
      (fun process key => edgeSinks process key index edges) next ∧ rest = leaveIips edges iips := by
  induction edges generalizing index ports iips with
  | nil =>
      cases connected
      exact ⟨.refl _, rfl⟩
  | cons edge later ih =>
      unfold connectEdges at connected
      unfold leaveIips
      split at connected
      · next initial =>
          rw [if_pos initial]
          obtain ⟨grows, left⟩ := ih connected
          exact ⟨grows.congr (fun _ _ => if_pos initial) fun _ _ => if_pos initial, left⟩
      · next plain =>
          rw [if_neg plain]
          obtain ⟨next, connects, connected⟩ := Except.bind_ok connected
          obtain ⟨⟨⟩, target, connects⟩ := Except.bind_ok connects
          obtain ⟨⟨⟩, source, connects⟩ := Except.bind_ok connects
          obtain ⟨ring, injected, connects⟩ := Except.bind_ok connects
          cases connects
          obtain ⟨grows, left⟩ := ih connected
          have view : ProcessEdgeSource.view ⟨.edge index, ring⟩ =
              (.edge index, ((iips.lookup edge.target).getD []).map FbpMessage.text) := by
            unfold ProcessEdgeSource.view
            rw [injectIips_ok injected]
            rfl
          refine ⟨(((Grows.bindIn _ _ _ _).trans (.bindOut _ _ _ _)).trans grows).congr ?_ ?_, left⟩
          · intro process key
            rw [view, List.append_nil]
            exact if_neg plain
          · intro process key
            rw [List.nil_append]
            exact if_neg plain

def iipViews (process key : String) : Nat → MultiMap GraphNodeSpec String → List (Origin × List FbpMessage)
  | _, [] => []
  | index, (target, iip) :: rest =>
      only target.process (toAsciiUppercase target.port) (Origin.iip index, [FbpMessage.text iip]) process key ++
        iipViews process key (index + 1) rest

theorem connectIips_grows {index : Nat} {iips : MultiMap GraphNodeSpec String} {ports next : AllPorts}
    (connected : connectIips index iips ports = .ok next) :
    Grows ports (fun process key => iipViews process key index iips) (fun _ _ => []) next := by
  induction iips generalizing index ports with
  | nil =>
      cases connected
      exact .refl _
  | cons iip later ih =>
      obtain ⟨target, text⟩ := iip
      unfold connectIips at connected
      obtain ⟨ring, injected, connected⟩ := Except.bind_ok connected
      obtain ⟨bound, changed, connected⟩ := Except.bind_ok connected
      have view : ProcessEdgeSource.view ⟨.iip index, ring⟩ = (.iip index, [FbpMessage.text text]) := by
        unfold ProcessEdgeSource.view
        rw [injectIips_ok injected]
        rfl
      cases AllPorts.change_ok changed
      apply ((Grows.bindIn _ _ _ _).trans (ih connected)).congr
      · intro process key
        rw [view]
        rfl
      · intro process key
        rfl

def inportViews (process key : String) (exports : List (Sigma fun _ : String => GraphPort)) :
    List (Origin × List FbpMessage) :=
  exports.flatMap fun entry =>
    only entry.2.process (toAsciiUppercase entry.2.port) (Origin.graphInport entry.1, []) process key

def inportSinks (inName process key : String) (exports : List (Sigma fun _ : String => GraphPort)) : List Origin :=
  exports.flatMap fun entry => only inName entry.1 (Origin.graphInport entry.1) process key

theorem connectInports_grows {inName : String} {exports : List (Sigma fun _ : String => GraphPort)}
    {ports next : AllPorts} (connected : connectInports inName exports ports = .ok next) :
    Grows ports (fun process key => inportViews process key exports)
      (fun process key => inportSinks inName process key exports) next := by
  induction exports generalizing ports with
  | nil =>
      cases connected
      exact .refl _
  | cons entry later ih =>
      obtain ⟨publicName, edge⟩ := entry
      unfold connectInports at connected
      obtain ⟨bound, changedIn, connected⟩ := Except.bind_ok connected
      obtain ⟨fed, changedOut, connected⟩ := Except.bind_ok connected
      cases AllPorts.change_ok changedIn
      cases AllPorts.change_ok changedOut
      apply (((Grows.bindIn _ _ _ _).trans (.bindOut _ _ _ _)).trans (ih connected)).congr
      · intro process key
        rw [List.append_nil]
        rfl
      · intro process key
        rfl

def outportViews (outName process key : String) (exports : List (Sigma fun _ : String => GraphPort)) :
    List (Origin × List FbpMessage) :=
  exports.flatMap fun entry => only outName entry.1 (Origin.graphOutport entry.1, []) process key

def outportSinks (process key : String) (exports : List (Sigma fun _ : String => GraphPort)) : List Origin :=
  exports.flatMap fun entry =>
    only entry.2.process (toAsciiUppercase entry.2.port) (Origin.graphOutport entry.1) process key

theorem connectOutports_grows {outName : String} {exports : List (Sigma fun _ : String => GraphPort)}
    {ports next : AllPorts} (connected : connectOutports outName exports ports = .ok next) :
    Grows ports (fun process key => outportViews outName process key exports)
      (fun process key => outportSinks process key exports) next := by
  induction exports generalizing ports with
  | nil =>
      cases connected
      exact .refl _
  | cons entry later ih =>
      obtain ⟨publicName, edge⟩ := entry
      unfold connectOutports at connected
      obtain ⟨bound, changedIn, connected⟩ := Except.bind_ok connected
      obtain ⟨fed, changedOut, connected⟩ := Except.bind_ok connected
      cases AllPorts.change_ok changedIn
      cases AllPorts.change_ok changedOut
      apply (((Grows.bindIn _ _ _ _).trans (.bindOut _ _ _ _)).trans (ih connected)).congr
      · intro process key
        rw [List.append_nil]
        rfl
      · intro process key
        rfl

theorem lookup_insertDefault {process : String} {nodes : List (Sigma fun _ : String => GraphNode)} {ports : AllPorts}
    (known : ports.lookup process = some .default ∨ process ∈ nodes.keys) :
    (nodes.foldl (fun ports node => AList.insert node.1 .default ports) ports).lookup process = some .default := by
  induction nodes generalizing ports with
  | nil =>
      rcases known with found | member
      · exact found
      · exact absurd member List.not_mem_nil
  | cons node rest ih =>
      apply ih
      rw [HashMap.lookup_insert_ite]
      by_cases here : process = node.1
      · exact .inl (if_pos here)
      · rw [if_neg here]
        rcases known with found | member
        · exact .inl found
        · rcases List.mem_cons.mp member with same | later
          · exact absurd same here
          · exact .inr later

theorem Graph.prepare_ok {exports : HashMap String GraphPort} {ports next : AllPorts} {name text process : String}
    (prepared : Graph.prepare exports ports name text = .ok next) (found : ports.lookup process = some .default) :
    next.lookup process = some .default ∧ (exports.entries = [] ∨ process ≠ name) := by
  unfold Graph.prepare at prepared
  split at prepared
  · next none =>
      cases prepared
      exact ⟨found, .inl (List.isEmpty_iff.mp none)⟩
  · split at prepared
    · cases prepared
    · next absent =>
        cases prepared
        have different : process ≠ name := by
          intro same
          subst same
          exact absent (AList.lookup_isSome.mp (by rw [found]; rfl))
        exact ⟨by rw [HashMap.lookup_insert_ite, if_neg different, found], .inr different⟩

/-- A node has empty ports to begin with, and no boundary handler has its name. -/
theorem Graph.preparePorts_ok {graph : Graph} {ports : AllPorts} {process : String} {node : GraphNode}
    (prepared : graph.preparePorts = .ok ports) (known : graph.nodes.lookup process = some node) :
    ports.lookup process = some .default ∧ (graph.inports.entries = [] ∨ process ≠ graph.inName) ∧
      (graph.outports.entries = [] ∨ process ≠ graph.outName) := by
  have member : process ∈ graph.nodes.entries.keys :=
    AList.lookup_isSome.mp (by rw [known]; rfl)
  have found : (graph.nodes.entries.foldl (fun ports node => AList.insert node.1 ProcPorts.default ports)
      (∅ : AllPorts)).lookup process = some .default := lookup_insertDefault (.inr member)
  unfold Graph.preparePorts at prepared
  obtain ⟨middle, first, second⟩ := Except.bind_ok prepared
  obtain ⟨afterInports, noInports⟩ := Graph.prepare_ok first found
  obtain ⟨afterOutports, noOutports⟩ := Graph.prepare_ok second afterInports
  exact ⟨afterOutports, noInports, noOutports⟩

theorem checkConnected_ok {V : Type} {bound : MultiMap String V} {exports : HashMap String GraphPort}
    {process : String} {text : String → String} {declared : List ComponentPort}
    (checked : checkConnected bound exports process text declared = .ok ()) :
    ∀ port ∈ declared, isConnected bound exports process port.name = true := by
  induction declared with
  | nil =>
      intro port member
      exact absurd member List.not_mem_nil
  | cons first rest ih =>
      unfold checkConnected at checked
      split at checked
      · next connected =>
          intro port member
          rcases List.mem_cons.mp member with same | later
          · rw [same]
            exact connected
          · exact ih checked port later
      · cases checked

section
variable {graph : Graph} {components : List ComponentInfo} {instantiate : String → ProcPorts → Except StartFailure Unit}
variable {ports : AllPorts} {process : String} {node : GraphNode} {component : ComponentInfo} {bound : ProcPorts}

theorem Graph.setUpAll_ok {nodes : List (Sigma fun _ : String => GraphNode)} {rest : AllPorts}
    (distinct : nodes.NodupKeys) (done : graph.setUpAll components instantiate nodes ports = .ok rest)
    (member : ⟨process, node⟩ ∈ nodes) :
    ∃ bound, ports.lookup process = some bound ∧
      graph.setUp components instantiate process node bound = .ok () := by
  induction nodes generalizing ports with
  | nil => exact absurd member List.not_mem_nil
  | cons first later ih =>
      obtain ⟨name, here⟩ := first
      obtain ⟨fresh, distinct⟩ := List.nodupKeys_cons.mp distinct
      unfold Graph.setUpAll at done
      split at done
      · cases done
      · next bound found =>
          obtain ⟨⟨⟩, set, done⟩ := Except.bind_ok done
          rcases List.mem_cons.mp member with same | behind
          · cases same
            exact ⟨bound, found, set⟩
          · obtain ⟨other, foundOther, setOther⟩ := ih distinct done behind
            have different : process ≠ name := by
              intro same
              exact fresh (List.mem_keys.mpr ⟨node, same ▸ behind⟩)
            rw [HashMap.lookup_erase_ite, if_neg different] at foundOther
            exact ⟨other, foundOther, setOther⟩

/-- What a successful start says about the ports of a node. -/
structure Started (graph : Graph) (component : ComponentInfo) (process : String) (bound : ProcPorts) : Prop where
  ins : ∀ key, (bound.inports.values key).map ProcessEdgeSource.view =
    edgeViews process key 0 graph.edges (Graph.iipsPerTarget graph.edges ∅) ++
      iipViews process key 0 (leaveIips graph.edges (Graph.iipsPerTarget graph.edges ∅)).pairs ++
      inportViews process key graph.inports.entries
  outs : ∀ key, (bound.outports.values key).map ProcessEdgeSink.origin =
    edgeSinks process key 0 graph.edges ++ outportSinks process key graph.outports.entries
  connectedIn : ∀ port ∈ component.inPorts, isConnected bound.inports graph.inports process port.name = true
  connectedOut : ∀ port ∈ component.outPorts, isConnected bound.outports graph.outports process port.name = true

theorem Graph.setUp_ok (done : graph.setUp components instantiate process node bound = .ok ())
    (found : findComponent components node.component = some component) :
    (∀ port ∈ component.inPorts, isConnected bound.inports graph.inports process port.name = true) ∧
      ∀ port ∈ component.outPorts, isConnected bound.outports graph.outports process port.name = true := by
  unfold Graph.setUp at done
  rw [found] at done
  obtain ⟨⟨⟩, checkedIn, done⟩ := Except.bind_ok done
  obtain ⟨⟨⟩, checkedOut, _⟩ := Except.bind_ok done
  exact ⟨checkConnected_ok checkedIn, checkConnected_ok checkedOut⟩

theorem flatMap_only_nil {α β : Type} {process name : String} {entries : List β} {key : β → String} {value : β → α}
    {other : String} (apart : entries = [] ∨ name ≠ process) :
    (entries.flatMap fun entry => only process (key entry) (value entry) name other) = [] := by
  rcases apart with none | different
  · rw [none]
    rfl
  · apply List.flatMap_eq_nil_iff.mpr
    intro entry _
    exact if_neg fun both => different both.1

theorem Graph.start_node (started : graph.start components instantiate = .ok ports)
    (known : graph.nodes.lookup process = some node)
    (found : findComponent components node.component = some component) :
    ∃ bound, ports.lookup process = some bound ∧ Started graph component process bound := by
  unfold Graph.start at started
  obtain ⟨⟨⟩, _, started⟩ := Except.bind_ok started
  obtain ⟨⟨⟩, _, started⟩ := Except.bind_ok started
  dsimp only at started
  obtain ⟨prepared, prepares, started⟩ := Except.bind_ok started
  obtain ⟨⟨edged, left⟩, edges, started⟩ := Except.bind_ok started
  obtain ⟨iipped, iips, started⟩ := Except.bind_ok started
  obtain ⟨inported, inports, started⟩ := Except.bind_ok started
  obtain ⟨last, outports, started⟩ := Except.bind_ok started
  obtain ⟨rest, setUps, started⟩ := Except.bind_ok started
  obtain ⟨⟨⟩, _, started⟩ := Except.bind_ok started
  cases started
  obtain ⟨start, noInports, noOutports⟩ := Graph.preparePorts_ok prepares known
  obtain ⟨edgesGrow, leaves⟩ := connectEdges_grows edges
  subst leaves
  have grows := ((edgesGrow.trans (connectIips_grows iips)).trans (connectInports_grows inports)).trans
    (connectOutports_grows outports)
  obtain ⟨bound, looked, grown⟩ := grows process .default start
  have member : ⟨process, node⟩ ∈ graph.nodes.entries := AList.mem_lookup_iff.mp known
  obtain ⟨other, foundOther, done⟩ := Graph.setUpAll_ok graph.nodes.nodupKeys setUps member
  rw [looked] at foundOther
  cases foundOther
  obtain ⟨connectedIn, connectedOut⟩ := Graph.setUp_ok done found
  refine ⟨bound, looked, fun key => ?_, fun key => ?_, connectedIn, connectedOut⟩
  · have nothing : outportViews graph.outName process key graph.outports.entries = [] := flatMap_only_nil noOutports
    have grownIn := (grown key).1
    dsimp only at grownIn
    rw [grownIn, nothing, List.append_nil]
    rfl
  · have nothing : inportSinks graph.inName process key graph.inports.entries = [] := flatMap_only_nil noInports
    have grownOut := (grown key).2
    dsimp only at grownOut
    rw [grownOut, nothing, List.append_nil, List.append_nil]
    rfl

end

/-! The bindings under a name in upper case, read off the graph. -/

section
variable {graph : Graph} {process name : String}

theorem only_upper {α : Type} (spec : GraphNodeSpec) (value : α) (process name : String) :
    only spec.process (toAsciiUppercase spec.port) value process (toAsciiUppercase name) =
      if spec.isAt process name then [value] else [] := by
  unfold only GraphNodeSpec.isAt
  simp only [Bool.and_eq_true, beq_iff_eq]
  by_cases here : spec.process = process
  · simp [here]
  · simp [here, Ne.symm here]

theorem edgeViews_origins (index : Nat) (edges : List GraphEdge) (iips : HashMap GraphNodeSpec (List String)) :
    (edgeViews process (toAsciiUppercase name) index edges iips).map Prod.fst =
      ((edges.zipIdx index).filter fun edge => edge.1.data.isNone && edge.1.target.isAt process name).map
        fun edge => Origin.edge edge.2 := by
  induction edges generalizing index iips with
  | nil => rfl
  | cons edge rest ih =>
      unfold edgeViews
      rw [List.zipIdx_cons, List.filter_cons]
      cases data : edge.data with
      | some iip => simpa using ih (index + 1) iips
      | none =>
          rw [only_upper, Option.isSome_none, if_neg Bool.false_ne_true, List.map_append,
            ih (index + 1) (AList.erase edge.target iips)]
          by_cases here : edge.target.isAt process name = true
          · simp [here]
          · simp [here]

theorem edgeSinks_origins (index : Nat) (edges : List GraphEdge) :
    edgeSinks process (toAsciiUppercase name) index edges =
      ((edges.zipIdx index).filter fun edge => edge.1.data.isNone && edge.1.source.isAt process name).map
        fun edge => Origin.edge edge.2 := by
  induction edges generalizing index with
  | nil => rfl
  | cons edge rest ih =>
      unfold edgeSinks
      rw [List.zipIdx_cons, List.filter_cons]
      cases data : edge.data with
      | some iip => simpa using ih (index + 1)
      | none =>
          rw [only_upper, Option.isSome_none, if_neg Bool.false_ne_true, ih (index + 1)]
          by_cases here : edge.source.isAt process name = true
          · simp [here]
          · simp [here]

theorem zipIdx_filter_length (edges : List GraphEdge) (index : Nat) (keeps : GraphEdge → Bool) :
    ((edges.zipIdx index).filter fun edge => keeps edge.1).length = (edges.filter keeps).length := by
  have firsts : edges = (edges.zipIdx index).map Prod.fst := (List.zipIdx_map_fst index edges).symm
  conv_rhs => rw [firsts, List.filter_map, List.length_map]
  rfl

theorem edgeViews_length (index : Nat) (edges : List GraphEdge) (iips : HashMap GraphNodeSpec (List String)) :
    (edgeViews process (toAsciiUppercase name) index edges iips).length =
      (edges.filter fun edge => edge.data.isNone && edge.target.isAt process name).length := by
  rw [← List.length_map Prod.fst, edgeViews_origins, List.length_map]
  exact zipIdx_filter_length edges index fun edge => edge.data.isNone && edge.target.isAt process name

/-- The only edge into a port has all IIPs of its own spelling. -/
theorem edgeViews_single {index : Nat} {edges : List GraphEdge} {iips : HashMap GraphNodeSpec (List String)}
    {edge : GraphEdge}
    (single : (edges.filter fun edge => edge.data.isNone && edge.target.isAt process name) = [edge]) :
    (edgeViews process (toAsciiUppercase name) index edges iips).map Prod.snd =
      [((iips.lookup edge.target).getD []).map FbpMessage.text] := by
  induction edges generalizing index iips with
  | nil => cases single
  | cons first rest ih =>
      unfold edgeViews
      rw [List.filter_cons] at single
      cases data : first.data with
      | some iip =>
          rw [data] at single
          simpa using ih (by simpa using single)
      | none =>
          rw [data] at single
          rw [only_upper, Option.isSome_none, if_neg Bool.false_ne_true, List.map_append]
          by_cases here : first.target.isAt process name = true
          · simp only [Option.isNone_none, here, Bool.and_self, if_true, List.cons.injEq] at single
            obtain ⟨same, none⟩ := single
            subst same
            have nothing : edgeViews process (toAsciiUppercase name) (index + 1) rest
                (AList.erase first.target iips) = [] := by
              apply List.length_eq_zero_iff.mp
              rw [edgeViews_length, none]
              rfl
            rw [nothing, if_pos here]
            rfl
          · have later : (rest.filter fun edge => edge.data.isNone && edge.target.isAt process name) = [edge] := by
              simpa [here] using single
            have elsewhere : edge.target ≠ first.target := by
              intro same
              have member : edge ∈ [edge] := List.mem_cons_self
              rw [← later, List.mem_filter, Bool.and_eq_true] at member
              rw [← same] at here
              exact here member.2.2
            rw [if_neg here, ih later, HashMap.lookup_erase_ite, if_neg elsewhere]
            rfl

theorem iipViews_texts (index : Nat) (iips : MultiMap GraphNodeSpec String) :
    (iipViews process (toAsciiUppercase name) index iips).map Prod.snd =
      (iips.filter fun iip => iip.1.isAt process name).map fun iip => [FbpMessage.text iip.2] := by
  induction iips generalizing index with
  | nil => rfl
  | cons iip rest ih =>
      obtain ⟨target, text⟩ := iip
      unfold iipViews
      rw [only_upper, List.map_append, ih (index + 1), List.filter_cons]
      by_cases here : target.isAt process name = true
      · simp [here]
      · simp [here]

theorem inportViews_eq (exports : List (Sigma fun _ : String => GraphPort)) :
    inportViews process (toAsciiUppercase name) exports =
      (exports.filter fun entry => entry.2.spec.isAt process name).map fun entry => (.graphInport entry.1, []) := by
  induction exports with
  | nil => rfl
  | cons entry rest ih =>
      unfold inportViews at ih ⊢
      rw [List.flatMap_cons, ih, List.filter_cons]
      have here := only_upper entry.2.spec (Origin.graphInport entry.1, ([] : List FbpMessage)) process name
      unfold GraphPort.spec at here ⊢
      dsimp only at here
      rw [here]
      split
      · rfl
      · rfl

theorem outportSinks_eq (exports : List (Sigma fun _ : String => GraphPort)) :
    outportSinks process (toAsciiUppercase name) exports =
      (exports.filter fun entry => entry.2.spec.isAt process name).map fun entry => .graphOutport entry.1 := by
  induction exports with
  | nil => rfl
  | cons entry rest ih =>
      unfold outportSinks at ih ⊢
      rw [List.flatMap_cons, ih, List.filter_cons]
      have here := only_upper entry.2.spec (Origin.graphOutport entry.1) process name
      unfold GraphPort.spec at here ⊢
      dsimp only at here
      rw [here]
      split
      · rfl
      · rfl

theorem leaveIips_pairs (edges : List GraphEdge) (iips : HashMap GraphNodeSpec (List String)) :
    (leaveIips edges iips).pairs =
      iips.pairs.filter fun pair => !edges.any fun edge => edge.data.isNone && edge.target == pair.1 := by
  induction edges generalizing iips with
  | nil => simp [leaveIips]
  | cons edge rest ih =>
      unfold leaveIips
      cases data : edge.data with
      | some iip => simp [data, ih]
      | none =>
          rw [Option.isSome_none, if_neg Bool.false_ne_true, ih, HashMap.pairs_erase, List.filter_filter]
          congr 1
          funext pair
          by_cases here : edge.target = pair.1
          · simp [data, here]
          · simp [data, here, Ne.symm here]

theorem iipsPerTarget_pairs (edges : List GraphEdge) (iips : HashMap GraphNodeSpec (List String)) :
    (Graph.iipsPerTarget edges iips).pairs.Perm
      (iips.pairs ++ edges.filterMap fun edge => edge.data.map fun iip => (edge.target, iip)) := by
  induction edges generalizing iips with
  | nil => simp [Graph.iipsPerTarget]
  | cons edge rest ih =>
      unfold Graph.iipsPerTarget
      cases data : edge.data with
      | none => simpa [data] using ih iips
      | some iip =>
          have pushed := (ih (iips.pushTo edge.target iip)).trans ((iips.pairs_pushTo edge.target iip).append_right _)
          simpa [data] using pushed

theorem iipsPerTarget_lookup (edges : List GraphEdge) (iips : HashMap GraphNodeSpec (List String))
    (target : GraphNodeSpec) : ((Graph.iipsPerTarget edges iips).lookup target).getD [] =
      (iips.lookup target).getD [] ++
        edges.filterMap fun edge => if edge.target = target then edge.data else none := by
  induction edges generalizing iips with
  | nil => simp [Graph.iipsPerTarget]
  | cons edge rest ih =>
      unfold Graph.iipsPerTarget
      cases data : edge.data with
      | none => simp [data, ih]
      | some iip =>
          dsimp only
          rw [ih, HashMap.lookup_pushTo, List.filterMap_cons]
          by_cases here : target = edge.target
          · simp [data, here]
          · simp [here, Ne.symm here]

/-- What is left of the IIPs for a port are those that no edge has taken. -/
theorem leftIips_perm (graph : Graph) (process name : String) :
    ((leaveIips graph.edges (Graph.iipsPerTarget graph.edges ∅)).pairs.filter fun pair =>
        pair.1.isAt process name).Perm
      ((graph.looseIips process name).filterMap fun edge => edge.data.map fun iip => (edge.target, iip)) := by
  have gathered := (iipsPerTarget_pairs graph.edges ∅).filter fun pair =>
    !graph.edges.any fun edge => edge.data.isNone && edge.target == pair.1
  have chosen := gathered.filter fun pair => pair.1.isAt process name
  rw [leaveIips_pairs]
  refine chosen.trans (List.Perm.of_eq ?_)
  unfold Graph.looseIips
  have each : ∀ edges : List GraphEdge, ((edges.filterMap fun edge => edge.data.map fun iip => (edge.target, iip)).filter
      fun pair => !graph.edges.any fun edge => edge.data.isNone && edge.target == pair.1).filter
        (fun pair => pair.1.isAt process name) =
      (edges.filter fun edge => edge.data.isSome && edge.target.isAt process name &&
        !graph.edges.any fun other => other.data.isNone && other.target == edge.target).filterMap
          fun edge => edge.data.map fun iip => (edge.target, iip) := by
    intro edges
    induction edges with
    | nil => rfl
    | cons edge rest ih =>
        cases data : edge.data with
        | none => simpa [data] using ih
        | some iip =>
            by_cases taken : (graph.edges.any fun other => other.data.isNone && other.target == edge.target) = true
            · simpa [data, taken] using ih
            · by_cases here : edge.target.isAt process name = true
              · simpa [data, taken, here] using ih
              · simpa [data, taken, here] using ih
  exact each graph.edges

theorem looseIips_length (graph : Graph) (process name : String) :
    ((graph.looseIips process name).filterMap fun edge => edge.data.map fun iip => (edge.target, iip)).length =
      (graph.looseIips process name).length := by
  apply List.filterMap_length_eq_length.mpr
  intro edge member
  have initial := (List.mem_filter.mp member).2
  simp only [Bool.and_eq_true] at initial
  simpa using initial.1.1

/-- Without an edge into the port its IIPs are all loose. -/
theorem iipsAt_of_no_edge (none : graph.edgesInto process name = []) :
    graph.iipsAt process name = (graph.looseIips process name).filterMap fun edge => edge.data := by
  unfold Graph.iipsAt Graph.looseIips
  rw [List.filterMap_filter]
  apply List.filterMap_congr
  intro edge member
  by_cases here : edge.target.isAt process name = true
  · have free : (graph.edges.any fun other => other.data.isNone && other.target == edge.target) = false := by
      by_contra taken
      obtain ⟨other, known, plain⟩ := List.any_eq_true.mp ((Bool.not_eq_false _).mp taken)
      simp only [Bool.and_eq_true, beq_iff_eq] at plain
      have inside : other ∈ graph.edgesInto process name := by
        apply List.mem_filter.mpr
        rw [plain.1, plain.2, here]
        exact ⟨known, rfl⟩
      rw [none] at inside
      exact List.not_mem_nil inside
    cases data : edge.data with
    | none => simp
    | some iip => simp [here, free]
  · simp [here]

/-- If no IIP for the port is loose, its only edge has them all in its spelling. -/
theorem iipsAt_of_single {edge : GraphEdge} (single : graph.edgesInto process name = [edge])
    (noLoose : graph.looseIips process name = []) : graph.iipsAt process name =
      graph.edges.filterMap fun other => if other.target = edge.target then other.data else none := by
  have chosen : edge.target.isAt process name = true := by
    have member : edge ∈ graph.edgesInto process name := by
      rw [single]
      exact List.mem_cons_self
    have both := (List.mem_filter.mp member).2
    rw [Bool.and_eq_true] at both
    exact both.2
  unfold Graph.iipsAt
  apply List.filterMap_congr
  intro other member
  cases data : other.data with
  | none => simp
  | some iip =>
      by_cases here : other.target.isAt process name = true
      · have taken : (graph.edges.any fun taker => taker.data.isNone && taker.target == other.target) = true := by
          by_contra free
          have inside : other ∈ graph.looseIips process name := by
            apply List.mem_filter.mpr
            rw [data, here, (Bool.not_eq_true _).mp free]
            exact ⟨member, rfl⟩
          rw [noLoose] at inside
          exact List.not_mem_nil inside
        obtain ⟨taker, known, plain⟩ := List.any_eq_true.mp taken
        simp only [Bool.and_eq_true, beq_iff_eq] at plain
        have inside : taker ∈ graph.edgesInto process name := by
          apply List.mem_filter.mpr
          rw [plain.1, plain.2, here]
          exact ⟨known, rfl⟩
        rw [single] at inside
        rw [if_pos here, ← plain.2, List.mem_singleton.mp inside, if_pos rfl]
      · have elsewhere : other.target ≠ edge.target := by
          intro same
          rw [← same] at chosen
          exact here chosen
        rw [if_neg here, if_neg elsewhere]

theorem only_of_not_upper {α : Type} {key : String} (mixed : toAsciiUppercase key ≠ key) (owner port : String)
    (value : α) : only owner (toAsciiUppercase port) value process key = [] := by
  apply if_neg
  intro both
  apply mixed
  rw [← both.2, toAsciiUppercase_upper]

theorem edgeViews_of_not_upper {key : String} (mixed : toAsciiUppercase key ≠ key) (index : Nat)
    (edges : List GraphEdge) (iips : HashMap GraphNodeSpec (List String)) :
    edgeViews process key index edges iips = [] := by
  induction edges generalizing index iips with
  | nil => rfl
  | cons edge rest ih =>
      unfold edgeViews
      rw [only_of_not_upper mixed, ih, ih, List.append_nil, ite_self]

theorem edgeSinks_of_not_upper {key : String} (mixed : toAsciiUppercase key ≠ key) (index : Nat)
    (edges : List GraphEdge) : edgeSinks process key index edges = [] := by
  induction edges generalizing index with
  | nil => rfl
  | cons edge rest ih =>
      unfold edgeSinks
      rw [only_of_not_upper mixed, ih, List.append_nil, ite_self]

theorem iipViews_of_not_upper {key : String} (mixed : toAsciiUppercase key ≠ key) (index : Nat)
    (iips : MultiMap GraphNodeSpec String) : iipViews process key index iips = [] := by
  induction iips generalizing index with
  | nil => rfl
  | cons iip rest ih =>
      unfold iipViews
      rw [only_of_not_upper mixed, ih, List.append_nil]

end

end Flowd
