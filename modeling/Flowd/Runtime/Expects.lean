import Flowd.Graph.Answers
import Flowd.Runtime.Bindings

namespace Flowd

/-! When an `expect` of `Runtime::start` fails. -/

/-- A result with a property if what is needed holds, else a failed `expect`. -/
def Expects {α : Type} (result : Except StartFailure α) (needs : Prop) (holds : α → Prop) : Prop :=
  (needs ∧ ∃ value, result = .ok value ∧ holds value) ∨ (¬ needs ∧ ∃ text, result = .error (.panicked text))

namespace Expects

variable {α β : Type} {result : Except StartFailure α} {needs other : Prop} {holds : α → Prop}

theorem ok {value : α} (met : needs) (property : holds value) : Expects (.ok value) needs holds :=
  .inl ⟨met, value, rfl, property⟩

theorem panicked {text : String} (missed : ¬ needs) :
    Expects (.error (.panicked text) : Except StartFailure α) needs holds :=
  .inr ⟨missed, text, rfl⟩

theorem congr (expects : Expects result needs holds) (same : needs ↔ other) : Expects result other holds := by
  rcases expects with ⟨met, value⟩ | ⟨missed, text⟩
  · exact .inl ⟨same.mp met, value⟩
  · exact .inr ⟨fun met => missed (same.mpr met), text⟩

theorem weaken {weaker : α → Prop} (expects : Expects result needs holds) (implies : ∀ value, holds value → weaker value) :
    Expects result needs weaker := by
  rcases expects with ⟨met, value, done, property⟩ | missed
  · exact .inl ⟨met, value, done, implies value property⟩
  · exact .inr missed

theorem bind {next : α → Except StartFailure β} {needsNext : Prop} {holdsNext : β → Prop}
    (first : Expects result needs holds) (rest : ∀ value, holds value → Expects (next value) needsNext holdsNext) :
    Expects (result >>= next) (needs ∧ needsNext) holdsNext := by
  rcases first with ⟨met, value, done, property⟩ | ⟨missed, text, failed⟩
  · rw [done]
    rcases rest value property with ⟨metNext, last⟩ | ⟨missedNext, text⟩
    · exact .inl ⟨⟨met, metNext⟩, last⟩
    · exact .inr ⟨fun both => missedNext both.2, text⟩
  · rw [failed]
    exact .inr ⟨fun both => missed both.1, text, rfl⟩

theorem withResult (expects : Expects result needs holds) :
    Expects result needs fun value => result = .ok value ∧ holds value := by
  rcases expects with ⟨met, value, done, property⟩ | missed
  · exact .inl ⟨met, value, done, done, property⟩
  · exact .inr missed

end Expects

/-- The endpoints that an earlier edge has as well. -/
def repeats (skips : GraphEdge → Bool) (endpoint : GraphEdge → GraphNodeSpec) :
    List GraphNodeSpec → List GraphEdge → List GraphNodeSpec
  | _, [] => []
  | seen, edge :: rest =>
      if skips edge then repeats skips endpoint seen rest
      else if endpoint edge ∈ seen then endpoint edge :: repeats skips endpoint seen rest
      else repeats skips endpoint (endpoint edge :: seen) rest

namespace Graph

variable (graph : Graph)

/-- No endpoint for two edges: of no node, or of a port that is no array port. -/
def isSingle (components : List ComponentInfo) (ports : ComponentInfo → List ComponentPort) (endpoint : GraphNodeSpec) :
    Bool :=
  match graph.nodes.lookup endpoint.process with
  | none => true
  | some node => components.any fun component => component.name == node.component &&
      (ports component).any fun port => port.name == endpoint.port && !port.isArrayport

/-- The first source at which edges must not meet, but do. -/
def sourceClash (components : List ComponentInfo) : Option GraphNodeSpec :=
  (repeats (fun edge => edge.data.isSome && edge.source.process.isEmpty) GraphEdge.source [] graph.edges).find?
    (graph.isSingle components ComponentInfo.outPorts)

def targetClash (components : List ComponentInfo) : Option GraphNodeSpec :=
  (repeats (fun edge => edge.data.isSome) GraphEdge.target [] graph.edges).find?
    (graph.isSingle components ComponentInfo.inPorts)

/-- A node, or the handler of the graph inports or outports. -/
def Known (name : String) : Prop :=
  name ∈ graph.nodes ∨ (graph.inports.entries ≠ [] ∧ name = graph.inName) ∨
    (graph.outports.entries ≠ [] ∧ name = graph.outName)

/-- The IIPs for a target in this spelling. -/
def iipsFor (target : GraphNodeSpec) : List String :=
  graph.edges.filterMap fun edge => if edge.target = target then edge.data else none

/-- What the connections of a graph rely on. -/
structure Sound : Prop where
  inFree : graph.inports.entries ≠ [] → graph.inName ∉ graph.nodes
  outFree : graph.outports.entries ≠ [] → graph.outName ∉ graph.nodes
  targets : ∀ edge ∈ graph.edges, graph.Known edge.target.process
  sources : ∀ edge ∈ graph.edges, edge.data = none → graph.Known edge.source.process
  iips : ∀ edge ∈ graph.edges, edge.data = none → (graph.iipsFor edge.target).length ≤ PROCESSEDGE_BUFSIZE
  inports : ∀ port ∈ graph.inports.entries, graph.Known port.2.process
  outports : ∀ port ∈ graph.outports.entries, graph.Known port.2.process

variable {graph}

theorem checkEndpoints_eq (components : List ComponentInfo) (skips : GraphEdge → Bool)
    (endpoint : GraphEdge → GraphNodeSpec) (ports : ComponentInfo → List ComponentPort) (missing text : String)
    (seen : List GraphNodeSpec) (edges : List GraphEdge) :
    graph.checkEndpoints components skips endpoint ports missing text seen edges =
      match (repeats skips endpoint seen edges).find? (graph.isSingle components ports) with
      | none => .ok ()
      | some clash =>
          if clash.process ∈ graph.nodes then .error (.error .invalidInput text) else .error (.panicked missing) := by
  induction edges generalizing seen with
  | nil => rfl
  | cons edge rest ih =>
      rw [checkEndpoints, repeats]
      by_cases skipped : skips edge = true
      · rw [if_pos skipped, if_pos skipped, ih]
      · rw [if_neg skipped, if_neg skipped]
        by_cases again : endpoint edge ∈ seen
        · rw [if_pos again, if_pos again, List.find?_cons]
          cases found : graph.nodes.lookup (endpoint edge).process with
          | none =>
              have absent : (endpoint edge).process ∉ graph.nodes := AList.lookup_eq_none.mp found
              simp [isSingle, found, absent]
          | some node =>
              have present : (endpoint edge).process ∈ graph.nodes := AList.lookup_isSome.mp (by rw [found]; rfl)
              simp only [isSingle, found]
              split
              · next single => simp [single, present]
              · next array =>
                  rw [ih]
                  simp only [Bool.not_eq_true] at array
                  simp only [array]
        · rw [if_neg again, if_neg again, ih]

/-! The connections. -/

theorem change_expects (ports : AllPorts) (process text : String) (change : ProcPorts → ProcPorts) :
    Expects (ports.change process text change) (process ∈ ports) fun next => ∀ name, name ∈ next ↔ name ∈ ports := by
  unfold AllPorts.change
  by_cases present : process ∈ ports
  · rw [if_pos present]
    exact .ok present fun name => HashMap.mem_adjust _ _ _ _
  · rw [if_neg present]
    exact .panicked present

theorem require_expects (ports : AllPorts) (process text : String) :
    Expects (ports.require process text) (process ∈ ports) fun _ => True := by
  unfold AllPorts.require
  by_cases present : process ∈ ports
  · rw [if_pos present]
    exact .ok present trivial
  · rw [if_neg present]
    exact .panicked present

theorem injectIips_expects (text : String) (ring : Ring FbpMessage) (iips : List String) :
    Expects (injectIips text ring iips) (ring.buffer.length + iips.length ≤ ring.capacity) fun _ => True := by
  induction iips generalizing ring with
  | nil => exact .ok ring.bounded trivial
  | cons iip rest ih =>
      rw [injectIips]
      cases pushed : ring.push (.text iip) with
      | none =>
          have full := Ring.push_eq_none.mp pushed
          exact .panicked (by simp only [List.length_cons]; omega)
      | some next =>
          obtain ⟨room, buffer, capacity, _⟩ := Ring.push_some pushed
          apply (ih next).congr
          simp only [buffer, capacity, List.length_append, List.length_cons, List.length_nil]
          omega

/-- What the connection of an edge needs. -/
def Connects (ports : AllPorts) (iips : HashMap GraphNodeSpec (List String)) (edge : GraphEdge) : Prop :=
  ((iips.lookup edge.target).getD []).length ≤ PROCESSEDGE_BUFSIZE ∧ edge.target.process ∈ ports ∧
    edge.source.process ∈ ports

/-- The IIPs of a target are gone with the first edge to it. -/
theorem connects_erase {ports : AllPorts} {iips : HashMap GraphNodeSpec (List String)} {first edge : GraphEdge}
    (connects : Connects ports iips first) :
    Connects ports (AList.erase first.target iips) edge ↔ Connects ports iips edge := by
  unfold Connects
  rw [HashMap.lookup_erase_ite]
  split
  · next same =>
      rw [same]
      exact and_congr_left' (iff_of_true (Nat.zero_le _) connects.1)
  · rfl

theorem connectEdge_expects (index : Nat) (edge : GraphEdge) (ports : AllPorts)
    (iips : HashMap GraphNodeSpec (List String)) :
    Expects (connectEdge index edge ports iips) (Connects ports iips edge)
      fun next => (∀ name, name ∈ next.1 ↔ name ∈ ports) ∧ next.2 = AList.erase edge.target iips := by
  have room := injectIips_expects "failed to inject IIP into process edge channel" (.empty PROCESSEDGE_BUFSIZE)
    ((iips.lookup edge.target).getD [])
  apply Expects.congr ((require_expects ports edge.target.process _).bind fun _ _ =>
    (require_expects ports edge.source.process _).bind fun _ _ => room.bind fun ring _ =>
      Expects.ok trivial ⟨fun name => by rw [HashMap.mem_adjust, HashMap.mem_adjust], rfl⟩)
  simp only [Connects, Ring.empty, List.length_nil, Nat.zero_add, and_true]
  tauto

theorem connectEdges_expects (index : Nat) (edges : List GraphEdge) (ports : AllPorts)
    (iips : HashMap GraphNodeSpec (List String)) :
    Expects (connectEdges index edges ports iips) (∀ edge ∈ edges, edge.data = none → Connects ports iips edge)
      fun next => ∀ name, name ∈ next.1 ↔ name ∈ ports := by
  induction edges generalizing index ports iips with
  | nil => exact .ok (fun edge member => absurd member List.not_mem_nil) fun name => Iff.rfl
  | cons edge rest ih =>
      rw [connectEdges]
      cases data : edge.data with
      | some iip =>
          apply (ih (index + 1) ports iips).congr
          simp [data]
      | none =>
          have both := (connectEdge_expects index edge ports iips).bind fun next connected =>
            ((ih (index + 1) next.1 next.2).congr (by
              simp only [Connects, connected.1, connected.2]
              rfl)).weaken fun last sameLast name => (sameLast name).trans (connected.1 name)
          simp only [Option.isSome_none, Bool.false_eq_true, if_false]
          apply both.congr
          rw [List.forall_mem_cons]
          constructor
          · intro holds
            exact ⟨fun _ => holds.1, fun later member plain => (connects_erase holds.1).mp (holds.2 later member plain)⟩
          · intro holds
            have here := holds.1 data
            exact ⟨here, fun later member plain => (connects_erase here).mpr (holds.2 later member plain)⟩

theorem connectIips_expects (index : Nat) (iips : MultiMap GraphNodeSpec String) (ports : AllPorts) :
    Expects (connectIips index iips ports) (∀ pair ∈ iips, pair.1.process ∈ ports)
      fun next => ∀ name, name ∈ next ↔ name ∈ ports := by
  induction iips generalizing index ports with
  | nil => exact .ok (fun pair member => absurd member List.not_mem_nil) fun name => Iff.rfl
  | cons pair rest ih =>
      obtain ⟨target, iip⟩ := pair
      rw [connectIips]
      have room := injectIips_expects "failed to send IIP into process channel" (.empty PROCESSEDGE_IIP_BUFSIZE) [iip]
      apply Expects.congr (room.bind fun ring _ => (change_expects ports target.process _ _).bind fun bound same =>
        ((ih (index + 1) bound).congr (by simp only [same]; rfl)).weaken
          fun last sameLast name => (sameLast name).trans (same name))
      rw [List.forall_mem_cons]
      exact and_iff_right (Nat.le_refl 1)

theorem connectInports_expects (inName : String) (exports : List (Sigma fun _ : String => GraphPort)) (ports : AllPorts) :
    Expects (connectInports inName exports ports) (∀ entry ∈ exports, entry.2.process ∈ ports ∧ inName ∈ ports)
      fun next => ∀ name, name ∈ next ↔ name ∈ ports := by
  induction exports generalizing ports with
  | nil => exact .ok (fun entry member => absurd member List.not_mem_nil) fun name => Iff.rfl
  | cons entry rest ih =>
      obtain ⟨publicName, port⟩ := entry
      rw [connectInports]
      apply Expects.congr ((change_expects ports port.process _ _).bind fun bound same =>
        ((change_expects bound inName _ _).congr (same inName)).bind fun fed sameFed =>
          ((ih fed).congr (by simp only [sameFed, same]; rfl)).weaken
            fun last sameLast name => ((sameLast name).trans (sameFed name)).trans (same name))
      rw [List.forall_mem_cons]
      exact and_assoc.symm

theorem connectOutports_expects (outName : String) (exports : List (Sigma fun _ : String => GraphPort))
    (ports : AllPorts) :
    Expects (connectOutports outName exports ports) (∀ entry ∈ exports, outName ∈ ports ∧ entry.2.process ∈ ports)
      fun next => ∀ name, name ∈ next ↔ name ∈ ports := by
  induction exports generalizing ports with
  | nil => exact .ok (fun entry member => absurd member List.not_mem_nil) fun name => Iff.rfl
  | cons entry rest ih =>
      obtain ⟨publicName, port⟩ := entry
      rw [connectOutports]
      apply Expects.congr ((change_expects ports outName _ _).bind fun bound same =>
        ((change_expects bound port.process _ _).congr (same port.process)).bind fun fed sameFed =>
          ((ih fed).congr (by simp only [sameFed, same]; rfl)).weaken
            fun last sameLast name => ((sameLast name).trans (sameFed name)).trans (same name))
      rw [List.forall_mem_cons]
      exact and_assoc.symm

/-! The keys of `ports_all`. -/

theorem mem_insertDefault (nodes : List (Sigma fun _ : String => GraphNode)) (ports : AllPorts) (name : String) :
    name ∈ nodes.foldl (fun ports node => AList.insert node.1 ProcPorts.default ports) ports ↔
      name ∈ nodes.keys ∨ name ∈ ports := by
  induction nodes generalizing ports with
  | nil => simp
  | cons node rest ih =>
      rw [List.foldl_cons, ih, AList.mem_insert, List.keys_cons, List.mem_cons]
      tauto

theorem prepare_expects (exports : HashMap String GraphPort) (ports : AllPorts) (name text : String) :
    Expects (prepare exports ports name text) (exports.entries ≠ [] → name ∉ ports)
      fun next => ∀ found, found ∈ next ↔ found ∈ ports ∨ (exports.entries ≠ [] ∧ found = name) := by
  unfold prepare
  by_cases none : exports.entries = []
  · rw [none]
    exact .ok (fun some => absurd rfl some) fun found => by simp
  · rw [if_neg (by simpa using none)]
    by_cases taken : name ∈ ports
    · rw [if_pos taken]
      exact .panicked fun free => free none taken
    · rw [if_neg taken]
      refine .ok (fun _ => taken) fun found => ?_
      rw [AList.mem_insert]
      simp only [none, ne_eq, not_false_eq_true, true_and]
      exact Or.comm

theorem inName_ne_outName (graph : Graph) : graph.outName ≠ graph.inName := by
  intro same
  have lists := congrArg String.toList same
  simp only [outName, inName, String.toList_append] at lists
  have tails := List.append_cancel_left lists
  revert tails
  decide

theorem preparePorts_expects (graph : Graph) :
    Expects graph.preparePorts ((graph.inports.entries ≠ [] → graph.inName ∉ graph.nodes) ∧
        (graph.outports.entries ≠ [] → graph.outName ∉ graph.nodes))
      fun ports => ∀ name, name ∈ ports ↔ graph.Known name := by
  have keys : ∀ name, name ∈ graph.nodes.entries.foldl
      (fun ports node => AList.insert node.1 ProcPorts.default ports) (∅ : AllPorts) ↔ name ∈ graph.nodes := by
    intro name
    rw [mem_insertDefault]
    exact or_iff_left (AList.notMem_empty name)
  unfold preparePorts
  have inports := (prepare_expects graph.inports (graph.nodes.entries.foldl
    (fun ports node => AList.insert node.1 ProcPorts.default ports) ∅) graph.inName
    "preparing inport edges for graph failed: process name already exists").congr (by rw [keys])
  apply inports.bind
  intro ports same
  have outFree : graph.outName ∈ ports ↔ graph.outName ∈ graph.nodes := by
    rw [same, keys]
    exact or_iff_left fun both => inName_ne_outName graph both.2
  apply ((prepare_expects graph.outports ports graph.outName _).congr (by rw [outFree])).weaken
  intro last sameLast name
  rw [sameLast, same, keys]
  exact or_assoc

/-! The set-up of the nodes. -/

variable {components : List ComponentInfo} {instantiate : String → ProcPorts → Except StartFailure Unit}

theorem checkConnected_cases {V : Type} (bound : MultiMap String V) (exports : HashMap String GraphPort)
    (process : String) (text : String → String) (declared : List ComponentPort) :
    (checkConnected bound exports process text declared = .ok () ∧
        ∀ port ∈ declared, isConnected bound exports process port.name = true) ∨
      ((∃ kind reason, checkConnected bound exports process text declared = .error (.error kind reason)) ∧
        ¬ ∀ port ∈ declared, isConnected bound exports process port.name = true) := by
  induction declared with
  | nil => exact .inl ⟨rfl, by simp⟩
  | cons port rest ih =>
      rw [checkConnected]
      split
      · next connected => simpa [connected] using ih
      · next apart =>
          refine .inr ⟨⟨_, _, rfl⟩, ?_⟩
          intro all
          exact apart (all port List.mem_cons_self)

section
variable (graph : Graph) (components : List ComponentInfo)
  (instantiate : String → ProcPorts → Except StartFailure Unit) (ports : AllPorts)

/-- All ports that the component declares are connected at the node. -/
def Fits (component : ComponentInfo) (process : String) (bound : ProcPorts) : Prop :=
  (∀ port ∈ component.inPorts, isConnected bound.inports graph.inports process port.name = true) ∧
    ∀ port ∈ component.outPorts, isConnected bound.outports graph.outports process port.name = true

/-- The constructor is called for the node, and returns like this. -/
def Constructs (result : Except StartFailure Unit) (entry : Sigma fun _ : String => GraphNode) : Prop :=
  ∃ bound component, ports.lookup entry.1 = some bound ∧
    findComponent components entry.2.component = some component ∧ graph.Fits component entry.1 bound ∧
      instantiate entry.2.component bound = result

/-- No constructor panics, one after the other, as long as the nodes before were set up. -/
def Constructible : List (Sigma fun _ : String => GraphNode) → Prop
  | [] => True
  | entry :: rest => (∀ text, ¬ graph.Constructs components instantiate ports (.error (.panicked text)) entry) ∧
      (graph.Constructs components instantiate ports (.ok ()) entry → Constructible rest)

end

/-- What a constructor makes of the set-up of a node, if it comes to that. -/
theorem setUp_cases {ports : AllPorts} {process : String} {bound : ProcPorts} (graph : Graph) (node : GraphNode)
    (found : ports.lookup process = some bound) :
    graph.Constructs components instantiate ports (graph.setUp components instantiate process node bound)
        ⟨process, node⟩ ∨
      (∃ kind text, graph.setUp components instantiate process node bound = .error (.error kind text)) ∧
        ∀ result, ¬ graph.Constructs components instantiate ports result ⟨process, node⟩ := by
  unfold setUp
  cases library : findComponent components node.component with
  | none =>
      refine .inr ⟨⟨_, _, rfl⟩, ?_⟩
      rintro result ⟨other, component, _, known, _⟩
      cases library.symm.trans known
  | some component =>
      have only : ∀ result, graph.Constructs components instantiate ports result ⟨process, node⟩ →
          graph.Fits component process bound := by
        rintro result ⟨other, entry, same, known, fits, _⟩
        cases found.symm.trans same
        cases library.symm.trans known
        exact fits
      rcases checkConnected_cases bound.inports graph.inports process (fun port =>
        "unconnected port checking: process " ++ process ++ " is missing required port " ++ port ++
          " for component " ++ component.name) component.inPorts with ⟨ins, connectedIn⟩ | ⟨⟨kind, text, ins⟩, apart⟩
      · rcases checkConnected_cases bound.outports graph.outports process (fun port =>
          "unconnected port checking: process " ++ process ++ " is missing required outport " ++ port ++
            " on component " ++ component.name) component.outPorts with ⟨outs, connectedOut⟩ | ⟨⟨kind, text, outs⟩, apart⟩
        · refine .inl ⟨bound, component, found, library, ⟨connectedIn, connectedOut⟩, ?_⟩
          simp only [ins, outs]
          rfl
        · refine .inr ⟨⟨kind, text, ?_⟩, fun result constructs => apart (only result constructs).2⟩
          simp only [ins, outs]
          rfl
      · refine .inr ⟨⟨kind, text, ?_⟩, fun result constructs => apart (only result constructs).1⟩
        simp only [ins]
        rfl

theorem constructs_unique {ports : AllPorts} {entry : Sigma fun _ : String => GraphNode}
    {result other : Except StartFailure Unit}
    (constructs : graph.Constructs components instantiate ports result entry)
    (again : graph.Constructs components instantiate ports other entry) : result = other := by
  obtain ⟨bound, _, found, _, _, rfl⟩ := constructs
  obtain ⟨same, _, foundAgain, _, _, rfl⟩ := again
  cases found.symm.trans foundAgain
  rfl

/-- `left` is what the nodes before have left of `ports`. -/
theorem setUpAll_cases {ports left : AllPorts} {nodes : List (Sigma fun _ : String => GraphNode)} (graph : Graph)
    (distinct : nodes.NodupKeys) (prepared : ∀ name ∈ nodes.keys, name ∈ ports)
    (agree : ∀ name ∈ nodes.keys, left.lookup name = ports.lookup name) :
    (Answers (graph.setUpAll components instantiate nodes left) ↔
        graph.Constructible components instantiate ports nodes) ∧
      ((∃ rest, graph.setUpAll components instantiate nodes left = .ok rest) ↔
        ∀ entry ∈ nodes, graph.Constructs components instantiate ports (.ok ()) entry) := by
  induction nodes generalizing left with
  | nil => exact ⟨iff_of_true (.ok _) trivial, iff_of_true ⟨_, rfl⟩ (by simp)⟩
  | cons entry rest ih =>
      obtain ⟨process, node⟩ := entry
      obtain ⟨fresh, distinct⟩ := List.nodupKeys_cons.mp distinct
      obtain ⟨bound, found⟩ := Option.isSome_iff_exists.mp (AList.lookup_isSome.mpr (prepared process List.mem_cons_self))
      have here : left.lookup process = some bound := (agree process List.mem_cons_self).trans found
      have later : ∀ name ∈ rest.keys, (AList.erase process left).lookup name = ports.lookup name := by
        intro name member
        have different : name ≠ process := by
          intro same
          exact fresh (same ▸ member)
        rw [HashMap.lookup_erase_ite, if_neg different]
        exact agree name (List.mem_cons_of_mem _ member)
      obtain ⟨answers, completes⟩ := ih distinct (fun name member => prepared name (List.mem_cons_of_mem _ member)) later
      rw [setUpAll, here]
      dsimp only
      rw [Constructible, List.forall_mem_cons]
      rcases @setUp_cases components instantiate ports process bound graph node found with constructs | ⟨⟨kind, text, failed⟩, never⟩
      · cases result : graph.setUp components instantiate process node bound with
        | ok _ =>
            rw [result] at constructs
            have calm : ∀ text, ¬ graph.Constructs components instantiate ports (.error (.panicked text)) ⟨process, node⟩ := by
              intro text broken
              cases constructs_unique constructs broken
            constructor
            · exact answers.trans ⟨fun holds => ⟨calm, fun _ => holds⟩, fun both => both.2 constructs⟩
            · exact completes.trans ⟨fun all => ⟨constructs, all⟩, fun both => both.2⟩
        | error failure =>
            rw [result] at constructs
            have unfinished : ¬ graph.Constructs components instantiate ports (.ok ()) ⟨process, node⟩ := by
              intro done
              cases constructs_unique constructs done
            constructor
            · cases failure with
              | error kind text =>
                  refine iff_of_true (.error kind text) ⟨?_, fun done => absurd done unfinished⟩
                  intro text broken
                  cases constructs_unique constructs broken
              | panicked text =>
                  exact iff_of_false (fun answers => answers text rfl) fun both => both.1 text constructs
            · refine iff_of_false ?_ fun both => unfinished both.1
              rintro ⟨rest, done⟩
              cases done
      · rw [failed]
        constructor
        · exact iff_of_true (.error kind text) ⟨fun text => never _, fun done => absurd done (never _)⟩
        · refine iff_of_false ?_ fun both => never _ both.1
          rintro ⟨rest, done⟩
          cases done

/-! The whole of `Runtime::start`. -/

/-- All channels. -/
def connect (graph : Graph) (ports : AllPorts) : Except StartFailure AllPorts := do
  let (ports, iips) ← connectEdges 0 graph.edges ports (Graph.iipsPerTarget graph.edges ∅)
  let ports ← connectIips 0 iips.pairs ports
  let ports ← connectInports graph.inName graph.inports.entries ports
  connectOutports graph.outName graph.outports.entries ports

/-- Up to the set-up of the nodes: what was bound, and what the handlers of the graph
inports and outports are left with. -/
def wire (graph : Graph) (components : List ComponentInfo) (instantiate : String → ProcPorts → Except StartFailure Unit) :
    Except StartFailure (AllPorts × AllPorts) := do
  graph.checkSources components
  graph.checkTargets components
  let ports ← graph.preparePorts
  let ports ← graph.connect ports
  let rest ← graph.setUpAll components instantiate graph.nodes.entries ports
  return (ports, rest)

theorem start_eq_wire (graph : Graph) (components : List ComponentInfo)
    (instantiate : String → ProcPorts → Except StartFailure Unit) :
    graph.start components instantiate = (graph.wire components instantiate >>= fun wired => do
      graph.setUpBoundary wired.2
      return wired.1) := by
  simp only [start, wire, connect, bind_assoc, pure_bind]

theorem iipsPerTarget_empty (target : GraphNodeSpec) :
    ((Graph.iipsPerTarget graph.edges ∅).lookup target).getD [] = graph.iipsFor target := by
  rw [iipsPerTarget_lookup, AList.lookup_empty]
  exact List.nil_append _

/-- The IIPs that get a channel of their own. -/
theorem mem_leaveIips {target : GraphNodeSpec} {iip : String} :
    (target, iip) ∈ (leaveIips graph.edges (Graph.iipsPerTarget graph.edges ∅)).pairs ↔
      (∃ edge ∈ graph.edges, edge.data = some iip ∧ edge.target = target) ∧
        ∀ edge ∈ graph.edges, edge.data = none → edge.target ≠ target := by
  rw [leaveIips_pairs, List.mem_filter, (iipsPerTarget_pairs graph.edges ∅).mem_iff]
  apply and_congr
  · simp [HashMap.pairs, HashMap.pairsOf, List.mem_filterMap]
  · simp

theorem connect_expects (graph : Graph) :
    Expects (graph.preparePorts >>= graph.connect) graph.Sound fun ports => ∀ name, name ∈ ports ↔ graph.Known name := by
  have stages : Expects (graph.preparePorts >>= graph.connect)
      (((graph.inports.entries ≠ [] → graph.inName ∉ graph.nodes) ∧
          (graph.outports.entries ≠ [] → graph.outName ∉ graph.nodes)) ∧
        (∀ edge ∈ graph.edges, edge.data = none → (graph.iipsFor edge.target).length ≤ PROCESSEDGE_BUFSIZE ∧
          graph.Known edge.target.process ∧ graph.Known edge.source.process) ∧
        (∀ pair ∈ (leaveIips graph.edges (Graph.iipsPerTarget graph.edges ∅)).pairs, graph.Known pair.1.process) ∧
        (∀ entry ∈ graph.inports.entries, graph.Known entry.2.process ∧ graph.Known graph.inName) ∧
        ∀ entry ∈ graph.outports.entries, graph.Known graph.outName ∧ graph.Known entry.2.process)
      fun ports => ∀ name, name ∈ ports ↔ graph.Known name := by
    apply (preparePorts_expects graph).bind
    intro ports known
    apply ((connectEdges_expects 0 graph.edges ports (Graph.iipsPerTarget graph.edges ∅)).congr
      (by simp only [Connects, iipsPerTarget_empty, known])).withResult.bind
    intro next connected
    apply ((connectIips_expects 0 next.2.pairs next.1).congr
      (by simp only [(connectEdges_grows connected.1).2, connected.2, known])).bind
    intro bound sameBound
    apply ((connectInports_expects graph.inName graph.inports.entries bound).congr
      (by simp only [sameBound, connected.2, known])).bind
    intro fed sameFed
    apply ((connectOutports_expects graph.outName graph.outports.entries fed).congr
      (by simp only [sameFed, sameBound, connected.2, known])).weaken
    intro last sameLast name
    rw [sameLast, sameFed, sameBound, connected.2, known]
  apply stages.congr
  constructor
  · intro needs
    obtain ⟨⟨inFree, outFree⟩, edges, iips, inports, outports⟩ := needs
    have targets : ∀ edge ∈ graph.edges, graph.Known edge.target.process := by
      intro edge member
      cases data : edge.data with
      | none => exact (edges edge member data).2.1
      | some iip =>
          by_cases taken : ∃ plain ∈ graph.edges, plain.data = none ∧ plain.target = edge.target
          · obtain ⟨plain, memberPlain, none, same⟩ := taken
            rw [← same]
            exact (edges plain memberPlain none).2.1
          · exact iips (edge.target, iip) (mem_leaveIips.mpr ⟨⟨edge, member, data, rfl⟩,
              fun plain memberPlain none same => taken ⟨plain, memberPlain, none, same⟩⟩)
    exact ⟨inFree, outFree, targets, fun edge member plain => (edges edge member plain).2.2,
      fun edge member plain => (edges edge member plain).1, fun port member => (inports port member).1,
      fun port member => (outports port member).2⟩
  · intro sound
    refine ⟨⟨sound.inFree, sound.outFree⟩, ?_, ?_, ?_, ?_⟩
    · intro edge member plain
      exact ⟨sound.iips edge member plain, sound.targets edge member, sound.sources edge member plain⟩
    · intro pair member
      obtain ⟨⟨edge, memberEdge, _, same⟩, _⟩ := mem_leaveIips.mp member
      rw [← same]
      exact sound.targets edge memberEdge
    · intro entry member
      exact ⟨sound.inports entry member, .inr (.inl ⟨List.ne_nil_of_mem member, rfl⟩)⟩
    · intro entry member
      exact ⟨.inr (.inr ⟨List.ne_nil_of_mem member, rfl⟩), sound.outports entry member⟩

theorem setUpAll_keys {nodes : List (Sigma fun _ : String => GraphNode)} {ports rest : AllPorts}
    (done : graph.setUpAll components instantiate nodes ports = .ok rest) (name : String) :
    name ∈ rest ↔ name ∈ ports ∧ name ∉ nodes.keys := by
  induction nodes generalizing ports with
  | nil =>
      cases done
      simp
  | cons entry later ih =>
      obtain ⟨process, node⟩ := entry
      rw [setUpAll] at done
      split at done
      · cases done
      · next bound found =>
          obtain ⟨⟨⟩, _, done⟩ := Except.bind_ok done
          rw [ih done, AList.mem_erase, List.keys_cons, List.mem_cons]
          tauto

theorem setUpAll_lookup {nodes : List (Sigma fun _ : String => GraphNode)} {ports rest : AllPorts}
    (done : graph.setUpAll components instantiate nodes ports = .ok rest) {name : String} (absent : name ∉ nodes.keys) :
    rest.lookup name = ports.lookup name := by
  induction nodes generalizing ports with
  | nil =>
      cases done
      rfl
  | cons entry later ih =>
      obtain ⟨process, node⟩ := entry
      rw [List.keys_cons, List.mem_cons, not_or] at absent
      rw [setUpAll] at done
      split at done
      · cases done
      · obtain ⟨⟨⟩, _, done⟩ := Except.bind_ok done
        rw [ih done absent.2, HashMap.lookup_erase_ite, if_neg absent.1]

section
variable (graph : Graph) (components : List ComponentInfo)
  (instantiate : String → ProcPorts → Except StartFailure Unit)

/-- All channels of the graph, by the processes they are bound at. -/
def channels : Except StartFailure AllPorts := graph.preparePorts >>= graph.connect

/-- The graph is refused for a clash at a node, or else it is sound and no constructor panics. -/
def Startable : Prop :=
  match graph.sourceClash components, graph.targetClash components with
  | some clash, _ => clash.process ∈ graph.nodes
  | none, some clash => clash.process ∈ graph.nodes
  | none, none => graph.Sound ∧ ∀ ports, graph.channels = .ok ports →
      graph.Constructible components instantiate ports graph.nodes.entries

/-- Whatever starts at the handler of the graph inports, starts at a port of its own. -/
def SingleSinks : Prop :=
  graph.inports.entries ≠ [] → ∀ port, toAsciiUppercase port = port →
    (graph.edgesFrom graph.inName port).length + graph.inports.entries.keys.count port +
      (graph.exportsFrom graph.inName port).length ≤ 1

/-- Nothing is refused before the threads are spawned. -/
def ComesToThreads : Prop :=
  graph.sourceClash components = none ∧ graph.targetClash components = none ∧ ∃ ports, graph.channels = .ok ports ∧
    (∀ entry ∈ graph.nodes.entries, graph.Constructs components instantiate ports (.ok ()) entry) ∧
    graph.SingleSinks

end

theorem channels_known {ports : AllPorts} (connected : graph.channels = .ok ports) :
    graph.Sound ∧ ∀ name, name ∈ ports ↔ graph.Known name := by
  rcases connect_expects graph with ⟨sound, value, here, known⟩ | ⟨_, text, failed⟩
  · cases connected.symm.trans here
    exact ⟨sound, known⟩
  · cases connected.symm.trans failed

theorem setUpNodes {ports : AllPorts} (known : ∀ name, name ∈ ports ↔ graph.Known name) :
    (Answers (graph.setUpAll components instantiate graph.nodes.entries ports) ↔
        graph.Constructible components instantiate ports graph.nodes.entries) ∧
      ((∃ rest, graph.setUpAll components instantiate graph.nodes.entries ports = .ok rest) ↔
        ∀ entry ∈ graph.nodes.entries, graph.Constructs components instantiate ports (.ok ()) entry) :=
  setUpAll_cases graph graph.nodes.nodupKeys (fun name member => (known name).mpr (.inl member)) fun _ _ => rfl

theorem wire_of_clear (sources : graph.sourceClash components = none) (targets : graph.targetClash components = none) :
    graph.wire components instantiate = graph.channels >>= fun ports =>
      graph.setUpAll components instantiate graph.nodes.entries ports >>= fun rest => .ok (ports, rest) := by
  unfold wire checkSources checkTargets
  rw [checkEndpoints_eq, checkEndpoints_eq]
  unfold sourceClash at sources
  unfold targetClash at targets
  simp only [sources, targets]
  unfold channels
  rw [bind_assoc]
  rfl

theorem wire_answers_iff : Answers (graph.wire components instantiate) ↔ graph.Startable components instantiate := by
  cases source : graph.sourceClash components with
  | some clash =>
      unfold wire Startable checkSources
      rw [checkEndpoints_eq, source]
      unfold sourceClash at source
      simp only [source]
      split
      · next present => exact iff_of_true (.error _ _) present
      · next absent => exact iff_of_false (fun answers => answers _ rfl) absent
  | none =>
      cases target : graph.targetClash components with
      | some clash =>
          unfold wire Startable checkSources checkTargets
          rw [checkEndpoints_eq, checkEndpoints_eq, source, target]
          unfold sourceClash at source
          unfold targetClash at target
          simp only [source, target]
          split
          · next present => exact iff_of_true (.error _ _) present
          · next absent => exact iff_of_false (fun answers => answers _ rfl) absent
      | none =>
          rw [wire_of_clear source target]
          unfold Startable
          rw [source, target]
          rcases connect_expects graph with ⟨sound, ports, connected, known⟩ | ⟨unsound, text, failed⟩
          · have connected : graph.channels = .ok ports := connected
            have nodes := (@setUpNodes graph components instantiate ports known).1
            have all : (∀ other, graph.channels = .ok other →
                graph.Constructible components instantiate other graph.nodes.entries) ↔
                  graph.Constructible components instantiate ports graph.nodes.entries := by
              constructor
              · exact fun every => every ports connected
              · intro holds other same
                cases connected.symm.trans same
                exact holds
            dsimp only
            rw [all, and_iff_right sound, ← nodes, connected]
            constructor
            · intro answers text failed
              apply answers text
              change (graph.setUpAll components instantiate graph.nodes.entries ports >>= _) = _
              rw [failed]
              rfl
            · exact fun answers => answers.bind fun rest _ => .ok _
          · have failed : graph.channels = .error (.panicked text) := failed
            rw [failed]
            exact iff_of_false (fun answers => answers text rfl) fun both => unsound both.1

/-- How far a start comes that comes to the boundary. -/
theorem wire_ok {bound rest : AllPorts} (wired : graph.wire components instantiate = .ok (bound, rest)) :
    graph.sourceClash components = none ∧ graph.targetClash components = none ∧ graph.channels = .ok bound ∧
      graph.setUpAll components instantiate graph.nodes.entries bound = .ok rest := by
  obtain ⟨⟨⟩, sources, later⟩ := Except.bind_ok wired
  obtain ⟨⟨⟩, targets, later⟩ := Except.bind_ok later
  rw [← bind_assoc] at later
  obtain ⟨ports, connected, later⟩ := Except.bind_ok later
  obtain ⟨left, done, same⟩ := Except.bind_ok later
  cases same
  refine ⟨?_, ?_, connected, done⟩
  · unfold checkSources at sources
    rw [checkEndpoints_eq] at sources
    unfold sourceClash
    split at sources
    · assumption
    · split at sources <;> cases sources
  · unfold checkTargets at targets
    rw [checkEndpoints_eq] at targets
    unfold targetClash
    split at targets
    · assumption
    · split at targets <;> cases targets

theorem wire_rest {bound rest : AllPorts} (wired : graph.wire components instantiate = .ok (bound, rest)) (name : String) :
    name ∈ rest ↔ (graph.inports.entries ≠ [] ∧ name = graph.inName) ∨
      (graph.outports.entries ≠ [] ∧ name = graph.outName) := by
  obtain ⟨_, _, connected, done⟩ := wire_ok wired
  obtain ⟨sound, known⟩ := channels_known connected
  rw [setUpAll_keys done, known]
  constructor
  · rintro ⟨node | handler, notNode⟩
    · exact absurd node notNode
    · exact handler
  · rintro (⟨exports, rfl⟩ | ⟨exports, rfl⟩)
    · exact ⟨.inr (.inl ⟨exports, rfl⟩), sound.inFree exports⟩
    · exact ⟨.inr (.inr ⟨exports, rfl⟩), sound.outFree exports⟩

/-- The set-up of the nodes leaves the handlers of the graph inports and outports only. -/
theorem nothing_left {bound rest : AllPorts} (wired : graph.wire components instantiate = .ok (bound, rest)) :
    (AList.erase graph.outName (AList.erase graph.inName rest)).entries = [] := by
  apply List.eq_nil_iff_forall_not_mem.mpr
  intro entry member
  have present : entry.1 ∈ AList.erase graph.outName (AList.erase graph.inName rest) :=
    List.mem_keys_of_mem member
  obtain ⟨notOut, present⟩ := AList.mem_erase.mp present
  obtain ⟨notIn, present⟩ := AList.mem_erase.mp present
  rcases (wire_rest wired entry.1).mp present with ⟨_, handler⟩ | ⟨_, handler⟩
  · exact notIn handler
  · exact notOut handler

theorem hasNul_append (left right : String) : hasNul (left ++ right) = (hasNul left || hasNul right) := by
  simp [hasNul, String.toList_append]

section
variable {ports : AllPorts} {handler : ProcPorts} {key : String}

/-- What is bound for the handler of the graph inports. -/
theorem handler_sinks (connected : graph.channels = .ok ports) (exports : graph.inports.entries ≠ [])
    (found : ports.lookup graph.inName = some handler) (key : String) :
    (handler.outports.values key).map ProcessEdgeSink.origin = edgeSinks graph.inName key 0 graph.edges ++
      inportSinks graph.inName graph.inName key graph.inports.entries ++
        outportSinks graph.inName key graph.outports.entries := by
  obtain ⟨prepared, prepares, connected⟩ := Except.bind_ok connected
  have start : prepared.lookup graph.inName = some .default := by
    unfold preparePorts at prepares
    obtain ⟨middle, first, second⟩ := Except.bind_ok prepares
    apply (prepare_ok second _).1
    unfold prepare at first
    rw [if_neg (by simpa using exports)] at first
    split at first
    · cases first
    · cases first
      rw [HashMap.lookup_insert_ite, if_pos rfl]
  unfold connect at connected
  obtain ⟨⟨edged, left⟩, edges, connected⟩ := Except.bind_ok connected
  obtain ⟨iipped, iips, connected⟩ := Except.bind_ok connected
  obtain ⟨inported, inports, outports⟩ := Except.bind_ok connected
  obtain ⟨bound, looked, grown⟩ := (((connectEdges_grows edges).1.trans (connectIips_grows iips)).trans
    (connectInports_grows inports)).trans (connectOutports_grows outports) graph.inName .default start
  cases found.symm.trans looked
  have sinks := (grown key).2
  dsimp only at sinks
  rw [sinks, List.append_nil]
  rfl

theorem inportSinks_length (inName key : String) (exports : List (Sigma fun _ : String => GraphPort)) :
    (inportSinks inName inName key exports).length = exports.keys.count key := by
  induction exports with
  | nil => rfl
  | cons entry rest ih =>
      unfold inportSinks only at ih ⊢
      rw [List.flatMap_cons, List.length_append, ih, List.keys_cons, List.count_cons]
      by_cases here : entry.1 = key
      · simp [here, Nat.add_comm]
      · simp [here]

theorem handler_length (connected : graph.channels = .ok ports) (exports : graph.inports.entries ≠ [])
    (found : ports.lookup graph.inName = some handler) (upper : toAsciiUppercase key = key) :
    (handler.outports.values key).length = (graph.edgesFrom graph.inName key).length +
      graph.inports.entries.keys.count key + (graph.exportsFrom graph.inName key).length := by
  have edges := @edgeSinks_origins graph.inName key 0 graph.edges
  have outports := @outportSinks_eq graph.inName key graph.outports.entries
  rw [upper] at edges outports
  rw [← List.length_map ProcessEdgeSink.origin, handler_sinks connected exports found, List.length_append,
    List.length_append, edges, List.length_map,
    zipIdx_filter_length graph.edges 0 fun edge => edge.data.isNone && edge.source.isAt graph.inName key,
    inportSinks_length, outports, List.length_map]
  rfl

/-- A port in mixed case has the sink of a graph inport only. -/
theorem handler_mixed (connected : graph.channels = .ok ports) (exports : graph.inports.entries ≠ [])
    (found : ports.lookup graph.inName = some handler) (mixed : toAsciiUppercase key ≠ key) :
    (handler.outports.values key).length ≤ 1 := by
  have outports : outportSinks graph.inName key graph.outports.entries = [] :=
    List.flatMap_eq_nil_iff.mpr fun entry _ => only_of_not_upper mixed _ _ _
  rw [← List.length_map ProcessEdgeSink.origin, handler_sinks connected exports found, edgeSinks_of_not_upper mixed,
    outports, List.append_nil, List.nil_append, inportSinks_length]
  exact List.nodup_iff_count_le_one.mp graph.inports.nodupKeys key

theorem singleSinks_iff (connected : graph.channels = .ok ports) (exports : graph.inports.entries ≠ [])
    (found : ports.lookup graph.inName = some handler) :
    handler.outports.all (fun entry => (handler.outports.values entry.1).length == 1) = true ↔ graph.SingleSinks := by
  rw [List.all_eq_true]
  constructor
  · intro all _ port upper
    rw [← handler_length connected exports found upper]
    cases sinks : handler.outports.values port with
    | nil => exact Nat.zero_le 1
    | cons sink rest =>
        have bound : (port, sink) ∈ handler.outports := MultiMap.mem_values.mp (by rw [sinks]; exact List.mem_cons_self)
        have one := all _ bound
        rw [beq_iff_eq, sinks] at one
        exact one.le
  · intro single entry member
    have some : 0 < (handler.outports.values entry.1).length :=
      List.length_pos_of_mem (MultiMap.mem_values.mpr member)
    have most : (handler.outports.values entry.1).length ≤ 1 := by
      by_cases upper : toAsciiUppercase entry.1 = entry.1
      · rw [handler_length connected exports found upper]
        exact single exports entry.1 upper
      · exact handler_mixed connected exports found upper
    rw [beq_iff_eq]
    omega

end

/-- What becomes of the handlers of the graph inports and outports. -/
theorem setUpBoundary_cases {bound rest : AllPorts} (wired : graph.wire components instantiate = .ok (bound, rest)) :
    (¬ graph.SingleSinks ∧ ∃ kind text, graph.setUpBoundary rest = .error (.error kind text)) ∨
      (graph.SingleSinks ∧ ((hasNul graph.name = true ∧ ∃ text, graph.setUpBoundary rest = .error (.panicked text)) ∨
        graph.setUpBoundary rest = .ok ())) := by
  obtain ⟨_, _, connected, done⟩ := wire_ok wired
  obtain ⟨sound, known⟩ := channels_known connected
  have single : ((rest.lookup graph.inName).getD .default).outports.all (fun entry =>
      (((rest.lookup graph.inName).getD .default).outports.values entry.1).length == 1) = true ↔ graph.SingleSinks := by
    by_cases exports : graph.inports.entries = []
    · have absent : graph.inName ∉ rest := by
        rw [wire_rest wired]
        simp [exports, (inName_ne_outName graph).symm]
      rw [AList.lookup_eq_none.mpr absent]
      simp [SingleSinks, exports, ProcPorts.default]
    · rw [setUpAll_lookup done (sound.inFree exports)]
      obtain ⟨handler, found⟩ := Option.isSome_iff_exists.mp (AList.lookup_isSome.mpr
        ((known graph.inName).mpr (.inr (.inl ⟨exports, rfl⟩))))
      rw [found]
      exact singleSinks_iff connected exports found
  dsimp only [setUpBoundary]
  split
  · next all =>
      refine .inr ⟨single.mp all, ?_⟩
      rw [nothing_left wired]
      cases nul : hasNul graph.name with
      | true =>
          by_cases exports : graph.outName ∈ AList.erase graph.inName rest
          · refine .inl ⟨rfl, "thread name may not contain interior null bytes", ?_⟩
            rw [if_pos exports]
            simp only [spawn, outName, hasNul_append, nul, Bool.true_or]
            rfl
          · rw [if_neg exports]
            exact .inr rfl
      | false =>
          right
          split
          · simp only [spawn, outName, hasNul_append, nul, Bool.false_or]
            rfl
          · rfl
  · next some => exact .inl ⟨mt single.mpr some, _, _, rfl⟩

theorem comesToThreads_iff : graph.ComesToThreads components instantiate ↔
    ∃ bound rest, graph.wire components instantiate = .ok (bound, rest) ∧ graph.SingleSinks := by
  constructor
  · rintro ⟨sources, targets, ports, connected, constructs, single⟩
    obtain ⟨_, known⟩ := channels_known connected
    obtain ⟨rest, done⟩ := (setUpNodes known).2.mpr constructs
    refine ⟨ports, rest, ?_, single⟩
    rw [wire_of_clear sources targets, connected]
    change (graph.setUpAll components instantiate graph.nodes.entries ports >>= _) = _
    rw [done]
    rfl
  · rintro ⟨bound, rest, wired, single⟩
    obtain ⟨sources, targets, connected, done⟩ := wire_ok wired
    obtain ⟨_, known⟩ := channels_known connected
    exact ⟨sources, targets, bound, connected, (setUpNodes known).2.mp ⟨rest, done⟩, single⟩

end Graph

end Flowd
