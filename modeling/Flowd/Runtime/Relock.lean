import Flowd.Lib.Guards
import Flowd.Runtime.Expects

namespace Flowd

/-! What `Runtime::start` does with the lock on `graph_inout`. -/

open Guards

inductive Lock where
  | runtime
  | graph (object : Nat)
  | components
  | graphInout
deriving DecidableEq

/-- `broadcast_to_clients`.  If a client is lost, it is removed under the lock. -/
def broadcastToClients (lost : Bool) : List (Step Lock) :=
  [.lock .graphInout, .unlock .graphInout] ++ if lost then [.lock .graphInout, .unlock .graphInout] else []

/-- The packet tap is looked up first. -/
def sendRuntimePacket (lost : Bool) : List (Step Lock) :=
  [.lock .graphInout, .unlock .graphInout] ++ broadcastToClients lost

/-- `connectEdges` with what it does to the lock: with tracing each edge is announced
as soon as it is connected. -/
def connectSteps (tracing : Bool) (lost : Nat → Bool) : Nat → List GraphEdge → AllPorts →
    HashMap GraphNodeSpec (List String) → List (Step Lock)
  | _, [], _, _ => []
  | index, edge :: rest, ports, iips =>
      if edge.data.isSome then connectSteps tracing lost (index + 1) rest ports iips
      else
        match connectEdge index edge ports iips with
        | .error _ => []
        | .ok (ports, iips) =>
            (if tracing then broadcastToClients (lost index) else []) ++
              connectSteps tracing lost (index + 1) rest ports iips

namespace Graph

variable (graph : Graph) (components : List ComponentInfo)
  (instantiate : String → ProcPorts → Except StartFailure Unit)

/-- What comes before the loop over the edges. -/
def prelude : Except StartFailure AllPorts := do
  graph.checkSources components
  graph.checkTargets components
  graph.preparePorts

/-- The steps of `Runtime::start` on the lock of `graph_inout`.  `refused` is the check
for a running network.  The guard is dropped on every way out; only after a success
the graph inports are announced. -/
def startSteps (tracing refused : Bool) (lost : Nat → Bool) (lostPackets : String → Bool) : List (Step Lock) :=
  if refused then []
  else
    [.lock .graphInout] ++
      (match graph.prelude components with
        | .error _ => []
        | .ok ports => connectSteps tracing lost 0 graph.edges ports (Graph.iipsPerTarget graph.edges ∅)) ++
      [.unlock .graphInout] ++
      match graph.start components instantiate with
        | .error _ => []
        | .ok _ => graph.inports.entries.flatMap fun entry => sendRuntimePacket (lostPackets entry.1)

/-- The first edge that is no IIP, if it can be connected. -/
def FirstConnects : Prop :=
  ∃ edge, graph.edges.find? (fun edge => edge.data.isNone) = some edge ∧
    (graph.iipsFor edge.target).length ≤ PROCESSEDGE_BUFSIZE ∧ graph.Known edge.target.process ∧
      graph.Known edge.source.process

/-- No clash, and free names for the handlers. -/
def ReachesEdges : Prop :=
  graph.sourceClash components = none ∧ graph.targetClash components = none ∧
    (graph.inports.entries ≠ [] → graph.inName ∉ graph.nodes) ∧
    (graph.outports.entries ≠ [] → graph.outName ∉ graph.nodes)

end Graph

theorem connectSteps_silent (lost : Nat → Bool) (index : Nat) (edges : List GraphEdge) (ports : AllPorts)
    (iips : HashMap GraphNodeSpec (List String)) : connectSteps false lost index edges ports iips = [] := by
  induction edges generalizing index ports iips with
  | nil => rfl
  | cons edge rest ih =>
      rw [connectSteps, ih]
      split
      · rfl
      · split
        · rfl
        · exact ih _ _ _

/-- The thread, which has the lock, waits for it with the first connected edge. -/
theorem connectSteps_relocks (lost : Nat → Bool) (index : Nat) (edges : List GraphEdge) (ports : AllPorts)
    (iips : HashMap GraphNodeSpec (List String)) :
    relocks [Lock.graphInout] (connectSteps true lost index edges ports iips) = true ↔
      ∃ edge, edges.find? (fun edge => edge.data.isNone) = some edge ∧ Graph.Connects ports iips edge := by
  induction edges generalizing index with
  | nil => simp [connectSteps, relocks]
  | cons edge rest ih =>
      rw [connectSteps, List.find?_cons]
      cases data : edge.data with
      | some iip => simpa [data] using ih (index + 1)
      | none =>
          rcases Graph.connectEdge_expects index edge ports iips with ⟨connects, next, done, _⟩ | ⟨fails, text, failed⟩
          · simp [done, broadcastToClients, relocks, connects]
          · simp [failed, relocks, fails]

/-- Else the loop leaves the lock alone. -/
theorem connectSteps_nil {tracing : Bool} {lost : Nat → Bool} {index : Nat} {edges : List GraphEdge} {ports : AllPorts}
    {iips : HashMap GraphNodeSpec (List String)}
    (free : relocks [Lock.graphInout] (connectSteps tracing lost index edges ports iips) = false) :
    connectSteps tracing lost index edges ports iips = [] := by
  cases tracing with
  | false => exact connectSteps_silent lost index edges ports iips
  | true =>
      induction edges generalizing index with
      | nil => rfl
      | cons edge rest ih =>
          rw [connectSteps] at free ⊢
          split
          · next initial =>
              rw [if_pos initial] at free
              exact ih free
          · next plain =>
              rw [if_neg plain] at free
              split
              · rfl
              · next next connected =>
                  rw [connected] at free
                  simp [broadcastToClients, relocks] at free

namespace Graph

variable {graph : Graph} {components : List ComponentInfo}
  {instantiate : String → ProcPorts → Except StartFailure Unit}

theorem announcements_free (lostPackets : String → Bool) (entries : List (Sigma fun _ : String => GraphPort)) :
    relocks [] (entries.flatMap fun entry => sendRuntimePacket (lostPackets entry.1)) = false := by
  induction entries with
  | nil => rfl
  | cons entry rest ih =>
      rw [List.flatMap_cons, relocks_append]
      cases lost : lostPackets entry.1 with
      | true => simpa [sendRuntimePacket, broadcastToClients, relocks, held] using ih
      | false => simpa [sendRuntimePacket, broadcastToClients, relocks, held] using ih

theorem prelude_spec (graph : Graph) (components : List ComponentInfo) :
    (graph.ReachesEdges components ∧ ∃ ports, graph.prelude components = .ok ports ∧
        ∀ name, name ∈ ports ↔ graph.Known name) ∨
      (¬ graph.ReachesEdges components ∧ ∃ failure, graph.prelude components = .error failure) := by
  unfold prelude checkSources checkTargets ReachesEdges sourceClash targetClash
  rw [checkEndpoints_eq, checkEndpoints_eq]
  cases source : (repeats (fun edge => edge.data.isSome && edge.source.process.isEmpty) GraphEdge.source []
      graph.edges).find? (graph.isSingle components ComponentInfo.outPorts) with
  | some clash =>
      refine .inr ⟨fun reaches => (nomatch reaches.1), ?_⟩
      by_cases present : clash.process ∈ graph.nodes
      · simp only [if_pos present]
        exact ⟨_, rfl⟩
      · simp only [if_neg present]
        exact ⟨_, rfl⟩
  | none =>
      cases target : (repeats (fun edge => edge.data.isSome) GraphEdge.target [] graph.edges).find?
          (graph.isSingle components ComponentInfo.inPorts) with
      | some clash =>
          refine .inr ⟨fun reaches => (nomatch reaches.2.1), ?_⟩
          by_cases present : clash.process ∈ graph.nodes
          · simp only [if_pos present]
            exact ⟨_, rfl⟩
          · simp only [if_neg present]
            exact ⟨_, rfl⟩
      | none =>
          rcases preparePorts_expects graph with ⟨free, ports, done, known⟩ | ⟨taken, text, failed⟩
          · exact .inl ⟨⟨rfl, rfl, free⟩, ports, done, known⟩
          · exact .inr ⟨fun reaches => taken reaches.2.2, _, failed⟩

theorem connects_prepared {ports : AllPorts} (known : ∀ name, name ∈ ports ↔ graph.Known name) (edge : GraphEdge) :
    Connects ports (Graph.iipsPerTarget graph.edges ∅) edge ↔
      (graph.iipsFor edge.target).length ≤ PROCESSEDGE_BUFSIZE ∧ graph.Known edge.target.process ∧
        graph.Known edge.source.process := by
  rw [Connects, iipsPerTarget_empty, known, known]

/-- `Runtime::start` waits for its own lock just if tracing is on and it gets as far
as to connect an edge. -/
theorem start_relocks_iff (tracing refused : Bool) (lost : Nat → Bool) (lostPackets : String → Bool) :
    relocks [] (graph.startSteps components instantiate tracing refused lost lostPackets) = true ↔
      refused = false ∧ tracing = true ∧ graph.ReachesEdges components ∧ graph.FirstConnects := by
  cases refused with
  | true => simp [startSteps, relocks]
  | false =>
      have rest : relocks [] (match graph.start components instantiate with
          | .error _ => []
          | .ok _ => graph.inports.entries.flatMap fun entry => sendRuntimePacket (lostPackets entry.1)) = false := by
        split
        · rfl
        · exact announcements_free lostPackets _
      -- If the loop does not take the lock, neither does the rest while it is held.
      have loop : ∀ ports, relocks [] ([.lock .graphInout] ++
            connectSteps tracing lost 0 graph.edges ports (Graph.iipsPerTarget graph.edges ∅) ++ [.unlock .graphInout] ++
            match graph.start components instantiate with
              | .error _ => []
              | .ok _ => graph.inports.entries.flatMap fun entry => sendRuntimePacket (lostPackets entry.1)) =
          relocks [Lock.graphInout] (connectSteps tracing lost 0 graph.edges ports (Graph.iipsPerTarget graph.edges ∅)) := by
        intro ports
        cases again : relocks [Lock.graphInout]
            (connectSteps tracing lost 0 graph.edges ports (Graph.iipsPerTarget graph.edges ∅)) with
        | true => simp [relocks_append, relocks, again]
        | false => simpa [connectSteps_nil again, relocks, held] using rest
      rcases prelude_spec graph components with
        ⟨reaches, ports, done, known⟩ | ⟨misses, failure, failed⟩
      · simp only [startSteps, done, loop, Bool.false_eq_true, if_false]
        cases tracing with
        | false => simp [connectSteps_silent, relocks]
        | true =>
            rw [connectSteps_relocks]
            simp only [connects_prepared known, reaches, true_and]
            rfl
      · simp only [startSteps, failed, Bool.false_eq_true, if_false]
        simpa [relocks, held, misses] using rest

/-- Else it never takes the lock while it has it. -/
theorem start_free_iff (graph : Graph) (components : List ComponentInfo)
    (instantiate : String → ProcPorts → Except StartFailure Unit) (tracing refused : Bool) (lost : Nat → Bool)
    (lostPackets : String → Bool) :
    relocks [] (graph.startSteps components instantiate tracing refused lost lostPackets) = false ↔
      refused = true ∨ tracing = false ∨ ¬ graph.ReachesEdges components ∨ ¬ graph.FirstConnects := by
  rw [← Bool.not_eq_true, start_relocks_iff]
  cases refused with
  | true => simp
  | false =>
      cases tracing with
      | true => simp [imp_iff_not_or]
      | false => simp

/-- Two nodes and an edge. -/
def pair : Graph where
  name := "main"
  inports := ∅
  outports := ∅
  nodes := AList.insert "A" ⟨"Repeat"⟩ (AList.singleton "B" ⟨"Repeat"⟩)
  edges := [⟨⟨"A", "OUT"⟩, none, ⟨"B", "IN"⟩⟩]

theorem start_waits_for_itself :
    relocks [] (pair.startSteps [⟨"Repeat", [⟨"IN", false⟩], [⟨"OUT", false⟩]⟩] (fun _ _ => .ok ()) true false
      (fun _ => false) fun _ => false) = true := by
  decide

end Graph

end Flowd
