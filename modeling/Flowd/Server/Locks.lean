import Flowd.Lib.Transition
import Flowd.Server.Handlers

namespace Flowd.Server

open Guards Transition

/-! Which locks the handlers have when they answer.

A guard that is made in the scrutinee of a match lives to the end of the match, and one
in an argument to the end of the statement.
-/

/-- Which clients are lost when something is broadcast; they are removed without a panic. -/
structure Lost where
  edges : Nat → Bool
  packets : String → Bool
  status : Bool

/-- `validate_secret` and `validate_secret_readonly`. -/
def secretSteps : List (Step Lock) := [.share .runtime, .unshare .runtime]

/-- The same for the current graph, whose name is looked up in the argument. -/
def currentSteps : List (Step Lock) := [.share .runtime, .share .runtime, .unshare .runtime, .unshare .runtime]

/-- A match on what an operation of the runtime returns. -/
def runtimeSteps : List (Step Lock) := [.lock .runtime, .send, .unlock .runtime]

def sends (responses : List Response) : List (Step Lock) := responses.map fun _ => .send

namespace FlowdServer

variable (server : FlowdServer) (instantiate : String → ProcPorts → Except StartFailure Unit) (lost : Lost)

/-- `get_graph_by_name` -/
def findSteps (graph : String) : List (Step Lock) :=
  [.share .runtime, .unshare .runtime] ++
    if (server.runtime.graphs.getGraph graph).isSome then []
    else [.share (.graph server.graph), .unshare (.graph server.graph)]

/-- The steps of `guarded` and `addressed`. -/
def guardedSteps (check : List (Step Lock)) (secret : Option String) (graph : String) (required : AccessLevel)
    (refusal steps : List (Step Lock)) : List (Step Lock) :=
  check ++ if server.forbids secret graph required then refusal else steps

def addressedSteps (secret : Option String) (graph : String) (required : AccessLevel)
    (steps : GraphRef → List (Step Lock)) : List (Step Lock) :=
  server.guardedSteps secretSteps secret graph required [.send] <|
    server.findSteps graph ++
      match server.getGraphByName graph with
      | none => [.send]
      | some target => steps target

def getruntimeSteps (secret : Option String) : List (Step Lock) :=
  [.share .runtime, .unshare .runtime] ++
    (if (secret.getD "").isEmpty then [] else [.share .runtime, .unshare .runtime]) ++
    [.send, .share .runtime, .unshare .runtime, .send, .share .runtime, .share (.graph server.graph), .send,
      .unshare (.graph server.graph), .unshare .runtime]

def listSteps (client : Option String) : List (Step Lock) :=
  [.share .components] ++ (server.components.map fun _ => .send) ++ [.unshare .components, .send, .share .runtime] ++
    (if client = some server.runtime.graph then [.send] else []) ++ [.unshare .runtime]

/-- A network that has just been started is looked at again, to see whether it has
finished. -/
def getstatusSteps (graph : String) : List (Step Lock) :=
  let status := server.runtime.status
  let looks := if status.graph = graph ∧ status.started = true ∧ status.running = true then 11 else 1
  ((List.range looks).flatMap fun _ => [.share .runtime, .unshare .runtime]) ++ [.send]

def persistSteps : List (Step Lock) :=
  [.share .runtime, .share (.graph server.graph)] ++
    (server.runtime.graphs.graphs.entries.flatMap fun entry => [.share (.graph entry.2), .unshare (.graph entry.2)]) ++
    [.send, .unshare (.graph server.graph), .unshare .runtime]

/-- The source of the graph is also written to the log. -/
def getsourceSteps (name : String) : List (Step Lock) :=
  let graph := server.graph
  [.share (.graph graph), .unshare (.graph graph)] ++
    if (server.objects graph).properties.name = name then
      [.lock (.graph graph), .unlock (.graph graph), .lock (.graph graph), .send, .unlock (.graph graph)]
    else [.share .components, .send, .unshare .components]

def clearSteps : List (Step Lock) :=
  [.lock .runtime, .lock (.graph server.graph), .send, .unlock (.graph server.graph), .unlock .runtime]

def editSteps (target : GraphRef) (request : Stored.GraphRequest) : List (Step Lock) :=
  [.lock (.graph target), .unlock (.graph target)] ++
    match server.perform instantiate (.edit target request) with
    | .ok (_, responses) => sends responses
    | .error _ => []

/-- A handler of a `graph:*` request. -/
def graphSteps (secret : Option String) : Stored.GraphRequest → List (Step Lock)
  | .clear id _ _ _ _ _ => server.guardedSteps secretSteps secret id .readWrite [.send] server.clearSteps
  | request =>
      match request.graph with
      | none => [.send]
      | some graph =>
          server.addressedSteps secret graph .readWrite fun target => server.editSteps instantiate target request

/-- Of a packet that finds its inport full, the first try. -/
def packetSteps (payload : RuntimePacketRequestPayload) : List (Step Lock) :=
  match server.runtime.validateSecret payload.secret payload.graph with
  | .error _ => [.share .runtime, .unshare .runtime, .send]
  | .ok _ =>
      if payload.payload.isNone then [.share .runtime]
      else [.share .runtime, .lock .graphInout, .unlock .graphInout, .unshare .runtime, .send]

/-- After a start that fails or succeeds, the guards are dropped before the answer. -/
def startSteps (graph : String) (target : GraphRef) : List (Step Lock) :=
  [.share (.graph target), .share .components, .lock .runtime] ++
    (server.objects target).network.startSteps server.components instantiate server.runtime.tracing
      server.runtime.refusesStart lost.edges lost.packets ++
    match server.perform instantiate (.start graph target) with
    | .error _ => []
    | .ok (_, responses) =>
        [.unlock .runtime, .unshare .components, .unshare (.graph target)] ++
          match responses with
          | [.started _] => [.share .runtime, .send] ++ broadcastToClients lost.status ++ [.unshare .runtime]
          | responses => sends responses

def stopSteps (graph : String) : List (Step Lock) :=
  [.share .runtime, .unshare .runtime] ++
    if server.runtime.status.graph ≠ graph then [.send]
    else
      [.share .runtime, .unshare .runtime, .lock .runtime, .unlock .runtime, .send] ++ broadcastToClients lost.status

/-- What the handler of a request does with the locks. -/
def lockSteps : Request → List (Step Lock)
  | .getruntime secret =>
      server.guardedSteps currentSteps secret server.runtime.graph .readOnly [.send] (server.getruntimeSteps secret)
  | .list secret client =>
      server.guardedSteps currentSteps secret server.runtime.graph .readOnly [.send] (server.listSteps client)
  | .getstatus secret graph => server.addressedSteps secret graph .readOnly fun _ => server.getstatusSteps graph
  | .persist secret =>
      server.guardedSteps currentSteps secret server.runtime.graph .readWrite [.share .runtime, .send, .unshare .runtime]
        server.persistSteps
  | .getsource secret name =>
      server.guardedSteps currentSteps secret server.runtime.graph .readOnly [.send] (server.getsourceSteps name)
  | .graph secret request => server.graphSteps instantiate secret request
  | .traceStart secret graph _ => server.guardedSteps secretSteps secret graph .readWrite [.send] runtimeSteps
  | .traceStop secret graph => server.guardedSteps secretSteps secret graph .readWrite [.send] runtimeSteps
  | .traceClear secret graph => server.guardedSteps secretSteps secret graph .readWrite [.send] runtimeSteps
  | .traceDump secret graph => server.guardedSteps secretSteps secret graph .readOnly [.send] runtimeSteps
  | .packet payload =>
      server.guardedSteps currentSteps payload.secret server.runtime.graph .readWrite [.send] (server.packetSteps payload)
  | .packetsent => [.send]
  | .edges secret graph _ => server.addressedSteps secret graph .readWrite fun _ => runtimeSteps
  | .start secret graph =>
      server.addressedSteps secret graph .readWrite fun target => server.startSteps instantiate lost graph target
  | .stop secret graph => server.addressedSteps secret graph .readWrite fun _ => server.stopSteps lost graph
  | .debug secret graph _ => server.addressedSteps secret graph .readWrite fun _ => runtimeSteps

/-- The request is let through to an answer under a lock. -/
def AnswersLocked : Request → Prop
  | .graph secret (.clear id _ _ _ _ _) => server.forbids secret id .readWrite = false
  | .getsource secret name =>
      server.forbids secret server.runtime.graph .readOnly = false ∧ (server.objects server.graph).properties.name = name
  | .traceStart secret graph _ | .traceStop secret graph | .traceClear secret graph =>
      server.forbids secret graph .readWrite = false
  | .traceDump secret graph => server.forbids secret graph .readOnly = false
  | .edges secret graph _ | .debug secret graph _ =>
      server.forbids secret graph .readWrite = false ∧ server.getGraphByName graph ≠ none
  | _ => False

variable {server instantiate lost} {check refusal steps : List (Step Lock)} {secret : Option String} {graph : String}
  {required : AccessLevel}

theorem guarded_silent (free : Open check) (refused : heldAtSends [] refusal = []) (rest : heldAtSends [] steps = []) :
    heldAtSends [] (server.guardedSteps check secret graph required refusal steps) = [] := by
  unfold guardedSteps
  rw [heldAtSends_append, free.released, free.sends]
  split
  · exact refused
  · exact rest

theorem findSteps_quiet (server : FlowdServer) (graph : String) : Quiet (server.findSteps graph) := by
  apply (Quiet.share Lock.runtime).append
  split
  · exact .nil
  · exact .share _

theorem addressed_silent {steps : GraphRef → List (Step Lock)} (rest : ∀ target, heldAtSends [] (steps target) = []) :
    heldAtSends [] (server.addressedSteps secret graph required steps) = [] := by
  apply guarded_silent ⟨rfl, rfl⟩ rfl
  rw [heldAtSends_append, (server.findSteps_quiet graph).balanced, (server.findSteps_quiet graph).silent]
  split
  · rfl
  · next target _ => exact rest target

theorem broadcast_quiet (lost : Bool) : Quiet (broadcastToClients lost) := by
  apply (Quiet.lock Lock.graphInout).append
  cases lost with
  | true => exact .lock Lock.graphInout
  | false => exact .nil

theorem connectSteps_quiet (tracing : Bool) (lost : Nat → Bool) (index : Nat) (edges : List GraphEdge) (ports : AllPorts)
    (iips : HashMap GraphNodeSpec (List String)) : Quiet (connectSteps tracing lost index edges ports iips) := by
  induction edges generalizing index ports iips with
  | nil => exact .nil
  | cons edge rest ih =>
      rw [connectSteps]
      split
      · exact ih _ _ _
      · split
        · exact .nil
        · apply Quiet.append
          · cases tracing with
            | true => exact broadcast_quiet _
            | false => exact .nil
          · exact ih _ _ _

/-- `Runtime::start` answers nobody. -/
theorem runtimeStart_quiet (graph : Flowd.Graph) (components : List ComponentInfo)
    (instantiate : String → ProcPorts → Except StartFailure Unit) (tracing refused : Bool) (lost : Nat → Bool)
    (lostPackets : String → Bool) :
    Quiet (graph.startSteps components instantiate tracing refused lost lostPackets) := by
  unfold Graph.startSteps
  split
  · exact .nil
  · apply Quiet.append
    · apply Quiet.locked
      split
      · exact .nil
      · exact connectSteps_quiet _ _ _ _ _ _
    · split
      · exact .nil
      · apply Quiet.flatMap
        intro entry
        exact (Quiet.lock Lock.graphInout).append (broadcast_quiet _)

theorem getruntimeSteps_open (server : FlowdServer) (secret : Option String) : Open (server.getruntimeSteps secret) := by
  apply Open.append
  · apply (Quiet.share Lock.runtime).open.append
    split
    · exact ⟨rfl, rfl⟩
    · exact (Quiet.share Lock.runtime).open
  · exact ⟨rfl, rfl⟩

theorem listSteps_open (server : FlowdServer) (client : Option String) : Open (server.listSteps client) := by
  have shared : Open [Step.share Lock.components] := ⟨rfl, rfl⟩
  apply Open.append
  · apply ((shared.append (.sends_map _)).append ⟨rfl, rfl⟩).append
    split
    · exact ⟨rfl, rfl⟩
    · exact ⟨rfl, rfl⟩
  · exact ⟨rfl, rfl⟩

theorem getstatusSteps_open (server : FlowdServer) (graph : String) : Open (server.getstatusSteps graph) := by
  apply Open.append
  · exact (Quiet.flatMap fun _ => .share Lock.runtime).open
  · exact ⟨rfl, rfl⟩

theorem persistSteps_open (server : FlowdServer) : Open server.persistSteps := by
  have shared : Open [Step.share Lock.runtime, .share (.graph server.graph)] := ⟨rfl, rfl⟩
  have graphs : Open (server.runtime.graphs.graphs.entries.flatMap fun entry =>
      [Step.share (Lock.graph entry.2), .unshare (.graph entry.2)]) :=
    Quiet.open (Quiet.flatMap fun (entry : Sigma fun _ : String => GraphRef) => .share (Lock.graph entry.2))
  exact (shared.append graphs).append ⟨rfl, rfl⟩

theorem editSteps_open (server : FlowdServer) (target : GraphRef) (request : Stored.GraphRequest) :
    Open (server.editSteps instantiate target request) := by
  apply (Quiet.lock (Lock.graph target)).open.append
  split
  · exact .sends_map _
  · exact ⟨rfl, rfl⟩

theorem packetSteps_open (server : FlowdServer) (payload : RuntimePacketRequestPayload) :
    Open (server.packetSteps payload) := by
  unfold packetSteps
  split
  · exact ⟨rfl, rfl⟩
  · split
    · exact ⟨rfl, rfl⟩
    · exact ⟨rfl, rfl⟩

theorem stopSteps_open (server : FlowdServer) (graph : String) : Open (server.stopSteps lost graph) := by
  apply (Quiet.share Lock.runtime).open.append
  split
  · exact ⟨rfl, rfl⟩
  · apply Open.append ⟨rfl, rfl⟩ (broadcast_quiet lost.status).open

/-- A start that never returns sends nothing; the others have dropped their guards. -/
theorem startSteps_silent (server : FlowdServer) (graph : String) (target : GraphRef) :
    heldAtSends [] (server.startSteps instantiate lost graph target) = [] := by
  have start := runtimeStart_quiet (server.objects target).network server.components instantiate server.runtime.tracing
    server.runtime.refusesStart lost.edges lost.packets
  unfold startSteps
  rw [heldAtSends_append, heldAtSends_append, held_append, start.balanced, start.silent]
  split
  · rfl
  · rw [heldAtSends_append]
    change heldAtSends [] _ = []
    split
    · have shared : Open [Step.share Lock.runtime, .send] := ⟨rfl, rfl⟩
      exact ((shared.append (broadcast_quiet lost.status).open).append ⟨rfl, rfl⟩).sends
    · exact (Open.sends_map _).sends

theorem getsourceSteps_held (server : FlowdServer) (name : String) :
    heldAtSends [] (server.getsourceSteps name) =
      if (server.objects server.graph).properties.name = name then [.graph server.graph] else [] := by
  unfold getsourceSteps
  dsimp only
  by_cases own : (server.objects server.graph).properties.name = name
  · rw [if_pos own, if_pos own]
    simp [heldAtSends]
  · rw [if_neg own, if_neg own]
    rfl

theorem secretSteps_open : Open secretSteps := ⟨rfl, rfl⟩

theorem currentSteps_open : Open currentSteps := ⟨rfl, rfl⟩

/-- The locks that a handler has at one of its sends, where it has any. -/
theorem guarded_held_iff (free : Open check) (refused : heldAtSends [] refusal = []) :
    heldAtSends [] (server.guardedSteps check secret graph required refusal steps) = [] ↔
      ¬ (server.forbids secret graph required = false ∧ heldAtSends [] steps ≠ []) := by
  unfold guardedSteps
  rw [heldAtSends_append, free.released, free.sends]
  cases server.forbids secret graph required with
  | true => simpa using refused
  | false => simp

theorem addressed_held_iff {steps : List (Step Lock)} (held : heldAtSends [] steps ≠ []) :
    heldAtSends [] (server.addressedSteps secret graph required fun _ => steps) = [] ↔
      ¬ (server.forbids secret graph required = false ∧ server.getGraphByName graph ≠ none) := by
  unfold addressedSteps
  rw [guarded_held_iff secretSteps_open rfl, heldAtSends_append, (server.findSteps_quiet graph).balanced,
    (server.findSteps_quiet graph).silent]
  cases server.getGraphByName graph with
  | none => simp [heldAtSends]
  | some target => simp [held]

/-- A handler has a lock for itself alone when it answers just if the request is let through to
such an answer. -/
theorem lockSteps_held_iff (server : FlowdServer) (instantiate : String → ProcPorts → Except StartFailure Unit)
    (lost : Lost) (request : Request) :
    heldAtSends [] (server.lockSteps instantiate lost request) = [] ↔ ¬ server.AnswersLocked request := by
  have runtime : heldAtSends [] runtimeSteps ≠ [] := List.cons_ne_nil _ _
  cases request with
  | getruntime secret =>
      exact iff_of_true (guarded_silent currentSteps_open rfl (server.getruntimeSteps_open secret).sends) not_false
  | list secret client =>
      exact iff_of_true (guarded_silent currentSteps_open rfl (server.listSteps_open client).sends) not_false
  | getstatus secret graph =>
      exact iff_of_true (addressed_silent fun _ => (server.getstatusSteps_open graph).sends) not_false
  | persist secret =>
      exact iff_of_true (guarded_silent currentSteps_open rfl server.persistSteps_open.sends) not_false
  | getsource secret name =>
      rw [lockSteps, guarded_held_iff currentSteps_open rfl, getsourceSteps_held]
      simp [AnswersLocked]
  | graph secret request =>
      cases request with
      | clear id label library main icon description =>
          rw [lockSteps, graphSteps, guarded_held_iff secretSteps_open rfl]
          simp [AnswersLocked, clearSteps, heldAtSends]
      | addnode id component metadata name icon =>
          cases name with
          | none => exact iff_of_true rfl not_false
          | some name => exact iff_of_true (addressed_silent fun _ => (server.editSteps_open _ _).sends) not_false
      | _ => exact iff_of_true (addressed_silent fun _ => (server.editSteps_open _ _).sends) not_false
  | traceStart secret graph size =>
      rw [lockSteps, guarded_held_iff secretSteps_open rfl, and_iff_left runtime]
      rfl
  | traceStop secret graph =>
      rw [lockSteps, guarded_held_iff secretSteps_open rfl, and_iff_left runtime]
      rfl
  | traceClear secret graph =>
      rw [lockSteps, guarded_held_iff secretSteps_open rfl, and_iff_left runtime]
      rfl
  | traceDump secret graph =>
      rw [lockSteps, guarded_held_iff secretSteps_open rfl, and_iff_left runtime]
      rfl
  | packet payload =>
      exact iff_of_true (guarded_silent currentSteps_open rfl (server.packetSteps_open payload).sends) not_false
  | packetsent => exact iff_of_true rfl not_false
  | edges secret graph edges => exact addressed_held_iff runtime
  | start secret graph =>
      exact iff_of_true (addressed_silent fun target => server.startSteps_silent graph target) not_false
  | stop secret graph => exact iff_of_true (addressed_silent fun _ => (server.stopSteps_open graph).sends) not_false
  | debug secret graph enable => exact addressed_held_iff runtime

/-- The handlers one after the other, and what they leave poisoned.  `failing` counts the sends
before the one that fails; what a request changes, it changes before it answers. -/
def clients (instantiate : String → ProcPorts → Except StartFailure Unit) :
    Machine FlowdServer (Request × Lost × Nat) Lock where
  step := fun server (request, lost, failing) =>
    match server.handle instantiate request with
    | .ok (next, _) => some (next, poisoned [] (server.lockSteps instantiate lost request) failing)
    | .error _ => none

theorem poisoned_nil_iff {steps : List (Step Lock)} :
    (∀ failing, poisoned [] steps failing = []) ↔ heldAtSends [] steps = [] := by
  simp only [List.eq_nil_iff_forall_not_mem, ← mem_poisoned_iff]
  constructor
  · intro clean name found
    obtain ⟨failing, member⟩ := found
    exact clean failing name member
  · intro clean failing name member
    exact clean name ⟨failing, member⟩

/-- As long as no request is let through to an answer under a lock, clients that disconnect poison
no lock; a single request can do so only if it is. -/
theorem no_lock_poisoned {first last : FlowdServer} {trace : List Lock}
    (run : (clients instantiate).Run (fun server move => ¬ server.AnswersLocked move.1) first trace last) :
    trace = [] ∧ ∀ (server : FlowdServer) lost request,
      (∀ failing, poisoned [] (server.lockSteps instantiate lost request) failing = []) ↔
        ¬ server.AnswersLocked request := by
  have each : ∀ (server : FlowdServer) lost request,
      (∀ failing, poisoned [] (server.lockSteps instantiate lost request) failing = []) ↔
        ¬ server.AnswersLocked request := by
    intro server lost request
    rw [poisoned_nil_iff, lockSteps_held_iff]
  refine ⟨?_, each⟩
  induction run with
  | nil => rfl
  | snoc earlier allowed done ih =>
      next trace events server next move =>
      obtain ⟨request, lost, failing⟩ := move
      simp only [clients] at done
      split at done
      · cases done
        rw [ih, (each server lost request).mpr allowed failing]
        rfl
      · cases done

def nobodyLost : Lost := ⟨fun _ => false, fun _ => false, false⟩

theorem no_lock_poisoned_start :
    let start : Request × Lost × Nat := (.start none "main_graph", nobodyLost, 0)
    (clients fun _ _ => .ok ()).reported (load [] ∅ ∅ "main_graph") [start] = [] ∧
      ∀ (server : FlowdServer) lost request,
        (∀ failing, poisoned [] (server.lockSteps (fun _ _ => .ok ()) lost request) failing = []) ↔
          ¬ server.AnswersLocked request :=
  no_lock_poisoned ((clients fun _ _ => .ok ()).run_played ⟨not_false, trivial⟩ rfl)

/-- A client goes away before it is told that tracing has started; the next one finds the runtime
poisoned. -/
theorem runtime_poisoned :
    let server := load [] ∅ ∅ "main_graph"
    .runtime ∈ poisoned [] (server.lockSteps (fun _ _ => .ok ()) nobodyLost (.traceStart none "main_graph" 0)) 0 ∧
      .share .runtime ∈ server.lockSteps (fun _ _ => .ok ()) nobodyLost (.getstatus none "main_graph") := by
  decide

end FlowdServer

end Flowd.Server
