import Flowd.Runtime.Relock
import Flowd.Server.State

namespace Flowd.Server

/-! The operations of the runtime on the state of the server. -/

/-- Why a thread never answers: an `expect` has failed, or it waits for its own lock. -/
inductive Halt where
  | panicked (text : String)
  | deadlocked
deriving DecidableEq, Repr

/-- Which threads outlive their grace period in `Runtime::stop`. -/
structure Late where
  schedulers : List String
  boundary : List String
  watchdog : Bool
deriving DecidableEq

inductive RuntimePacketEvent where
  | connect
  | beginGroup
  | data
  | endGroup
  | disconnect
deriving DecidableEq, Repr

structure RuntimePacketRequestPayload where
  port : String
  event : RuntimePacketEvent
  typ : Option String
  schema : Option String
  graph : String
  payload : Option String
  secret : Option String

namespace Runtime

variable (runtime : Runtime)

/-- The names of the threads that `Runtime::stop` fails to join, without the schedulers'. -/
def timedOut (late : Late) (watchdogAllExited : Bool) : List String :=
  (runtime.boundaryThreads.filterKeys late.boundary.contains).entries.map Sigma.fst ++
    if runtime.watchdogThread.isSome && !watchdogAllExited && late.watchdog then ["watchdog"] else []

/-- `Runtime::stop`, with its error.  `watchdogAllExited` is set if the watchdog itself
calls; it then drops its own handle. -/
def stop (late : Late) (watchdogAllExited : Bool) : Runtime × Option (ErrorKind × String) :=
  let timedOut := runtime.timedOut late watchdogAllExited
  let joined : Runtime :=
    { runtime with
      watchdogChannel := none
      schedulerThreads := runtime.schedulerThreads.filterKeys late.schedulers.contains
      boundaryThreads := runtime.boundaryThreads.filterKeys late.boundary.contains
      watchdogThread := if watchdogAllExited || !late.watchdog then none else runtime.watchdogThread }
  if timedOut.isEmpty then
    ({ joined with
      traceSender := none
      status := { runtime.status with graph := runtime.graph, started := watchdogAllExited, running := false } }, none)
  else
    ({ joined with status := { runtime.status with graph := runtime.graph, started := true, running := true } },
      some (.timedOut, "network stop incomplete, timed-out threads still running: " ++ ", ".intercalate timedOut))

/-- A thread other than a scheduler's outlives its grace period. -/
def TimesOut (late : Late) (watchdogAllExited : Bool) : Prop :=
  (∃ name ∈ late.boundary, name ∈ runtime.boundaryThreads) ∨
    (watchdogAllExited = false ∧ late.watchdog = true ∧ runtime.watchdogThread ≠ none)

variable {runtime}

theorem timedOut_eq_nil_iff {late : Late} {watchdogAllExited : Bool} :
    runtime.timedOut late watchdogAllExited = [] ↔ ¬ runtime.TimesOut late watchdogAllExited := by
  unfold timedOut TimesOut
  rw [List.append_eq_nil_iff, not_or]
  apply and_congr
  · rw [List.map_eq_nil_iff, List.eq_nil_iff_forall_not_mem]
    constructor
    · intro none found
      obtain ⟨name, tooLate, tracked⟩ := found
      obtain ⟨entry, member, same⟩ := List.mem_map.mp tracked
      subst same
      exact none entry (List.mem_filter.mpr ⟨member, List.contains_iff_mem.mpr tooLate⟩)
    · intro none entry member
      obtain ⟨tracked, tooLate⟩ := List.mem_filter.mp member
      exact none ⟨entry.1, List.contains_iff_mem.mp tooLate, List.mem_keys_of_mem tracked⟩
  · cases watchdogAllExited with
    | true => simp
    | false =>
        cases late.watchdog with
        | true => simp [Option.isSome_iff_ne_none]
        | false => simp

/-- What `Runtime::stop` says of the network. -/
theorem stop_status (runtime : Runtime) (late : Late) (watchdogAllExited : Bool) :
    (runtime.TimesOut late watchdogAllExited ∧ (runtime.stop late watchdogAllExited).2 ≠ none ∧
        (runtime.stop late watchdogAllExited).1.status.running = true ∧
        (runtime.stop late watchdogAllExited).1.status.graph = runtime.graph) ∨
      (¬ runtime.TimesOut late watchdogAllExited ∧ (runtime.stop late watchdogAllExited).2 = none ∧
        (runtime.stop late watchdogAllExited).1.status.running = false) := by
  unfold stop
  cases timedOut : runtime.timedOut late watchdogAllExited with
  | nil => exact .inr ⟨timedOut_eq_nil_iff.mp timedOut, rfl, rfl⟩
  | cons name rest =>
      have timesOut : runtime.TimesOut late watchdogAllExited := by
        by_contra none
        rw [timedOut_eq_nil_iff.mpr none] at timedOut
        cases timedOut
      exact .inl ⟨timesOut, Option.some_ne_none _, rfl, rfl⟩

/-- Which threads `Runtime::stop` keeps track of. -/
theorem stop_threads (runtime : Runtime) (late : Late) (watchdogAllExited : Bool) :
    (runtime.stop late watchdogAllExited).1.schedulerThreads =
        runtime.schedulerThreads.filterKeys late.schedulers.contains ∧
      (runtime.stop late watchdogAllExited).1.boundaryThreads =
        runtime.boundaryThreads.filterKeys late.boundary.contains ∧
      (runtime.stop late watchdogAllExited).1.watchdogThread =
        if watchdogAllExited || !late.watchdog then none else runtime.watchdogThread := by
  unfold stop
  cases runtime.timedOut late watchdogAllExited with
  | nil => exact ⟨rfl, rfl, rfl⟩
  | cons name rest => exact ⟨rfl, rfl, rfl⟩

theorem stop_graphs (runtime : Runtime) (late : Late) (watchdogAllExited : Bool) :
    (runtime.stop late watchdogAllExited).1.graphs = runtime.graphs := by
  unfold stop
  cases runtime.timedOut late watchdogAllExited with
  | nil => rfl
  | cons name rest => rfl

theorem stop_schedulers (runtime : Runtime) (late : Late) (watchdogAllExited : Bool) :
    (runtime.stop late watchdogAllExited).1.schedulers = runtime.schedulers := by
  unfold stop
  cases runtime.timedOut late watchdogAllExited with
  | nil => rfl
  | cons name rest => rfl

variable (runtime)

def missing (graph : String) : ErrorKind × String := (.notFound, "Graph '" ++ graph ++ "' not found")

/-- What `debug_mode` and `set_debug_edges` begin with. -/
def pointAt (graph : String) : Except (ErrorKind × String) Runtime :=
  if (runtime.graphs.getGraph graph).isNone then .error (missing graph)
  else .ok { runtime with graph, status := { runtime.status with graph } }

def debugMode (graph : String) (mode : Bool) : Except (ErrorKind × String) Runtime := do
  let runtime ← runtime.pointAt graph
  return { runtime with status := { runtime.status with debug := some mode } }

def setDebugEdges (graph : String) (edges : List GraphEdgeSpec) : Except (ErrorKind × String) Runtime := do
  let runtime ← runtime.pointAt graph
  return { runtime with debugEdges := AList.insert graph edges runtime.debugEdges }

/-- The check that the operations on the trace begin with. -/
def isCurrent (graph : String) : Except (ErrorKind × String) Unit :=
  if graph ≠ runtime.graph then
    .error (.notFound, "Graph '" ++ graph ++ "' not found. Current graph is '" ++ runtime.graph ++
      "'. Multi-graph support not yet implemented.")
  else .ok ()

def startTrace (graph : String) : Except (ErrorKind × String) Runtime := do
  runtime.isCurrent graph
  if runtime.tracing then .error (.alreadyExists, "tracing already started") else .ok { runtime with tracing := true }

def stopTrace (graph : String) : Except (ErrorKind × String) Runtime := do
  runtime.isCurrent graph
  if runtime.tracing then .ok { runtime with tracing := false } else .error (.notFound, "tracing not started")

end Runtime

/-- The channel that was made for something. -/
def channelOf (bound : AllPorts) (origin : Origin) : Ring FbpMessage :=
  match (bound.entries.flatMap fun entry => entry.2.inports.map Prod.snd).find? (·.origin = origin) with
  | some source => source.ring
  | none => .empty PROCESSEDGE_BUFSIZE

/-- The graph inports, by their public names. -/
def graphInports (graph : Graph) (bound rest : AllPorts) : Option (HashMap String (Ring FbpMessage)) :=
  (rest.lookup graph.inName).map fun handler =>
    handler.outports.foldl (fun inports entry => AList.insert entry.1 (channelOf bound entry.2.origin) inports) ∅

namespace FlowdServer

variable (server : FlowdServer) (instantiate : String → ProcPorts → Except StartFailure Unit)

/-- What `Runtime::start` changes before it looks at the graph. -/
def begin (name : String) : FlowdServer :=
  { server with
    attempts := server.attempts + 1
    runtime := { server.runtime with
      schedulers := AList.insert name server.attempts server.runtime.schedulers
      traceSender := some server.attempts } }

/-- What it changes after everything is connected. -/
def launch (graph : Graph) (inports : Option (HashMap String (Ring FbpMessage))) : FlowdServer :=
  { server with
    inports
    started := some graph.name
    runtime := { server.runtime with
      boundaryThreads :=
        if graph.outports.entries.isEmpty then server.runtime.boundaryThreads
        else AList.insert graph.outName (server.attempts - 1) server.runtime.boundaryThreads
      schedulerThreads := AList.insert graph.name (server.attempts - 1) server.runtime.schedulerThreads
      watchdogThread := some (server.attempts - 1)
      watchdogChannel := some (server.attempts - 1)
      status := { server.runtime.status with graph := server.runtime.graph, started := true, running := true } } }

/-- `Runtime::start`, with its error.  Of the two checks of `setUpBoundary` only the
first can fail (`Graph.nothing_left`). -/
def start (graph : Stored.Graph) : Except Halt (FlowdServer × Option (ErrorKind × String)) :=
  let network := graph.network
  if server.runtime.refusesStart then
    .ok (server, some (.alreadyExists, "network already running or previous shutdown incomplete"))
  else if Guards.relocks [] (network.startSteps server.components instantiate server.runtime.tracing false
      (fun _ => false) fun _ => false) then .error .deadlocked
  else
    let begun := server.begin network.name
    match network.wire server.components instantiate with
    | .error (.panicked text) => .error (.panicked text)
    | .error (.error kind text) => .ok (begun, some (kind, text))
    | .ok (bound, rest) =>
        match network.setUpBoundary rest with
        | .error (.panicked text) => .error (.panicked text)
        | .error (.error kind text) => .ok ({ begun with inports := none }, some (kind, text))
        | .ok _ =>
            match spawn ("scheduler-" ++ network.name) with
            | .error _ => .error (.panicked "thread name may not contain interior null bytes")
            | .ok _ => .ok (begun.launch network (graphInports network bound rest), none)

/-- `Runtime::packet`.  A full inport is tried again for a while. -/
def packet (payload : RuntimePacketRequestPayload) : Except Halt (FlowdServer × Option (ErrorKind × String)) :=
  match server.runtime.validateSecret payload.secret payload.graph with
  | .error failure => .ok (server, some failure)
  | .ok _ =>
      match payload.payload with
      | none => .error (.panicked "graph inport runtime:packet is missing payload")
      | some text =>
          match server.inports with
          | none => .ok (server, some (.notFound, "no graph inports exist"))
          | some inports =>
              match inports.lookup payload.port with
              | none => .ok (server, some (.notFound, "graph inport with that name not found"))
              | some ring =>
                  match ring.push (.text text) with
                  | some next => .ok ({ server with inports := some (AList.insert payload.port next inports) }, none)
                  | none => .ok (server, some (.timedOut, "graph inport " ++ payload.port ++ " backpressured for 2s"))

variable {server instantiate}

/-- Either `Runtime::start` is refused, or it fails with a part of its work done, or it
succeeds. -/
theorem start_cases {graph : Stored.Graph} {next : FlowdServer} {failure : Option (ErrorKind × String)}
    (started : server.start instantiate graph = .ok (next, failure)) :
    (server.runtime.refusesStart = true ∧ next = server ∧ failure ≠ none) ∨
      (server.runtime.refusesStart = false ∧ failure ≠ none ∧
        (∀ ports, graph.network.start server.components instantiate ≠ .ok ports) ∧
        ∃ inports, next = { server.begin graph.network.name with inports }) ∨
      (server.runtime.refusesStart = false ∧ failure = none ∧
        (∃ ports, graph.network.start server.components instantiate = .ok ports) ∧
        ∃ inports, next = (server.begin graph.network.name).launch graph.network inports) := by
  unfold start at started
  dsimp only at started
  cases refused : server.runtime.refusesStart with
  | true =>
      rw [refused, if_pos rfl] at started
      cases started
      exact .inl ⟨rfl, rfl, Option.some_ne_none _⟩
  | false =>
      rw [refused, if_neg Bool.false_ne_true] at started
      split at started
      · cases started
      · split at started
        · cases started
        · next kind text failed =>
            cases started
            refine .inr (.inl ⟨rfl, Option.some_ne_none _, ?_, _, rfl⟩)
            rw [Graph.start_eq_wire, failed]
            intro ports impossible
            cases impossible
        · next bound rest wired =>
            split at started
            · cases started
            · next kind text failed =>
                cases started
                refine .inr (.inl ⟨rfl, Option.some_ne_none _, ?_, none, rfl⟩)
                rw [Graph.start_eq_wire, wired]
                change ∀ ports, (graph.network.setUpBoundary rest >>= fun _ => Except.ok bound) ≠ .ok ports
                rw [failed]
                intro ports impossible
                cases impossible
            · next done =>
                split at started
                · cases started
                · cases started
                  refine .inr (.inr ⟨rfl, rfl, ⟨bound, ?_⟩, _, rfl⟩)
                  rw [Graph.start_eq_wire, wired]
                  change (graph.network.setUpBoundary rest >>= fun _ => Except.ok bound) = .ok bound
                  rw [done]
                  rfl

end FlowdServer

end Flowd.Server
