import Flowd.Lib.Transition
import Flowd.Server.Handlers

namespace Flowd.Server

/-! The server and its threads over time.

The runtime lock is the unit of atomicity: sections of handlers, the threads that
network:stop sends, and the watchdog take it in any order.
-/

open Transition

/-- `live` has the scheduler threads that have not ended, and `teardowns` the threads of
network:stop that have not taken the lock yet, by number. -/
structure Life where
  server : FlowdServer
  live : List Attempt
  teardowns : List Nat
  acknowledged : Nat

/-- `work` is a section whose checks were made earlier, in whatever state; `request` is a
whole handler that no other thread comes between. -/
inductive Move where
  | request (request : Request)
  | work (work : Section)
  | teardown (number : Nat) (late : Late)
  | watchdogStop (late : Late)
  | finish (attempt : Attempt)

inductive Event where
  /-- With the scheduler threads that are live afterwards. -/
  | started (attempt : Attempt) (live : List Attempt)
  | acknowledged (number : Nat)
  /-- What was told to stop, whether `Runtime::stop` returned `Ok`, and the scheduler threads
  that are live afterwards.  The watchdog has no number. -/
  | stopped (number : Option Nat) (attempts : List Attempt) (ok : Bool) (live : List Attempt)
deriving DecidableEq

namespace Life

variable (life : Life)

def fresh (server : FlowdServer) : Life := ⟨server, [], [], 0⟩

/-- What `Runtime::stop` signals. -/
def signalled (watchdogAllExited : Bool) : List Attempt :=
  let runtime := life.server.runtime
  runtime.schedulers.entries.map Sigma.snd ++ runtime.boundaryThreads.entries.map Sigma.snd ++
    if watchdogAllExited then [] else runtime.watchdogThread.toList

/-- Only a thread that is tracked and live can outlive its grace period. -/
def possible (late : Late) : Bool :=
  late.schedulers.all fun name =>
    match life.server.runtime.schedulerThreads.lookup name with
    | some attempt => life.live.contains attempt
    | none => false

/-- The threads that `Runtime::stop` joins have ended. -/
def joined (late : Late) : List Attempt :=
  life.live.filter fun attempt => !life.server.runtime.schedulerThreads.entries.any fun thread =>
    thread.2 == attempt && !late.schedulers.contains thread.1

/-- `Runtime::stop`. -/
def stop (number : Option Nat) (late : Late) (watchdogAllExited : Bool) : Option (Life × List Event) :=
  if life.possible late then
    let (runtime, failure) := life.server.runtime.stop late watchdogAllExited
    let live := life.joined late
    some ({ life with server := { life.server with runtime }, live },
      [.stopped number (life.signalled watchdogAllExited) failure.isNone live])
  else none

variable (instantiate : String → ProcPorts → Except StartFailure Unit)

/-- A failed `expect` of `Runtime::start`, or its deadlock, takes the runtime lock with it:
there is no next state. -/
def work (work : Section) : Option (Life × List Event) :=
  match life.server.perform instantiate work with
  | .error _ =>
      match work with
      | .start _ _ => none
      | _ => some (life, [])
  | .ok (server, responses) =>
      let next := { life with server }
      match work, responses with
      | .start _ _, [.started _] =>
          some ({ next with live := life.server.attempts :: life.live },
            [.started life.server.attempts (life.server.attempts :: life.live)])
      | .acknowledge _ true, _ =>
          some ({ next with teardowns := life.acknowledged :: life.teardowns, acknowledged := life.acknowledged + 1 },
            [.acknowledged life.acknowledged])
      | _, _ => some (next, [])

def step : Move → Option (Life × List Event)
  | .request request =>
      match life.server.plan request with
      | .answer _ => some (life, [])
      | .proceed work => life.work instantiate work
  | .work work => life.work instantiate work
  | .teardown number late =>
      if number ∈ life.teardowns then
        { life with teardowns := life.teardowns.erase number }.stop (some number) late false
      else none
  | .watchdogStop late => if life.server.runtime.watchdogThread.isSome then life.stop none late true else none
  | .finish attempt => some ({ life with live := life.live.erase attempt }, [])

def machine : Machine Life Move Event where
  step life move := life.step instantiate move

end Life

/-! What the sections leave alone. -/

/-- The threads and schedulers are the same. -/
structure SameThreads (before after : FlowdServer) : Prop where
  schedulers : after.runtime.schedulers = before.runtime.schedulers
  schedulerThreads : after.runtime.schedulerThreads = before.runtime.schedulerThreads
  boundaryThreads : after.runtime.boundaryThreads = before.runtime.boundaryThreads
  watchdogThread : after.runtime.watchdogThread = before.runtime.watchdogThread
  attempts : after.attempts = before.attempts
  started : after.started = before.started

/-- The graph that network:edges or network:debug points at. -/
def Section.pointsAt : Section → Option String
  | .edges graph _ => some graph
  | .debug graph _ => some graph
  | _ => none

/-- The section points at a graph that is registered. -/
def Section.Points (work : Section) (runtime : Runtime) (graph : String) : Prop :=
  work.pointsAt = some graph ∧ (runtime.graphs.getGraph graph).isSome = true

/-- What becomes of the status of the runtime, other than by a start. -/
def StatusChange (work : Section) (before after : Runtime) : Prop :=
  (∃ graph, work.Points before graph ∧ after.status.running = before.status.running ∧ after.status.graph = graph) ∨
    ((∀ graph, ¬ work.Points before graph) ∧ (after.status = before.status ∨ after.status.running = false))

variable {server next : FlowdServer} {instantiate : String → ProcPorts → Except StartFailure Unit}
  {responses : List Response} {work : Section}

theorem withRuntime_keeps {protocol : String} {result : Except (ErrorKind × String) Runtime} {response : Response}
    (done : (.ok (server.withRuntime protocol result response) : Except Halt (FlowdServer × List Response)) =
      .ok (next, responses))
    (same : ∀ runtime, result = .ok runtime →
      SameThreads server { server with runtime } ∧ StatusChange work server.runtime runtime)
    (failed : ∀ failure, result = .error failure → ∀ graph, ¬ work.Points server.runtime graph) :
    SameThreads server next ∧ StatusChange work server.runtime next.runtime := by
  cases result with
  | ok runtime =>
      cases done
      exact same runtime rfl
  | error failure =>
      cases done
      exact ⟨⟨rfl, rfl, rfl, rfl, rfl, rfl⟩, .inr ⟨failed failure rfl, .inl rfl⟩⟩

theorem isCurrent_keeps {α : Type} {graph : String} {next : Unit → Except (ErrorKind × String) α} {result : α}
    (done : (server.runtime.isCurrent graph >>= next) = .ok result) : next () = .ok result := by
  obtain ⟨⟨⟩, _, done⟩ := Except.bind_ok done
  exact done

theorem pointAt_keeps {runtime pointed : Runtime} {graph : String} (done : runtime.pointAt graph = .ok pointed) :
    (runtime.graphs.getGraph graph).isSome = true ∧
      pointed = { runtime with graph, status := { runtime.status with graph } } := by
  unfold Runtime.pointAt at done
  split at done
  · cases done
  · next registered =>
      cases done
      exact ⟨by simpa [Option.isSome_iff_ne_none] using registered, rfl⟩

theorem pointAt_fails {runtime : Runtime} {graph : String} {failure : ErrorKind × String}
    (failed : runtime.pointAt graph = .error failure) : (runtime.graphs.getGraph graph).isSome = false := by
  unfold Runtime.pointAt at failed
  split at failed
  · next missing => simpa using missing
  · cases failed

/-- Only a start has to do with threads. -/
theorem perform_keeps (done : server.perform instantiate work = .ok (next, responses))
    (plain : ∀ graph target, work ≠ .start graph target) :
    SameThreads server next ∧ StatusChange work server.runtime next.runtime := by
  have elsewhere : work.pointsAt = none → ∀ graph, ¬ work.Points server.runtime graph := by
    intro none graph points
    cases none.symm.trans points.1
  cases work with
  | edit target request =>
      simp only [FlowdServer.perform] at done
      split at done
      · cases done
        exact ⟨⟨rfl, rfl, rfl, rfl, rfl, rfl⟩, .inr ⟨elsewhere rfl, .inl rfl⟩⟩
      · cases done
  | clear id label library main icon description =>
      simp only [FlowdServer.perform, FlowdServer.clear] at done
      split at done
      · cases done
        exact ⟨⟨rfl, rfl, rfl, rfl, rfl, rfl⟩, .inr ⟨elsewhere rfl, .inl rfl⟩⟩
      · cases done
        exact ⟨⟨rfl, rfl, rfl, rfl, rfl, rfl⟩, .inr ⟨elsewhere rfl, .inl rfl⟩⟩
      · cases done
        exact ⟨⟨rfl, rfl, rfl, rfl, rfl, rfl⟩, .inr ⟨elsewhere rfl, .inl rfl⟩⟩
  | traceStart graph =>
      refine withRuntime_keeps done ?_ fun _ _ => elsewhere rfl
      intro runtime started
      have started := isCurrent_keeps started
      split at started
      · cases started
      · cases started
        exact ⟨⟨rfl, rfl, rfl, rfl, rfl, rfl⟩, .inr ⟨elsewhere rfl, .inl rfl⟩⟩
  | traceStop graph =>
      refine withRuntime_keeps done ?_ fun _ _ => elsewhere rfl
      intro runtime stopped
      have stopped := isCurrent_keeps stopped
      split at stopped
      · cases stopped
        exact ⟨⟨rfl, rfl, rfl, rfl, rfl, rfl⟩, .inr ⟨elsewhere rfl, .inl rfl⟩⟩
      · cases stopped
  | traceClear graph =>
      refine withRuntime_keeps done ?_ fun _ _ => elsewhere rfl
      intro runtime cleared
      cases current : server.runtime.isCurrent graph with
      | error failure =>
          rw [current] at cleared
          cases cleared
      | ok _ =>
          rw [current] at cleared
          cases cleared
          exact ⟨⟨rfl, rfl, rfl, rfl, rfl, rfl⟩, .inr ⟨elsewhere rfl, .inl rfl⟩⟩
  | traceDump graph =>
      refine withRuntime_keeps done ?_ fun _ _ => elsewhere rfl
      intro runtime dumped
      cases current : server.runtime.isCurrent graph with
      | error failure =>
          rw [current] at dumped
          cases dumped
      | ok _ =>
          rw [current] at dumped
          cases dumped
          exact ⟨⟨rfl, rfl, rfl, rfl, rfl, rfl⟩, .inr ⟨elsewhere rfl, .inl rfl⟩⟩
  | packet payload =>
      obtain ⟨⟨after, failure⟩, pushed, done⟩ := Except.bind_ok done
      have kept : SameThreads server after ∧ StatusChange (.packet payload) server.runtime after.runtime := by
        unfold FlowdServer.packet at pushed
        repeat' split at pushed
        all_goals cases pushed
        all_goals exact ⟨⟨rfl, rfl, rfl, rfl, rfl, rfl⟩, .inr ⟨elsewhere rfl, .inl rfl⟩⟩
      cases failure with
      | none =>
          cases done
          exact kept
      | some failure =>
          cases done
          exact kept
  | edges graph edges =>
      refine withRuntime_keeps done ?_ ?_
      · intro runtime pointed
        obtain ⟨middle, moved, pointed⟩ := Except.bind_ok pointed
        obtain ⟨registered, same⟩ := pointAt_keeps moved
        subst same
        cases pointed
        exact ⟨⟨rfl, rfl, rfl, rfl, rfl, rfl⟩, .inl ⟨graph, ⟨rfl, registered⟩, rfl, rfl⟩⟩
      · intro failure failed other points
        cases points.1
        cases moved : server.runtime.pointAt graph with
        | error reason => cases (pointAt_fails moved).symm.trans points.2
        | ok middle =>
            rw [Runtime.setDebugEdges, moved] at failed
            cases failed
  | start graph target => exact absurd rfl (plain graph target)
  | acknowledge graph teardown =>
      cases done
      exact ⟨⟨rfl, rfl, rfl, rfl, rfl, rfl⟩, .inr ⟨elsewhere rfl, .inr rfl⟩⟩
  | debug graph enable =>
      refine withRuntime_keeps done ?_ ?_
      · intro runtime pointed
        obtain ⟨middle, moved, pointed⟩ := Except.bind_ok pointed
        obtain ⟨registered, same⟩ := pointAt_keeps moved
        subst same
        cases pointed
        exact ⟨⟨rfl, rfl, rfl, rfl, rfl, rfl⟩, .inl ⟨graph, ⟨rfl, registered⟩, rfl, rfl⟩⟩
      · intro failure failed other points
        cases points.1
        cases moved : server.runtime.pointAt graph with
        | error reason => cases (pointAt_fails moved).symm.trans points.2
        | ok middle =>
            rw [Runtime.debugMode, moved] at failed
            cases failed

/-! What one move can do. -/

/-- The server of a start, once its graph is the current one. -/
def FlowdServer.pointed (server : FlowdServer) (graph : String) : FlowdServer :=
  { server with runtime := { server.runtime with graph } }

/-- Nothing keeps the graph from being started. -/
def FlowdServer.Starts (server : FlowdServer) (instantiate : String → ProcPorts → Except StartFailure Unit)
    (target : GraphRef) : Prop :=
  server.runtime.refusesStart = false ∧
    ∃ ports, (server.objects target).network.start server.components instantiate = .ok ports

namespace Life

variable {life after : Life} {events : List Event}

/-- A section other than a start. -/
structure Plain (work : Section) (life next : Life) (events : List Event) : Prop where
  threads : SameThreads life.server next.server
  status : StatusChange work life.server.runtime next.server.runtime
  live : next.live = life.live
  teardowns : (events = [] ∧ next.teardowns = life.teardowns ∧ next.acknowledged = life.acknowledged) ∨
    (events = [.acknowledged life.acknowledged] ∧ next.teardowns = life.acknowledged :: life.teardowns ∧
      next.acknowledged = life.acknowledged + 1)

/-- A start that is refused or fails: threads and status stay as they are. -/
structure FailedStart (life next : Life) (events : List Event) : Prop where
  boundaryThreads : next.server.runtime.boundaryThreads = life.server.runtime.boundaryThreads
  watchdogThread : next.server.runtime.watchdogThread = life.server.runtime.watchdogThread
  schedulerThreads : next.server.runtime.schedulerThreads = life.server.runtime.schedulerThreads
  status : next.server.runtime.status = life.server.runtime.status
  started : next.server.started = life.server.started
  live : next.live = life.live
  teardowns : next.teardowns = life.teardowns
  acknowledged : next.acknowledged = life.acknowledged
  events : events = []

/-- A start with success. -/
structure Launch (graph : String) (target : GraphRef) (life next : Life) (events : List Event) : Prop where
  server : ∃ inports, next.server = ((life.server.pointed graph).begin (life.server.objects target).network.name).launch
    (life.server.objects target).network inports
  live : next.live = life.server.attempts :: life.live
  teardowns : next.teardowns = life.teardowns
  acknowledged : next.acknowledged = life.acknowledged
  events : events = [.started life.server.attempts (life.server.attempts :: life.live)]

theorem plain_cases (done : life.work instantiate work = some (after, events))
    (plain : ∀ graph target, work ≠ .start graph target) : Plain work life after events := by
  unfold Life.work at done
  cases performed : life.server.perform instantiate work with
  | error halt =>
      rw [performed] at done
      dsimp only at done
      split at done
      · next graph target => exact absurd rfl (plain graph target)
      · cases done
        have elsewhere : ∀ graph, ¬ work.Points life.server.runtime graph := by
          intro graph points
          obtain ⟨points, _⟩ := points
          cases work with
          | edges => cases performed
          | debug => cases performed
          | _ => cases points
        exact ⟨⟨rfl, rfl, rfl, rfl, rfl, rfl⟩, .inr ⟨elsewhere, .inl rfl⟩, rfl, .inl ⟨rfl, rfl, rfl⟩⟩
  | ok result =>
      obtain ⟨server, responses⟩ := result
      obtain ⟨threads, status⟩ := perform_keeps performed plain
      rw [performed] at done
      dsimp only at done
      split at done
      · next graph target _ => exact absurd rfl (plain graph target)
      · cases done
        exact ⟨threads, status, rfl, .inr ⟨rfl, rfl, rfl⟩⟩
      · cases done
        exact ⟨threads, status, rfl, .inl ⟨rfl, rfl, rfl⟩⟩

theorem work_server (done : life.work instantiate work = some (after, events)) :
    after.server = life.server ∨ ∃ responses, life.server.perform instantiate work = .ok (after.server, responses) := by
  unfold Life.work at done
  split at done
  · split at done
    · cases done
    · cases done
      exact .inl rfl
  · next server responses performed =>
      refine .inr ⟨responses, ?_⟩
      rw [performed]
      dsimp only at done
      split at done
      · cases done
        rfl
      · cases done
        rfl
      · cases done
        rfl

theorem start_work_cases {graph : String} {target : GraphRef}
    (done : life.work instantiate (.start graph target) = some (after, events)) :
    (¬ life.server.Starts instantiate target ∧ FailedStart life after events) ∨
      (life.server.Starts instantiate target ∧ Launch graph target life after events) := by
  unfold Life.work at done
  cases performed : life.server.perform instantiate (.start graph target) with
  | error halt =>
      rw [performed] at done
      cases done
  | ok result =>
      rw [performed] at done
      obtain ⟨⟨server, failure⟩, started, answered⟩ := Except.bind_ok performed
      rcases FlowdServer.start_cases started with ⟨refused, same, failed⟩ | ⟨passes, failed, unwired, inports, same⟩ |
        ⟨passes, succeeded, wired, inports, same⟩
      · obtain ⟨problem, failed⟩ := Option.ne_none_iff_exists'.mp failed
        subst failed same
        cases answered
        cases done
        refine .inl ⟨?_, rfl, rfl, rfl, rfl, rfl, rfl, rfl, rfl, rfl⟩
        intro starts
        cases refused.symm.trans starts.1
      · obtain ⟨problem, failed⟩ := Option.ne_none_iff_exists'.mp failed
        subst failed same
        cases answered
        cases done
        refine .inl ⟨?_, rfl, rfl, rfl, rfl, rfl, rfl, rfl, rfl, rfl⟩
        intro starts
        obtain ⟨_, ports, wired⟩ := starts
        exact unwired ports wired
      · subst succeeded same
        cases answered
        cases done
        exact .inr ⟨⟨passes, wired⟩, ⟨inports, rfl⟩, rfl, rfl, rfl, rfl⟩

theorem stop_cases {number : Option Nat} {late : Late} {watchdogAllExited : Bool}
    (done : life.stop number late watchdogAllExited = some (after, events)) :
    life.possible late = true ∧
      after = { life with
        server := { life.server with runtime := (life.server.runtime.stop late watchdogAllExited).1 }
        live := life.joined late } ∧
      events = [.stopped number (life.signalled watchdogAllExited)
        (life.server.runtime.stop late watchdogAllExited).2.isNone (life.joined late)] := by
  unfold Life.stop at done
  split at done
  · next possible =>
      cases done
      exact ⟨possible, rfl, rfl⟩
  · cases done

/-- What a handler or a section is asked to do, if it is more than to answer. -/
def task (life : Life) : Move → Option Section
  | .request request =>
      match life.server.plan request with
      | .answer _ => none
      | .proceed work => some work
  | .work work => some work
  | _ => none

/-- A move is idle, a section, a stop, or the end of a scheduler thread. -/
theorem step_cases {move : Move} (done : life.step instantiate move = some (after, events)) :
    (life.task move = none ∧ (∃ request, move = .request request) ∧ after = life ∧ events = []) ∨
      (∃ work, life.task move = some work ∧ life.work instantiate work = some (after, events)) ∨
      (∃ number late, move = .teardown number late ∧ number ∈ life.teardowns ∧
        { life with teardowns := life.teardowns.erase number }.stop (some number) late false = some (after, events)) ∨
      (∃ late, move = .watchdogStop late ∧ life.stop none late true = some (after, events)) ∨
      (∃ attempt, move = .finish attempt ∧ after = { life with live := life.live.erase attempt } ∧ events = []) := by
  cases move with
  | request request =>
      rw [step] at done
      rw [task]
      split at done
      · cases done
        exact .inl ⟨rfl, ⟨request, rfl⟩, rfl, rfl⟩
      · next work _ => exact .inr (.inl ⟨work, rfl, done⟩)
  | work work => exact .inr (.inl ⟨work, rfl, done⟩)
  | teardown number late =>
      rw [step] at done
      split at done
      · next pending => exact .inr (.inr (.inl ⟨number, late, rfl, pending, done⟩))
      · cases done
  | watchdogStop late =>
      rw [step] at done
      split at done
      · exact .inr (.inr (.inr (.inl ⟨late, rfl, done⟩)))
      · cases done
  | finish attempt =>
      cases done
      exact .inr (.inr (.inr (.inr ⟨attempt, rfl, rfl, rfl⟩)))

/-- A server with two empty graphs. -/
def twoGraphs : FlowdServer :=
  load [] ∅ (AList.insert "main" (.new "main" "" "") (AList.singleton "other" (.new "other" "" ""))) "main"

def constructAny (_ : String) (_ : ProcPorts) : Except StartFailure Unit := .ok ()

end Life

end Flowd.Server
