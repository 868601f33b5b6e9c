import Flowd.Lib.Transition
import Flowd.Scheduler.State

namespace Flowd

/-! `Scheduler::run` as one thread among others.

The run thread holds the state mutex in the program points `Pc.holdsLock` names;
every other operation on the state takes the mutex for its whole length and is one
move, possible only while the run thread does not hold it.  `running` is an atomic
that `stop` writes without the mutex.  Components are arbitrary: each return from
`process()` is a move that carries whatever the component chose.
-/

/-- A return from `process()`: the component afterwards, the budget it left in the
context, whether it took the fired timer, and how long the call ran. -/
structure Reply (κ : Type) where
  component : κ
  remainingBudget : Nat
  tookTimer : Bool
  elapsed : Nat
  returned : Returned

inductive Pc (κ : Type) where
  | top
  | draining
  | testing
  | choosing
  | parked (deadline : Option Instant)
  | notified
  | retesting
  | popping
  | entering (nodeId : NodeId) (component : κ) (context : NodeContext)
  | processing (nodeId : NodeId) (component : κ) (context : NodeContext) (outcome : ExecutionOutcome)
  | checkingIn (nodeId : NodeId) (component : κ) (context : NodeContext) (outcome : ExecutionOutcome)
  | finished
  | panicked (nodeId : NodeId)

namespace Pc

variable {κ : Type}

def holdsLock : Pc κ → Bool
  | .draining | .testing | .choosing | .retesting | .popping => true
  | _ => false

/-- The node that is checked out of the maps. -/
def inFlight : Pc κ → Option NodeId
  | .entering nodeId _ _ | .processing nodeId _ _ _ | .checkingIn nodeId _ _ _ | .panicked nodeId =>
      some nodeId
  | _ => none

/-- `Condvar::notify_one` or `notify_all`: a thread that is not parked misses it. -/
def notify : Pc κ → Pc κ
  | .parked _ => .notified
  | pc => pc

@[simp] theorem notify_inFlight (pc : Pc κ) : pc.notify.inFlight = pc.inFlight := by
  cases pc <;> rfl

end Pc

inductive Event where
  | signalled (nodeId : NodeId) (accepted : Bool)
  | wakeRegistered (nodeId : NodeId) (accepted : Bool)
  | timerExpired (nodeId : NodeId) (when : Instant)
  | selfSignalled (nodeId : NodeId)
  | tested (running : Bool)
  | dispatched (nodeId : NodeId)
  | returned (nodeId : NodeId) (returned : Returned)
  | checkedIn (nodeId : NodeId)
  | retired (nodeId : NodeId)
  | stoppedItself
  | stopReturned
deriving DecidableEq, Repr

/-- `stopping` counts the `stop()` calls between their store and their notification. -/
structure System (κ : Type) where
  scheduler : Scheduler κ
  clock : Instant
  pc : Pc κ
  stopping : Nat

inductive Action (κ : Type) where
  | run
  | wakeUp
  | processReturns (reply : Reply κ)
  | selfSignalReady
  | selfWakeAt (when : Instant)
  | signalReady (nodeId : NodeId)
  | wakeAt (nodeId : NodeId) (when : Instant)
  | storeStop
  | notifyStop
  | elapse (now : Instant)

variable {κ : Type}

inductive Checkout (κ : Type) where
  | nothing
  | unavailable (state : SchedulerState κ)
  | taken (nodeId : NodeId) (component : κ) (context : NodeContext) (state : SchedulerState κ)

namespace SchedulerState

/-- `ready_queue.pop_front()` and the checkout of the node from the two maps. -/
def checkOut (state : SchedulerState κ) : Checkout κ :=
  match state.readyQueue with
  | [] => .nothing
  | nodeId :: rest =>
      let state := { state with readyQueue := rest, readySet := state.readySet.erase nodeId }
      let state := state.recordDepth
      let state := { state with metrics := { state.metrics with
        loopIterations := state.metrics.loopIterations + 1 } }
      match state.components.lookup nodeId with
      | none => .unavailable state
      | some component =>
          let state := { state with components := state.components.erase nodeId }
          match state.nodes.lookup nodeId with
          | none => .unavailable { state with components := state.components.insert nodeId component }
          | some context =>
              .taken nodeId component context { state with nodes := state.nodes.erase nodeId }

/-- The update of the two execution counters after a dispatch. -/
def account (state : SchedulerState κ) (nodeId : NodeId) (outcome : ExecutionOutcome) :
    SchedulerState κ :=
  { state with metrics := { state.metrics with
      executionsPerNode := state.metrics.executionsPerNode.adjust nodeId (· + outcome.executions)
      workUnitsPerNode := state.metrics.workUnitsPerNode.adjust nodeId (· + outcome.workUnits) } }

/-- Finished nodes are retired for good. -/
def retire (state : SchedulerState κ) (nodeId : NodeId) : SchedulerState κ :=
  let state := { state with
    readyFlags := state.readyFlags.erase nodeId
    timerLatestByNode := state.timerLatestByNode.erase nodeId
    readySet := state.readySet.erase nodeId
    readyQueue := state.readyQueue.filter (· ≠ nodeId) }
  let state := state.recordDepth
  { state with metrics := { state.metrics with
      timeSinceLastExecution := state.metrics.timeSinceLastExecution.erase nodeId } }

/-- Both maps are empty: every node of the scheduler has finished. -/
def allFinished (state : SchedulerState κ) : Bool :=
  state.nodes.entries.isEmpty && state.components.entries.isEmpty

/-- The node goes back into the maps, with the timer it asked for. -/
def checkIn (state : SchedulerState κ) (nodeId : NodeId) (component : κ) (context : NodeContext) :
    SchedulerState κ :=
  let state :=
    match context.wakeAt with
    | some when => state.registerTimer nodeId when
    | none => state
  { state with
    components := state.components.insert nodeId component
    nodes := state.nodes.insert nodeId { context with wakeAt := none } }

end SchedulerState

/-- `PROCESS_CALL_MAX_BLOCKING` -/
def processCallMaxBlocking : Nat := 10

/-- The accounting of a `DidWork(units)` result; `remainingBudget` is what the
component left, `context.remainingBudget` what it was given. -/
def NodeContext.accountWork (context : NodeContext) (remainingBudget units : Nat) (now : Instant) :
    NodeContext :=
  let accounted := max units 1
  let budgetAfterComponent := min remainingBudget context.remainingBudget
  let consumedByComponent := context.remainingBudget - budgetAfterComponent
  let consumed := max consumedByComponent accounted
  { context with
    remainingBudget := context.remainingBudget - consumed
    workUnitsProcessed := context.workUnitsProcessed + accounted
    executionCount := context.executionCount + 1
    lastExecution := now }

def ExecutionOutcome.accountWork (outcome : ExecutionOutcome) (units : Nat) : ExecutionOutcome :=
  { outcome with
    didWork := true
    executions := outcome.executions + 1
    workUnits := outcome.workUnits + max units 1 }

namespace System

def start (scheduler : Scheduler κ) (clock : Instant) : System κ := ⟨scheduler, clock, .top, 0⟩

/-- The mutex can be taken by another thread. -/
def lockFree (system : System κ) : Bool := !system.pc.holdsLock

/-- The head of `execute_component`. -/
def enter (system : System κ) (nodeId : NodeId) (component : κ) (context : NodeContext) : System κ :=
  { system with
    scheduler := system.scheduler.store context.readySignal false
    pc := .processing nodeId component
      { context with remainingBudget := context.budgetClass.units, wakeAt := none } .default }

/-- One round of the loop in `execute_component`, from the return of `process()`. -/
def settle (system : System κ) (enforced : Bool) (nodeId : NodeId) (context : NodeContext)
    (outcome : ExecutionOutcome) (reply : Reply κ) : System κ :=
  let timerFiredAt := if reply.tookTimer then none else context.timerFiredAt
  if enforced && processCallMaxBlocking < reply.elapsed then
    { system with pc := .panicked nodeId }
  else
    match reply.returned with
    | .panicked =>
        { system with
          scheduler := system.scheduler.store context.readySignal false
          pc := .checkingIn nodeId reply.component
            { context with remainingBudget := reply.remainingBudget, timerFiredAt }
            { outcome with panicked := true, finished := true } }
    | .result .finished =>
        { system with
          scheduler := system.scheduler.store context.readySignal false
          pc := .checkingIn nodeId reply.component
            { context with remainingBudget := reply.remainingBudget, timerFiredAt }
            { outcome with finished := true } }
    | .result .noWork =>
        { system with
          pc := .checkingIn nodeId reply.component
            { context with remainingBudget := reply.remainingBudget, timerFiredAt } outcome }
    | .result (.didWork units) =>
        let context :=
          { context.accountWork reply.remainingBudget units system.clock with timerFiredAt }
        let outcome := outcome.accountWork units
        if context.remainingBudget = 0 then
          { system with pc := .checkingIn nodeId reply.component context outcome }
        else { system with pc := .processing nodeId reply.component context outcome }

/-- What `run` does with the outcome of a dispatch, in one critical section. -/
def conclude (system : System κ) (nodeId : NodeId) (component : κ) (context : NodeContext)
    (outcome : ExecutionOutcome) : System κ × List Event :=
  let scheduler := system.scheduler
  let state := scheduler.state.account nodeId outcome
  if outcome.finished then
    let state := state.retire nodeId
    if state.allFinished then
      ({ system with scheduler := { scheduler with state, running := false }, pc := .top },
        [.retired nodeId, .stoppedItself])
    else ({ system with scheduler := { scheduler with state }, pc := .top }, [.retired nodeId])
  else
    let readyFlag := scheduler.load context.readySignal
    let state := state.checkIn nodeId component context
    let state := if outcome.didWork || readyFlag then state.enqueueRecorded nodeId else state
    ({ system with scheduler := { scheduler with state }, pc := .top }, [.checkedIn nodeId])

/-- The next move of the run thread outside `process()`. -/
def runStep (system : System κ) : Option (System κ × List Event) :=
  let scheduler := system.scheduler
  match system.pc with
  | .top => some ({ system with pc := .draining }, [])
  | .draining =>
      let (scheduler, fired) := scheduler.drainExpiredTimers system.clock
      some ({ system with scheduler, pc := .testing },
        fired.map fun entry => .timerExpired entry.nodeId entry.when)
  | .testing =>
      let pc := if !scheduler.running || !scheduler.state.readyQueue.isEmpty then .retesting else .choosing
      some ({ system with pc }, [.tested scheduler.running])
  | .choosing =>
      let (deadline, state) := scheduler.state.nextValidTimerDeadline
      let scheduler := { scheduler with state }
      match deadline with
      | some nextWake =>
          if nextWake ≤ system.clock then some ({ system with scheduler, pc := .draining }, [])
          else some ({ system with scheduler, pc := .parked (some nextWake) }, [])
      | none => some ({ system with scheduler, pc := .parked none }, [])
  | .notified => some ({ system with pc := .draining }, [])
  | .retesting =>
      some ({ system with pc := if scheduler.running then .popping else .finished },
        [.tested scheduler.running])
  | .popping =>
      match scheduler.state.checkOut with
      | .nothing => some ({ system with pc := .top }, [])
      | .unavailable state =>
          some ({ system with scheduler := { scheduler with state }, pc := .top }, [])
      | .taken nodeId component context state =>
          some ({ system with
            scheduler := { scheduler with state }, pc := .entering nodeId component context },
            [.dispatched nodeId])
  | .entering nodeId component context => some (system.enter nodeId component context, [])
  | .checkingIn nodeId component context outcome =>
      some (system.conclude nodeId component context outcome)
  | .parked _ | .processing .. | .finished | .panicked _ => none

/-- One move of the whole system.  `enforced` is the cargo feature
`enforce-process-non-blocking-contract`. -/
def step (enforced : Bool) (system : System κ) : Action κ → Option (System κ × List Event)
  | .run => system.runStep
  | .wakeUp =>
      -- a timeout, or a wakeup for no reason, which the condition variable allows
      match system.pc with
      | .parked _ => some ({ system with pc := .notified }, [])
      | _ => none
  | .processReturns reply =>
      match system.pc with
      | .processing nodeId _ context outcome =>
          some (system.settle enforced nodeId context outcome reply, [.returned nodeId reply.returned])
      | _ => none
  | .selfSignalReady =>
      match system.pc with
      | .processing nodeId _ context _ =>
          some ({ system with scheduler := system.scheduler.store context.readySignal true },
            [.selfSignalled nodeId])
      | _ => none
  | .selfWakeAt when =>
      match system.pc with
      | .processing nodeId component context outcome =>
          some ({ system with
            pc := .processing nodeId component { context with wakeAt := some when } outcome }, [])
      | _ => none
  | .signalReady nodeId =>
      if system.lockFree then
        let (scheduler, accepted) := system.scheduler.signalReady nodeId
        some ({ system with scheduler, pc := if accepted then system.pc.notify else system.pc },
          [.signalled nodeId accepted])
      else none
  | .wakeAt nodeId when =>
      if system.lockFree then
        let (scheduler, accepted) := system.scheduler.wakeAt nodeId when
        some ({ system with scheduler, pc := if accepted then system.pc.notify else system.pc },
          [.wakeRegistered nodeId accepted])
      else none
  | .storeStop =>
      some ({ system with
        scheduler := { system.scheduler with running := false }
        stopping := system.stopping + 1 }, [])
  | .notifyStop =>
      if system.stopping = 0 then none
      else some ({ system with stopping := system.stopping - 1, pc := system.pc.notify },
        [.stopReturned])
  | .elapse now =>
      if system.clock ≤ now then some ({ system with clock := now }, []) else none

end System

/-- The scheduler with one thread in `run()` and any other threads around it. -/
def schedulerMachine (κ : Type) (enforced : Bool) :
    Transition.Machine (System κ) (Action κ) Event :=
  ⟨System.step enforced⟩

end Flowd
