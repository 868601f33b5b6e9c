import Flowd.Api.Message
import Mathlib.Data.Finset.Basic
import Mathlib.Data.List.Sort
import Mathlib.Data.String.Basic

namespace Flowd

/-! The data the scheduler mutex protects and the operations on it.

An `Arc<AtomicBool>` is an index into `Scheduler.flags`; the ready flag of a node
and the ready signal of its context are one cell.
-/

abbrev FlagRef := Nat

structure NodeContext where
  nodeId : NodeId
  budgetClass : BudgetClass
  remainingBudget : Nat
  lastExecution : Instant
  executionCount : Nat
  workUnitsProcessed : Nat
  readySignal : FlagRef
  wakeAt : Option Instant
  timerFiredAt : Option Instant
deriving DecidableEq, Repr

def NodeContext.new (nodeId : NodeId) (budgetClass : BudgetClass) (readySignal : FlagRef)
    (now : Instant) : NodeContext where
  nodeId
  budgetClass
  remainingBudget := 0
  lastExecution := now
  executionCount := 0
  workUnitsProcessed := 0
  readySignal
  wakeAt := none
  timerFiredAt := none

structure TimerWake where
  when : Instant
  nodeId : NodeId
deriving DecidableEq, Repr

/-- The heap order: the earliest deadline is popped first, then the greatest id. -/
def TimerWake.PopsBefore (left right : TimerWake) : Prop :=
  left.when < right.when ∨ left.when = right.when ∧ right.nodeId ≤ left.nodeId

instance : DecidableRel TimerWake.PopsBefore := fun left right =>
  inferInstanceAs (Decidable (left.when < right.when ∨
    left.when = right.when ∧ right.nodeId ≤ left.nodeId))

instance : Std.Total TimerWake.PopsBefore where
  total left right := by
    unfold TimerWake.PopsBefore
    rcases lt_trichotomy left.when right.when with earlier | same | later
    · exact .inl (.inl earlier)
    · rcases le_total left.nodeId right.nodeId with ids | ids
      · exact .inr (.inr ⟨same.symm, ids⟩)
      · exact .inl (.inr ⟨same, ids⟩)
    · exact .inr (.inl later)

instance : IsTrans TimerWake TimerWake.PopsBefore where
  trans first second third := by
    unfold TimerWake.PopsBefore
    rintro (earlier | ⟨same, ids⟩) (later | ⟨same', ids'⟩)
    · exact .inl (earlier.trans later)
    · exact .inl (same' ▸ earlier)
    · exact .inl (same ▸ later)
    · exact .inr ⟨same.trans same', ids'.trans ids⟩

/-- The entries of a `BinaryHeap` in the order in which they are popped. -/
structure TimerHeap where
  entries : List TimerWake
  sorted : entries.Pairwise TimerWake.PopsBefore

namespace TimerHeap

def empty : TimerHeap := ⟨[], .nil⟩

def push (heap : TimerHeap) (entry : TimerWake) : TimerHeap :=
  ⟨heap.entries.orderedInsert TimerWake.PopsBefore entry, heap.sorted.orderedInsert _ _⟩

def peek (heap : TimerHeap) : Option TimerWake := heap.entries.head?

def pop (heap : TimerHeap) : TimerHeap := ⟨heap.entries.tail, heap.sorted.tail⟩

@[simp] theorem pop_entries (heap : TimerHeap) : heap.pop.entries = heap.entries.tail := rfl

@[simp] theorem mem_push {heap : TimerHeap} {entry found : TimerWake} :
    found ∈ (heap.push entry).entries ↔ found = entry ∨ found ∈ heap.entries := by
  simp [push]

end TimerHeap

structure SchedulerMetrics where
  executionsPerNode : HashMap NodeId Nat
  workUnitsPerNode : HashMap NodeId Nat
  timeSinceLastExecution : HashMap NodeId Nat
  queueDepth : Nat
  loopIterations : Nat

/-- `κ` is the type of component instances. -/
structure SchedulerState (κ : Type) where
  nodes : HashMap NodeId NodeContext
  components : HashMap NodeId κ
  readyFlags : HashMap NodeId FlagRef
  readyQueue : List NodeId
  readySet : Finset NodeId
  timers : TimerHeap
  timerLatestByNode : HashMap NodeId Instant
  metrics : SchedulerMetrics

structure ExecutionOutcome where
  didWork : Bool
  finished : Bool
  executions : Nat
  workUnits : Nat
  panicked : Bool
deriving DecidableEq, Repr

def ExecutionOutcome.default : ExecutionOutcome := ⟨false, false, 0, 0, false⟩

structure Scheduler (κ : Type) where
  state : SchedulerState κ
  running : Bool
  flags : List Bool

variable {κ : Type}

namespace SchedulerState

def new : SchedulerState κ where
  nodes := ∅
  components := ∅
  readyFlags := ∅
  readyQueue := []
  readySet := ∅
  timers := .empty
  timerLatestByNode := ∅
  metrics := ⟨∅, ∅, ∅, 0, 0⟩

/-- `if ready_set.insert(id) { ready_queue.push_back(id) }` -/
def enqueue (state : SchedulerState κ) (nodeId : NodeId) : SchedulerState κ :=
  if nodeId ∈ state.readySet then state
  else { state with
    readySet := insert nodeId state.readySet
    readyQueue := state.readyQueue ++ [nodeId] }

/-- `metrics.queue_depth = ready_queue.len()` -/
def recordDepth (state : SchedulerState κ) : SchedulerState κ :=
  { state with metrics := { state.metrics with queueDepth := state.readyQueue.length } }

/-- `enqueue`, recording the depth only where the id was not queued yet. -/
def enqueueRecorded (state : SchedulerState κ) (nodeId : NodeId) : SchedulerState κ :=
  if nodeId ∈ state.readySet then state else (state.enqueue nodeId).recordDepth

/-- Pops entries that are no longer the latest of their node. -/
def nextValidTimer (latest : HashMap NodeId Instant) :
    (entries : List TimerWake) → entries.Pairwise TimerWake.PopsBefore →
    Option Instant × TimerHeap
  | [], _ => (none, .empty)
  | next :: rest, sorted =>
      if latest.lookup next.nodeId = some next.when then (some next.when, ⟨next :: rest, sorted⟩)
      else nextValidTimer latest rest sorted.tail

def nextValidTimerDeadline (state : SchedulerState κ) : Option Instant × SchedulerState κ :=
  let (deadline, timers) :=
    nextValidTimer state.timerLatestByNode state.timers.entries state.timers.sorted
  (deadline, { state with timers })

def registerTimer (state : SchedulerState κ) (nodeId : NodeId) (when : Instant) :
    SchedulerState κ :=
  { state with
    timerLatestByNode := state.timerLatestByNode.insert nodeId when
    timers := state.timers.push ⟨when, nodeId⟩ }

end SchedulerState

namespace Scheduler

def new : Scheduler κ := ⟨.new, true, []⟩

def store (scheduler : Scheduler κ) (flag : FlagRef) (value : Bool) : Scheduler κ :=
  { scheduler with flags := scheduler.flags.set flag value }

def load (scheduler : Scheduler κ) (flag : FlagRef) : Bool := scheduler.flags.getD flag false

def addNode (scheduler : Scheduler κ) (nodeId : NodeId) (budgetClass : BudgetClass)
    (now : Instant) : Scheduler κ :=
  let readySignal := scheduler.flags.length
  let state := scheduler.state
  { scheduler with
    flags := scheduler.flags ++ [false]
    state := { state with
      readyFlags := state.readyFlags.insert nodeId readySignal
      nodes := state.nodes.insert nodeId (.new nodeId budgetClass readySignal now)
      metrics := { state.metrics with
        executionsPerNode := state.metrics.executionsPerNode.insert nodeId 0
        workUnitsPerNode := state.metrics.workUnitsPerNode.insert nodeId 0
        timeSinceLastExecution := state.metrics.timeSinceLastExecution.insert nodeId 0 } } }

def addComponent (scheduler : Scheduler κ) (component : κ) (nodeId : NodeId) : Scheduler κ :=
  { scheduler with state := { scheduler.state with
      components := scheduler.state.components.insert nodeId component } }

def signalReady (scheduler : Scheduler κ) (nodeId : NodeId) : Scheduler κ × Bool :=
  match scheduler.state.readyFlags.lookup nodeId with
  | none => (scheduler, false)
  | some flag =>
      let scheduler := scheduler.store flag true
      ({ scheduler with state := scheduler.state.enqueueRecorded nodeId }, true)

def wakeAt (scheduler : Scheduler κ) (nodeId : NodeId) (when : Instant) : Scheduler κ × Bool :=
  match scheduler.state.nodes.lookup nodeId with
  | none => (scheduler, false)
  | some _ => ({ scheduler with state := scheduler.state.registerTimer nodeId when }, true)

/-- What `drain_expired_timers` does with an entry that is still the latest one. -/
def fireTimer (scheduler : Scheduler κ) (entry : TimerWake) : Scheduler κ :=
  let state := scheduler.state
  let state := { state with
    timerLatestByNode := state.timerLatestByNode.erase entry.nodeId
    nodes := state.nodes.adjust entry.nodeId fun context =>
      { context with timerFiredAt := some entry.when } }
  let scheduler :=
    match state.readyFlags.lookup entry.nodeId with
    | some flag => scheduler.store flag true
    | none => scheduler
  { scheduler with state := state.enqueue entry.nodeId }

/-- The loop of `drain_expired_timers` with the entries it fires; every round pops
an entry, so the number of entries bounds the rounds. -/
def drainRounds (now : Instant) : Nat → Scheduler κ → Scheduler κ × List TimerWake
  | 0, scheduler => (scheduler, [])
  | rounds + 1, scheduler =>
      let (deadline, state) := scheduler.state.nextValidTimerDeadline
      let scheduler := { scheduler with state }
      match deadline with
      | none => (scheduler, [])
      | some nextWhen =>
          if now < nextWhen then (scheduler, [])
          else
            match state.timers.peek with
            | none => (scheduler, [])
            | some entry =>
                let scheduler := { scheduler with state := { state with timers := state.timers.pop } }
                if state.timerLatestByNode.lookup entry.nodeId = some entry.when then
                  let (scheduler, fired) := drainRounds now rounds (scheduler.fireTimer entry)
                  (scheduler, entry :: fired)
                else drainRounds now rounds scheduler

def drainExpiredTimers (scheduler : Scheduler κ) (now : Instant) : Scheduler κ × List TimerWake :=
  let (scheduler, fired) :=
    drainRounds now (scheduler.state.timers.entries.length + 1) scheduler
  ({ scheduler with state := scheduler.state.recordDepth }, fired)

end Scheduler

end Flowd
