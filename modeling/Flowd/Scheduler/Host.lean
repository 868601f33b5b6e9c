import Flowd.Lib.Line
import Flowd.Scheduler.Moves

namespace Flowd

/-! The whole interface of the scheduler: besides the moves of the run thread and of
those that wake it, nodes and components are added and metrics are read. -/

open Transition

variable {κ : Type}

namespace Scheduler

/-- The closure that `create_waker` returns, as the call it makes. -/
def createWaker (scheduler : Scheduler κ) (nodeId : NodeId) : Option (Action κ) :=
  if nodeId ∈ scheduler.state.nodes then some (.signalReady nodeId) else none

def nodeIds (scheduler : Scheduler κ) : List NodeId := scheduler.state.nodes.keys

def metricsSnapshot (scheduler : Scheduler κ) (now : Instant) : Scheduler κ × SchedulerMetrics :=
  let timeSince := scheduler.state.nodes.mapValues fun context => now - context.lastExecution
  let metrics := { scheduler.state.metrics with timeSinceLastExecution := timeSince }
  ({ scheduler with state := { scheduler.state with metrics } }, metrics)

end Scheduler

inductive Operation (κ : Type) where
  | move (action : Action κ)
  | addNode (nodeId : NodeId) (budgetClass : BudgetClass)
  | addComponent (component : κ) (nodeId : NodeId)
  | metricsSnapshot

/-- What an observer of the maps sees: the events of the moves, what leaves the front
of the ready queue, the deadlines that are put in force and the nodes that are added. -/
inductive Report where
  | event (event : Event)
  | popped (nodeId : NodeId)
  | registered (nodeId : NodeId) (when : Instant)
  | added (nodeId : NodeId) (budgetClass : BudgetClass)
deriving DecidableEq, Repr

namespace System

def pops (system : System κ) : Action κ → List Report
  | .run =>
      match system.pc with
      | .popping => system.scheduler.state.readyQueue.head?.toList.map .popped
      | _ => []
  | _ => []

def registrations (system : System κ) : Action κ → List Report
  | .wakeAt nodeId when => if nodeId ∈ system.scheduler.state.nodes then [.registered nodeId when] else []
  | .run =>
      match system.pc with
      | .checkingIn nodeId _ context outcome =>
          if outcome.finished then [] else context.wakeAt.toList.map (.registered nodeId)
      | _ => []
  | _ => []

def operate (enforced : Bool) (system : System κ) : Operation κ → Option (System κ × List Report)
  | .move action =>
      match system.step enforced action with
      | none => none
      | some (next, events) =>
          some (next, system.pops action ++ system.registrations action ++ events.map .event)
  | .addNode nodeId budgetClass =>
      if system.lockFree then
        some ({ system with scheduler := system.scheduler.addNode nodeId budgetClass system.clock },
          [.added nodeId budgetClass])
      else none
  | .addComponent component nodeId =>
      if system.lockFree then
        some ({ system with scheduler := system.scheduler.addComponent component nodeId }, [])
      else none
  | .metricsSnapshot =>
      if system.lockFree then
        some ({ system with scheduler := (system.scheduler.metricsSnapshot system.clock).1 }, [])
      else none

end System

def hostMachine (κ : Type) (enforced : Bool) : Machine (System κ) (Operation κ) Report :=
  ⟨System.operate enforced⟩

/-- Nobody adds a node under the id of the one that is executing. -/
def AddsAtHome (system : System κ) : Operation κ → Prop
  | .addNode nodeId _ => system.pc.inFlight ≠ some nodeId
  | _ => True

instance (system : System κ) : DecidablePred (AddsAtHome system) := fun
  | .addNode nodeId _ => inferInstanceAs (Decidable (system.pc.inFlight ≠ some nodeId))
  | .move _ | .addComponent .. | .metricsSnapshot => inferInstanceAs (Decidable True)

variable {enforced : Bool} {system next : System κ} {operation : Operation κ} {reports : List Report}
variable {nodeId other : NodeId} {action : Action κ} {events : List Event}

inductive Operated (enforced : Bool) (system : System κ) : Operation κ → List Report → System κ → Prop where
  | moves {action : Action κ} {events : List Event} {next : System κ}
      (moved : Moved enforced system action events next) :
      Operated enforced system (.move action)
        (system.pops action ++ system.registrations action ++ events.map .event) next
  | adds (nodeId : NodeId) (budgetClass : BudgetClass) (free : system.lockFree = true) :
      Operated enforced system (.addNode nodeId budgetClass) [.added nodeId budgetClass]
        { system with scheduler := system.scheduler.addNode nodeId budgetClass system.clock }
  | equips (component : κ) (nodeId : NodeId) (free : system.lockFree = true) :
      Operated enforced system (.addComponent component nodeId) []
        { system with scheduler := system.scheduler.addComponent component nodeId }
  | snapshots (free : system.lockFree = true) :
      Operated enforced system .metricsSnapshot []
        { system with scheduler := (system.scheduler.metricsSnapshot system.clock).1 }

theorem operated_of_step (step : (hostMachine κ enforced).step system operation = some (next, reports)) :
    Operated enforced system operation reports next := by
  cases operation with
  | move action =>
      cases stepped : system.step enforced action with
      | none => simp [hostMachine, System.operate, stepped] at step
      | some result =>
          obtain ⟨after, events⟩ := result
          simp only [hostMachine, System.operate, stepped, Option.some.injEq, Prod.mk.injEq] at step
          obtain ⟨rfl, rfl⟩ := step
          exact .moves (moved_of_step stepped)
  | addNode nodeId budgetClass =>
      simp only [hostMachine, System.operate, Option.ite_none_right_eq_some, Option.some.injEq,
        Prod.mk.injEq] at step
      obtain ⟨free, rfl, rfl⟩ := step
      exact .adds nodeId budgetClass free
  | addComponent component nodeId =>
      simp only [hostMachine, System.operate, Option.ite_none_right_eq_some, Option.some.injEq,
        Prod.mk.injEq] at step
      obtain ⟨free, rfl, rfl⟩ := step
      exact .equips component nodeId free
  | metricsSnapshot =>
      simp only [hostMachine, System.operate, Option.ite_none_right_eq_some, Option.some.injEq,
        Prod.mk.injEq] at step
      obtain ⟨free, rfl, rfl⟩ := step
      exact .snapshots free

namespace SchedulerState

variable {state : SchedulerState κ} {component : κ} {context : NodeContext}

/-- A pop that finds no component or no node takes the id off the queue. -/
theorem checkOut_unavailable {after : SchedulerState κ} (unavailable : state.checkOut = .unavailable after) :
    ∃ nodeId rest components depth iterations, state.readyQueue = nodeId :: rest ∧
      after = { state with
        readyQueue := rest
        readySet := state.readySet.erase nodeId
        components
        metrics := { state.metrics with queueDepth := depth, loopIterations := iterations } } := by
  unfold checkOut at unavailable
  cases queue : state.readyQueue with
  | nil => simp [queue] at unavailable
  | cons nodeId rest =>
      refine ⟨nodeId, rest, ?_⟩
      cases equipped : state.components.lookup nodeId with
      | none =>
          simp only [queue, recordDepth, equipped, Checkout.unavailable.injEq] at unavailable
          exact ⟨_, _, _, rfl, unavailable.symm⟩
      | some component =>
          cases home : state.nodes.lookup nodeId with
          | none =>
              simp only [queue, recordDepth, equipped, home, Checkout.unavailable.injEq] at unavailable
              exact ⟨_, _, _, rfl, unavailable.symm⟩
          | some context => simp [queue, recordDepth, equipped, home] at unavailable

end SchedulerState

theorem Consistent.unavailable {state after : SchedulerState κ} (consistent : Consistent state none)
    (unavailable : state.checkOut = .unavailable after) : Consistent after none := by
  obtain ⟨nodeId, rest, components, depth, iterations, queue, rfl⟩ :=
    SchedulerState.checkOut_unavailable unavailable
  have popped := consistent.ready.pop queue components state.nodes state.metrics
  exact ⟨popped.nodup, popped.inSet, popped.queueFlag, popped.timerFlag, consistent.flagHome, by simp,
    consistent.timerQueued⟩

/-- The maps fit together whatever the components do, equipped or not. -/
theorem Consistent.moved (consistent : Consistent system.scheduler.state system.pc.inFlight)
    (moved : Moved enforced system action events next) :
    Consistent next.scheduler.state next.pc.inFlight := by
  cases moved with
  | drains pc =>
      rw [pc] at consistent
      exact consistent.drainExpiredTimers
  | recheck pc _ _ =>
      rw [pc] at consistent
      exact consistent.nextValidTimerDeadline
  | parksTimed pc _ _ =>
      rw [pc] at consistent
      exact consistent.nextValidTimerDeadline
  | parks pc _ =>
      rw [pc] at consistent
      exact consistent.nextValidTimerDeadline
  | popsUnavailable pc unavailable =>
      rw [pc] at consistent
      exact consistent.unavailable unavailable
  | dispatches pc taken =>
      rw [pc] at consistent
      obtain ⟨rest, metrics, queue, _, found, rfl⟩ := checkOut_taken taken
      exact consistent.checkOut queue (AList.lookup_isSome.mp (by rw [found]; rfl))
  | enters pc =>
      rw [pc] at consistent
      exact consistent
  | @concludes away component context outcome pc =>
      rw [pc] at consistent
      cases finished : outcome.finished with
      | true =>
          obtain ⟨running, same, _⟩ := system.conclude_finished away component context finished
          rw [same]
          exact consistent.account.retire
      | false =>
          obtain ⟨state, same, states⟩ := system.conclude_unfinished away component context finished
          have home : Consistent ((system.scheduler.state.account away outcome).checkIn away component context)
              none := consistent.account.checkIn
          have flagged := (consistent.flagHome away).mpr (.inr rfl)
          rw [same]
          rcases states with ⟨_, rfl⟩ | ⟨_, rfl⟩
          · exact home.enqueueRecorded (by simpa [SchedulerState.account] using flagged)
          · exact home
  | @settles away component context outcome reply pc =>
      rw [pc] at consistent
      have settled := system.settled enforced away context outcome reply
      generalize system.settle enforced away context outcome reply = last at settled ⊢
      cases settled <;> exact consistent
  | selfWakes when pc =>
      rw [pc] at consistent
      exact consistent
  | signals nodeId _ =>
      have same : (if (system.scheduler.signalReady nodeId).2 then system.pc.notify else system.pc).inFlight =
          system.pc.inFlight := by split <;> simp
      simpa only [same] using consistent.signalReady
  | registers nodeId when _ =>
      have same : (if (system.scheduler.wakeAt nodeId when).2 then system.pc.notify else system.pc).inFlight =
          system.pc.inFlight := by split <;> simp
      simpa only [same] using consistent.wakeAt
  | notifiesStop _ => simpa using consistent
  | selfSignals _ => exact consistent
  | storesStop => exact consistent
  | elapses _ _ => exact consistent
  | _ pc =>
      rw [pc] at consistent
      exact consistent

theorem Consistent.operated (consistent : Consistent system.scheduler.state system.pc.inFlight)
    (home : AddsAtHome system operation) (operated : Operated enforced system operation reports next) :
    Consistent next.scheduler.state next.pc.inFlight := by
  cases operated with
  | moves moved => exact consistent.moved moved
  | adds nodeId budgetClass _ => exact consistent.addNode home
  | equips component nodeId _ => exact consistent.congr rfl rfl rfl rfl rfl fun _ => .rfl
  | snapshots _ => exact consistent.congr rfl rfl rfl rfl rfl fun _ => .rfl

theorem consistent_host {clock : Instant} {trace : List Report}
    (run : (hostMachine κ enforced).Run AddsAtHome (System.start .new clock) trace system) :
    Consistent system.scheduler.state system.pc.inFlight :=
  Machine.Run.invariant (fun system => Consistent system.scheduler.state system.pc.inFlight) run
    Built.new.consistent fun home consistent step => consistent.operated home (operated_of_step step)

/-- The node was added and has not been retired since. -/
def Live (nodeId : NodeId) (trace : List Report) : Prop :=
  ∃ before budgetClass after, trace = before ++ .added nodeId budgetClass :: after ∧
    .event (.retired nodeId) ∉ after

variable {trace : List Report} {budgetClass : BudgetClass}

/-- The node was added and `closing` has not been reported since. -/
def AddedSince (closing : Report) (nodeId : NodeId) (trace : List Report) : Prop :=
  ∃ before budgetClass after, trace = before ++ .added nodeId budgetClass :: after ∧ closing ∉ after

theorem addedSince_append {closing : Report} (unadded : ∀ budgetClass, .added nodeId budgetClass ∉ reports) :
    AddedSince closing nodeId (trace ++ reports) ↔ AddedSince closing nodeId trace ∧ closing ∉ reports := by
  constructor
  · rintro ⟨before, budgetClass, after, split, kept⟩
    rcases append_eq_append_cons split with ⟨middle, past, rfl⟩ | ⟨middle, now, _⟩
    · rw [List.mem_append, not_or] at kept
      exact ⟨⟨before, budgetClass, middle, past, kept.1⟩, kept.2⟩
    · exact absurd (by rw [now]; simp) (unadded budgetClass)
  · rintro ⟨⟨before, budgetClass, after, rfl, kept⟩, unclosed⟩
    refine ⟨before, budgetClass, after ++ reports, by simp, ?_⟩
    rw [List.mem_append, not_or]
    exact ⟨kept, unclosed⟩

theorem addedSince_added {event : Event} : AddedSince (.event event) nodeId (trace ++ [.added other budgetClass]) ↔
    nodeId = other ∨ AddedSince (.event event) nodeId trace := by
  by_cases same : nodeId = other
  · subst same
    simp only [true_or, iff_true]
    exact ⟨trace, budgetClass, [], rfl, by simp⟩
  · rw [addedSince_append (by simp [same])]
    simp [same]

theorem live_append (unadded : ∀ budgetClass, .added nodeId budgetClass ∉ reports) :
    Live nodeId (trace ++ reports) ↔ Live nodeId trace ∧ .event (.retired nodeId) ∉ reports :=
  addedSince_append unadded

theorem live_added : Live nodeId (trace ++ [.added other budgetClass]) ↔ nodeId = other ∨ Live nodeId trace :=
  addedSince_added

theorem Scheduler.drainExpiredTimers_readyFlags (scheduler : Scheduler κ) (now : Instant) :
    (scheduler.drainExpiredTimers now).1.state.readyFlags = scheduler.state.readyFlags := by
  refine Scheduler.drainExpiredTimers_keeps (fun next => next.state.readyFlags = scheduler.state.readyFlags)
    ?_ ?_ ?_ rfl
  · exact fun _ same => same
  · intro between entry same
    obtain ⟨flags, fired, _⟩ := between.fireFirst_eq entry
    rw [fired, SchedulerState.enqueue_readyFlags]
    exact same
  · exact fun _ same => same

/-- A ready flag goes with the retirement of its node and not before. -/
theorem mem_readyFlags_moved (moved : Moved enforced system action events next) :
    nodeId ∈ next.scheduler.state.readyFlags ↔
      nodeId ∈ system.scheduler.state.readyFlags ∧ .retired nodeId ∉ events := by
  cases moved with
  | drains pc => simp [Scheduler.drainExpiredTimers_readyFlags]
  | popsUnavailable pc unavailable =>
      obtain ⟨_, _, _, _, _, _, rfl⟩ := SchedulerState.checkOut_unavailable unavailable
      simp
  | dispatches pc taken =>
      obtain ⟨_, _, _, _, _, rfl⟩ := checkOut_taken taken
      simp
  | @concludes away component context outcome pc =>
      cases finished : outcome.finished with
      | true =>
          obtain ⟨running, same, reports⟩ := system.conclude_finished away component context finished
          rw [same]
          rcases reports with ⟨_, reports⟩ | ⟨_, reports⟩ <;> rw [reports] <;>
            simp [SchedulerState.retire, SchedulerState.recordDepth, SchedulerState.account, and_comm]
      | false =>
          obtain ⟨state, same, states⟩ := system.conclude_unfinished away component context finished
          rw [same]
          rcases states with ⟨_, rfl⟩ | ⟨_, rfl⟩
          · obtain ⟨metrics, recorded⟩ := ((system.scheduler.state.account away outcome).checkIn away component
              context).enqueueRecorded_eq away
            rw [recorded]
            simp [SchedulerState.account]
          · simp [SchedulerState.account]
  | @settles away component context outcome reply pc =>
      have settled := system.settled enforced away context outcome reply
      generalize system.settle enforced away context outcome reply = last at settled ⊢
      cases settled <;> simp [Scheduler.store]
  | signals signalled _ =>
      rcases system.scheduler.signalReady_eq signalled with ⟨_, same⟩ | ⟨flag, _, same⟩
      · simp [same]
      · obtain ⟨metrics, recorded⟩ := system.scheduler.state.enqueueRecorded_eq signalled
        simp [same, recorded]
  | registers registered when _ =>
      rcases system.scheduler.wakeAt_eq registered when with ⟨_, same⟩ | ⟨_, same⟩ <;>
        simp [same, SchedulerState.registerTimer]
  | _ => simp [System.enter, Scheduler.store]

theorem added_not_mem_moves :
    .added nodeId budgetClass ∉ system.pops action ++ system.registrations action ++ events.map Report.event := by
  unfold System.pops System.registrations
  simp only [List.mem_append, not_or]
  refine ⟨⟨?_, ?_⟩, by simp⟩
  · split
    · split <;> simp
    · simp
  · split
    · split <;> simp
    · split
      · split <;> simp
      · simp
    · simp

theorem event_mem_moves {event : Event} :
    .event event ∈ system.pops action ++ system.registrations action ++ events.map Report.event ↔
      event ∈ events := by
  unfold System.pops System.registrations
  simp only [List.mem_append, List.mem_map, Report.event.injEq, exists_eq_right, or_iff_right_iff_imp]
  rintro (pop | registration)
  · split at pop
    · split at pop <;> simp at pop
    · simp at pop
  · split at registration
    · split at registration <;> simp at registration
    · split at registration
      · split at registration <;> simp at registration
      · simp at registration
    · simp at registration

/-- The nodes with a ready flag are those that were added and not retired since. -/
theorem mem_readyFlags_host {clock : Instant} {permitted : System κ → Operation κ → Prop}
    (run : (hostMachine κ enforced).Run permitted (System.start .new clock) trace system) :
    nodeId ∈ system.scheduler.state.readyFlags ↔ Live nodeId trace := by
  refine Machine.Run.history (fun trace system =>
    nodeId ∈ system.scheduler.state.readyFlags ↔ Live nodeId trace) run ?_ ?_
  · simp [System.start, Scheduler.new, SchedulerState.new, Live]
  · intro trace state operation next reports _ _ flagged step
    cases operated_of_step step with
    | moves moved =>
        rw [mem_readyFlags_moved moved, live_append fun _ => added_not_mem_moves, event_mem_moves, flagged]
    | adds added budgetClass _ =>
        rw [live_added, ← flagged]
        exact AList.mem_insert _
    | equips component equipped _ => simpa [Scheduler.addComponent] using flagged
    | snapshots _ => simpa [Scheduler.metricsSnapshot] using flagged

end Flowd
