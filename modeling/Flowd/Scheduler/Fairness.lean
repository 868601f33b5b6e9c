import Flowd.Scheduler.Budget

namespace Flowd

/-! The ready queue is a waiting line in which no node is overtaken twice. -/

open Transition

variable {κ : Type} {enforced : Bool} {system next last : System κ} {action : Action κ}
variable {events : List Event} {reports trace : List Report} {nodeId other : NodeId}
variable {operation : Operation κ} {clock : Instant}

def Event.leaver : Event → Option NodeId
  | .retired nodeId => some nodeId
  | _ => none

def Report.leaver : Report → Option NodeId
  | .event reported => reported.leaver
  | _ => none

def Report.served : Report → Option NodeId
  | .popped nodeId => some nodeId
  | _ => none

theorem served_moves : (system.pops action ++ system.registrations action ++
    events.map Report.event).filterMap Report.served = (system.pops action).filterMap Report.served := by
  have registrations : (system.registrations action).filterMap Report.served = [] := by
    unfold System.registrations
    split
    · split <;> simp [Report.served]
    · split
      · split <;> simp [Report.served, List.filterMap_map, Function.comp_def]
      · rfl
    · rfl
  simp [registrations, List.filterMap_map, Function.comp_def, Report.served]

theorem leaver_moves : (system.pops action ++ system.registrations action ++
    events.map Report.event).filterMap Report.leaver = events.filterMap Event.leaver := by
  have pops : (system.pops action).filterMap Report.leaver = [] := by
    unfold System.pops
    split
    · split <;> simp [Report.leaver, List.filterMap_map, Function.comp_def]
    · rfl
  have registrations : (system.registrations action).filterMap Report.leaver = [] := by
    unfold System.registrations
    split
    · split <;> simp [Report.leaver]
    · split
      · split <;> simp [Report.leaver, List.filterMap_map, Function.comp_def]
      · rfl
    · rfl
  simp [pops, registrations, List.filterMap_map, Function.comp_def, Report.leaver]

namespace SchedulerState

theorem enqueue_joins (state : SchedulerState κ) (nodeId : NodeId) :
    ∃ more, (state.enqueue nodeId).readyQueue = state.readyQueue ++ more := by
  unfold enqueue
  split
  · exact ⟨[], by simp⟩
  · exact ⟨[nodeId], rfl⟩

theorem enqueueRecorded_joins (state : SchedulerState κ) (nodeId : NodeId) :
    ∃ more, (state.enqueueRecorded nodeId).readyQueue = state.readyQueue ++ more := by
  obtain ⟨metrics, same⟩ := state.enqueueRecorded_eq nodeId
  rw [same]
  exact state.enqueue_joins nodeId

end SchedulerState

/-- Draining appends to the queue. -/
theorem Scheduler.drainExpiredTimers_joins (scheduler : Scheduler κ) (now : Instant) :
    ∃ more, (scheduler.drainExpiredTimers now).1.state.readyQueue = scheduler.state.readyQueue ++ more := by
  refine Scheduler.drainExpiredTimers_keeps
    (fun next => ∃ more, next.state.readyQueue = scheduler.state.readyQueue ++ more) ?_ ?_ ?_ ⟨[], by simp⟩
  · exact fun _ joins => joins
  · rintro between entry ⟨more, joins⟩
    obtain ⟨flags, fired, _⟩ := between.fireFirst_eq entry
    rw [fired]
    obtain ⟨last, appended⟩ := SchedulerState.enqueue_joins { between.state with
      timers := between.state.timers.pop
      timerLatestByNode := between.state.timerLatestByNode.erase entry.nodeId
      nodes := between.state.nodes.adjust entry.nodeId fun context =>
        { context with timerFiredAt := some entry.when } } entry.nodeId
    exact ⟨more ++ last, by rw [appended]; simp [joins]⟩
  · exact fun _ joins => joins

/-- Every move of the scheduler is a move of the waiting line. -/
theorem line_moved (moved : Moved enforced system action events next) :
    Line.Step system.scheduler.state.readyQueue ((system.pops action).filterMap Report.served)
      (events.filterMap Event.leaver) next.scheduler.state.readyQueue := by
  have still : Line.Step system.scheduler.state.readyQueue [] [] system.scheduler.state.readyQueue := by
    simpa using (Line.Step.joins [] : Line.Step system.scheduler.state.readyQueue [] [] _)
  cases moved with
  | drains pc =>
      obtain ⟨more, joins⟩ := system.scheduler.drainExpiredTimers_joins system.clock
      have silent : (system.pops Action.run).filterMap Report.served = [] := by simp [System.pops, pc]
      have expired : ((system.scheduler.drainExpiredTimers system.clock).2.map fun entry =>
          Event.timerExpired entry.nodeId entry.when).filterMap Event.leaver = [] := by
        simp [List.filterMap_map, Function.comp_def, Event.leaver]
      rw [silent, expired, joins]
      exact .joins more
  | popsNothing pc nothing =>
      have empty : system.scheduler.state.readyQueue = [] := by
        rcases system.scheduler.state.checkOut_cases with ⟨empty, _⟩ | ⟨_, _, _, ⟨_, _, taken⟩ | ⟨_, _, _, _, _, taken⟩⟩
        · exact empty
        · rw [taken] at nothing
          cases nothing
        · rw [taken] at nothing
          cases nothing
      simpa [System.pops, pc, empty] using still
  | popsUnavailable pc unavailable =>
      obtain ⟨first, rest, components, depth, iterations, queue, rfl⟩ :=
        SchedulerState.checkOut_unavailable unavailable
      simpa [System.pops, pc, queue, List.filterMap_cons, Report.served] using
        (Line.Step.serves queue : Line.Step system.scheduler.state.readyQueue _ _ _)
  | dispatches pc taken =>
      obtain ⟨rest, metrics, queue, _, _, rfl⟩ := checkOut_taken taken
      simpa [System.pops, pc, queue, List.filterMap_cons, Report.served, Event.leaver] using
        (Line.Step.serves queue : Line.Step system.scheduler.state.readyQueue _ _ _)
  | @concludes away component context outcome pc =>
      have silent : (system.pops Action.run).filterMap Report.served = [] := by simp [System.pops, pc]
      rw [silent]
      cases finished : outcome.finished with
      | true =>
          obtain ⟨running, same, reports⟩ := system.conclude_finished away component context finished
          have left : (system.conclude away component context outcome).2.filterMap Event.leaver = [away] := by
            rcases reports with ⟨_, reports⟩ | ⟨_, reports⟩ <;> rw [reports] <;> rfl
          rw [same, left]
          exact .leaves away
      | false =>
          obtain ⟨state, same, states⟩ := system.conclude_unfinished away component context finished
          rw [same]
          rcases states with ⟨_, rfl⟩ | ⟨_, rfl⟩
          · obtain ⟨more, joins⟩ := ((system.scheduler.state.account away outcome).checkIn away component
              context).enqueueRecorded_joins away
            dsimp only
            rw [joins, SchedulerState.checkIn_readyQueue]
            exact .joins more
          · dsimp only
            rw [SchedulerState.checkIn_readyQueue]
            exact still
  | @settles away component context outcome reply pc =>
      rw [System.settle_state]
      exact still
  | signals signalled _ =>
      rcases system.scheduler.signalReady_eq signalled with ⟨_, same⟩ | ⟨flag, _, same⟩
      · rw [same]
        exact still
      · rw [same]
        obtain ⟨more, joins⟩ := system.scheduler.state.enqueueRecorded_joins signalled
        dsimp only
        rw [joins]
        exact .joins more
  | registers registered when _ =>
      rcases system.scheduler.wakeAt_eq registered when with ⟨_, same⟩ | ⟨_, same⟩ <;> rw [same] <;> exact still
  | selfSignals _ => exact still
  | selfWakes _ _ => exact still
  | storesStop => exact still
  | notifiesStop _ => exact still
  | elapses _ _ => exact still
  | wakes _ => exact still
  | _ pc => simpa [System.pops, pc, System.enter, Scheduler.store, List.filterMap_cons, Event.leaver] using still

theorem line_operated (operated : Operated enforced system operation reports next) :
    Line.Step system.scheduler.state.readyQueue (reports.filterMap Report.served)
      (reports.filterMap Report.leaver) next.scheduler.state.readyQueue := by
  have still : Line.Step system.scheduler.state.readyQueue [] [] system.scheduler.state.readyQueue := by
    simpa using (Line.Step.joins [] : Line.Step system.scheduler.state.readyQueue [] [] _)
  cases operated with
  | moves moved =>
      rw [served_moves, leaver_moves]
      exact line_moved moved
  | adds _ _ _ => exact still
  | equips _ _ _ => exact still
  | snapshots _ => exact still

theorem mem_served : nodeId ∈ reports.filterMap Report.served ↔ .popped nodeId ∈ reports := by
  rw [List.mem_filterMap]
  constructor
  · rintro ⟨report, member, served⟩
    cases report <;> simp [Report.served] at served
    exact served ▸ member
  · exact fun member => ⟨_, member, rfl⟩

theorem mem_leaver : nodeId ∈ reports.filterMap Report.leaver ↔ .event (.retired nodeId) ∈ reports := by
  rw [List.mem_filterMap]
  constructor
  · rintro ⟨report, member, left⟩
    cases report with
    | event reported =>
        cases reported <;> simp [Report.leaver, Event.leaver] at left
        exact left ▸ member
    | _ => simp [Report.leaver] at left
  · exact fun member => ⟨_, member, rfl⟩

theorem count_served : (reports.filterMap Report.served).count nodeId = reports.count (.popped nodeId) := by
  induction reports with
  | nil => rfl
  | cons report rest ih => cases report <;> simp [List.filterMap_cons, Report.served, List.count_cons, ih]

/-- What stood in front of a waiting node and was served does not come back there. -/
theorem waits_run {permitted : System κ → Operation κ → Prop}
    (run : (hostMachine κ enforced).Run permitted system reports last)
    (waits : nodeId ∈ system.scheduler.state.readyQueue) (unserved : .popped nodeId ∉ reports)
    (stays : .event (.retired nodeId) ∉ reports) :
    nodeId ∈ last.scheduler.state.readyQueue ∧ ∀ other, reports.count (.popped other) +
        (Line.ahead nodeId last.scheduler.state.readyQueue).count other ≤
      (Line.ahead nodeId system.scheduler.state.readyQueue).count other := by
  induction run with
  | nil => exact ⟨waits, by simp⟩
  | @snoc earlier reports state after operation _ _ step ih =>
      rw [List.mem_append, not_or] at unserved stays
      obtain ⟨still, passed⟩ := ih unserved.1 stays.1
      obtain ⟨waits, moved⟩ := (line_operated (operated_of_step step)).ahead still
        (fun served => unserved.2 (mem_served.mp served)) (fun left => stays.2 (mem_leaver.mp left))
      refine ⟨waits, ?_⟩
      intro other
      have before := passed other
      have here := moved other
      rw [count_served] at here
      rw [List.count_append]
      omega

theorem Called.count_units {budgetClass : BudgetClass} {answers final : List Returned} {units : List Nat}
    (called : Called budgetClass answers units final) :
    (answers.filterMap Returned.units).length ≤ budgetClass.units := by
  have idle : final.filterMap Returned.units = [] := List.filterMap_eq_nil_iff.mpr called.idle
  rw [called.calls, List.filterMap_append, idle, List.append_nil, List.filterMap_map]
  simpa [Function.comp_def, Returned.units] using called.within

/-- While a node waits, no node is popped twice, and every dispatch that begins
meanwhile makes at most as many calls that do work as the class of its node allows. -/
theorem dispatch_fair
    (run : (hostMachine κ enforced).Run AddsAtHome (System.start .new clock) trace system)
    (waits : nodeId ∈ system.scheduler.state.readyQueue)
    (later : (hostMachine κ enforced).Run AddsAtHome system reports last)
    (unserved : .popped nodeId ∉ reports) (stays : .event (.retired nodeId) ∉ reports) :
    (∀ other, reports.count (.popped other) ≤ 1) ∧
    ∀ {between after other}, reports = between ++ .event (.dispatched other) :: after →
      ∃ budgetClass, .added other budgetClass ∈ trace ++ between ∧
        ((dispatchAnswers after).filterMap Returned.units).length ≤ budgetClass.units := by
  constructor
  · intro other
    have passed := (waits_run later waits unserved stays).2 other
    have once : (Line.ahead nodeId system.scheduler.state.readyQueue).count other ≤ 1 :=
      Line.count_ahead_le (consistent_host run).nodup
    omega
  · intro between after other split
    have whole := run.append later
    have here : trace ++ reports = (trace ++ between) ++ .event (.dispatched other) :: after := by
      rw [split, List.append_assoc]
    obtain ⟨budgetClass, units, final, added, called, _⟩ := dispatch_called whole here
    exact ⟨budgetClass, added, called.count_units⟩

/-- Two nodes are added and signalled, the second while the first is dispatched. -/
def twoNodes : List (Operation Unit) :=
  [.addNode "a" .heavy, .addComponent () "a", .addNode "b" .normal, .addComponent () "b",
    .move (.signalReady "a"), .move (.signalReady "b")]

/-- The first node is dispatched, does some work and goes behind the second. -/
def workFirst : List (Operation Unit) :=
  List.replicate 6 (.move .run) ++
    [.move (.processReturns ⟨(), 0, false, 0, .result (.didWork 1)⟩), .move .run]

theorem dispatch_fair_twoNodes :
    ((hostMachine Unit true).reported ((hostMachine Unit true).played (System.start .new 0) twoNodes)
      workFirst).count (.popped "a") ≤ 1 := by
  have run := (hostMachine Unit true).run_played
    (show (hostMachine Unit true).Permits AddsAtHome (System.start .new 0) twoNodes by decide) (by decide)
  have later := (hostMachine Unit true).run_played
    (show (hostMachine Unit true).Permits AddsAtHome ((hostMachine Unit true).played (System.start .new 0)
      twoNodes) workFirst by decide) (by decide)
  have waits : "b" ∈ ((hostMachine Unit true).played (System.start .new 0)
      twoNodes).scheduler.state.readyQueue := by decide
  exact (dispatch_fair run waits later (by decide) (by decide)).1 "a"

end Flowd
