import Flowd.Scheduler.Host

namespace Flowd

/-! What holds in every run, also where a node is added under the id of the one that executes. -/

open Transition

variable {κ : Type} {enforced : Bool} {system next : System κ} {operation : Operation κ} {action : Action κ}
variable {events : List Event} {reports trace : List Report} {nodeId : NodeId} {clock now : Instant}
variable {state : SchedulerState κ} {scheduler : Scheduler κ} {permitted : System κ → Operation κ → Prop}

theorem Scheduler.mem_nodes_drainExpiredTimers :
    nodeId ∈ (scheduler.drainExpiredTimers now).1.state.nodes ↔ nodeId ∈ scheduler.state.nodes := by
  refine Scheduler.drainExpiredTimers_keeps (fun next => nodeId ∈ next.state.nodes ↔ nodeId ∈ scheduler.state.nodes)
    ?_ ?_ ?_ .rfl
  · exact fun _ same => same
  · intro between entry same
    obtain ⟨flags, fired, _⟩ := between.fireFirst_eq entry
    rw [fired, SchedulerState.enqueue_nodes, HashMap.mem_adjust]
    exact same
  · exact fun _ same => same

/-- A node leaves `nodes` when it is dispatched and comes back when it is checked in. -/
theorem mem_nodes_moved (moved : Moved enforced system action events next) :
    nodeId ∈ next.scheduler.state.nodes ↔
      nodeId ∈ system.scheduler.state.nodes ∧ .dispatched nodeId ∉ events ∨ .checkedIn nodeId ∈ events := by
  cases moved with
  | drains pc => simp [Scheduler.mem_nodes_drainExpiredTimers]
  | popsUnavailable pc unavailable =>
      obtain ⟨_, _, _, _, _, _, rfl⟩ := SchedulerState.checkOut_unavailable unavailable
      simp
  | dispatches pc taken =>
      obtain ⟨_, _, _, _, _, rfl⟩ := checkOut_taken taken
      simp [AList.mem_erase, and_comm]
  | @concludes away component context outcome pc =>
      cases finished : outcome.finished with
      | true =>
          obtain ⟨running, same, reports⟩ := system.conclude_finished away component context finished
          obtain ⟨metrics, retired⟩ := (system.scheduler.state.account away outcome).retire_eq away
          rw [same, retired]
          rcases reports with ⟨_, reports⟩ | ⟨_, reports⟩ <;> simp [reports, SchedulerState.account]
      | false =>
          obtain ⟨state, same, states⟩ := system.conclude_unfinished away component context finished
          have nodes : state.nodes =
              ((system.scheduler.state.account away outcome).checkIn away component context).nodes := by
            rcases states with ⟨_, rfl⟩ | ⟨_, rfl⟩
            · obtain ⟨metrics, recorded⟩ := ((system.scheduler.state.account away outcome).checkIn away component
                context).enqueueRecorded_eq away
              simp [recorded]
            · rfl
          rw [same]
          dsimp only
          rw [nodes, SchedulerState.checkIn_nodes, AList.mem_insert]
          simp [SchedulerState.account, or_comm]
  | settles reply pc => simp
  | signals signalled _ =>
      rcases system.scheduler.signalReady_eq signalled with ⟨_, same⟩ | ⟨flag, _, same⟩
      · simp [same]
      · obtain ⟨metrics, recorded⟩ := system.scheduler.state.enqueueRecorded_eq signalled
        simp [same, recorded]
  | registers registered when _ =>
      rcases system.scheduler.wakeAt_eq registered when with ⟨_, same⟩ | ⟨_, same⟩ <;>
        simp [same, SchedulerState.registerTimer]
  | _ => simp [System.enter, Scheduler.store]

/-- A node is in flight from its dispatch until it is checked in or retired. -/
theorem inFlight_moved (moved : Moved enforced system action events next) :
    next.pc.inFlight = some nodeId ↔ .dispatched nodeId ∈ events ∨
      system.pc.inFlight = some nodeId ∧ .checkedIn nodeId ∉ events ∧ .retired nodeId ∉ events := by
  cases moved with
  | drains pc => simp [pc, Pc.inFlight]
  | dispatches pc taken => simp [pc, Pc.inFlight, eq_comm]
  | @concludes away component context outcome pc =>
      rw [System.conclude_pc]
      rcases system.conclude_events away component context outcome with reports | reports | reports <;>
        simp [reports, pc, Pc.inFlight, eq_comm]
  | @settles away component context outcome reply pc =>
      have settled := system.settled enforced away context outcome reply
      generalize system.settle enforced away context outcome reply = last at settled ⊢
      cases settled <;> simp [pc, Pc.inFlight]
  | signals signalled _ =>
      dsimp only
      split <;> simp
  | registers registered when _ =>
      dsimp only
      split <;> simp
  | notifiesStop _ => simp
  | selfSignals pc => simp
  | selfWakes when pc => simp [pc, Pc.inFlight]
  | storesStop => simp
  | elapses _ _ => simp
  | _ pc => simp [pc, Pc.inFlight, System.enter]

theorem home_of_dispatched (moved : Moved enforced system action events next) (dispatched : .dispatched nodeId ∈ events) :
    nodeId ∈ system.scheduler.state.nodes ∧ system.pc.inFlight = none := by
  cases moved with
  | drains pc => simp at dispatched
  | dispatches pc taken =>
      obtain ⟨_, _, _, _, found, _⟩ := checkOut_taken taken
      rw [List.mem_singleton, Event.dispatched.injEq] at dispatched
      subst dispatched
      exact ⟨AList.lookup_isSome.mp (by rw [found]; rfl), by rw [pc]; rfl⟩
  | @concludes away component context outcome pc =>
      rcases system.conclude_events away component context outcome with reports | reports | reports <;>
        simp [reports] at dispatched
  | _ => simp at dispatched

theorem away_of_back (moved : Moved enforced system action events next)
    (back : .checkedIn nodeId ∈ events ∨ .retired nodeId ∈ events) : system.pc.inFlight = some nodeId := by
  cases moved with
  | drains pc => simp at back
  | @concludes away component context outcome pc =>
      rcases system.conclude_events away component context outcome with reports | reports | reports <;>
        simp only [reports, List.mem_cons, reduceCtorEq, List.not_mem_nil, or_false, false_or, Event.retired.injEq,
          Event.checkedIn.injEq] at back <;>
        rw [pc, back] <;> rfl
  | _ => simp at back

/-- The node is in the maps, or checked out of them. -/
def Known (nodeId : NodeId) (system : System κ) : Prop :=
  nodeId ∈ system.scheduler.state.nodes ∨ system.pc.inFlight = some nodeId

theorem Known.of_moved (known : Known nodeId next) (moved : Moved enforced system action events next) :
    Known nodeId system := by
  unfold Known at known
  rw [mem_nodes_moved moved, inFlight_moved moved] at known
  rcases known with (⟨home, _⟩ | back) | (dispatched | ⟨away, _⟩)
  · exact .inl home
  · exact .inr (away_of_back moved (.inl back))
  · exact .inl (home_of_dispatched moved dispatched).1
  · exact .inr away

theorem Known.moved (known : Known nodeId system) (moved : Moved enforced system action events next)
    (unretired : .retired nodeId ∉ events) : Known nodeId next := by
  unfold Known
  rw [mem_nodes_moved moved, inFlight_moved moved]
  rcases known with home | away
  · by_cases dispatched : .dispatched nodeId ∈ events
    · exact .inr (.inl dispatched)
    · exact .inl (.inl ⟨home, dispatched⟩)
  · by_cases back : .checkedIn nodeId ∈ events
    · exact .inl (.inr back)
    · exact .inr (.inr ⟨away, back, unretired⟩)

theorem not_checkedIn_of_retired (moved : Moved enforced system action events next)
    (retired : .retired nodeId ∈ events) : .checkedIn nodeId ∉ events := by
  cases moved with
  | drains pc => simp at retired
  | @concludes away component context outcome pc =>
      rcases system.conclude_events away component context outcome with reports | reports | reports <;>
        simp [reports] at retired ⊢
  | _ => simp at retired

/-- A node in flight is out of `nodes`, where nobody adds it. -/
def AwayGone (system : System κ) : Prop :=
  ∀ nodeId, system.pc.inFlight = some nodeId → nodeId ∉ system.scheduler.state.nodes

theorem AwayGone.moved (gone : AwayGone system) (moved : Moved enforced system action events next) : AwayGone next := by
  intro nodeId away home
  rw [mem_nodes_moved moved] at home
  rcases (inFlight_moved moved).mp away with dispatched | ⟨flew, unchecked, _⟩
  · have grounded := (home_of_dispatched moved dispatched).2
    rcases home with ⟨_, waits⟩ | back
    · exact waits dispatched
    · rw [away_of_back moved (.inl back)] at grounded
      cases grounded
  · rcases home with ⟨home, _⟩ | back
    · exact gone nodeId flew home
    · exact unchecked back

/-- A retired node is not in the maps any more. -/
theorem AwayGone.retired (gone : AwayGone system) (moved : Moved enforced system action events next)
    (retired : .retired nodeId ∈ events) : ¬ Known nodeId next := by
  have away := away_of_back moved (.inr retired)
  unfold Known
  rw [mem_nodes_moved moved, inFlight_moved moved]
  rintro ((⟨home, _⟩ | back) | (dispatched | ⟨_, _, unretired⟩))
  · exact gone nodeId away home
  · exact not_checkedIn_of_retired moved retired back
  · rw [(home_of_dispatched moved dispatched).2] at away
    cases away
  · exact unretired retired

/-- Only a node that has been added is ever in the maps. -/
theorem Known.added {permitted : System κ → Operation κ → Prop}
    (run : (hostMachine κ enforced).Run permitted (System.start .new clock) trace system) (known : Known nodeId system) :
    ∃ budgetClass, .added nodeId budgetClass ∈ trace := by
  revert known
  refine Machine.Run.history (fun trace system => Known nodeId system → ∃ budgetClass, .added nodeId budgetClass ∈ trace)
    run ?_ ?_
  · rintro (home | none)
    · cases home
    · cases none
  · intro earlier before operation after reports _ _ holds step known
    have kept : Known nodeId before → ∃ budgetClass, .added nodeId budgetClass ∈ earlier ++ reports := by
      intro known
      obtain ⟨budgetClass, member⟩ := holds known
      exact ⟨budgetClass, List.mem_append_left _ member⟩
    cases operated_of_step step with
    | moves moved => exact kept (known.of_moved moved)
    | adds added budgetClass _ =>
        rcases known with home | away
        · rcases (AList.mem_insert _).mp home with rfl | home
          · exact ⟨budgetClass, by simp⟩
          · exact kept (.inl home)
        · exact kept (.inr away)
    | equips component equipped _ => exact kept known
    | snapshots _ => exact kept known

theorem Scheduler.drainExpiredTimers_timed (timed : nodeId ∈ (scheduler.drainExpiredTimers now).1.state.timerLatestByNode) :
    nodeId ∈ scheduler.state.timerLatestByNode := by
  revert timed
  refine Scheduler.drainExpiredTimers_keeps
    (fun next => nodeId ∈ next.state.timerLatestByNode → nodeId ∈ scheduler.state.timerLatestByNode) ?_ ?_ ?_ id
  · exact fun _ kept => kept
  · intro between entry kept timed
    obtain ⟨flags, fired, _⟩ := between.fireFirst_eq entry
    rw [fired, SchedulerState.enqueue_timerLatestByNode] at timed
    exact kept (AList.mem_erase.mp timed).2
  · exact fun _ kept => kept

/-- A deadline is registered for a node in `nodes` and goes with the retirement of its node. -/
theorem timed_moved (moved : Moved enforced system action events next)
    (timed : nodeId ∈ next.scheduler.state.timerLatestByNode) :
    nodeId ∈ system.scheduler.state.timerLatestByNode ∧ .retired nodeId ∉ events ∨
      nodeId ∈ next.scheduler.state.nodes := by
  cases moved with
  | drains pc => exact .inl ⟨Scheduler.drainExpiredTimers_timed timed, by simp⟩
  | popsUnavailable pc unavailable =>
      obtain ⟨_, _, _, _, _, _, rfl⟩ := SchedulerState.checkOut_unavailable unavailable
      exact .inl ⟨timed, by simp⟩
  | dispatches pc taken =>
      obtain ⟨_, _, _, _, _, rfl⟩ := checkOut_taken taken
      exact .inl ⟨timed, by simp⟩
  | @concludes away component context outcome pc =>
      cases finished : outcome.finished with
      | true =>
          obtain ⟨running, same, reports⟩ := system.conclude_finished away component context finished
          obtain ⟨metrics, retired⟩ := (system.scheduler.state.account away outcome).retire_eq away
          rw [same, retired] at timed
          have remains := AList.mem_erase.mp timed
          refine .inl ⟨remains.2, ?_⟩
          rcases reports with ⟨_, reports⟩ | ⟨_, reports⟩ <;> simp [reports, remains.1]
      | false =>
          obtain ⟨state, same, states⟩ := system.conclude_unfinished away component context finished
          have kept : state.timerLatestByNode =
                ((system.scheduler.state.account away outcome).checkIn away component context).timerLatestByNode ∧
              state.nodes = ((system.scheduler.state.account away outcome).checkIn away component context).nodes := by
            rcases states with ⟨_, rfl⟩ | ⟨_, rfl⟩
            · obtain ⟨metrics, recorded⟩ := ((system.scheduler.state.account away outcome).checkIn away component
                context).enqueueRecorded_eq away
              simp [recorded]
            · exact ⟨rfl, rfl⟩
          rw [same] at timed ⊢
          dsimp only at timed ⊢
          rw [kept.1, SchedulerState.checkIn_timerLatestByNode] at timed
          rw [kept.2, SchedulerState.checkIn_nodes, AList.mem_insert]
          cases wake : context.wakeAt with
          | none =>
              rw [wake] at timed
              exact .inl ⟨timed, by simp⟩
          | some when =>
              rw [wake] at timed
              rcases (AList.mem_insert _).mp timed with here | timed
              · exact .inr (.inl here)
              · exact .inl ⟨timed, by simp⟩
  | settles reply pc =>
      rw [System.settle_state] at timed
      exact .inl ⟨timed, by simp⟩
  | signals signalled _ =>
      rcases system.scheduler.signalReady_eq signalled with ⟨_, same⟩ | ⟨flag, _, same⟩
      · exact .inl ⟨by simpa [same] using timed, by simp⟩
      · exact .inl ⟨by simpa [same] using timed, by simp⟩
  | registers registered when _ =>
      rcases system.scheduler.wakeAt_eq registered when with ⟨_, same⟩ | ⟨home, same⟩
      · exact .inl ⟨by simpa [same] using timed, by simp⟩
      · rw [same] at timed ⊢
        rcases (AList.mem_insert _).mp timed with rfl | timed
        · exact .inr home
        · exact .inl ⟨timed, by simp⟩
  | _ => exact .inl ⟨timed, by simp⟩

theorem QueuesMatch.fireFirst {entry : TimerWake} {rest : List TimerWake} (order : QueuesMatch scheduler.state)
    (entries : scheduler.state.timers.entries = entry :: rest) : QueuesMatch (scheduler.fireFirst entry).state :=
  ⟨order.lined.fireFirst, order.queued.fireFirst entries⟩

theorem QueuesMatch.discard (order : QueuesMatch scheduler.state) : QueuesMatch scheduler.discard.state :=
  ⟨⟨order.lined.nodup, order.lined.inSet⟩, order.queued.nextValidTimerDeadline⟩

theorem QueuesMatch.drainExpiredTimers (order : QueuesMatch scheduler.state) :
    QueuesMatch (scheduler.drainExpiredTimers now).1.state := by
  obtain ⟨rounds, same, _⟩ := scheduler.drainExpiredTimers_eq now
  have drained : QueuesMatch (Scheduler.drainRounds now rounds scheduler).1.state :=
    Scheduler.drainRounds_keeps (fun scheduler => QueuesMatch scheduler.state) (fun _ order => order.discard)
      (fun _ _ _ order entries _ => order.fireFirst entries) rounds scheduler order
  rw [same]
  exact ⟨⟨drained.lined.nodup, drained.lined.inSet⟩, drained.queued⟩

theorem QueuesMatch.checkIn {component : κ} {context : NodeContext} (order : QueuesMatch state) :
    QueuesMatch (state.checkIn nodeId component context) := by
  unfold SchedulerState.checkIn
  cases context.wakeAt with
  | none => exact ⟨⟨order.lined.nodup, order.lined.inSet⟩, order.queued⟩
  | some when =>
      have registered : TimersQueued (state.registerTimer nodeId when) := order.queued.registerTimer
      exact ⟨⟨order.lined.nodup, order.lined.inSet⟩, registered⟩

theorem QueuesMatch.enqueueRecorded (order : QueuesMatch state) : QueuesMatch (state.enqueueRecorded nodeId) := by
  have lined : Lined (state.enqueueRecorded nodeId) := order.lined.enqueueRecorded
  obtain ⟨metrics, same⟩ := state.enqueueRecorded_eq nodeId
  rw [same] at lined ⊢
  exact ⟨lined, by simpa [TimersQueued] using order.queued⟩

theorem QueuesMatch.moved (order : QueuesMatch system.scheduler.state) (moved : Moved enforced system action events next) :
    QueuesMatch next.scheduler.state := by
  cases moved with
  | drains pc => exact order.drainExpiredTimers
  | recheck pc _ _ => exact order.discard
  | parksTimed pc _ _ => exact order.discard
  | parks pc _ => exact order.discard
  | popsUnavailable pc unavailable =>
      obtain ⟨_, _, _, _, _, queue, rfl⟩ := SchedulerState.checkOut_unavailable unavailable
      exact ⟨order.lined.pop queue _ _ _, order.queued⟩
  | dispatches pc taken =>
      obtain ⟨_, _, queue, _, _, rfl⟩ := checkOut_taken taken
      exact ⟨order.lined.pop queue _ _ _, order.queued⟩
  | @concludes away component context outcome pc =>
      have accounted : QueuesMatch (system.scheduler.state.account away outcome) :=
        ⟨⟨order.lined.nodup, order.lined.inSet⟩, order.queued⟩
      cases finished : outcome.finished with
      | true =>
          obtain ⟨running, same, _⟩ := system.conclude_finished away component context finished
          rw [same]
          exact ⟨accounted.lined.retire away, accounted.queued.retire away⟩
      | false =>
          obtain ⟨state, same, states⟩ := system.conclude_unfinished away component context finished
          have home : QueuesMatch ((system.scheduler.state.account away outcome).checkIn away component context) :=
            accounted.checkIn
          rw [same]
          rcases states with ⟨_, rfl⟩ | ⟨_, rfl⟩
          · exact home.enqueueRecorded
          · exact home
  | settles reply pc =>
      rw [System.settle_state]
      exact order
  | signals signalled _ =>
      rcases system.scheduler.signalReady_eq signalled with ⟨_, same⟩ | ⟨flag, _, same⟩
      · rw [same]
        exact order
      · rw [same]
        exact order.enqueueRecorded
  | registers registered when _ =>
      rcases system.scheduler.wakeAt_eq registered when with ⟨_, same⟩ | ⟨_, same⟩
      · rw [same]
        exact order
      · rw [same]
        exact ⟨⟨order.lined.nodup, order.lined.inSet⟩, order.queued.registerTimer⟩
  | _ => exact order

/-- What has a flag or a deadline is in the maps or checked out of them. -/
structure Tracked (system : System κ) : Prop where
  order : QueuesMatch system.scheduler.state
  flagged : ∀ nodeId ∈ system.scheduler.state.readyFlags, Known nodeId system
  timed : ∀ nodeId ∈ system.scheduler.state.timerLatestByNode, Known nodeId system

theorem Tracked.moved (tracked : Tracked system) (moved : Moved enforced system action events next) :
    Tracked next := by
  refine ⟨tracked.order.moved moved, ?_, ?_⟩
  · intro nodeId flagged
    obtain ⟨earlier, unretired⟩ := (mem_readyFlags_moved moved).mp flagged
    exact (tracked.flagged nodeId earlier).moved moved unretired
  · intro nodeId timed
    rcases timed_moved moved timed with ⟨earlier, unretired⟩ | home
    · exact (tracked.timed nodeId earlier).moved moved unretired
    · exact .inl home

theorem Known.operated (known : Known nodeId system) (operated : Operated enforced system operation reports next)
    (unretired : .event (.retired nodeId) ∉ reports) : Known nodeId next := by
  cases operated with
  | moves moved => exact known.moved moved fun retired => unretired (event_mem_moves.mpr retired)
  | adds added budgetClass _ => exact known.imp (fun home => (AList.mem_insert _).mpr (.inr home)) id
  | equips _ _ _ => exact known
  | snapshots _ => exact known

theorem tracked_host (run : (hostMachine κ enforced).Run permitted (System.start .new clock) trace system) :
    Tracked system := by
  refine Machine.Run.invariant Tracked run ?_ ?_
  · refine ⟨⟨⟨by simp [System.start, Scheduler.new, SchedulerState.new], ?_⟩, ?_⟩, ?_, ?_⟩ <;>
      simp [System.start, Scheduler.new, SchedulerState.new, TimersQueued]
  · intro before operation after reports _ tracked step
    cases operated_of_step step with
    | moves moved => exact tracked.moved moved
    | adds nodeId budgetClass _ =>
        have known : ∀ other, Known other before → Known other { before with
            scheduler := before.scheduler.addNode nodeId budgetClass before.clock } :=
          fun other known => known.imp (fun home => (AList.mem_insert _).mpr (.inr home)) id
        refine ⟨⟨⟨tracked.order.lined.nodup, tracked.order.lined.inSet⟩, tracked.order.queued⟩, ?_, ?_⟩
        · intro other flagged
          rcases (AList.mem_insert _).mp flagged with rfl | flagged
          · exact .inl ((AList.mem_insert _).mpr (.inl rfl))
          · exact known other (tracked.flagged other flagged)
        · exact fun other timed => known other (tracked.timed other timed)
    | equips _ _ _ => exact ⟨⟨⟨tracked.order.lined.nodup, tracked.order.lined.inSet⟩, tracked.order.queued⟩, tracked.flagged, tracked.timed⟩
    | snapshots _ => exact ⟨⟨⟨tracked.order.lined.nodup, tracked.order.lined.inSet⟩, tracked.order.queued⟩, tracked.flagged, tracked.timed⟩

/-- A live node is in the maps or checked out of them. -/
theorem known_of_live (run : (hostMachine κ enforced).Run permitted (System.start .new clock) trace system)
    (live : Live nodeId trace) : Known nodeId system :=
  (tracked_host run).flagged nodeId ((mem_readyFlags_host run).mpr live)

/-- While a node is in flight it is in `nodes` only if it has been added again. -/
theorem home_in_flight (run : (hostMachine κ enforced).Run permitted (System.start .new clock) trace system)
    (away : system.pc.inFlight = some nodeId) :
    nodeId ∈ system.scheduler.state.nodes ↔ AddedSince (.event (.dispatched nodeId)) nodeId trace := by
  revert away
  refine Machine.Run.history (fun trace system => system.pc.inFlight = some nodeId →
    (nodeId ∈ system.scheduler.state.nodes ↔ AddedSince (.event (.dispatched nodeId)) nodeId trace)) run ?_ ?_
  · rintro ⟨⟩
  · intro earlier before operation after reports _ _ ih step away
    cases operated_of_step step with
    | @moves action events _ moved =>
        rw [mem_nodes_moved moved, addedSince_append fun _ => added_not_mem_moves, event_mem_moves]
        rcases (inFlight_moved moved).mp away with dispatched | ⟨flew, unchecked, _⟩
        · have grounded := (home_of_dispatched moved dispatched).2
          have unchecked : .checkedIn nodeId ∉ events := fun back => by
            rw [away_of_back moved (.inl back)] at grounded
            cases grounded
          simp [dispatched, unchecked]
        · have going : .dispatched nodeId ∉ events := fun dispatched => by
            rw [(home_of_dispatched moved dispatched).2] at flew
            cases flew
          simp [going, unchecked, ih flew]
    | adds added budgetClass _ =>
        rw [addedSince_added, ← ih away]
        exact AList.mem_insert _
    | equips component equipped _ =>
        rw [List.append_nil]
        exact ih away
    | snapshots _ =>
        rw [List.append_nil]
        exact ih away

/-- A live node is in `nodes` unless it is in flight and has not been added again. -/
theorem mem_nodes_host (run : (hostMachine κ enforced).Run permitted (System.start .new clock) trace system)
    (live : Live nodeId trace) : nodeId ∈ system.scheduler.state.nodes ↔
      system.pc.inFlight ≠ some nodeId ∨ AddedSince (.event (.dispatched nodeId)) nodeId trace := by
  by_cases away : system.pc.inFlight = some nodeId
  · rw [home_in_flight run away]
    simp [away]
  · have home := (known_of_live run live).resolve_right away
    simp [away, home]

end Flowd
