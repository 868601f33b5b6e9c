import Flowd.Scheduler.Retirement

namespace Flowd

/-! A deadline fires once, not early, and only while it is the latest of its node. -/

open Transition

variable {κ : Type} {enforced : Bool} {system next : System κ} {action : Action κ}
variable {events : List Event} {reports trace : List Report} {nodeId : NodeId}
variable {operation : Operation κ} {clock now : Instant} {away : Option NodeId}
variable {state : SchedulerState κ} {scheduler : Scheduler κ} {permitted : System κ → Operation κ → Prop}

theorem TimerHeap.head_le (heap : TimerHeap) {entry other : TimerWake} {rest : List TimerWake}
    (entries : heap.entries = entry :: rest) (member : other ∈ heap.entries) : entry.when ≤ other.when := by
  have sorted := heap.sorted
  rw [entries] at sorted member
  rcases List.mem_cons.mp member with rfl | member
  · exact Nat.le_refl _
  · rcases (List.pairwise_cons.mp sorted).1 other member with earlier | ⟨same, _⟩
    · exact Nat.le_of_lt earlier
    · exact Nat.le_of_eq same

/-- The next deadline is the least that is in force. -/
theorem TimersQueued.nextValidTimerDeadline_least (queued : TimersQueued state) {deadline : Instant}
    (found : state.nextValidTimerDeadline.1 = some deadline) :
    (∃ nodeId, state.timerLatestByNode.lookup nodeId = some deadline) ∧
      ∀ nodeId when, state.timerLatestByNode.lookup nodeId = some when → deadline ≤ when := by
  obtain ⟨timers, _, keeps, _, some⟩ := state.nextValidTimerDeadline_eq
  obtain ⟨entry, rest, entries, rfl, latest⟩ := some deadline found
  refine ⟨⟨entry.nodeId, latest⟩, ?_⟩
  intro nodeId when later
  have member := keeps ⟨when, nodeId⟩ (queued nodeId when later) later
  exact timers.head_le entries member

theorem TimersQueued.nextValidTimerDeadline_none (queued : TimersQueued state) :
    state.nextValidTimerDeadline.1 = none ↔ ∀ nodeId, state.timerLatestByNode.lookup nodeId = none := by
  constructor
  · intro none nodeId
    exact AList.lookup_eq_none.mpr (queued.no_timer none)
  · intro empty
    cases found : state.nextValidTimerDeadline.1 with
    | none => rfl
    | some deadline =>
        obtain ⟨⟨nodeId, latest⟩, _⟩ := queued.nextValidTimerDeadline_least found
        rw [empty nodeId] at latest
        cases latest

namespace SchedulerState

theorem nextValidTimer_length {latest : HashMap NodeId Instant} {entries : List TimerWake}
    {sorted : entries.Pairwise TimerWake.PopsBefore} :
    (nextValidTimer latest entries sorted).2.entries.length ≤ entries.length := by
  induction entries with
  | nil => exact Nat.le_refl _
  | cons next rest ih =>
      unfold nextValidTimer
      split
      · exact Nat.le_refl _
      · exact Nat.le_succ_of_le ih

end SchedulerState

/-- The deadline of a node after a drain. -/
def remaining (now : Instant) (latest : Option Instant) : Option Instant := latest.filter (now < ·)

/-- What a drain does to the context of a node with that deadline. -/
def NodeContext.drained (now : Instant) (latest : Option Instant) (context : NodeContext) : NodeContext :=
  match latest with
  | some when => if when ≤ now then { context with timerFiredAt := some when } else context
  | none => context

/-- What draining does, with the entries it fires. -/
structure Drained (now : Instant) (scheduler next : Scheduler κ) (fired : List TimerWake) : Prop where
  fires : ∀ entry, entry ∈ fired ↔
    scheduler.state.timerLatestByNode.lookup entry.nodeId = some entry.when ∧ entry.when ≤ now
  once : (fired.map TimerWake.nodeId).Nodup
  latest : ∀ nodeId, next.state.timerLatestByNode.lookup nodeId =
    remaining now (scheduler.state.timerLatestByNode.lookup nodeId)
  contexts : ∀ nodeId, next.state.nodes.lookup nodeId = (scheduler.state.nodes.lookup nodeId).map
    (NodeContext.drained now (scheduler.state.timerLatestByNode.lookup nodeId))
  queued : ∀ nodeId, nodeId ∈ next.state.readyQueue ↔
    nodeId ∈ scheduler.state.readyQueue ∨ nodeId ∈ fired.map TimerWake.nodeId
  flags : ∀ flag < scheduler.flags.length, next.load flag = true ↔ scheduler.load flag = true ∨
    ∃ nodeId ∈ fired.map TimerWake.nodeId, scheduler.state.readyFlags.lookup nodeId = some flag
  heap : ∀ entry ∈ next.state.timers.entries, now < entry.when

theorem Scheduler.load_set {flag : FlagRef} (bound : flag < scheduler.flags.length) (stored : FlagRef) :
    (scheduler.store stored true).load flag = true ↔ flag = stored ∨ scheduler.load flag = true := by
  unfold Scheduler.load Scheduler.store
  rw [List.getD_eq_getElem?_getD, List.getD_eq_getElem?_getD, List.getElem?_set]
  by_cases same : stored = flag
  · subst same
    simp [bound]
  · simp [same, Ne.symm same]

theorem Scheduler.fireFirst_load {entry : TimerWake} {flag : FlagRef} (bound : flag < scheduler.flags.length) :
    (scheduler.fireFirst entry).load flag = true ↔
      scheduler.state.readyFlags.lookup entry.nodeId = some flag ∨ scheduler.load flag = true := by
  unfold Scheduler.load
  cases flagged : scheduler.state.readyFlags.lookup entry.nodeId with
  | none =>
      have flags : (scheduler.fireFirst entry).flags = scheduler.flags := by
        unfold Scheduler.fireFirst Scheduler.fireTimer
        simp [flagged]
      rw [flags]
      simp
  | some stored =>
      have flags : (scheduler.fireFirst entry).flags = (scheduler.store stored true).flags := by
        unfold Scheduler.fireFirst Scheduler.fireTimer
        simp [flagged, Scheduler.store]
      have set := Scheduler.load_set bound stored
      unfold Scheduler.load at set
      rw [flags, set, Option.some.injEq]
      exact or_congr_left eq_comm

theorem Scheduler.fireFirst_length (scheduler : Scheduler κ) (entry : TimerWake) :
    (scheduler.fireFirst entry).flags.length = scheduler.flags.length := by
  obtain ⟨flags, same, set⟩ := scheduler.fireFirst_eq entry
  rw [same]
  rcases set with rfl | ⟨flag, rfl⟩
  · rfl
  · simp

/-- No deadline in force has passed: the last round of a drain discards what is stale. -/
theorem Drained.idle (queued : TimersQueued scheduler.state)
    (ahead : ∀ deadline, scheduler.state.nextValidTimerDeadline.1 = some deadline → now < deadline) :
    Drained now scheduler scheduler.discard [] := by
  have later : ∀ nodeId when, scheduler.state.timerLatestByNode.lookup nodeId = some when → now < when := by
    intro nodeId when latest
    cases found : scheduler.state.nextValidTimerDeadline.1 with
    | none =>
        rw [queued.nextValidTimerDeadline_none.mp found nodeId] at latest
        cases latest
    | some deadline =>
        have least := (queued.nextValidTimerDeadline_least found).2 nodeId when latest
        exact Nat.lt_of_lt_of_le (ahead deadline found) least
  constructor
  · intro entry
    simp only [List.not_mem_nil, false_iff, not_and, Nat.not_le]
    exact later entry.nodeId entry.when
  · simp
  · intro nodeId
    rw [Scheduler.discard_timerLatestByNode]
    cases latest : scheduler.state.timerLatestByNode.lookup nodeId with
    | none => rfl
    | some when => simp [remaining, Option.filter, later nodeId when latest]
  · intro nodeId
    rw [Scheduler.discard_nodes]
    have same : NodeContext.drained now (scheduler.state.timerLatestByNode.lookup nodeId) = id := by
      funext context
      unfold NodeContext.drained
      split
      · next when latest => exact if_neg (Nat.not_le.mpr (later nodeId when latest))
      · rfl
    rw [same, Option.map_id, id]
  · simp
  · simp [Scheduler.load]
  · intro entry member
    obtain ⟨timers, same, _, empty, some⟩ := scheduler.state.nextValidTimerDeadline_eq
    have member : entry ∈ timers.entries := by simpa [Scheduler.discard, same] using member
    cases found : scheduler.state.nextValidTimerDeadline.1 with
    | none =>
        rw [empty found] at member
        cases member
    | some deadline =>
        obtain ⟨first, rest, entries, rfl, _⟩ := some deadline found
        exact Nat.lt_of_lt_of_le (ahead _ found) (timers.head_le entries member)

/-- Firing the first entry and draining on. -/
theorem Drained.fire {entry : TimerWake} {fired : List TimerWake} {next : Scheduler κ}
    (latest : scheduler.state.timerLatestByNode.lookup entry.nodeId = some entry.when)
    (inSet : ∀ nodeId, nodeId ∈ scheduler.state.readySet ↔ nodeId ∈ scheduler.state.readyQueue)
    (due : entry.when ≤ now) (drained : Drained now (scheduler.discard.fireFirst entry) next fired) :
    Drained now scheduler next (entry :: fired) := by
  obtain ⟨flags, same, _⟩ := scheduler.discard.fireFirst_eq entry
  have erased : ∀ nodeId, (scheduler.discard.fireFirst entry).state.timerLatestByNode.lookup nodeId =
      if nodeId = entry.nodeId then none else scheduler.state.timerLatestByNode.lookup nodeId := by
    intro nodeId
    rw [same, SchedulerState.enqueue_timerLatestByNode]
    exact HashMap.lookup_erase_ite _ _ _
  have marked : ∀ nodeId, (scheduler.discard.fireFirst entry).state.nodes.lookup nodeId =
      if nodeId = entry.nodeId then
        (scheduler.state.nodes.lookup entry.nodeId).map fun context =>
          { context with timerFiredAt := some entry.when }
      else scheduler.state.nodes.lookup nodeId := by
    intro nodeId
    rw [same, SchedulerState.enqueue_nodes]
    exact HashMap.lookup_adjust _ _ _ _
  have queues : ∀ nodeId, nodeId ∈ (scheduler.discard.fireFirst entry).state.readyQueue ↔
      nodeId = entry.nodeId ∨ nodeId ∈ scheduler.state.readyQueue := by
    intro nodeId
    rw [same]
    exact SchedulerState.mem_enqueue inSet
  have gone : ∀ other ∈ fired, other.nodeId ≠ entry.nodeId := by
    intro other member here
    have left := ((drained.fires other).mp member).1
    rw [erased, if_pos here] at left
    cases left
  constructor
  · intro other
    rw [List.mem_cons, drained.fires, erased]
    by_cases here : other.nodeId = entry.nodeId
    · rw [if_pos here, here, latest]
      constructor
      · rintro (rfl | ⟨none, _⟩)
        · exact ⟨rfl, due⟩
        · cases none
      · rintro ⟨sameWhen, _⟩
        left
        cases other
        cases entry
        simp_all
    · rw [if_neg here]
      exact or_iff_right fun equal => here (by rw [equal])
  · rw [List.map_cons, List.nodup_cons, List.mem_map]
    refine ⟨?_, drained.once⟩
    rintro ⟨other, member, here⟩
    exact gone other member here
  · intro nodeId
    rw [drained.latest, erased]
    split
    · next here =>
        subst here
        simp [latest, remaining, Option.filter, due]
    · rfl
  · intro nodeId
    rw [drained.contexts, erased, marked]
    split
    · next here =>
        subst here
        rw [latest, Option.map_map]
        congr 1
        funext context
        simp [NodeContext.drained, due]
    · rfl
  · intro nodeId
    rw [drained.queued, queues, List.map_cons, List.mem_cons, or_assoc, or_left_comm]
  · intro flag bound
    have kept : (scheduler.discard.fireFirst entry).state.readyFlags = scheduler.state.readyFlags := by
      rw [same, SchedulerState.enqueue_readyFlags]
      rfl
    rw [drained.flags flag (by rw [Scheduler.fireFirst_length]; exact bound),
      Scheduler.fireFirst_load (by exact bound), kept, List.map_cons]
    simp only [List.exists_mem_cons_iff]
    exact or_assoc.trans or_left_comm
  · exact drained.heap

theorem drained_rounds {rounds : Nat} (order : QueuesMatch scheduler.state)
    (enough : scheduler.state.timers.entries.length < rounds) :
    Drained now scheduler (Scheduler.drainRounds now rounds scheduler).1
      (Scheduler.drainRounds now rounds scheduler).2 := by
  induction rounds generalizing scheduler with
  | zero => exact absurd enough (Nat.not_lt_zero _)
  | succ rounds ih =>
      rcases Scheduler.drainRounds_succ now rounds scheduler with
        ⟨ahead, last⟩ | ⟨entry, rest, entries, due, latest, round⟩
      · rw [last]
        exact .idle order.queued ahead
      · rw [round]
        refine Drained.fire latest order.lined.inSet due (ih (order.discard.fireFirst entries) ?_)
        -- the round has popped an entry
        have kept : scheduler.discard.state.timers.entries.length ≤ scheduler.state.timers.entries.length :=
          SchedulerState.nextValidTimer_length
        obtain ⟨flags, same, _⟩ := scheduler.discard.fireFirst_eq entry
        rw [same, SchedulerState.enqueue_timers]
        rw [entries, List.length_cons] at kept
        simp only [TimerHeap.pop_entries, entries, List.tail_cons]
        omega

theorem drained_timers (order : QueuesMatch scheduler.state) :
    Drained now scheduler (scheduler.drainExpiredTimers now).1 (scheduler.drainExpiredTimers now).2 := by
  have drained : Drained now scheduler
      (Scheduler.drainRounds now (scheduler.state.timers.entries.length + 1) scheduler).1
      (Scheduler.drainRounds now (scheduler.state.timers.entries.length + 1) scheduler).2 :=
    drained_rounds order (Nat.lt_succ_self _)
  exact ⟨drained.fires, drained.once, drained.latest, drained.contexts, drained.queued, drained.flags,
    drained.heap⟩

/-- The deadline that is in force for a node after a report: the latest that was
registered, unless it fired or the node was retired. -/
def Report.force (nodeId : NodeId) (current : Option Instant) : Report → Option Instant
  | .registered other when => if other = nodeId then some when else current
  | .event (.timerExpired other _) => if other = nodeId then none else current
  | .event (.retired other) => if other = nodeId then none else current
  | _ => current

def inForce (nodeId : NodeId) (trace : List Report) : Option Instant := trace.foldl (Report.force nodeId) none

theorem force_pops (current : Option Instant) :
    (system.pops action).foldl (Report.force nodeId) current = current := by
  unfold System.pops
  split
  · split
    · cases system.scheduler.state.readyQueue <;> rfl
    · rfl
  · rfl

theorem force_expired (fired : List TimerWake) (current : Option Instant) :
    ((fired.map fun entry => Event.timerExpired entry.nodeId entry.when).map Report.event).foldl
      (Report.force nodeId) current = if nodeId ∈ fired.map TimerWake.nodeId then none else current := by
  induction fired generalizing current with
  | nil => rfl
  | cons entry rest ih =>
      rw [List.map_cons, List.map_cons, List.foldl_cons, ih, List.map_cons]
      by_cases here : entry.nodeId = nodeId
      · simp [Report.force, here]
      · simp [Report.force, here, Ne.symm here]

/-- What a drain leaves in force. -/
theorem Drained.force {next : Scheduler κ} {fired : List TimerWake}
    (drained : Drained now scheduler next fired) (nodeId : NodeId) :
    next.state.timerLatestByNode.lookup nodeId =
      if nodeId ∈ fired.map TimerWake.nodeId then none
      else scheduler.state.timerLatestByNode.lookup nodeId := by
  rw [drained.latest]
  cases latest : scheduler.state.timerLatestByNode.lookup nodeId with
  | none => simp [remaining]
  | some when =>
      by_cases due : when ≤ now
      · have fires : nodeId ∈ fired.map TimerWake.nodeId :=
          List.mem_map.mpr ⟨⟨when, nodeId⟩, (drained.fires _).mpr ⟨latest, due⟩, rfl⟩
        simp only [fires, ↓reduceIte, remaining, Option.filter, decide_eq_true_eq, Nat.not_lt.mpr due]
      · have waits : nodeId ∉ fired.map TimerWake.nodeId := by
          intro member
          obtain ⟨entry, fires, rfl⟩ := List.mem_map.mp member
          obtain ⟨same, past⟩ := (drained.fires entry).mp fires
          rw [latest] at same
          cases same
          exact due past
        simp only [waits, ↓reduceIte, remaining, Option.filter, decide_eq_true_eq, Nat.lt_of_not_le due]

/-- The side map follows the reports. -/
theorem latest_moved (order : QueuesMatch system.scheduler.state)
    (moved : Moved enforced system action events next) (nodeId : NodeId) :
    next.scheduler.state.timerLatestByNode.lookup nodeId =
      (system.pops action ++ system.registrations action ++ events.map Report.event).foldl (Report.force nodeId)
        (system.scheduler.state.timerLatestByNode.lookup nodeId) := by
  rw [List.foldl_append, List.foldl_append, force_pops]
  cases moved with
  | drains pc =>
      rw [show system.registrations Action.run = [] by simp [System.registrations, pc], List.foldl_nil,
        force_expired]
      exact (drained_timers order).force nodeId
  | popsUnavailable pc unavailable =>
      obtain ⟨_, _, _, _, _, _, rfl⟩ := SchedulerState.checkOut_unavailable unavailable
      simp [System.registrations, pc]
  | dispatches pc taken =>
      obtain ⟨_, _, _, _, _, rfl⟩ := checkOut_taken taken
      simp [System.registrations, pc, Report.force]
  | @concludes away component context outcome pc =>
      cases finished : outcome.finished with
      | true =>
          obtain ⟨running, same, reports⟩ := system.conclude_finished away component context finished
          rw [same]
          have erased : ((system.scheduler.state.account away outcome).retire away).timerLatestByNode.lookup
              nodeId = if nodeId = away then none else system.scheduler.state.timerLatestByNode.lookup nodeId :=
            HashMap.lookup_erase_ite _ _ _
          rcases reports with ⟨_, reports⟩ | ⟨_, reports⟩ <;> rw [reports] <;>
            simp [erased, System.registrations, pc, finished, Report.force, eq_comm]
      | false =>
          obtain ⟨state, same, states⟩ := system.conclude_unfinished away component context finished
          have home : ((system.scheduler.state.account away outcome).checkIn away component
              context).timerLatestByNode.lookup nodeId = (context.wakeAt.toList.map (Report.registered away)).foldl
                (Report.force nodeId) (system.scheduler.state.timerLatestByNode.lookup nodeId) := by
            rw [SchedulerState.checkIn_timerLatestByNode]
            cases context.wakeAt with
            | none => rfl
            | some when => simp [SchedulerState.account, HashMap.lookup_insert_ite, Report.force, eq_comm]
          have recorded : state.timerLatestByNode =
              ((system.scheduler.state.account away outcome).checkIn away component context).timerLatestByNode := by
            rcases states with ⟨_, rfl⟩ | ⟨_, rfl⟩
            · exact SchedulerState.enqueueRecorded_timerLatestByNode
            · rfl
          rw [same]
          dsimp only
          rw [recorded, home]
          simp [System.registrations, pc, finished, Report.force]
  | @settles away component context outcome reply pc =>
      rw [System.settle_state]
      simp [System.registrations, Report.force]
  | signals signalled _ =>
      rcases system.scheduler.signalReady_eq signalled with ⟨_, same⟩ | ⟨flag, _, same⟩
      · simp [same, System.registrations, Report.force]
      · simp [same, System.registrations, Report.force]
  | registers registered when _ =>
      rcases system.scheduler.wakeAt_eq registered when with ⟨absent, same⟩ | ⟨home, same⟩
      · simp [same, System.registrations, Report.force, absent]
      · simp [same, System.registrations, Report.force, home, SchedulerState.registerTimer,
          HashMap.lookup_insert_ite, eq_comm]
  | _ => simp_all [System.registrations, Report.force, System.enter, Scheduler.store]

theorem latest_host (run : (hostMachine κ enforced).Run permitted (System.start .new clock) trace system)
    (nodeId : NodeId) : system.scheduler.state.timerLatestByNode.lookup nodeId = inForce nodeId trace := by
  refine Machine.Run.history (fun trace system =>
    system.scheduler.state.timerLatestByNode.lookup nodeId = inForce nodeId trace) run rfl ?_
  intro earlier state operation after reports prior _ same step
  unfold inForce at same ⊢
  rw [List.foldl_append, ← same]
  cases operated_of_step step with
  | moves moved => exact latest_moved (tracked_host prior).order moved nodeId
  | adds _ _ _ => rfl
  | equips _ _ _ => rfl
  | snapshots _ => rfl

/-- Every node has a ready flag of its own. -/
structure FlagsKnown (scheduler : Scheduler κ) : Prop where
  known : ∀ nodeId flag, scheduler.state.readyFlags.lookup nodeId = some flag → flag < scheduler.flags.length
  distinct : ∀ nodeId other flag, scheduler.state.readyFlags.lookup nodeId = some flag →
    scheduler.state.readyFlags.lookup other = some flag → nodeId = other

theorem FlagsKnown.change {next : Scheduler κ} (flags : FlagsKnown scheduler)
    (length : next.flags.length = scheduler.flags.length)
    (kept : ∀ nodeId flag, next.state.readyFlags.lookup nodeId = some flag →
      scheduler.state.readyFlags.lookup nodeId = some flag) : FlagsKnown next := by
  constructor
  · intro nodeId flag found
    rw [length]
    exact flags.known nodeId flag (kept nodeId flag found)
  · intro nodeId other flag found also
    exact flags.distinct nodeId other flag (kept nodeId flag found) (kept other flag also)

theorem FlagsKnown.moved (flags : FlagsKnown system.scheduler)
    (moved : Moved enforced system action events next) : FlagsKnown next.scheduler := by
  cases moved with
  | drains pc =>
      refine flags.change (SameHome.drainExpiredTimers system.clock).flags ?_
      intro nodeId flag found
      rwa [Scheduler.drainExpiredTimers_readyFlags] at found
  | popsUnavailable pc unavailable =>
      obtain ⟨_, _, _, _, _, _, rfl⟩ := SchedulerState.checkOut_unavailable unavailable
      exact flags.change rfl fun _ _ found => found
  | dispatches pc taken =>
      obtain ⟨_, _, _, _, _, rfl⟩ := checkOut_taken taken
      exact flags.change rfl fun _ _ found => found
  | @concludes away component context outcome pc =>
      cases finished : outcome.finished with
      | true =>
          obtain ⟨running, same, _⟩ := system.conclude_finished away component context finished
          rw [same]
          refine flags.change rfl ?_
          intro nodeId flag found
          have erased : ((system.scheduler.state.account away outcome).retire away).readyFlags.lookup nodeId =
              if nodeId = away then none else system.scheduler.state.readyFlags.lookup nodeId :=
            HashMap.lookup_erase_ite _ _ _
          dsimp only at found
          rw [erased] at found
          split at found
          · cases found
          · exact found
      | false =>
          obtain ⟨state, same, states⟩ := system.conclude_unfinished away component context finished
          rw [same]
          refine flags.change rfl ?_
          intro nodeId flag found
          rcases states with ⟨_, rfl⟩ | ⟨_, rfl⟩
          · simpa [SchedulerState.account] using found
          · simpa [SchedulerState.account] using found
  | @settles away component context outcome reply pc =>
      have settled := system.settled enforced away context outcome reply
      generalize system.settle enforced away context outcome reply = last at settled ⊢
      cases settled <;> exact flags.change (by simp [Scheduler.store]) fun _ _ found => found
  | signals signalled _ =>
      refine flags.change SameHome.signalReady.flags ?_
      intro nodeId flag found
      rcases system.scheduler.signalReady_eq signalled with ⟨_, same⟩ | ⟨_, _, same⟩
      · simpa [same] using found
      · simpa [same] using found
  | registers registered when _ =>
      refine flags.change SameHome.wakeAt.flags ?_
      intro nodeId flag found
      rcases system.scheduler.wakeAt_eq registered when with ⟨_, same⟩ | ⟨_, same⟩ <;>
        simpa [same, SchedulerState.registerTimer] using found
  | selfSignals _ => exact flags.change (by simp [Scheduler.store]) fun _ _ found => found
  | enters _ => exact flags.change (by simp [System.enter, Scheduler.store]) fun _ _ found => found
  | _ => exact flags.change rfl fun _ _ found => found

theorem FlagsKnown.addNode {budgetClass : BudgetClass} (flags : FlagsKnown scheduler) :
    FlagsKnown (scheduler.addNode nodeId budgetClass now) := by
  have lookup : ∀ other, (scheduler.addNode nodeId budgetClass now).state.readyFlags.lookup other =
      if other = nodeId then some scheduler.flags.length else scheduler.state.readyFlags.lookup other :=
    fun other => HashMap.lookup_insert_ite _ _ _ _
  have length : (scheduler.addNode nodeId budgetClass now).flags.length = scheduler.flags.length + 1 := by
    simp [Scheduler.addNode]
  constructor
  · intro other flag found
    rw [lookup] at found
    rw [length]
    split at found
    · cases found
      exact Nat.lt_succ_self _
    · exact Nat.lt_succ_of_lt (flags.known other flag found)
  · intro first second flag found also
    rw [lookup] at found also
    split at found
    · next here =>
        cases found
        split at also
        · next there => rw [here, there]
        · exact absurd (flags.known second _ also) (Nat.lt_irrefl _)
    · split at also
      · cases also
        exact absurd (flags.known first _ found) (Nat.lt_irrefl _)
      · exact flags.distinct first second flag found also

theorem flagsKnown_host
    (run : (hostMachine κ enforced).Run permitted (System.start .new clock) trace system) :
    FlagsKnown system.scheduler := by
  refine Machine.Run.invariant (fun system => FlagsKnown system.scheduler) run ?_ ?_
  · constructor <;> simp [System.start, Scheduler.new, SchedulerState.new]
  · intro state operation after reports _ flags step
    cases operated_of_step step with
    | moves moved => exact flags.moved moved
    | adds _ _ _ => exact flags.addNode
    | equips _ _ _ => exact flags.change rfl fun _ _ found => found
    | snapshots _ => exact flags.change rfl fun _ _ found => found

/-- A drain makes a node with a due deadline ready, marks its context and puts the
deadline out of force. -/
structure Fires (now when : Instant) (nodeId : NodeId) (scheduler next : Scheduler κ) : Prop where
  queued : nodeId ∈ next.state.readyQueue
  flagged : ∀ flag, scheduler.state.readyFlags.lookup nodeId = some flag → next.load flag = true
  marked : ∃ context, scheduler.state.nodes.lookup nodeId = some context ∧
    next.state.nodes.lookup nodeId = some { context with timerFiredAt := some when }
  forgotten : next.state.timerLatestByNode.lookup nodeId = none
  removed : ∀ entry ∈ next.state.timers.entries, entry.nodeId = nodeId → now < entry.when

/-- A drain leaves any other node as it is. -/
structure Spared (nodeId : NodeId) (scheduler next : Scheduler κ) : Prop where
  queued : nodeId ∈ next.state.readyQueue ↔ nodeId ∈ scheduler.state.readyQueue
  flagged : ∀ flag, scheduler.state.readyFlags.lookup nodeId = some flag → next.load flag = scheduler.load flag
  unmarked : next.state.nodes.lookup nodeId = scheduler.state.nodes.lookup nodeId
  kept : next.state.timerLatestByNode.lookup nodeId = scheduler.state.timerLatestByNode.lookup nodeId
  stays : ∀ when, scheduler.state.timerLatestByNode.lookup nodeId = some when →
    (⟨when, nodeId⟩ : TimerWake) ∈ next.state.timers.entries

theorem Drained.due {next : Scheduler κ} {fired : List TimerWake} {when : Instant}
    (drained : Drained now scheduler next fired) (flags : FlagsKnown scheduler)
    (home : nodeId ∈ scheduler.state.nodes) (latest : scheduler.state.timerLatestByNode.lookup nodeId = some when)
    (due : when ≤ now) : Fires now when nodeId scheduler next := by
  have fires : nodeId ∈ fired.map TimerWake.nodeId :=
    List.mem_map.mpr ⟨⟨when, nodeId⟩, (drained.fires _).mpr ⟨latest, due⟩, rfl⟩
  obtain ⟨context, found⟩ := Option.isSome_iff_exists.mp (AList.lookup_isSome.mpr home)
  refine ⟨(drained.queued nodeId).mpr (.inr fires), ?_, ⟨context, found, ?_⟩, ?_,
    fun entry member _ => drained.heap entry member⟩
  · intro flag flagged
    exact (drained.flags flag (flags.known nodeId flag flagged)).mpr (.inr ⟨nodeId, fires, flagged⟩)
  · rw [drained.contexts, found, latest]
    simp [NodeContext.drained, due]
  · rw [drained.force, if_pos fires]

theorem Drained.spares {next : Scheduler κ} {fired : List TimerWake}
    (drained : Drained now scheduler next fired) (queued : TimersQueued next.state)
    (flags : FlagsKnown scheduler)
    (ahead : ∀ when, scheduler.state.timerLatestByNode.lookup nodeId = some when → now < when) :
    Spared nodeId scheduler next := by
  have waits : nodeId ∉ fired.map TimerWake.nodeId := by
    intro member
    obtain ⟨entry, fires, rfl⟩ := List.mem_map.mp member
    obtain ⟨latest, past⟩ := (drained.fires entry).mp fires
    exact Nat.not_lt.mpr past (ahead _ latest)
  have kept : next.state.timerLatestByNode.lookup nodeId = scheduler.state.timerLatestByNode.lookup nodeId := by
    rw [drained.force, if_neg waits]
  refine ⟨?_, ?_, ?_, kept, ?_⟩
  · rw [drained.queued]
    exact or_iff_left waits
  · intro flag flagged
    rw [Bool.eq_iff_iff, drained.flags flag (flags.known nodeId flag flagged)]
    refine or_iff_left ?_
    rintro ⟨other, fires, also⟩
    exact waits (flags.distinct nodeId other flag flagged also ▸ fires)
  · rw [drained.contexts]
    have same : NodeContext.drained now (scheduler.state.timerLatestByNode.lookup nodeId) = id := by
      funext context
      unfold NodeContext.drained
      split
      · next when latest => exact if_neg (Nat.not_le.mpr (ahead when latest))
      · rfl
    rw [same, Option.map_id, id]
  · intro when latest
    exact queued nodeId when (kept.trans latest)

/-- A deadline fires only while it is in force. -/
theorem expired_inForce {before after : List Report} {when : Instant}
    (run : (hostMachine κ enforced).Run permitted (System.start .new clock) trace system)
    (split : trace = before ++ .event (.timerExpired nodeId when) :: after) : inForce nodeId before = some when := by
  obtain ⟨earlier, state, operation, next, reports, front, back, _, prior, _, step, _, shape, rfl, _⟩ :=
    run.split_at split
  have member : .event (.timerExpired nodeId when) ∈ reports := by rw [shape]; simp
  cases operated_of_step step with
  | @moves action events _ moved =>
      have expired : .timerExpired nodeId when ∈ events := event_mem_moves.mp member
      cases moved with
      | drains pc =>
          have drained : Drained state.clock state.scheduler _ _ := drained_timers (tracked_host prior).order
          have reported : ((state.scheduler.drainExpiredTimers state.clock).2.map fun entry =>
              Event.timerExpired entry.nodeId entry.when).map Report.event =
                front ++ .event (.timerExpired nodeId when) :: back := by
            simpa [System.pops, System.registrations, pc] using shape
          rw [List.map_map] at reported
          obtain ⟨first, remains, entries, rfl, tail⟩ := List.map_eq_append_iff.mp reported
          obtain ⟨entry, rest, rfl, here, _⟩ := List.map_eq_cons_iff.mp tail
          obtain ⟨rfl, rfl⟩ : entry.nodeId = nodeId ∧ entry.when = when := by simpa using here
          have fires := (drained.fires entry).mp (by rw [entries]; simp)
          have fresh : entry.nodeId ∉ first.map TimerWake.nodeId := by
            have once := drained.once
            rw [entries, List.map_append, List.map_cons] at once
            intro early
            exact List.disjoint_of_nodup_append once early List.mem_cons_self
          unfold inForce
          rw [List.foldl_append, ← List.map_map, force_expired, if_neg fresh]
          exact (latest_host prior entry.nodeId).symm.trans fires.1
      | @concludes away component context outcome pc =>
          rcases state.conclude_events away component context outcome with events | events | events <;>
            simp [events] at expired
      | _ => simp at expired
  | adds _ _ _ => simp at member
  | equips _ _ _ => simp at member
  | snapshots _ => simp at member

/-- In every reachable state of every run the deadline in force for a node is the latest
that was registered for it and has not fired, nor has the node been retired since; the heap
holds the deadlines in force, the next deadline is the least of them, and a drain fires
exactly those that are due; every live node has a ready flag, and a deadline that fires was
in force. -/
theorem timers_fire_latest
    (run : (hostMachine κ enforced).Run anyMove (System.start .new clock) trace system) :
    (∀ nodeId, system.scheduler.state.timerLatestByNode.lookup nodeId = inForce nodeId trace) ∧
    (∀ nodeId when, system.scheduler.state.timerLatestByNode.lookup nodeId = some when →
      (⟨when, nodeId⟩ : TimerWake) ∈ system.scheduler.state.timers.entries) ∧
    ((system.scheduler.state.nextValidTimerDeadline.1 = none ↔
        ∀ nodeId, system.scheduler.state.timerLatestByNode.lookup nodeId = none) ∧
      ∀ deadline, system.scheduler.state.nextValidTimerDeadline.1 = some deadline →
        (∃ nodeId, system.scheduler.state.timerLatestByNode.lookup nodeId = some deadline) ∧
        ∀ nodeId when, system.scheduler.state.timerLatestByNode.lookup nodeId = some when → deadline ≤ when) ∧
    (system.pc.inFlight = none → ∀ now nodeId,
      (∀ when, system.scheduler.state.timerLatestByNode.lookup nodeId = some when → when ≤ now →
        Fires now when nodeId system.scheduler (system.scheduler.drainExpiredTimers now).1) ∧
      ((∀ when, system.scheduler.state.timerLatestByNode.lookup nodeId = some when → now < when) →
        Spared nodeId system.scheduler (system.scheduler.drainExpiredTimers now).1)) ∧
    (∀ nodeId, nodeId ∈ system.scheduler.state.readyFlags ↔ Live nodeId trace) ∧
    ∀ {before nodeId when after}, trace = before ++ .event (.timerExpired nodeId when) :: after →
      inForce nodeId before = some when := by
  have tracked := tracked_host run
  have queued := tracked.order.queued
  refine ⟨latest_host run, queued, ⟨queued.nextValidTimerDeadline_none,
    fun _ found => queued.nextValidTimerDeadline_least found⟩, ?_, fun _ => mem_readyFlags_host run,
    fun split => expired_inForce run split⟩
  intro idle now nodeId
  have flags := flagsKnown_host run
  have drained : Drained now system.scheduler _ _ := drained_timers tracked.order
  constructor
  · intro when latest due
    have known := tracked.timed nodeId (AList.lookup_isSome.mp (by rw [latest]; rfl))
    have home : nodeId ∈ system.scheduler.state.nodes := known.resolve_right (by rw [idle]; simp)
    exact drained.due flags home latest due
  · exact fun ahead => drained.spares tracked.order.drainExpiredTimers.queued flags ahead

/-- A node is added; its deadline is registered, superseded and registered again, and drained. -/
def registerThrice : List (Operation Unit) :=
  [.addNode "n" .normal, .addComponent () "n", .move (.wakeAt "n" 5), .move (.wakeAt "n" 7),
    .move (.wakeAt "n" 5), .move (.elapse 6), .move .run, .move .run]

theorem timers_fire_latest_registerThrice :
    ∃ before after, (hostMachine Unit true).reported (System.start .new 0) registerThrice =
        before ++ .event (.timerExpired "n" 5) :: after ∧ inForce "n" before = some 5 ∧
      ((hostMachine Unit true).played (System.start .new 0) registerThrice).scheduler.state.timerLatestByNode.lookup "n" =
        inForce "n" ((hostMachine Unit true).reported (System.start .new 0) registerThrice) := by
  have run := (hostMachine Unit true).run_played
    ((hostMachine Unit true).permits_any (System.start .new 0) registerThrice) (by decide)
  have split : (hostMachine Unit true).reported (System.start .new 0) registerThrice =
      [.added "n" .normal, .registered "n" 5, .event (.wakeRegistered "n" true), .registered "n" 7,
        .event (.wakeRegistered "n" true), .registered "n" 5, .event (.wakeRegistered "n" true)] ++
      .event (.timerExpired "n" 5) :: [] := by
    decide
  obtain ⟨latest, _, _, _, _, fired⟩ := timers_fire_latest run
  exact ⟨_, _, split, fired split, latest "n"⟩

end Flowd
