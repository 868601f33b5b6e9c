import Flowd.Scheduler.Machine

namespace Flowd

/-! What holds of the scheduler state whenever a critical section ends. -/

variable {κ : Type} {state : SchedulerState κ} {scheduler : Scheduler κ} {away : Option NodeId}
variable {nodeId other : NodeId}

/-- `away` is the node that is checked out of the maps, if there is one. -/
structure Consistent (state : SchedulerState κ) (away : Option NodeId) : Prop where
  nodup : state.readyQueue.Nodup
  inSet : ∀ nodeId, nodeId ∈ state.readySet ↔ nodeId ∈ state.readyQueue
  queueFlag : ∀ nodeId ∈ state.readyQueue, nodeId ∈ state.readyFlags
  timerFlag : ∀ nodeId ∈ state.timerLatestByNode, nodeId ∈ state.readyFlags
  flagHome : ∀ nodeId, nodeId ∈ state.readyFlags ↔ nodeId ∈ state.nodes ∨ away = some nodeId
  awayGone : ∀ nodeId, away = some nodeId → nodeId ∉ state.nodes
  timerQueued : ∀ nodeId when, state.timerLatestByNode.lookup nodeId = some when →
    (⟨when, nodeId⟩ : TimerWake) ∈ state.timers.entries

/-- The queue and the set go together. -/
structure Lined (state : SchedulerState κ) : Prop where
  nodup : state.readyQueue.Nodup
  inSet : ∀ nodeId, nodeId ∈ state.readySet ↔ nodeId ∈ state.readyQueue

/-- The heap holds every deadline in force. -/
def TimersQueued (state : SchedulerState κ) : Prop :=
  ∀ nodeId when, state.timerLatestByNode.lookup nodeId = some when →
    (⟨when, nodeId⟩ : TimerWake) ∈ state.timers.entries

/-- The queue and its set, the heap and the deadlines fit together. -/
structure QueuesMatch (state : SchedulerState κ) : Prop where
  lined : Lined state
  queued : TimersQueued state

/-- The queue and the set go together, and what is queued or has a timer is flagged. -/
structure Ready (state : SchedulerState κ) : Prop where
  nodup : state.readyQueue.Nodup
  inSet : ∀ nodeId, nodeId ∈ state.readySet ↔ nodeId ∈ state.readyQueue
  queueFlag : ∀ nodeId ∈ state.readyQueue, nodeId ∈ state.readyFlags
  timerFlag : ∀ nodeId ∈ state.timerLatestByNode, nodeId ∈ state.readyFlags

theorem Consistent.ready (consistent : Consistent state away) : Ready state :=
  ⟨consistent.nodup, consistent.inSet, consistent.queueFlag, consistent.timerFlag⟩

theorem Consistent.order (consistent : Consistent state away) : QueuesMatch state :=
  ⟨⟨consistent.nodup, consistent.inSet⟩, consistent.timerQueued⟩

theorem Ready.lined (ready : Ready state) : Lined state := ⟨ready.nodup, ready.inSet⟩

/-- Every id in `nodes` also has a component. -/
def Equipped (state : SchedulerState κ) : Prop :=
  ∀ nodeId ∈ state.nodes, nodeId ∈ state.components

namespace SchedulerState

@[simp] theorem enqueue_nodes : (state.enqueue nodeId).nodes = state.nodes := by
  unfold enqueue; split <;> rfl
@[simp] theorem enqueue_components : (state.enqueue nodeId).components = state.components := by
  unfold enqueue; split <;> rfl
@[simp] theorem enqueue_readyFlags : (state.enqueue nodeId).readyFlags = state.readyFlags := by
  unfold enqueue; split <;> rfl
@[simp] theorem enqueue_timerLatestByNode :
    (state.enqueue nodeId).timerLatestByNode = state.timerLatestByNode := by
  unfold enqueue; split <;> rfl

@[simp] theorem enqueue_timers : (state.enqueue nodeId).timers = state.timers := by
  unfold enqueue; split <;> rfl

/-- The two ways of enqueueing differ in the recorded depth alone. -/
theorem enqueueRecorded_eq (state : SchedulerState κ) (nodeId : NodeId) : ∃ metrics, state.enqueueRecorded nodeId =
    { state.enqueue nodeId with metrics } := by
  unfold enqueueRecorded
  split
  · next queued => exact ⟨state.metrics, by simp [enqueue, queued]⟩
  · exact ⟨_, rfl⟩

@[simp] theorem enqueueRecorded_readyFlags : (state.enqueueRecorded nodeId).readyFlags = state.readyFlags := by
  obtain ⟨metrics, same⟩ := state.enqueueRecorded_eq nodeId
  simp [same]

@[simp] theorem enqueueRecorded_timerLatestByNode :
    (state.enqueueRecorded nodeId).timerLatestByNode = state.timerLatestByNode := by
  obtain ⟨metrics, same⟩ := state.enqueueRecorded_eq nodeId
  simp [same]

end SchedulerState

theorem SchedulerState.mem_enqueue
    (inSet : ∀ nodeId, nodeId ∈ state.readySet ↔ nodeId ∈ state.readyQueue) :
    other ∈ (state.enqueue nodeId).readyQueue ↔ other = nodeId ∨ other ∈ state.readyQueue := by
  unfold SchedulerState.enqueue
  split
  · next queued =>
      have present := (inSet nodeId).mp queued
      constructor
      · exact .inr
      · rintro (rfl | queued)
        · exact present
        · exact queued
  · simp [or_comm]

theorem Consistent.mem_enqueue (consistent : Consistent state away) :
    other ∈ (state.enqueue nodeId).readyQueue ↔ other = nodeId ∨ other ∈ state.readyQueue :=
  SchedulerState.mem_enqueue consistent.inSet

theorem Lined.enqueue (lined : Lined state) : Lined (state.enqueue nodeId) := by
  constructor
  · unfold SchedulerState.enqueue
    split
    · exact lined.nodup
    · next fresh =>
        have absent : nodeId ∉ state.readyQueue := fun queued => fresh ((lined.inSet nodeId).mpr queued)
        exact List.nodup_append.mpr ⟨lined.nodup, by simp, by
          intro left member right singleton
          rw [List.mem_singleton.mp singleton]
          exact fun same => absent (same ▸ member)⟩
  · intro other
    rw [SchedulerState.mem_enqueue lined.inSet]
    unfold SchedulerState.enqueue
    split
    · next queued =>
        rw [lined.inSet]
        constructor
        · exact .inr
        · rintro (rfl | queued)
          · exact (lined.inSet _).mp ‹_›
          · exact queued
    · simp [lined.inSet]

theorem Lined.enqueueRecorded (lined : Lined state) : Lined (state.enqueueRecorded nodeId) := by
  obtain ⟨metrics, same⟩ := state.enqueueRecorded_eq nodeId
  have queued : Lined (state.enqueue nodeId) := lined.enqueue
  rw [same]
  exact ⟨queued.nodup, queued.inSet⟩

theorem Ready.enqueue (ready : Ready state) (flagged : nodeId ∈ state.readyFlags) :
    Ready (state.enqueue nodeId) := by
  have lined : Lined (state.enqueue nodeId) := ready.lined.enqueue
  refine ⟨lined.nodup, lined.inSet, ?_, ?_⟩
  · intro other queued
    rw [SchedulerState.enqueue_readyFlags]
    rcases (SchedulerState.mem_enqueue ready.inSet).mp queued with rfl | queued
    · exact flagged
    · exact ready.queueFlag other queued
  · simpa using ready.timerFlag

theorem Consistent.enqueue (consistent : Consistent state away) (flagged : nodeId ∈ state.readyFlags) :
    Consistent (state.enqueue nodeId) away := by
  have ready := consistent.ready.enqueue flagged
  refine ⟨ready.nodup, ready.inSet, ready.queueFlag, ready.timerFlag, ?_, ?_, ?_⟩
  · simpa using consistent.flagHome
  · simpa using consistent.awayGone
  · simpa using consistent.timerQueued

theorem Ready.congr {next : SchedulerState κ} (ready : Ready state) (queue : next.readyQueue = state.readyQueue)
    (set : next.readySet = state.readySet) (flags : next.readyFlags = state.readyFlags)
    (latest : next.timerLatestByNode = state.timerLatestByNode) : Ready next := by
  refine ⟨?_, ?_, ?_, ?_⟩
  · rw [queue]; exact ready.nodup
  · rw [queue, set]; exact ready.inSet
  · rw [queue, flags]; exact ready.queueFlag
  · rw [flags, latest]; exact ready.timerFlag

/-- Consistency does not look at components or metrics. -/
theorem Consistent.congr {next : SchedulerState κ} (consistent : Consistent state away)
    (queue : next.readyQueue = state.readyQueue) (set : next.readySet = state.readySet)
    (flags : next.readyFlags = state.readyFlags)
    (latest : next.timerLatestByNode = state.timerLatestByNode)
    (timers : next.timers = state.timers)
    (nodes : ∀ nodeId, nodeId ∈ next.nodes ↔ nodeId ∈ state.nodes) : Consistent next away := by
  have ready := consistent.ready.congr queue set flags latest
  refine ⟨ready.nodup, ready.inSet, ready.queueFlag, ready.timerFlag, ?_, ?_, ?_⟩
  · intro nodeId
    rw [flags, nodes]
    exact consistent.flagHome nodeId
  · intro nodeId gone
    rw [nodes]
    exact consistent.awayGone nodeId gone
  · rw [latest, timers]; exact consistent.timerQueued

theorem Ready.enqueueRecorded (ready : Ready state) (flagged : nodeId ∈ state.readyFlags) :
    Ready (state.enqueueRecorded nodeId) := by
  obtain ⟨metrics, same⟩ := state.enqueueRecorded_eq nodeId
  rw [same]
  exact (ready.enqueue flagged).congr rfl rfl rfl rfl

theorem Consistent.enqueueRecorded (consistent : Consistent state away)
    (flagged : nodeId ∈ state.readyFlags) : Consistent (state.enqueueRecorded nodeId) away := by
  obtain ⟨metrics, same⟩ := state.enqueueRecorded_eq nodeId
  rw [same]
  exact (consistent.enqueue flagged).congr rfl rfl rfl rfl rfl fun _ => .rfl

theorem Consistent.mem_enqueueRecorded (consistent : Consistent state away) :
    other ∈ (state.enqueueRecorded nodeId).readyQueue ↔ other = nodeId ∨ other ∈ state.readyQueue := by
  obtain ⟨metrics, same⟩ := state.enqueueRecorded_eq nodeId
  rw [same]
  exact consistent.mem_enqueue

theorem Ready.registerTimer {when : Instant} (ready : Ready state) (flagged : nodeId ∈ state.readyFlags) :
    Ready (state.registerTimer nodeId when) := by
  refine ⟨ready.nodup, ready.inSet, ready.queueFlag, ?_⟩
  intro other latest
  rcases (AList.mem_insert _).mp latest with rfl | latest
  · exact flagged
  · exact ready.timerFlag other latest

theorem TimersQueued.registerTimer {when : Instant} (timers : TimersQueued state) :
    TimersQueued (state.registerTimer nodeId when) := by
  intro other deadline latest
  simp only [SchedulerState.registerTimer, HashMap.lookup_insert_ite] at latest
  split at latest
  · next same =>
      cases latest
      subst same
      exact TimerHeap.mem_push.mpr (.inl rfl)
  · exact TimerHeap.mem_push.mpr (.inr (timers other deadline latest))

theorem Consistent.registerTimer {when : Instant} (consistent : Consistent state away)
    (flagged : nodeId ∈ state.readyFlags) : Consistent (state.registerTimer nodeId when) away :=
  ⟨consistent.nodup, consistent.inSet, consistent.queueFlag, (consistent.ready.registerTimer flagged).timerFlag,
    consistent.flagHome, consistent.awayGone, TimersQueued.registerTimer consistent.timerQueued⟩

namespace SchedulerState

/-- An entry that is the latest of its node is not discarded. -/
theorem mem_nextValidTimer {latest : HashMap NodeId Instant} {entry : TimerWake}
    {entries : List TimerWake} {sorted : entries.Pairwise TimerWake.PopsBefore}
    (member : entry ∈ entries) (valid : latest.lookup entry.nodeId = some entry.when) :
    entry ∈ (nextValidTimer latest entries sorted).2.entries := by
  induction entries with
  | nil => cases member
  | cons next rest ih =>
      unfold nextValidTimer
      split
      · exact member
      · next stale =>
          rcases List.mem_cons.mp member with rfl | member
          · exact absurd valid stale
          · exact ih member

theorem nextValidTimer_none {latest : HashMap NodeId Instant} {entries : List TimerWake}
    {sorted : entries.Pairwise TimerWake.PopsBefore}
    (none : (nextValidTimer latest entries sorted).1 = none) :
    (nextValidTimer latest entries sorted).2.entries = [] := by
  induction entries with
  | nil => rfl
  | cons next rest ih =>
      unfold nextValidTimer at none ⊢
      split at none
      · cases none
      · next stale =>
          rw [if_neg stale]
          exact ih none

theorem nextValidTimer_some {latest : HashMap NodeId Instant} {entries : List TimerWake}
    {sorted : entries.Pairwise TimerWake.PopsBefore} {deadline : Instant}
    (found : (nextValidTimer latest entries sorted).1 = some deadline) :
    ∃ entry rest, (nextValidTimer latest entries sorted).2.entries = entry :: rest ∧
      entry.when = deadline ∧ latest.lookup entry.nodeId = some deadline := by
  induction entries with
  | nil => cases found
  | cons next rest ih =>
      unfold nextValidTimer at found ⊢
      split at found
      · next valid =>
          cases found
          rw [if_pos valid]
          exact ⟨next, rest, rfl, rfl, valid⟩
      · next stale =>
          rw [if_neg stale]
          exact ih found

theorem nextValidTimerDeadline_eq (state : SchedulerState κ) : ∃ timers,
    state.nextValidTimerDeadline.2 = { state with timers } ∧
    (∀ entry ∈ state.timers.entries,
      state.timerLatestByNode.lookup entry.nodeId = some entry.when → entry ∈ timers.entries) ∧
    (state.nextValidTimerDeadline.1 = none → timers.entries = []) ∧
    ∀ deadline, state.nextValidTimerDeadline.1 = some deadline →
      ∃ entry rest, timers.entries = entry :: rest ∧ entry.when = deadline ∧
        state.timerLatestByNode.lookup entry.nodeId = some deadline :=
  ⟨_, rfl, fun _ member valid => mem_nextValidTimer member valid, nextValidTimer_none,
    fun _ found => nextValidTimer_some found⟩

end SchedulerState

/-- Discarding stale timer entries. -/
theorem TimersQueued.nextValidTimerDeadline (queued : TimersQueued state) :
    TimersQueued state.nextValidTimerDeadline.2 := by
  obtain ⟨timers, same, keeps, _, _⟩ := state.nextValidTimerDeadline_eq
  rw [same]
  intro nodeId when latest
  exact keeps ⟨when, nodeId⟩ (queued nodeId when latest) latest

theorem Consistent.nextValidTimerDeadline (consistent : Consistent state away) :
    Consistent state.nextValidTimerDeadline.2 away := by
  have queued := TimersQueued.nextValidTimerDeadline consistent.timerQueued
  obtain ⟨timers, same, _, _, _⟩ := state.nextValidTimerDeadline_eq
  rw [same] at queued ⊢
  exact ⟨consistent.nodup, consistent.inSet, consistent.queueFlag, consistent.timerFlag,
    consistent.flagHome, consistent.awayGone, queued⟩

/-- No valid timer means that no node has a timer at all. -/
theorem TimersQueued.no_timer (queued : TimersQueued state)
    (none : state.nextValidTimerDeadline.1 = none) : nodeId ∉ state.timerLatestByNode := by
  obtain ⟨timers, _, keeps, empty, _⟩ := state.nextValidTimerDeadline_eq
  intro timed
  obtain ⟨when, latest⟩ := Option.isSome_iff_exists.mp (AList.lookup_isSome.mpr timed)
  have member := keeps ⟨when, nodeId⟩ (queued nodeId when latest) latest
  rw [empty none] at member
  cases member

namespace Scheduler

/-- The state after stale entries are discarded. -/
def discard (scheduler : Scheduler κ) : Scheduler κ :=
  { scheduler with state := scheduler.state.nextValidTimerDeadline.2 }

/-- The state after the first entry is popped and fired. -/
def fireFirst (scheduler : Scheduler κ) (entry : TimerWake) : Scheduler κ :=
  Scheduler.fireTimer { scheduler with
    state := { scheduler.state with timers := scheduler.state.timers.pop } } entry

@[simp] theorem discard_flags : scheduler.discard.flags = scheduler.flags := rfl
@[simp] theorem discard_running : scheduler.discard.running = scheduler.running := rfl
@[simp] theorem discard_nodes : scheduler.discard.state.nodes = scheduler.state.nodes := rfl
@[simp] theorem discard_components :
    scheduler.discard.state.components = scheduler.state.components := rfl
@[simp] theorem discard_readyFlags :
    scheduler.discard.state.readyFlags = scheduler.state.readyFlags := rfl
@[simp] theorem discard_readyQueue :
    scheduler.discard.state.readyQueue = scheduler.state.readyQueue := rfl
@[simp] theorem discard_timerLatestByNode :
    scheduler.discard.state.timerLatestByNode = scheduler.state.timerLatestByNode := rfl

/-- A round of draining either is the last one or fires the first entry. -/
theorem drainRounds_succ (now : Instant) (rounds : Nat) (scheduler : Scheduler κ) :
    ((∀ deadline, scheduler.state.nextValidTimerDeadline.1 = some deadline → now < deadline) ∧
        drainRounds now (rounds + 1) scheduler = (scheduler.discard, [])) ∨
      ∃ entry rest, scheduler.discard.state.timers.entries = entry :: rest ∧
        entry.when ≤ now ∧ scheduler.state.timerLatestByNode.lookup entry.nodeId = some entry.when ∧
        drainRounds now (rounds + 1) scheduler =
          ((drainRounds now rounds (scheduler.discard.fireFirst entry)).1,
            entry :: (drainRounds now rounds (scheduler.discard.fireFirst entry)).2) := by
  obtain ⟨timers, same, _, _, some⟩ := scheduler.state.nextValidTimerDeadline_eq
  cases deadline : scheduler.state.nextValidTimerDeadline.1 with
  | none =>
      refine .inl ⟨by simp, ?_⟩
      simp only [drainRounds, deadline]
      rfl
  | some nextWhen =>
      obtain ⟨entry, rest, entries, rfl, latest⟩ := some nextWhen deadline
      by_cases later : now < entry.when
      · refine .inl ⟨fun _ same => Option.some.inj same ▸ later, ?_⟩
        simp only [drainRounds, deadline, if_pos later]
        rfl
      · refine .inr ⟨entry, rest, by simpa [discard, same] using entries, Nat.le_of_not_lt later, latest, ?_⟩
        have first : scheduler.state.nextValidTimerDeadline.2.timers.peek = Option.some entry := by
          simp [same, TimerHeap.peek, entries]
        have latest' : scheduler.state.nextValidTimerDeadline.2.timerLatestByNode.lookup entry.nodeId =
            Option.some entry.when := by
          rw [same]
          exact latest
        simp only [drainRounds, deadline, if_neg later, first, latest', ↓reduceIte]
        rfl

/-- The state that firing leaves, and the flags, of which at most one is set. -/
theorem fireFirst_eq (scheduler : Scheduler κ) (entry : TimerWake) : ∃ flags,
    scheduler.fireFirst entry = ⟨SchedulerState.enqueue { scheduler.state with
      timers := scheduler.state.timers.pop
      timerLatestByNode := scheduler.state.timerLatestByNode.erase entry.nodeId
      nodes := scheduler.state.nodes.adjust entry.nodeId fun context =>
        { context with timerFiredAt := some entry.when } } entry.nodeId, scheduler.running, flags⟩ ∧
    (flags = scheduler.flags ∨ ∃ flag, flags = scheduler.flags.set flag true) := by
  unfold fireFirst fireTimer
  cases flagged : scheduler.state.readyFlags.lookup entry.nodeId with
  | none => exact ⟨scheduler.flags, by simp [flagged], .inl rfl⟩
  | some flag => exact ⟨scheduler.flags.set flag true, by simp [flagged, store], .inr ⟨flag, rfl⟩⟩

/-- The draining rule: what discarding and firing keep, draining keeps. -/
theorem drainRounds_keeps (invariant : Scheduler κ → Prop) {now : Instant}
    (discards : ∀ scheduler, invariant scheduler → invariant scheduler.discard)
    (fires : ∀ scheduler entry rest, invariant scheduler →
      scheduler.state.timers.entries = entry :: rest →
      scheduler.state.timerLatestByNode.lookup entry.nodeId = some entry.when →
      invariant (scheduler.fireFirst entry))
    (rounds : Nat) (scheduler : Scheduler κ) (holds : invariant scheduler) :
    invariant (drainRounds now rounds scheduler).1 := by
  induction rounds generalizing scheduler with
  | zero => exact holds
  | succ rounds ih =>
      rcases drainRounds_succ now rounds scheduler with ⟨_, last⟩ | ⟨entry, rest, entries, _, latest, fired⟩
      · rw [last]
        exact discards scheduler holds
      · rw [fired]
        exact ih _ (fires _ entry rest (discards scheduler holds) entries latest)

end Scheduler

theorem Ready.fireFirst {entry : TimerWake} (ready : Ready scheduler.state)
    (latest : scheduler.state.timerLatestByNode.lookup entry.nodeId = some entry.when) :
    Ready (scheduler.fireFirst entry).state := by
  obtain ⟨flags, same, _⟩ := scheduler.fireFirst_eq entry
  have flagged : entry.nodeId ∈ scheduler.state.readyFlags :=
    ready.timerFlag _ (AList.lookup_isSome.mp (by simp [latest]))
  rw [same]
  refine Ready.enqueue ⟨ready.nodup, ready.inSet, ready.queueFlag, fun nodeId timed => ?_⟩ flagged
  exact ready.timerFlag nodeId (AList.mem_erase.mp timed).2

theorem TimersQueued.fireFirst {entry : TimerWake} {rest : List TimerWake}
    (queued : TimersQueued scheduler.state) (entries : scheduler.state.timers.entries = entry :: rest) :
    TimersQueued (scheduler.fireFirst entry).state := by
  obtain ⟨flags, same, _⟩ := scheduler.fireFirst_eq entry
  rw [same]
  intro nodeId when timed
  rw [SchedulerState.enqueue_timerLatestByNode, HashMap.lookup_erase_ite] at timed
  rw [SchedulerState.enqueue_timers]
  split at timed
  · cases timed
  · next different =>
      have member := queued nodeId when timed
      rw [entries] at member
      rw [TimerHeap.pop_entries, entries, List.tail_cons]
      rcases List.mem_cons.mp member with rfl | member
      · exact absurd rfl different
      · exact member

theorem Lined.fireFirst {entry : TimerWake} (lined : Lined scheduler.state) :
    Lined (scheduler.fireFirst entry).state := by
  obtain ⟨flags, same, _⟩ := scheduler.fireFirst_eq entry
  rw [same]
  exact Lined.enqueue ⟨lined.nodup, lined.inSet⟩

theorem Consistent.fireFirst {entry : TimerWake} {rest : List TimerWake}
    (consistent : Consistent scheduler.state away)
    (entries : scheduler.state.timers.entries = entry :: rest)
    (latest : scheduler.state.timerLatestByNode.lookup entry.nodeId = some entry.when) :
    Consistent (scheduler.fireFirst entry).state away := by
  have ready := consistent.ready.fireFirst latest
  have queued := TimersQueued.fireFirst consistent.timerQueued entries
  obtain ⟨flags, same, _⟩ := scheduler.fireFirst_eq entry
  rw [same] at ready queued ⊢
  refine ⟨ready.nodup, ready.inSet, ready.queueFlag, ready.timerFlag, ?_, ?_, queued⟩
  · simpa using consistent.flagHome
  · simpa using consistent.awayGone

theorem Consistent.mem_fireFirst {entry : TimerWake} (consistent : Consistent scheduler.state away) :
    nodeId ∈ (scheduler.fireFirst entry).state.readyQueue ↔
      nodeId = entry.nodeId ∨ nodeId ∈ scheduler.state.readyQueue := by
  obtain ⟨flags, same, _⟩ := scheduler.fireFirst_eq entry
  rw [same]
  exact SchedulerState.mem_enqueue consistent.inSet

/-- Draining takes nothing out of the queue, and what it fires is in it. -/
theorem Consistent.drainRounds {now : Instant} {rounds : Nat}
    (consistent : Consistent scheduler.state away) :
    Consistent (Scheduler.drainRounds now rounds scheduler).1.state away ∧
      ∀ nodeId, nodeId ∈ scheduler.state.readyQueue ∨
          (∃ entry ∈ (Scheduler.drainRounds now rounds scheduler).2, entry.nodeId = nodeId) →
        nodeId ∈ (Scheduler.drainRounds now rounds scheduler).1.state.readyQueue := by
  induction rounds generalizing scheduler with
  | zero =>
      refine ⟨consistent, ?_⟩
      rintro nodeId (queued | ⟨entry, fired, _⟩)
      · exact queued
      · cases fired
  | succ rounds ih =>
      rcases Scheduler.drainRounds_succ now rounds scheduler with ⟨_, last⟩ | ⟨entry, rest, entries, _, latest, round⟩
      · rw [last]
        refine ⟨consistent.nextValidTimerDeadline, ?_⟩
        rintro nodeId (queued | ⟨entry, fired, _⟩)
        · exact queued
        · cases fired
      · rw [round]
        have discarded : Consistent scheduler.discard.state away := consistent.nextValidTimerDeadline
        obtain ⟨drained, queues⟩ := ih (discarded.fireFirst entries latest)
        refine ⟨drained, ?_⟩
        rintro nodeId (queued | ⟨other, fired, rfl⟩)
        · exact queues nodeId (.inl (discarded.mem_fireFirst.mpr (.inr queued)))
        · rcases List.mem_cons.mp fired with rfl | fired
          · exact queues _ (.inl (discarded.mem_fireFirst.mpr (.inl rfl)))
          · exact queues _ (.inr ⟨other, fired, rfl⟩)

theorem Consistent.recordDepth (consistent : Consistent state away) : Consistent state.recordDepth away :=
  consistent.congr rfl rfl rfl rfl rfl fun _ => .rfl

theorem Scheduler.drainExpiredTimers_eq (now : Instant) : ∃ rounds,
    (scheduler.drainExpiredTimers now).1 =
      { (Scheduler.drainRounds now rounds scheduler).1 with
        state := (Scheduler.drainRounds now rounds scheduler).1.state.recordDepth } ∧
    (scheduler.drainExpiredTimers now).2 = (Scheduler.drainRounds now rounds scheduler).2 :=
  ⟨scheduler.state.timers.entries.length + 1, rfl, rfl⟩

theorem Consistent.drainExpiredTimers {now : Instant} (consistent : Consistent scheduler.state away) :
    Consistent (scheduler.drainExpiredTimers now).1.state away := by
  obtain ⟨rounds, same, _⟩ := scheduler.drainExpiredTimers_eq now
  rw [same]
  exact consistent.drainRounds.1.recordDepth

/-- A drained timer leaves its node queued. -/
theorem Consistent.queued_drainExpiredTimers {now : Instant}
    (consistent : Consistent scheduler.state away)
    (reason : nodeId ∈ scheduler.state.readyQueue ∨
      ∃ entry ∈ (scheduler.drainExpiredTimers now).2, entry.nodeId = nodeId) :
    nodeId ∈ (scheduler.drainExpiredTimers now).1.state.readyQueue := by
  obtain ⟨rounds, same, fired⟩ := scheduler.drainExpiredTimers_eq now
  rw [fired] at reason
  rw [same]
  exact consistent.drainRounds.2 nodeId reason

theorem Scheduler.drainExpiredTimers_keeps (invariant : Scheduler κ → Prop) {now : Instant}
    (discards : ∀ scheduler, invariant scheduler → invariant scheduler.discard)
    (fires : ∀ scheduler entry, invariant scheduler → invariant (scheduler.fireFirst entry))
    (records : ∀ scheduler, invariant scheduler →
      invariant { scheduler with state := scheduler.state.recordDepth })
    (holds : invariant scheduler) : invariant (scheduler.drainExpiredTimers now).1 := by
  obtain ⟨rounds, same, _⟩ := scheduler.drainExpiredTimers_eq now
  rw [same]
  exact records _ (Scheduler.drainRounds_keeps invariant discards
    (fun scheduler entry _ holds _ _ => fires scheduler entry holds) rounds scheduler holds)

/-- An accepted signal sets the flag and queues the node. -/
theorem Scheduler.signalReady_eq (scheduler : Scheduler κ) (nodeId : NodeId) :
    (nodeId ∉ scheduler.state.readyFlags ∧ scheduler.signalReady nodeId = (scheduler, false)) ∨
      ∃ flag, scheduler.state.readyFlags.lookup nodeId = some flag ∧
        scheduler.signalReady nodeId = (⟨scheduler.state.enqueueRecorded nodeId, scheduler.running,
          scheduler.flags.set flag true⟩, true) := by
  unfold signalReady
  cases found : scheduler.state.readyFlags.lookup nodeId with
  | none => exact .inl ⟨AList.lookup_eq_none.mp found, rfl⟩
  | some flag => exact .inr ⟨flag, rfl, rfl⟩

theorem Scheduler.wakeAt_eq (scheduler : Scheduler κ) (nodeId : NodeId) (when : Instant) :
    (nodeId ∉ scheduler.state.nodes ∧ scheduler.wakeAt nodeId when = (scheduler, false)) ∨
      (nodeId ∈ scheduler.state.nodes ∧ scheduler.wakeAt nodeId when =
        ({ scheduler with state := scheduler.state.registerTimer nodeId when }, true)) := by
  unfold wakeAt
  cases found : scheduler.state.nodes.lookup nodeId with
  | none => exact .inl ⟨AList.lookup_eq_none.mp found, rfl⟩
  | some context => exact .inr ⟨AList.lookup_isSome.mp (by rw [found]; rfl), rfl⟩

theorem Consistent.signalReady (consistent : Consistent scheduler.state away) :
    Consistent (scheduler.signalReady nodeId).1.state away := by
  rcases scheduler.signalReady_eq nodeId with ⟨_, same⟩ | ⟨flag, found, same⟩
  · rw [same]
    exact consistent
  · rw [same]
    exact consistent.enqueueRecorded (AList.lookup_isSome.mp (by rw [found]; rfl))

theorem Consistent.wakeAt {when : Instant} (consistent : Consistent scheduler.state away) :
    Consistent (scheduler.wakeAt nodeId when).1.state away := by
  rcases scheduler.wakeAt_eq nodeId when with ⟨_, same⟩ | ⟨home, same⟩
  · rw [same]
    exact consistent
  · rw [same]
    exact consistent.registerTimer ((consistent.flagHome nodeId).mpr (.inl home))

namespace SchedulerState

/-- What a checkout takes and what it leaves. -/
theorem checkOut_cases (state : SchedulerState κ) :
    (state.readyQueue = [] ∧ state.checkOut = .nothing) ∨
      ∃ nodeId rest, state.readyQueue = nodeId :: rest ∧
        (((nodeId ∉ state.components ∨ nodeId ∉ state.nodes) ∧ ∃ next, state.checkOut = .unavailable next) ∨
          ∃ component context metrics, state.components.lookup nodeId = some component ∧
            state.nodes.lookup nodeId = some context ∧
            state.checkOut = .taken nodeId component context { state with
              readyQueue := rest
              readySet := state.readySet.erase nodeId
              components := state.components.erase nodeId
              nodes := state.nodes.erase nodeId
              metrics }) := by
  unfold checkOut
  cases queue : state.readyQueue with
  | nil => exact .inl ⟨rfl, rfl⟩
  | cons nodeId rest =>
      refine .inr ⟨nodeId, rest, rfl, ?_⟩
      cases equipped : state.components.lookup nodeId with
      | none => exact .inl ⟨.inl (AList.lookup_eq_none.mp equipped), by simp [recordDepth, equipped]⟩
      | some component =>
          cases home : state.nodes.lookup nodeId with
          | none => exact .inl ⟨.inr (AList.lookup_eq_none.mp home), by simp [recordDepth, equipped, home]⟩
          | some context =>
              refine .inr ⟨component, context, ⟨state.metrics.executionsPerNode,
                state.metrics.workUnitsPerNode, state.metrics.timeSinceLastExecution, rest.length,
                state.metrics.loopIterations + 1⟩, rfl, rfl, ?_⟩
              simp only [recordDepth, equipped, home]

variable {component : κ} {context : NodeContext}

@[simp] theorem checkIn_nodes : (state.checkIn nodeId component context).nodes =
    state.nodes.insert nodeId { context with wakeAt := none } := by
  unfold checkIn; cases context.wakeAt <;> rfl
@[simp] theorem checkIn_components : (state.checkIn nodeId component context).components =
    state.components.insert nodeId component := by
  unfold checkIn; cases context.wakeAt <;> rfl
@[simp] theorem checkIn_readyFlags :
    (state.checkIn nodeId component context).readyFlags = state.readyFlags := by
  unfold checkIn; cases context.wakeAt <;> rfl
@[simp] theorem checkIn_readyQueue :
    (state.checkIn nodeId component context).readyQueue = state.readyQueue := by
  unfold checkIn; cases context.wakeAt <;> rfl
@[simp] theorem checkIn_timerLatestByNode :
    (state.checkIn nodeId component context).timerLatestByNode =
      match context.wakeAt with
      | some when => state.timerLatestByNode.insert nodeId when
      | none => state.timerLatestByNode := by
  unfold checkIn; cases context.wakeAt <;> rfl

/-- Retiring removes every trace of the node outside `nodes` and `components`. -/
theorem retire_eq (state : SchedulerState κ) (nodeId : NodeId) : ∃ metrics,
    state.retire nodeId = { state with
      readyFlags := state.readyFlags.erase nodeId
      timerLatestByNode := state.timerLatestByNode.erase nodeId
      readySet := state.readySet.erase nodeId
      readyQueue := state.readyQueue.filter (· ≠ nodeId)
      metrics } := ⟨_, rfl⟩

end SchedulerState

/-- The id at the front is taken off. -/
theorem Lined.pop {rest : List NodeId} (lined : Lined state) (queue : state.readyQueue = nodeId :: rest)
    (components : HashMap NodeId κ) (nodes : HashMap NodeId NodeContext) (metrics : SchedulerMetrics) :
    Lined { state with readyQueue := rest, readySet := state.readySet.erase nodeId, components, nodes, metrics } := by
  have nodup := lined.nodup
  rw [queue, List.nodup_cons] at nodup
  refine ⟨nodup.2, ?_⟩
  intro other
  simp only [Finset.mem_erase, lined.inSet, queue, List.mem_cons]
  constructor
  · rintro ⟨different, same | member⟩
    · exact absurd same different
    · exact member
  · intro member
    exact ⟨fun same => nodup.1 (same ▸ member), .inr member⟩

theorem Ready.pop {rest : List NodeId} (ready : Ready state) (queue : state.readyQueue = nodeId :: rest)
    (components : HashMap NodeId κ) (nodes : HashMap NodeId NodeContext) (metrics : SchedulerMetrics) :
    Ready { state with readyQueue := rest, readySet := state.readySet.erase nodeId, components, nodes, metrics } := by
  have lined := ready.lined.pop queue components nodes metrics
  refine ⟨lined.nodup, lined.inSet, ?_, ready.timerFlag⟩
  intro other member
  exact ready.queueFlag other (by rw [queue]; exact List.mem_cons_of_mem _ member)

theorem Consistent.checkOut {rest : List NodeId} {components : HashMap NodeId κ}
    {metrics : SchedulerMetrics} (consistent : Consistent state none)
    (queue : state.readyQueue = nodeId :: rest) (home : nodeId ∈ state.nodes) :
    Consistent { state with
      readyQueue := rest
      readySet := state.readySet.erase nodeId
      components
      nodes := state.nodes.erase nodeId
      metrics } (some nodeId) := by
  have popped := consistent.ready.pop queue components (state.nodes.erase nodeId) metrics
  refine ⟨popped.nodup, popped.inSet, popped.queueFlag, popped.timerFlag, ?_, ?_, consistent.timerQueued⟩
  · intro other
    rw [AList.mem_erase]
    constructor
    · intro flagged
      rcases (consistent.flagHome other).mp flagged with present | none
      · by_cases same : other = nodeId
        · exact .inr (by rw [same])
        · exact .inl ⟨same, present⟩
      · cases none
    · rintro (⟨_, present⟩ | same)
      · exact (consistent.flagHome other).mpr (.inl present)
      · cases same
        exact (consistent.flagHome nodeId).mpr (.inl home)
  · intro other same
    cases same
    rw [AList.mem_erase]
    exact fun present => present.1 rfl

theorem Consistent.checkIn {component : κ} {context : NodeContext}
    (consistent : Consistent state (some nodeId)) :
    Consistent (state.checkIn nodeId component context) none := by
  have flagged : nodeId ∈ state.readyFlags := (consistent.flagHome nodeId).mpr (.inr rfl)
  have inserted : ∀ {between : SchedulerState κ}, Consistent between (some nodeId) →
      Consistent { between with
        components := between.components.insert nodeId component
        nodes := between.nodes.insert nodeId { context with wakeAt := none } } none := by
    intro between consistent
    refine ⟨consistent.nodup, consistent.inSet, consistent.queueFlag, consistent.timerFlag, ?_, ?_,
      consistent.timerQueued⟩
    · intro other
      rw [consistent.flagHome, AList.mem_insert]
      constructor
      · rintro (present | same)
        · exact .inl (.inr present)
        · exact .inl (.inl (Option.some.inj same).symm)
      · rintro ((rfl | present) | none)
        · exact .inr rfl
        · exact .inl present
        · cases none
    · intro other none
      cases none
  unfold SchedulerState.checkIn
  cases context.wakeAt with
  | none => exact inserted consistent
  | some when => exact inserted (consistent.registerTimer flagged)

theorem Lined.retire (lined : Lined state) (nodeId : NodeId) : Lined (state.retire nodeId) := by
  obtain ⟨metrics, same⟩ := state.retire_eq nodeId
  rw [same]
  refine ⟨lined.nodup.filter _, ?_⟩
  intro other
  simp [lined.inSet, and_comm]

theorem TimersQueued.retire (queued : TimersQueued state) (nodeId : NodeId) :
    TimersQueued (state.retire nodeId) := by
  obtain ⟨metrics, same⟩ := state.retire_eq nodeId
  rw [same]
  intro other when timed
  rw [HashMap.lookup_erase_ite] at timed
  split at timed
  · cases timed
  · exact queued other when timed

theorem Ready.retire (ready : Ready state) (nodeId : NodeId) : Ready (state.retire nodeId) := by
  have lined := ready.lined.retire nodeId
  obtain ⟨metrics, same⟩ := state.retire_eq nodeId
  rw [same] at lined ⊢
  refine ⟨lined.nodup, lined.inSet, ?_, ?_⟩
  · intro other member
    rw [List.mem_filter] at member
    exact AList.mem_erase.mpr ⟨by simpa using member.2, ready.queueFlag other member.1⟩
  · intro other timed
    rw [AList.mem_erase] at timed
    exact AList.mem_erase.mpr ⟨timed.1, ready.timerFlag other timed.2⟩

theorem Consistent.retire (consistent : Consistent state (some nodeId)) :
    Consistent (state.retire nodeId) none := by
  have ready := consistent.ready.retire nodeId
  have queued := TimersQueued.retire consistent.timerQueued nodeId
  obtain ⟨metrics, same⟩ := state.retire_eq nodeId
  rw [same] at ready queued ⊢
  have gone := consistent.awayGone nodeId rfl
  refine ⟨ready.nodup, ready.inSet, ready.queueFlag, ready.timerFlag, ?_, by simp, queued⟩
  · intro other
    rw [AList.mem_erase, consistent.flagHome]
    constructor
    · rintro ⟨different, present | same⟩
      · exact .inl present
      · exact absurd (Option.some.inj same).symm different
    · rintro (present | none)
      · exact ⟨fun same => gone (same ▸ present), .inl present⟩
      · cases none

theorem Consistent.account {outcome : ExecutionOutcome} (consistent : Consistent state away) :
    Consistent (state.account nodeId outcome) away :=
  consistent.congr rfl rfl rfl rfl rfl fun _ => .rfl

end Flowd
