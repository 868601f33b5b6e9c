import Flowd.Scheduler.Fairness
import Flowd.Scheduler.Timers

namespace Flowd

/-! Why a node is dispatched: every dispatch is asked for, and nothing asks for two. -/

open Transition

variable {κ : Type} {enforced : Bool} {system next first last : System κ} {action : Action κ}
variable {state : SchedulerState κ} {scheduler : Scheduler κ} {events : List Event} {reports trace : List Report}
variable {nodeId other : NodeId} {flag : FlagRef} {operation : Operation κ}

/-- A signal, a timer, a signal of the node to itself or work done asks for a dispatch of the node. -/
def Event.asksFor (nodeId : NodeId) : Event → Bool
  | .signalled other true | .timerExpired other _ | .selfSignalled other => decide (other = nodeId)
  | .returned other (.result (.didWork _)) => decide (other = nodeId)
  | _ => false

/-- The node in flight is going to be queued when it is checked in. -/
def System.requeues (nodeId : NodeId) (system : System κ) : Bool :=
  match system.pc with
  | .processing away _ context outcome | .checkingIn away _ context outcome =>
      decide (away = nodeId) && !outcome.finished &&
        (outcome.didWork || system.scheduler.load context.readySignal) &&
        decide (nodeId ∉ system.scheduler.state.readySet)
  | _ => false

/-- The dispatches that a node has before it without being asked for again. -/
def System.standing (nodeId : NodeId) (system : System κ) : Nat :=
  system.scheduler.state.readyQueue.count nodeId + (system.requeues nodeId).toNat

namespace SchedulerState

theorem enqueue_count (state : SchedulerState κ) (nodeId other : NodeId) :
    (state.enqueue other).readyQueue.count nodeId =
      state.readyQueue.count nodeId + if other = nodeId ∧ nodeId ∉ state.readySet then 1 else 0 := by
  unfold enqueue
  by_cases queued : other ∈ state.readySet
  · have unchanged : ¬ (other = nodeId ∧ nodeId ∉ state.readySet) := by
      rintro ⟨rfl, absent⟩
      exact absent queued
    rw [if_pos queued, if_neg unchanged, Nat.add_zero]
  · rw [if_neg queued]
    by_cases same : other = nodeId
    · subst same
      simp [queued]
    · simp [same]

theorem mem_enqueue_readySet : nodeId ∈ (state.enqueue other).readySet ↔ nodeId = other ∨ nodeId ∈ state.readySet := by
  unfold enqueue
  by_cases queued : other ∈ state.readySet
  · rw [if_pos queued]
    constructor
    · exact .inr
    · rintro (rfl | member)
      · exact queued
      · exact member
  · rw [if_neg queued, Finset.mem_insert]

theorem enqueueRecorded_count (state : SchedulerState κ) (nodeId other : NodeId) :
    (state.enqueueRecorded other).readyQueue.count nodeId =
      state.readyQueue.count nodeId + if other = nodeId ∧ nodeId ∉ state.readySet then 1 else 0 := by
  obtain ⟨metrics, same⟩ := state.enqueueRecorded_eq other
  rw [same]
  exact state.enqueue_count nodeId other

theorem mem_enqueueRecorded_readySet :
    nodeId ∈ (state.enqueueRecorded other).readySet ↔ nodeId = other ∨ nodeId ∈ state.readySet := by
  obtain ⟨metrics, same⟩ := state.enqueueRecorded_eq other
  rw [same]
  exact mem_enqueue_readySet

@[simp] theorem checkIn_readySet {component : κ} {context : NodeContext} :
    (state.checkIn nodeId component context).readySet = state.readySet := by
  unfold checkIn
  cases context.wakeAt <;> rfl

end SchedulerState

/-- Every timer that fires queues its node at most once. -/
theorem Scheduler.drainRounds_count (now : Instant) (rounds : Nat) (scheduler : Scheduler κ) (nodeId : NodeId) :
    (Scheduler.drainRounds now rounds scheduler).1.state.readyQueue.count nodeId ≤
      scheduler.state.readyQueue.count nodeId +
        (Scheduler.drainRounds now rounds scheduler).2.countP fun entry => decide (entry.nodeId = nodeId) := by
  induction rounds generalizing scheduler with
  | zero => simp [Scheduler.drainRounds]
  | succ rounds ih =>
      rcases Scheduler.drainRounds_succ now rounds scheduler with ⟨_, last⟩ | ⟨entry, rest, _, _, _, fired⟩
      · rw [last]
        exact Nat.le_add_right _ _
      · rw [fired]
        obtain ⟨flags, same, _⟩ := scheduler.discard.fireFirst_eq entry
        have before := ih (scheduler.discard.fireFirst entry)
        have queued : (scheduler.discard.fireFirst entry).state.readyQueue.count nodeId ≤
            scheduler.state.readyQueue.count nodeId + if entry.nodeId = nodeId then 1 else 0 := by
          rw [same, SchedulerState.enqueue_count]
          by_cases here : entry.nodeId = nodeId
          · rw [if_pos here]
            refine Nat.add_le_add_left ?_ _
            split <;> omega
          · rw [if_neg fun both => here both.1, if_neg here]
            exact Nat.le_refl _
        simp only [List.countP_cons, decide_eq_true_eq]
        omega

theorem Scheduler.drainExpiredTimers_count (scheduler : Scheduler κ) (now : Instant) (nodeId : NodeId) :
    (scheduler.drainExpiredTimers now).1.state.readyQueue.count nodeId ≤
      scheduler.state.readyQueue.count nodeId +
        (scheduler.drainExpiredTimers now).2.countP fun entry => decide (entry.nodeId = nodeId) := by
  obtain ⟨rounds, same, fired⟩ := scheduler.drainExpiredTimers_eq now
  rw [same, fired]
  exact Scheduler.drainRounds_count now rounds scheduler nodeId

/-- The node carries the flag, at home or in flight. -/
inductive Carries (nodeId : NodeId) (flag : FlagRef) (system : System κ) : Prop where
  | home {context : NodeContext} (found : system.scheduler.state.nodes.lookup nodeId = some context)
      (signal : context.readySignal = flag)
  | away {context : NodeContext} (flight : system.pc.inFlight = some nodeId)
      (found : system.pc.contextAway = some context) (signal : context.readySignal = flag)

/-- A flag that a node carries is not the flag of another node. -/
structure Owned (system : System κ) : Prop where
  known : ∀ nodeId flag, system.scheduler.state.readyFlags.lookup nodeId = some flag →
    flag < system.scheduler.flags.length
  carried : ∀ nodeId flag, Carries nodeId flag system → flag < system.scheduler.flags.length ∧
    ∀ other, system.scheduler.state.readyFlags.lookup other = some flag → other = nodeId

/-- No flag is handed out or passed on. -/
structure SameFlags (system next : System κ) : Prop where
  length : next.scheduler.flags.length = system.scheduler.flags.length
  flags : ∀ nodeId flag, next.scheduler.state.readyFlags.lookup nodeId = some flag →
    system.scheduler.state.readyFlags.lookup nodeId = some flag
  carried : ∀ nodeId flag, Carries nodeId flag next → Carries nodeId flag system

theorem Owned.change (owned : Owned system) (same : SameFlags system next) : Owned next := by
  constructor
  · intro nodeId flag found
    rw [same.length]
    exact owned.known nodeId flag (same.flags nodeId flag found)
  · intro nodeId flag carries
    obtain ⟨bound, mine⟩ := owned.carried nodeId flag (same.carried nodeId flag carries)
    rw [same.length]
    exact ⟨bound, fun other found => mine other (same.flags other flag found)⟩

/-- A move that leaves the nodes where they are. -/
theorem SameFlags.of_home (home : SameHome system.scheduler next.scheduler)
    (flags : next.scheduler.state.readyFlags = system.scheduler.state.readyFlags)
    (flight : next.pc.inFlight = system.pc.inFlight)
    (away : ∀ context, next.pc.contextAway = some context →
      ∃ before, system.pc.contextAway = some before ∧ context.readySignal = before.readySignal) :
    SameFlags system next := by
  refine ⟨home.flags, fun nodeId flag found => flags ▸ found, fun nodeId flag carries => ?_⟩
  cases carries with
  | home found signal =>
      obtain ⟨before, known, same⟩ := home.nodes _ _ found
      exact .home known (same ▸ signal)
  | away away_ found signal =>
      obtain ⟨before, known, same⟩ := away _ found
      exact .away (flight ▸ away_) known (same ▸ signal)

theorem SameFlags.relocate (same : next.scheduler = system.scheduler) (flight : next.pc.inFlight = system.pc.inFlight)
    (away : next.pc.contextAway = system.pc.contextAway) : SameFlags system next :=
  .of_home (same ▸ .of_eq rfl rfl rfl) (by rw [same]) flight fun context found => ⟨context, away ▸ found, rfl⟩

theorem Settled.sameFlags {component : κ} {context : NodeContext} {outcome : ExecutionOutcome} {reply : Reply κ}
    (settled : Settled system nodeId context outcome reply next)
    (pc : system.pc = .processing nodeId component context outcome) : SameFlags system next := by
  have flight : system.pc.inFlight = some nodeId := by rw [pc]; rfl
  have signal : system.pc.contextAway = some context := by rw [pc]; rfl
  cases settled with
  | overran => exact .of_home (.of_eq rfl rfl rfl) rfl flight.symm fun _ found => by cases found
  | ended _ same _ =>
      refine .of_home (.of_eq rfl rfl (by simp [Scheduler.store])) rfl flight.symm fun left found => ?_
      cases found
      exact ⟨context, signal, same⟩
  | idle _ same _ | exhausted _ same _ | again _ same _ _ =>
      refine .of_home (.of_eq rfl rfl rfl) rfl flight.symm fun left found => ?_
      cases found
      exact ⟨context, signal, same⟩

theorem System.conclude_sameFlags {component : κ} {context : NodeContext} {outcome : ExecutionOutcome}
    (pc : system.pc = .checkingIn nodeId component context outcome) :
    SameFlags system (system.conclude nodeId component context outcome).1 := by
  cases finished : outcome.finished with
  | true =>
      obtain ⟨running, same, _⟩ := system.conclude_finished nodeId component context finished
      rw [same]
      refine ⟨rfl, fun other flag found => ?_, fun other flag carries => ?_⟩
      · have erased : ((system.scheduler.state.account nodeId outcome).retire nodeId).readyFlags.lookup other =
            if other = nodeId then none else system.scheduler.state.readyFlags.lookup other :=
          HashMap.lookup_erase_ite _ _ _
        dsimp only at found
        rw [erased] at found
        split at found
        · cases found
        · exact found
      · cases carries with
        | home found signal => exact .home found signal
        | away flight _ _ => cases flight
  | false =>
      obtain ⟨state, same, states⟩ := system.conclude_unfinished nodeId component context finished
      have kept : state.readyFlags = system.scheduler.state.readyFlags ∧
          state.nodes = system.scheduler.state.nodes.insert nodeId { context with wakeAt := none } := by
        rcases states with ⟨_, rfl⟩ | ⟨_, rfl⟩
        · obtain ⟨metrics, recorded⟩ := ((system.scheduler.state.account nodeId outcome).checkIn nodeId component
            context).enqueueRecorded_eq nodeId
          rw [recorded]
          constructor <;> simp [SchedulerState.account]
        · constructor <;> simp [SchedulerState.account]
      rw [same]
      refine ⟨rfl, fun other flag found => kept.1 ▸ found, fun other flag carries => ?_⟩
      cases carries with
      | home found signal =>
          simp only [kept.2, HashMap.lookup_insert_ite] at found
          split at found
          · next here =>
              subst here
              cases found
              have taken : system.pc.contextAway = some context := by rw [pc]; rfl
              exact .away (by rw [pc]; rfl) taken signal
          · exact .home found signal
      | away flight _ _ => cases flight

/-- The moves hand out no flags. -/
theorem Moved.sameFlags (moved : Moved enforced system action events next) : SameFlags system next := by
  cases moved with
  | drains pc =>
      exact .of_home (.drainExpiredTimers _) (Scheduler.drainExpiredTimers_readyFlags _ _) (by rw [pc]; rfl)
        fun _ found => by cases found
  | recheck pc _ _ | parksTimed pc _ _ | parks pc _ =>
      exact .of_home (.of_eq rfl rfl rfl) rfl (by rw [pc]; rfl) fun _ found => by cases found
  | popsUnavailable pc unavailable =>
      obtain ⟨_, _, _, _, _, _, rfl⟩ := SchedulerState.checkOut_unavailable unavailable
      refine ⟨rfl, fun _ _ found => found, fun _ _ carries => ?_⟩
      cases carries with
      | home found signal => exact .home found signal
      | away flight _ _ => cases flight
  | @dispatches taken component context state pc checkedOut =>
      obtain ⟨rest, metrics, queue, _, home, rfl⟩ := checkOut_taken checkedOut
      refine ⟨rfl, fun _ _ found => found, fun other flag carries => ?_⟩
      cases carries with
      | home found signal =>
          simp only [HashMap.lookup_erase_ite] at found
          split at found
          · cases found
          · exact .home found signal
      | away flight found signal =>
          cases flight
          cases found
          exact .home home signal
  | enters pc =>
      refine .of_home (.of_eq rfl rfl (by simp [System.enter, Scheduler.store])) rfl (by rw [pc]; rfl)
        fun left found => ?_
      cases found
      exact ⟨_, congrArg Pc.contextAway pc, rfl⟩
  | concludes pc => exact System.conclude_sameFlags pc
  | @settles away component context outcome reply pc =>
      exact (system.settled enforced away context outcome reply).sameFlags pc
  | selfSignals pc =>
      exact .of_home (.of_eq rfl rfl (by simp [Scheduler.store])) rfl rfl fun context found => ⟨context, found, rfl⟩
  | selfWakes when pc =>
      refine .of_home (.of_eq rfl rfl rfl) rfl (by rw [pc]; rfl) fun left found => ?_
      cases found
      exact ⟨_, congrArg Pc.contextAway pc, rfl⟩
  | signals signalled _ =>
      refine .of_home .signalReady ?_ (by dsimp only; split <;> simp) fun context found => ?_
      · rcases system.scheduler.signalReady_eq signalled with ⟨_, same⟩ | ⟨_, _, same⟩ <;> simp [same]
      · exact ⟨context, by revert found; dsimp only; split <;> simp, rfl⟩
  | registers registered when _ =>
      refine .of_home .wakeAt ?_ (by dsimp only; split <;> simp) fun context found => ?_
      · rcases system.scheduler.wakeAt_eq registered when with ⟨_, same⟩ | ⟨_, same⟩ <;>
          simp [same, SchedulerState.registerTimer]
      · exact ⟨context, by revert found; dsimp only; split <;> simp, rfl⟩
  | storesStop => exact .of_home (.of_eq rfl rfl rfl) rfl rfl fun context found => ⟨context, found, rfl⟩
  | notifiesStop _ => exact .relocate rfl (by simp) (by simp)
  | elapses _ _ => exact .relocate rfl rfl rfl
  | _ pc => exact .relocate rfl (by rw [pc]; rfl) (by rw [pc]; rfl)

theorem Owned.addNode {budgetClass : BudgetClass} {now : Instant} (owned : Owned system) :
    Owned { system with scheduler := system.scheduler.addNode nodeId budgetClass now } := by
  have length : (system.scheduler.addNode nodeId budgetClass now).flags.length = system.scheduler.flags.length + 1 := by
    simp [Scheduler.addNode]
  have flags (other : NodeId) : (system.scheduler.addNode nodeId budgetClass now).state.readyFlags.lookup other =
      if other = nodeId then some system.scheduler.flags.length else system.scheduler.state.readyFlags.lookup other :=
    HashMap.lookup_insert_ite _ _ _ _
  constructor
  · intro other flag found
    simp only [flags] at found
    rw [length]
    split at found
    · cases found
      exact Nat.lt_succ_self _
    · exact Nat.lt_succ_of_lt (owned.known other flag found)
  · intro other flag carries
    rw [length]
    have before (carries : Carries other flag system) : flag < system.scheduler.flags.length + 1 ∧
        ∀ third, (system.scheduler.addNode nodeId budgetClass now).state.readyFlags.lookup third = some flag →
          third = other := by
      obtain ⟨bound, mine⟩ := owned.carried other flag carries
      refine ⟨Nat.lt_succ_of_lt bound, fun third found => ?_⟩
      rw [flags] at found
      split at found
      · cases found
        exact absurd bound (Nat.lt_irrefl _)
      · exact mine third found
    cases carries with
    | home found signal =>
        simp only [Scheduler.addNode, HashMap.lookup_insert_ite] at found
        split at found
        · next here =>
            cases found
            cases signal
            refine ⟨Nat.lt_succ_self _, fun third owned_ => ?_⟩
            rw [flags] at owned_
            split at owned_
            · next same => exact same.trans here.symm
            · exact absurd (owned.known third _ owned_) (Nat.lt_irrefl _)
        · exact before (.home found signal)
    | away flight found signal => exact before (.away flight found signal)

/-- Adding components and reading metrics leave the flags alone. -/
theorem Owned.operated (owned : Owned system) (operated : Operated enforced system operation reports next) : Owned next := by
  cases operated with
  | moves moved => exact owned.change moved.sameFlags
  | adds nodeId budgetClass _ => exact owned.addNode
  | equips component nodeId _ =>
      exact owned.change (.of_home ⟨fun _ context found => ⟨context, found, rfl⟩,
        fun _ present => (AList.mem_insert _).mpr (.inr present), rfl⟩ rfl rfl fun context found => ⟨context, found, rfl⟩)
  | snapshots _ =>
      exact owned.change (.of_home (.of_eq rfl rfl rfl) rfl rfl fun context found => ⟨context, found, rfl⟩)

theorem System.requeues_of_pc (here : ∀ away component context outcome,
    system.pc ≠ .processing away component context outcome ∧ system.pc ≠ .checkingIn away component context outcome) :
    system.requeues nodeId = false := by
  unfold System.requeues
  split
  · next pc => exact absurd pc (here _ _ _ _).1
  · next pc => exact absurd pc (here _ _ _ _).2
  · rfl

/-- A node that is queued again is the one in flight. -/
theorem System.requeues_eq_true : system.requeues nodeId = true ↔ ∃ component context outcome,
    (system.pc = .processing nodeId component context outcome ∨ system.pc = .checkingIn nodeId component context outcome) ∧
      outcome.finished = false ∧ (outcome.didWork = true ∨ system.scheduler.load context.readySignal = true) ∧
      nodeId ∉ system.scheduler.state.readySet := by
  unfold System.requeues
  constructor
  · intro requeues
    split at requeues
    · next away component context outcome pc =>
        simp only [Bool.and_eq_true, decide_eq_true_eq, Bool.not_eq_true', Bool.or_eq_true] at requeues
        obtain ⟨⟨⟨rfl, unfinished⟩, reason⟩, absent⟩ := requeues
        exact ⟨component, context, outcome, .inl pc, unfinished, reason, absent⟩
    · next away component context outcome pc =>
        simp only [Bool.and_eq_true, decide_eq_true_eq, Bool.not_eq_true', Bool.or_eq_true] at requeues
        obtain ⟨⟨⟨rfl, unfinished⟩, reason⟩, absent⟩ := requeues
        exact ⟨component, context, outcome, .inr pc, unfinished, reason, absent⟩
    · cases requeues
  · rintro ⟨component, context, outcome, pc | pc, unfinished, reason, absent⟩ <;> simp [pc, unfinished, reason, absent]

theorem System.standing_le {more : Nat}
    (count : next.scheduler.state.readyQueue.count nodeId ≤ system.scheduler.state.readyQueue.count nodeId + more)
    (requeues : next.requeues nodeId = true → system.requeues nodeId = true) :
    next.standing nodeId ≤ system.standing nodeId + more := by
  unfold System.standing
  cases later : next.requeues nodeId with
  | false =>
      simp only [Bool.toNat_false]
      omega
  | true =>
      rw [requeues later]
      omega

theorem System.standing_mono
    (count : next.scheduler.state.readyQueue.count nodeId ≤ system.scheduler.state.readyQueue.count nodeId)
    (requeues : next.requeues nodeId = true → system.requeues nodeId = true) :
    next.standing nodeId ≤ system.standing nodeId := by
  simpa using System.standing_le (Nat.le_add_right_of_le count : _ ≤ _ + 0) requeues

theorem System.standing_le_succ
    (count : next.scheduler.state.readyQueue.count nodeId ≤ system.scheduler.state.readyQueue.count nodeId) :
    next.standing nodeId ≤ system.standing nodeId + 1 := by
  have atMost := Bool.toNat_le (next.requeues nodeId)
  unfold System.standing
  omega

theorem Settled.standing {component : κ} {context : NodeContext} {outcome : ExecutionOutcome} {reply : Reply κ}
    (settled : Settled system other context outcome reply next)
    (pc : system.pc = .processing other component context outcome) :
    next.standing nodeId ≤ system.standing nodeId +
      (Event.asksFor nodeId (.returned other reply.returned)).toNat := by
  by_cases here : other = nodeId
  · subst here
    cases settled with
    | overran =>
        exact System.standing_le (Nat.le_add_right _ _) fun requeues => by simp [System.requeues] at requeues
    | ended _ _ finished =>
        refine System.standing_le (Nat.le_add_right _ _) fun requeues => ?_
        simp [System.requeues, finished] at requeues
    | idle why signal _ =>
        refine System.standing_le (Nat.le_add_right _ _) fun requeues => ?_
        simpa [System.requeues, pc, signal] using requeues
    | exhausted why _ _ | again why _ _ _ =>
        have asks : (Event.asksFor other (.returned other reply.returned)).toNat = 1 := by simp [why, Event.asksFor]
        rw [asks]
        exact System.standing_le_succ (Nat.le_refl _)
  · refine System.standing_le ?_ fun requeues => ?_
    · cases settled <;> exact Nat.le_add_right _ _
    · obtain ⟨_, _, _, reached | reached, _⟩ := System.requeues_eq_true.mp requeues
      · cases settled with
        | again =>
            cases reached
            exact absurd rfl here
        | _ => cases reached
      · cases settled with
        | overran | again => cases reached
        | _ =>
            cases reached
            exact absurd rfl here

theorem System.conclude_standing {component : κ} {context : NodeContext} {outcome : ExecutionOutcome}
    (pc : system.pc = .checkingIn other component context outcome) :
    (system.conclude other component context outcome).1.standing nodeId ≤ system.standing nodeId := by
  have done : (system.conclude other component context outcome).1.requeues nodeId = false :=
    System.requeues_of_pc fun _ _ _ _ => by simp
  have bound : (system.conclude other component context outcome).1.scheduler.state.readyQueue.count nodeId ≤
      system.standing nodeId := by
    cases finished : outcome.finished with
    | true =>
        obtain ⟨running, same, _⟩ := system.conclude_finished other component context finished
        have fewer := (List.filter_sublist : List.Sublist
          (system.scheduler.state.readyQueue.filter (· ≠ other)) _).count_le nodeId
        rw [same]
        exact Nat.le_add_right_of_le fewer
    | false =>
        obtain ⟨state, same, states⟩ := system.conclude_unfinished other component context finished
        rw [same]
        rcases states with ⟨reason, rfl⟩ | ⟨_, rfl⟩
        · dsimp only
          rw [SchedulerState.enqueueRecorded_count, SchedulerState.checkIn_readyQueue, SchedulerState.checkIn_readySet]
          by_cases queued : other = nodeId ∧ nodeId ∉ system.scheduler.state.readySet
          · obtain ⟨rfl, absent⟩ := queued
            have requeues : system.requeues other = true :=
              System.requeues_eq_true.mpr ⟨component, context, outcome, .inr pc, finished, reason, absent⟩
            have inSet : other ∉ (system.scheduler.state.account other outcome).readySet := absent
            rw [if_pos ⟨rfl, inSet⟩, System.standing, requeues]
            exact Nat.le_refl _
          · have inSet : ¬ (other = nodeId ∧ nodeId ∉ (system.scheduler.state.account other outcome).readySet) := queued
            rw [if_neg inSet]
            exact Nat.le_add_right _ _
        · dsimp only
          rw [SchedulerState.checkIn_readyQueue]
          exact Nat.le_add_right _ _
  unfold System.standing at bound ⊢
  rw [done]
  exact bound

/-- Whatever a flag held, it is lowered. -/
theorem Scheduler.load_store_false (scheduler : Scheduler κ) (flag : FlagRef) :
    (scheduler.store flag false).load flag = false := by
  unfold Scheduler.load Scheduler.store
  rw [List.getD_eq_getElem?_getD, List.getElem?_set]
  by_cases bound : flag < scheduler.flags.length
  · simp [bound]
  · simp [bound]

/-- A signal asks for one dispatch, and only of its node. -/
theorem Owned.signalReady {pc : Pc κ} (owned : Owned system) (same : pc = system.pc ∨ pc = system.pc.notify) :
    System.standing nodeId { system with scheduler := (system.scheduler.signalReady other).1, pc } ≤
      system.standing nodeId + (Event.asksFor nodeId (.signalled other (system.scheduler.signalReady other).2)).toNat := by
  have executes {away : NodeId} {component : κ} {context : NodeContext} {outcome : ExecutionOutcome}
      (reached : pc = .processing away component context outcome ∨ pc = .checkingIn away component context outcome) :
      pc = system.pc := by
    rcases same with same | same
    · exact same
    · cases here : system.pc <;> simp_all [Pc.notify]
  rcases system.scheduler.signalReady_eq other with ⟨_, refused⟩ | ⟨stored, found, accepted⟩
  · rw [refused]
    refine System.standing_le (Nat.le_add_right _ _) fun requeues => ?_
    obtain ⟨component, context, outcome, reached, facts⟩ := System.requeues_eq_true.mp requeues
    have here : pc = system.pc := executes reached
    exact System.requeues_eq_true.mpr ⟨component, context, outcome, here ▸ reached, facts⟩
  · rw [accepted]
    by_cases mine : other = nodeId
    · subst mine
      have gone : System.requeues other { system with
          scheduler := ⟨system.scheduler.state.enqueueRecorded other, system.scheduler.running,
            system.scheduler.flags.set stored true⟩, pc } = false := by
        rw [Bool.eq_false_iff]
        intro requeues
        obtain ⟨_, _, _, _, _, _, absent⟩ := System.requeues_eq_true.mp requeues
        exact absent (SchedulerState.mem_enqueueRecorded_readySet.mpr (.inl rfl))
      unfold System.standing
      rw [gone]
      simp only [SchedulerState.enqueueRecorded_count, Event.asksFor, decide_true, Bool.toNat_true, Bool.toNat_false]
      split <;> omega
    · refine System.standing_le ?_ fun requeues => ?_
      · rw [SchedulerState.enqueueRecorded_count, if_neg fun both => mine both.1]
        exact Nat.le_add_right _ _
      · obtain ⟨component, context, outcome, reached, unfinished, reason, absent⟩ :=
          System.requeues_eq_true.mp requeues
        have here : pc = system.pc := executes reached
        refine System.requeues_eq_true.mpr ⟨component, context, outcome, here ▸ reached, unfinished,
          reason.imp_right fun loaded => ?_, fun member => absent
            (SchedulerState.mem_enqueueRecorded_readySet.mpr (.inr member))⟩
        have carries : Carries nodeId context.readySignal system := by
          rcases here ▸ reached with pc | pc
          · exact .away (by rw [pc]; rfl) (congrArg Pc.contextAway pc) rfl
          · exact .away (by rw [pc]; rfl) (congrArg Pc.contextAway pc) rfl
        obtain ⟨bound, others⟩ := owned.carried _ _ carries
        rcases (Scheduler.load_set bound stored).mp loaded with same | loaded
        · exact absurd (others other (same ▸ found)) mine
        · exact loaded

theorem countP_asksFor (event : Event) (nodeId : NodeId) :
    [event].countP (Event.asksFor nodeId) = (Event.asksFor nodeId event).toNat := by
  cases asks : Event.asksFor nodeId event <;> simp [asks]

/-- The dispatches that a move makes or leaves before a node were there or are asked for. -/
theorem Owned.standing (owned : Owned system) (moved : Moved enforced system action events next) (nodeId : NodeId) :
    events.count (.dispatched nodeId) + next.standing nodeId ≤
      system.standing nodeId + events.countP (Event.asksFor nodeId) := by
  have stays (same : next.scheduler.state.readyQueue = system.scheduler.state.readyQueue)
      (idle : ∀ away component context outcome, next.pc ≠ .processing away component context outcome ∧
        next.pc ≠ .checkingIn away component context outcome) : next.standing nodeId ≤ system.standing nodeId := by
    unfold System.standing
    rw [System.requeues_of_pc idle, same]
    exact Nat.le_add_right _ _
  have relocated (queue : next.scheduler.state.readyQueue = system.scheduler.state.readyQueue)
      (set : next.scheduler.state.readySet = system.scheduler.state.readySet)
      (flags : next.scheduler.flags = system.scheduler.flags)
      (pc : next.pc = system.pc ∨ next.pc = system.pc.notify) : next.standing nodeId ≤ system.standing nodeId := by
    refine System.standing_mono (by rw [queue]) fun requeues => ?_
    obtain ⟨component, context, outcome, reached, facts⟩ := System.requeues_eq_true.mp requeues
    have here : next.pc = system.pc := by
      rcases pc with here | here
      · exact here
      · cases before : system.pc <;> simp_all [Pc.notify]
    unfold Scheduler.load at facts
    rw [set, flags] at facts
    exact System.requeues_eq_true.mpr ⟨component, context, outcome, here ▸ reached, facts⟩
  cases moved with
  | drains pc =>
      have fired : (((system.scheduler.drainExpiredTimers system.clock).2.map fun entry =>
          Event.timerExpired entry.nodeId entry.when).countP (Event.asksFor nodeId)) =
          (system.scheduler.drainExpiredTimers system.clock).2.countP fun entry => decide (entry.nodeId = nodeId) := by
        rw [List.countP_map]
        rfl
      have silent : (((system.scheduler.drainExpiredTimers system.clock).2.map fun entry =>
          Event.timerExpired entry.nodeId entry.when).count (.dispatched nodeId)) = 0 := by
        rw [List.count_eq_zero]
        simp
      have count := system.scheduler.drainExpiredTimers_count system.clock nodeId
      rw [fired, silent, Nat.zero_add]
      exact System.standing_le count fun requeues => by simp [System.requeues] at requeues
  | popsUnavailable pc unavailable =>
      obtain ⟨_, rest, _, _, _, queue, rfl⟩ := SchedulerState.checkOut_unavailable unavailable
      rw [List.count_nil, Nat.zero_add, List.countP_nil, Nat.add_zero]
      refine System.standing_mono ?_ fun requeues => by simp [System.requeues] at requeues
      rw [queue]
      exact (List.sublist_cons_self _ rest).count_le nodeId
  | @dispatches taken component context state pc checkedOut =>
      obtain ⟨rest, metrics, queue, _, _, rfl⟩ := checkOut_taken checkedOut
      have idle (scheduler : Scheduler κ) (clock : Instant) (stopping : Nat) :
          System.requeues nodeId ⟨scheduler, clock, .entering taken component context, stopping⟩ = false := rfl
      have before : system.requeues nodeId = false := System.requeues_of_pc fun _ _ _ _ => by simp [pc]
      have silent : [Event.dispatched taken].countP (Event.asksFor nodeId) = 0 := rfl
      unfold System.standing
      rw [idle, before, queue, silent]
      by_cases here : taken = nodeId
      · subst here
        simp only [List.count_cons_self, List.count_nil]
        omega
      · simp [here]
  | @enters away component context pc =>
      have lowered : (system.enter away component context).scheduler.load context.readySignal = false :=
        Scheduler.load_store_false _ _
      rw [List.count_nil, Nat.zero_add, List.countP_nil, Nat.add_zero]
      refine System.standing_mono (Nat.le_refl _) fun requeues => ?_
      obtain ⟨_, _, _, reached | reached, _, reason, _⟩ := System.requeues_eq_true.mp requeues
      · cases reached
        rcases reason with worked | loaded
        · cases worked
        · cases lowered.symm.trans loaded
      · cases reached
  | @concludes away component context outcome pc =>
      have silent : (system.conclude away component context outcome).2.count (.dispatched nodeId) = 0 := by
        rw [List.count_eq_zero]
        rcases system.conclude_events away component context outcome with reports | reports | reports <;>
          simp [reports]
      rw [silent, Nat.zero_add]
      exact Nat.le_add_right_of_le (System.conclude_standing pc)
  | @settles away component context outcome reply pc =>
      rw [List.count_eq_zero.mpr (by simp), Nat.zero_add, countP_asksFor]
      exact (system.settled enforced away context outcome reply).standing pc
  | @selfSignals away component context outcome pc =>
      by_cases here : away = nodeId
      · have asked : [Event.selfSignalled away].countP (Event.asksFor nodeId) = 1 := by simp [Event.asksFor, here]
        rw [asked]
        rw [List.count_eq_zero.mpr (by simp), Nat.zero_add]
        exact System.standing_le_succ (Nat.le_refl _)
      · rw [List.count_eq_zero.mpr (by simp), Nat.zero_add]
        refine Nat.le_add_right_of_le (System.standing_mono (Nat.le_refl _) fun requeues => ?_)
        obtain ⟨_, _, _, reached | reached, _⟩ := System.requeues_eq_true.mp requeues
        · rw [pc] at reached
          cases reached
          exact absurd rfl here
        · rw [pc] at reached
          cases reached
  | @selfWakes away component context outcome when pc =>
      rw [List.count_nil, Nat.zero_add, List.countP_nil, Nat.add_zero]
      refine System.standing_mono (Nat.le_refl _) fun requeues => ?_
      simpa [System.requeues, pc] using requeues
  | signals other free =>
      rw [List.count_eq_zero.mpr (by simp), Nat.zero_add, countP_asksFor]
      exact owned.signalReady (by split <;> simp)
  | registers other when free =>
      rw [List.count_eq_zero.mpr (by simp), Nat.zero_add]
      refine Nat.le_add_right_of_le (relocated ?_ ?_ ?_ (by dsimp only; split <;> simp)) <;>
        rcases system.scheduler.wakeAt_eq other when with ⟨_, same⟩ | ⟨_, same⟩ <;> rw [same] <;> rfl
  | storesStop => simpa using relocated rfl rfl rfl (.inl rfl)
  | notifiesStop _ => simpa [Event.asksFor] using relocated rfl rfl rfl (.inr rfl)
  | elapses _ _ => simpa using relocated rfl rfl rfl (.inl rfl)
  | leavesWait pc _ | mustWait pc _ _ | leaves pc _ | goesOn pc _ =>
      simpa [Event.asksFor] using stays rfl fun _ _ _ _ => by simp
  | _ pc => simpa using stays rfl fun _ _ _ _ => by simp

/-- What is queued is not queued again by a check-in. -/
theorem Lined.standing_le_one (lined : Lined system.scheduler.state) (nodeId : NodeId) :
    system.standing nodeId ≤ 1 := by
  have once := List.nodup_iff_count_le_one.mp lined.nodup nodeId
  unfold System.standing
  cases requeues : system.requeues nodeId with
  | false => simpa using once
  | true =>
      obtain ⟨_, _, _, _, _, _, absent⟩ := System.requeues_eq_true.mp requeues
      have none : system.scheduler.state.readyQueue.count nodeId = 0 :=
        List.count_eq_zero.mpr fun member => absent ((lined.inSet nodeId).mpr member)
      simp [none]

def Report.asksFor (nodeId : NodeId) : Report → Bool
  | .event reported => reported.asksFor nodeId
  | _ => false

def Report.dispatches (nodeId : NodeId) (report : Report) : Bool := report = .event (.dispatched nodeId)

theorem countP_pops (system : System κ) (action : Action κ) (nodeId : NodeId) :
    (system.pops action).countP (Report.asksFor nodeId) = 0 ∧
      (system.pops action).countP (Report.dispatches nodeId) = 0 := by
  unfold System.pops
  split
  · split
    · cases system.scheduler.state.readyQueue <;> simp [Report.asksFor, Report.dispatches]
    · exact ⟨rfl, rfl⟩
  · exact ⟨rfl, rfl⟩

theorem countP_registrations (system : System κ) (action : Action κ) (nodeId : NodeId) :
    (system.registrations action).countP (Report.asksFor nodeId) = 0 ∧
      (system.registrations action).countP (Report.dispatches nodeId) = 0 := by
  unfold System.registrations
  split
  · split <;> simp [Report.asksFor, Report.dispatches]
  · split
    · next context _ _ =>
        split
        · exact ⟨rfl, rfl⟩
        · cases context.wakeAt <;> simp [Report.asksFor, Report.dispatches]
    · exact ⟨rfl, rfl⟩
  · exact ⟨rfl, rfl⟩

theorem countP_moves (system : System κ) (action : Action κ) (events : List Event) (nodeId : NodeId) :
    (system.pops action ++ system.registrations action ++ events.map Report.event).countP (Report.asksFor nodeId) =
        events.countP (Event.asksFor nodeId) ∧
      (system.pops action ++ system.registrations action ++ events.map Report.event).countP (Report.dispatches nodeId) =
        events.count (.dispatched nodeId) := by
  obtain ⟨asked, dispatched⟩ := countP_pops system action nodeId
  obtain ⟨asking, dispatching⟩ := countP_registrations system action nodeId
  simp only [List.countP_append, asked, dispatched, asking, dispatching, Nat.zero_add, List.countP_map]
  refine ⟨rfl, ?_⟩
  rw [List.count]
  congr 1
  funext event
  simp [Report.dispatches, beq_eq_decide]

/-- A new flag is not raised. -/
theorem Scheduler.load_addNode (scheduler : Scheduler κ) (budgetClass : BudgetClass) (now : Instant) :
    (scheduler.addNode nodeId budgetClass now).load flag = scheduler.load flag := by
  have appended : (scheduler.addNode nodeId budgetClass now).flags = scheduler.flags ++ [false] := rfl
  unfold Scheduler.load
  rw [appended, List.getD_eq_getElem?_getD, List.getD_eq_getElem?_getD]
  rcases Nat.lt_trichotomy flag scheduler.flags.length with below | rfl | above
  · rw [List.getElem?_append_left below]
  · simp
  · rw [List.getElem?_eq_none (by simp; omega), List.getElem?_eq_none (by omega)]

/-- Adding components and nodes and reading metrics queue nothing. -/
theorem Owned.standing_operated (owned : Owned system) (operated : Operated enforced system operation reports next)
    (nodeId : NodeId) : reports.countP (Report.dispatches nodeId) + next.standing nodeId ≤
      system.standing nodeId + reports.countP (Report.asksFor nodeId) := by
  cases operated with
  | @moves action events _ moved =>
      obtain ⟨asks, dispatches⟩ := countP_moves system action events nodeId
      rw [asks, dispatches]
      exact owned.standing moved nodeId
  | adds added budgetClass _ =>
      have silent : [Report.added added budgetClass].countP (Report.dispatches nodeId) = 0 := rfl
      have unasked : [Report.added added budgetClass].countP (Report.asksFor nodeId) = 0 := rfl
      rw [silent, unasked, Nat.zero_add, Nat.add_zero]
      refine System.standing_mono (Nat.le_refl _) fun requeues => ?_
      obtain ⟨component, context, outcome, reached, unfinished, reason, absent⟩ := System.requeues_eq_true.mp requeues
      dsimp only at reason
      rw [Scheduler.load_addNode] at reason
      exact System.requeues_eq_true.mpr ⟨component, context, outcome, reached, unfinished, reason, absent⟩
  | equips component equipped _ => exact Nat.le_of_eq (Nat.zero_add _)
  | snapshots _ => exact Nat.le_of_eq (Nat.zero_add _)

/-- Between any two points of a run a node is dispatched as often as it is asked for, and once more if
it was queued or about to be. -/
theorem dispatches_asked_for (enforced : Bool) (clock : Instant) (earlier later : List Report) (first last : System κ)
    (started : (hostMachine κ enforced).Run anyMove (System.start .new clock) earlier first)
    (run : (hostMachine κ enforced).Run anyMove first later last) (nodeId : NodeId) :
    later.countP (Report.dispatches nodeId) + last.standing nodeId ≤
        first.standing nodeId + later.countP (Report.asksFor nodeId) ∧
      first.standing nodeId ≤ 1 ∧
        earlier.countP (Report.dispatches nodeId) ≤ earlier.countP (Report.asksFor nodeId) := by
  have fresh : Owned (System.start (.new : Scheduler κ) clock) := by
    refine ⟨fun _ _ found => (by cases found), fun _ _ carries => ?_⟩
    cases carries with
    | home found _ => cases found
    | away flight _ _ => cases flight
  have lined : Lined first.scheduler.state := (tracked_host started).order.lined
  have keeps {system : System κ} {operation : Operation κ} {next : System κ} {reports : List Report}
      (owned : Owned system) (step : (hostMachine κ enforced).step system operation = some (next, reports)) :
      Owned next ∧ reports.countP (Report.dispatches nodeId) + next.standing nodeId ≤
        system.standing nodeId + reports.countP (Report.asksFor nodeId) :=
    ⟨owned.operated (operated_of_step step), owned.standing_operated (operated_of_step step) nodeId⟩
  obtain ⟨owned, before⟩ := Machine.Run.account Owned (System.standing nodeId) (Report.dispatches nodeId)
    (Report.asksFor nodeId) started fresh fun _ owned step => keeps owned step
  obtain ⟨_, after⟩ := Machine.Run.account Owned (System.standing nodeId) (Report.dispatches nodeId)
    (Report.asksFor nodeId) run owned fun _ owned step => keeps owned step
  have none : (System.start (.new : Scheduler κ) clock).standing nodeId = 0 := rfl
  exact ⟨after, lined.standing_le_one nodeId, by omega⟩

theorem dispatches_asked_for_twoNodes :
    let signalled := (hostMachine Unit true).played (System.start .new 0) twoNodes
    ((hostMachine Unit true).reported signalled workFirst).countP (Report.dispatches "a") +
        ((hostMachine Unit true).played signalled workFirst).standing "a" ≤
      signalled.standing "a" + ((hostMachine Unit true).reported signalled workFirst).countP (Report.asksFor "a") := by
  have started := (hostMachine Unit true).run_played (Machine.permits_any (System.start .new 0) twoNodes) (by decide)
  have run := (hostMachine Unit true).run_played
    (Machine.permits_any ((hostMachine Unit true).played (System.start .new 0) twoNodes) workFirst) (by decide)
  exact (dispatches_asked_for true 0 _ _ _ _ started run "a").1

end Flowd
