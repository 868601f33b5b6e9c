import Flowd.Scheduler.Timers

namespace Flowd

/-! The scheduler as one of its nodes sees it: where the node is, its deadline and whether it is queued. -/

variable {κ : Type} {enforced : Bool} {system next : System κ} {action : Action κ} {events : List Event}
variable {nodeId : NodeId}

/-- Where a node is; at home and on the way in only its fired timer matters.  It is lost where the thread
has panicked over it. -/
inductive Place where
  | home (fired : Option Instant)
  | entering (fired : Option Instant)
  | processing (context : NodeContext)
  | leaving (context : NodeContext) (finished : Bool)
  | lost
  | gone

/-- The timer of the node that has fired and has not been taken. -/
def Place.fired : Place → Option Instant
  | .home fired | .entering fired => fired
  | .processing context | .leaving context _ => context.timerFiredAt
  | .lost | .gone => none

structure Hold where
  place : Place
  deadline : Option Instant
  queued : Bool

/-- The place of a node that is in flight with its context. -/
def Pc.placeAway (nodeId : NodeId) : Pc κ → Option Place
  | .entering away _ context => if away = nodeId then some (.entering context.timerFiredAt) else none
  | .processing away _ context _ => if away = nodeId then some (.processing context) else none
  | .checkingIn away _ context outcome => if away = nodeId then some (.leaving context outcome.finished) else none
  | .panicked away => if away = nodeId then some .lost else none
  | _ => none

def SchedulerState.placeHome (state : SchedulerState κ) (nodeId : NodeId) : Place :=
  match state.nodes.lookup nodeId with
  | some context => .home context.timerFiredAt
  | none => .gone

def System.hold (system : System κ) (nodeId : NodeId) : Hold where
  place := (system.pc.placeAway nodeId).getD (system.scheduler.state.placeHome nodeId)
  deadline := system.scheduler.state.timerLatestByNode.lookup nodeId
  queued := decide (nodeId ∈ system.scheduler.state.readyQueue)

/-- What may become of a node while others are at work; `now` is the time. -/
inductive Passes (now : Instant) : Hold → Hold → Prop where
  | rests {place : Place} {deadline : Option Instant} {queued later : Bool} (kept : queued = true → later = true) :
      Passes now ⟨place, deadline, queued⟩ ⟨place, deadline, later⟩
  | fires {fired : Option Instant} {when : Instant} {queued : Bool} (due : when ≤ now) :
      Passes now ⟨.home fired, some when, queued⟩ ⟨.home (some when), none, true⟩
  | dispatched {fired deadline : Option Instant} {queued later : Bool} :
      Passes now ⟨.home fired, deadline, queued⟩ ⟨.entering fired, deadline, later⟩
  | enters {context : NodeContext} {deadline : Option Instant} {queued : Bool}
      (funded : 0 < context.remainingBudget) (asleep : context.wakeAt = none) :
      Passes now ⟨.entering context.timerFiredAt, deadline, queued⟩ ⟨.processing context, deadline, queued⟩
  | checksIn {context : NodeContext} {deadline : Option Instant} {queued later : Bool} :
      Passes now ⟨.leaving context false, deadline, queued⟩
        ⟨.home context.timerFiredAt, context.wakeAt.or deadline, later⟩
  | retires {context : NodeContext} {deadline : Option Instant} {queued later : Bool} :
      Passes now ⟨.leaving context true, deadline, queued⟩ ⟨.gone, none, later⟩

@[simp] theorem Pc.notify_placeAway (pc : Pc κ) : pc.notify.placeAway nodeId = pc.placeAway nodeId := by
  cases pc <;> rfl

/-- Neither a return from `process()` of the node nor a deadline it asks for there. -/
def Foreign (nodeId : NodeId) (system : System κ) : Action κ → Bool
  | .processReturns _ | .selfWakeAt _ =>
      match system.pc with
      | .processing away _ _ _ => away != nodeId
      | _ => true
  | _ => true

theorem Foreign.elsewhere {away : NodeId} {component : κ} {context : NodeContext} {outcome : ExecutionOutcome}
    (pc : system.pc = .processing away component context outcome) {reply : Reply κ}
    (foreign : Foreign nodeId system (.processReturns reply) = true) : away ≠ nodeId := by
  simpa [Foreign, pc] using foreign

theorem SchedulerState.mem_enqueue_of_mem {state : SchedulerState κ} {other : NodeId}
    (queued : other ∈ state.readyQueue) : other ∈ (state.enqueue nodeId).readyQueue := by
  unfold SchedulerState.enqueue
  split
  · exact queued
  · exact List.mem_append_left _ queued

/-- A move that leaves the node where it is. -/
theorem Passes.stays {now : Instant} (away : next.pc.placeAway nodeId = system.pc.placeAway nodeId)
    (home : next.scheduler.state.nodes.lookup nodeId = system.scheduler.state.nodes.lookup nodeId)
    (deadline : next.scheduler.state.timerLatestByNode.lookup nodeId =
      system.scheduler.state.timerLatestByNode.lookup nodeId)
    (kept : nodeId ∈ system.scheduler.state.readyQueue → nodeId ∈ next.scheduler.state.readyQueue) :
    Passes now (system.hold nodeId) (next.hold nodeId) := by
  unfold System.hold SchedulerState.placeHome
  rw [away, home, deadline]
  refine .rests fun queued => ?_
  rw [decide_eq_true_eq] at queued ⊢
  exact kept queued

/-- Draining fires the deadline of the node if it is due. -/
theorem Passes.drains (sound : Sound system) (pc : system.pc = .draining) :
    Passes system.clock (system.hold nodeId)
      (System.hold { system with
        scheduler := (system.scheduler.drainExpiredTimers system.clock).1, pc := .testing } nodeId) := by
  have consistent := sound.consistent
  have drained : Drained system.clock system.scheduler _ _ := drained_timers consistent.order
  have kept : nodeId ∈ system.scheduler.state.readyQueue →
      nodeId ∈ (system.scheduler.drainExpiredTimers system.clock).1.state.readyQueue :=
    fun queued => (drained.queued nodeId).mpr (.inl queued)
  cases latest : system.scheduler.state.timerLatestByNode.lookup nodeId with
  | none =>
      refine .stays (by rw [pc]; rfl) ?_ ?_ kept
      · rw [drained.contexts, latest]
        exact Option.map_id_apply
      · rw [drained.latest, latest]
        rfl
  | some when =>
      by_cases due : when ≤ system.clock
      · have timed : nodeId ∈ system.scheduler.state.readyFlags :=
          consistent.timerFlag nodeId (AList.lookup_isSome.mp (by rw [latest]; rfl))
        have home : nodeId ∈ system.scheduler.state.nodes := by
          rcases (consistent.flagHome nodeId).mp timed with home | away
          · exact home
          · rw [pc] at away
            cases away
        obtain ⟨context, found⟩ := Option.isSome_iff_exists.mp (AList.lookup_isSome.mpr home)
        have fired : nodeId ∈ ((system.scheduler.drainExpiredTimers system.clock).2).map TimerWake.nodeId :=
          List.mem_map.mpr ⟨⟨when, nodeId⟩, (drained.fires _).mpr ⟨latest, due⟩, rfl⟩
        have before : system.hold nodeId = ⟨.home context.timerFiredAt, some when,
            decide (nodeId ∈ system.scheduler.state.readyQueue)⟩ := by
          simp [System.hold, pc, Pc.placeAway, SchedulerState.placeHome, found, latest]
        have after : System.hold { system with
            scheduler := (system.scheduler.drainExpiredTimers system.clock).1, pc := .testing } nodeId =
            ⟨.home (some when), none, true⟩ := by
          have queued := (drained.queued nodeId).mpr (.inr fired)
          simp [System.hold, Pc.placeAway, SchedulerState.placeHome, drained.contexts, drained.latest, found, latest,
            NodeContext.drained, remaining, due, queued]
        rw [before, after]
        exact .fires due
      · refine .stays (by rw [pc]; rfl) ?_ ?_ kept
        · rw [drained.contexts, latest]
          have same : NodeContext.drained system.clock (some when) = id := by
            funext context
            simp [NodeContext.drained, due]
          rw [same, Option.map_id, id]
        · rw [drained.latest, latest]
          simp [remaining, Nat.lt_of_not_le due]

/-- The node leaves the queue for `process()`, or another one does. -/
theorem Passes.dispatches {now : Instant} {away : NodeId} {component : κ} {context : NodeContext}
    {state : SchedulerState κ} (pc : system.pc = .popping)
    (taken : system.scheduler.state.checkOut = .taken away component context state) :
    Passes now (system.hold nodeId) (System.hold { system with
      scheduler := { system.scheduler with state }, pc := .entering away component context } nodeId) := by
  obtain ⟨rest, metrics, queue, _, found, rfl⟩ := checkOut_taken taken
  by_cases here : away = nodeId
  · subst here
    have before : system.hold away = ⟨.home context.timerFiredAt,
        system.scheduler.state.timerLatestByNode.lookup away,
        decide (away ∈ system.scheduler.state.readyQueue)⟩ := by
      simp [System.hold, pc, Pc.placeAway, SchedulerState.placeHome, found]
    rw [before]
    simp only [System.hold, Pc.placeAway, if_true, Option.getD_some]
    exact .dispatched
  · refine .stays ?_ ?_ rfl ?_
    · rw [pc]
      exact if_neg here
    · exact AList.lookup_erase_ne (Ne.symm here)
    · intro queued
      rw [queue, List.mem_cons] at queued
      exact queued.resolve_left (Ne.symm here)

/-- A node that was executing goes back, or is retired. -/
theorem Passes.concludes {now : Instant} {away : NodeId} {component : κ} {context : NodeContext}
    {outcome : ExecutionOutcome} (sound : Sound system) (pc : system.pc = .checkingIn away component context outcome) :
    Passes now (system.hold nodeId) ((system.conclude away component context outcome).1.hold nodeId) := by
  have consistent := sound.consistent
  rw [pc] at consistent
  have leaving (here : away = nodeId) : system.hold nodeId = ⟨.leaving context outcome.finished,
      system.scheduler.state.timerLatestByNode.lookup nodeId,
      decide (nodeId ∈ system.scheduler.state.readyQueue)⟩ := by
    simp [System.hold, pc, Pc.placeAway, here]
  cases finished : outcome.finished with
  | true =>
      obtain ⟨running, same, _⟩ := system.conclude_finished away component context finished
      obtain ⟨metrics, retired⟩ := (system.scheduler.state.account away outcome).retire_eq away
      rw [same, retired]
      by_cases here : away = nodeId
      · have missing : nodeId ∉ system.scheduler.state.nodes := consistent.awayGone nodeId (by rw [← here]; rfl)
        have nowhere : system.scheduler.state.nodes.lookup nodeId = none := AList.lookup_eq_none.mpr missing
        rw [leaving here, finished]
        subst here
        have after : (System.mk ⟨{ system.scheduler.state.account away outcome with
              readyFlags := (system.scheduler.state.account away outcome).readyFlags.erase away
              timerLatestByNode := (system.scheduler.state.account away outcome).timerLatestByNode.erase away
              readySet := (system.scheduler.state.account away outcome).readySet.erase away
              readyQueue := (system.scheduler.state.account away outcome).readyQueue.filter (· ≠ away)
              metrics }, running, system.scheduler.flags⟩ system.clock Pc.top system.stopping).hold away =
            ⟨.gone, none, false⟩ := by
          simp [System.hold, Pc.placeAway, SchedulerState.placeHome, SchedulerState.account, nowhere]
        exact after ▸ .retires
      · refine .stays ?_ rfl ?_ ?_
        · rw [pc]
          exact (if_neg here).symm
        · exact AList.lookup_erase_ne (Ne.symm here)
        · intro queued
          simpa [SchedulerState.account, Ne.symm here] using queued
  | false =>
      obtain ⟨state, same, states⟩ := system.conclude_unfinished away component context finished
      rw [same]
      have maps : state.nodes = system.scheduler.state.nodes.insert away { context with wakeAt := none } ∧
          state.timerLatestByNode = ((system.scheduler.state.account away outcome).checkIn away component
            context).timerLatestByNode ∧
          ∀ id ∈ system.scheduler.state.readyQueue, id ∈ state.readyQueue := by
        rcases states with ⟨_, rfl⟩ | ⟨_, rfl⟩
        · obtain ⟨metrics, recorded⟩ := SchedulerState.enqueueRecorded_eq
            ((system.scheduler.state.account away outcome).checkIn away component context) away
          rw [recorded]
          refine ⟨by simp [SchedulerState.account], by simp, fun id queued => ?_⟩
          refine SchedulerState.mem_enqueue_of_mem ?_
          simpa [SchedulerState.account] using queued
        · exact ⟨by simp [SchedulerState.account], rfl, fun id queued => by simpa [SchedulerState.account] using queued⟩
      have nodes : state.nodes.lookup nodeId = if nodeId = away then some { context with wakeAt := none }
          else system.scheduler.state.nodes.lookup nodeId := by
        rw [maps.1, HashMap.lookup_insert_ite]
      have latest : state.timerLatestByNode.lookup nodeId = if nodeId = away then
          context.wakeAt.or (system.scheduler.state.timerLatestByNode.lookup nodeId)
          else system.scheduler.state.timerLatestByNode.lookup nodeId := by
        rw [maps.2.1, SchedulerState.checkIn_timerLatestByNode]
        cases context.wakeAt with
        | none => simp [SchedulerState.account]
        | some when => rw [HashMap.lookup_insert_ite]; rfl
      have kept := maps.2.2 nodeId
      by_cases here : away = nodeId
      · rw [leaving here, finished]
        have after : System.hold { system with scheduler := { system.scheduler with state }, pc := .top } nodeId =
            ⟨.home context.timerFiredAt, context.wakeAt.or (system.scheduler.state.timerLatestByNode.lookup nodeId),
              decide (nodeId ∈ state.readyQueue)⟩ := by
          simp [System.hold, Pc.placeAway, SchedulerState.placeHome, nodes, latest, here]
        rw [after]
        exact .checksIn
      · refine .stays ?_ ?_ ?_ kept
        · rw [pc]
          exact (if_neg here).symm
        · exact nodes.trans (if_neg (Ne.symm here))
        · exact latest.trans (if_neg (Ne.symm here))

/-- Every move that is not the node's own. -/
theorem Passes.of_moved (sound : Sound system) (moved : Moved enforced system action events next)
    (foreign : Foreign nodeId system action = true) :
    Passes system.clock (system.hold nodeId) (next.hold nodeId) ∨
      ∃ when, action = .wakeAt nodeId when ∧
        next.hold nodeId = { system.hold nodeId with deadline := some when } := by
  cases moved with
  | drains pc => exact .inl (.drains sound pc)
  | dispatches pc taken => exact .inl (.dispatches pc taken)
  | concludes pc => exact .inl (.concludes sound pc)
  | popsUnavailable pc unavailable =>
      have consistent := sound.consistent
      rw [pc] at consistent
      exact absurd unavailable (consistent.checkOut_available sound.equipped)
  | @enters away component context pc =>
      left
      by_cases here : away = nodeId
      · simp only [System.hold, System.enter, pc, Pc.placeAway, here, if_true, Option.getD_some]
        exact @Passes.enters _ { context with remainingBudget := context.budgetClass.units, wakeAt := none } _ _
          (BudgetClass.units_pos _) rfl
      · refine .stays ?_ rfl rfl id
        simp [System.enter, pc, Pc.placeAway, here]
  | @settles away component context outcome reply pc =>
      left
      have elsewhere := Foreign.elsewhere pc foreign
      have before : system.pc.placeAway nodeId = none := by simp [pc, Pc.placeAway, elsewhere]
      have settled := system.settled enforced away context outcome reply
      generalize system.settle enforced away context outcome reply = last at settled ⊢
      cases settled with
      | overran => exact .stays ((if_neg elsewhere).trans before.symm) rfl rfl id
      | ended => exact .stays ((if_neg elsewhere).trans before.symm) rfl rfl id
      | idle => exact .stays ((if_neg elsewhere).trans before.symm) rfl rfl id
      | exhausted => exact .stays ((if_neg elsewhere).trans before.symm) rfl rfl id
      | again => exact .stays ((if_neg elsewhere).trans before.symm) rfl rfl id
  | @selfWakes away component context outcome when pc =>
      left
      have elsewhere : away ≠ nodeId := by simpa [Foreign, pc] using foreign
      refine .stays ?_ rfl rfl id
      simp [pc, Pc.placeAway, elsewhere]
  | signals other _ =>
      left
      have away : (if (system.scheduler.signalReady other).2 then system.pc.notify else system.pc).placeAway nodeId =
          system.pc.placeAway nodeId := by split <;> simp
      rcases system.scheduler.signalReady_eq other with ⟨_, same⟩ | ⟨flag, _, same⟩
      · rw [same] at away ⊢
        exact .stays away rfl rfl id
      · obtain ⟨metrics, recorded⟩ := system.scheduler.state.enqueueRecorded_eq other
        rw [same, recorded] at away ⊢
        exact .stays away (by simp) (by simp) fun queued => SchedulerState.mem_enqueue_of_mem queued
  | registers other when _ =>
      have away : (if (system.scheduler.wakeAt other when).2 then system.pc.notify else system.pc).placeAway nodeId =
          system.pc.placeAway nodeId := by split <;> simp
      rcases system.scheduler.wakeAt_eq other when with ⟨_, same⟩ | ⟨_, same⟩
      · rw [same] at away ⊢
        exact .inl (.stays away rfl rfl id)
      · rw [same] at away ⊢
        by_cases here : other = nodeId
        · subst here
          refine .inr ⟨when, rfl, ?_⟩
          unfold System.hold
          rw [away]
          simp only [SchedulerState.registerTimer, SchedulerState.placeHome, AList.lookup_insert]
          rfl
        · left
          refine .stays away rfl ?_ id
          simp [SchedulerState.registerTimer, AList.lookup_insert_ne (Ne.symm here)]
  | selfSignals pc => exact .inl (.stays rfl rfl rfl id)
  | notifiesStop _ => exact .inl (.stays (by simp) rfl rfl id)
  | storesStop => exact .inl (.stays rfl rfl rfl id)
  | elapses _ _ => exact .inl (.stays rfl rfl rfl id)
  | _ pc => exact .inl (.stays (by rw [pc]; rfl) rfl rfl id)

/-- A timer does not fire early. -/
def Past (now : Instant) (hold : Hold) : Prop := ∀ firedAt, hold.place.fired = some firedAt → firedAt ≤ now

theorem Passes.past {now : Instant} {hold later : Hold} (passes : Passes now hold later) (past : Past now hold) :
    Past now later := by
  cases passes with
  | fires due =>
      intro firedAt fired
      cases fired
      exact due
  | retires =>
      intro firedAt fired
      cases fired
  | _ => exact past

/-- The outcome of a dispatch that is going on is not a final one. -/
def Pc.Unfinished : Pc κ → Prop
  | .processing _ _ _ outcome => outcome.finished = false
  | _ => True

theorem Pc.Unfinished.notify {pc : Pc κ} (unfinished : pc.Unfinished) : pc.notify.Unfinished := by
  cases pc <;> exact unfinished

theorem Pc.Unfinished.moved (unfinished : system.pc.Unfinished) (moved : Moved enforced system action events next) :
    next.pc.Unfinished := by
  cases moved with
  | enters pc => rfl
  | concludes pc => simp [Pc.Unfinished]
  | @settles away component context outcome reply pc =>
      have before : outcome.finished = false := by simpa [pc, Pc.Unfinished] using unfinished
      have settled := system.settled enforced away context outcome reply
      generalize system.settle enforced away context outcome reply = last at settled ⊢
      cases settled with
      | again _ _ _ _ => exact before
      | _ => trivial
  | selfWakes when pc => simpa [Pc.Unfinished, pc] using unfinished
  | signals _ _ =>
      dsimp only
      split
      · exact unfinished.notify
      · exact unfinished
  | registers _ _ _ =>
      dsimp only
      split
      · exact unfinished.notify
      · exact unfinished
  | selfSignals _ => exact unfinished
  | storesStop => exact unfinished
  | notifiesStop _ => exact unfinished.notify
  | elapses _ _ => exact unfinished
  | _ => trivial

/-- Where a call of `process()` leaves its node: the deadline it asked for and its fired timer are
kept unless it ended the node. -/
inductive Leaves (returned : Returned) (wakeAt fired : Option Instant) : Place → Prop where
  | lost : Leaves returned wakeAt fired .lost
  | ends {context : NodeContext} (why : returned = .panicked ∨ returned = .result .finished)
      (mark : context.timerFiredAt = fired) : Leaves returned wakeAt fired (.leaving context true)
  | rests {context : NodeContext} (going : returned ≠ .panicked ∧ returned ≠ .result .finished)
      (wake : context.wakeAt = wakeAt) (mark : context.timerFiredAt = fired) :
      Leaves returned wakeAt fired (.leaving context false)
  | again {context : NodeContext} (going : returned ≠ .panicked ∧ returned ≠ .result .finished)
      (wake : context.wakeAt = wakeAt) (mark : context.timerFiredAt = fired)
      (funded : 0 < context.remainingBudget) : Leaves returned wakeAt fired (.processing context)

theorem Leaves.fired {returned : Returned} {wakeAt fired : Option Instant} {place : Place} {firedAt : Instant}
    (leaves : Leaves returned wakeAt fired place) (found : place.fired = some firedAt) : fired = some firedAt := by
  cases leaves with
  | lost => cases found
  | ends _ mark => exact mark.symm.trans found
  | rests _ _ mark => exact mark.symm.trans found
  | again _ _ mark _ => exact mark.symm.trans found

theorem System.hold_away {place : Place} (away : next.pc.placeAway nodeId = some place)
    (state : next.scheduler.state = system.scheduler.state) :
    next.hold nodeId = { system.hold nodeId with place } := by
  unfold System.hold
  rw [away, state]
  rfl

/-- A node that is not in flight is at home, or gone. -/
theorem System.hold_home (home : system.pc.inFlight ≠ some nodeId) :
    system.hold nodeId = ⟨system.scheduler.state.placeHome nodeId, system.scheduler.state.timerLatestByNode.lookup nodeId,
      decide (nodeId ∈ system.scheduler.state.readyQueue)⟩ := by
  have nowhere : system.pc.placeAway nodeId = none := by
    cases pc : system.pc with
    | entering away component context | processing away component context outcome
    | checkingIn away component context outcome | panicked away =>
        have elsewhere : away ≠ nodeId := fun same => home (by rw [pc, ← same]; rfl)
        exact if_neg elsewhere
    | _ => rfl
  unfold System.hold
  rw [nowhere, Option.getD_none]

/-- A return from `process()` touches neither the deadline nor the queue. -/
theorem Leaves.of_settle (system : System κ) (enforced : Bool) (nodeId : NodeId) {context : NodeContext} {outcome : ExecutionOutcome}
    (unfinished : outcome.finished = false) (reply : Reply κ) :
    ∃ place, Leaves reply.returned context.wakeAt (if reply.tookTimer then none else context.timerFiredAt) place ∧
      (system.settle enforced nodeId context outcome reply).hold nodeId = { system.hold nodeId with place } := by
  unfold System.settle
  dsimp only
  generalize (if reply.tookTimer then none else context.timerFiredAt) = fired
  split
  · exact ⟨_, .lost, System.hold_away (if_pos rfl) rfl⟩
  · cases returned : reply.returned with
    | panicked =>
        let left : NodeContext := { context with remainingBudget := reply.remainingBudget, timerFiredAt := fired }
        exact ⟨_, @Leaves.ends _ _ _ left (.inl rfl) rfl, System.hold_away (if_pos rfl) rfl⟩
    | result result =>
        let left : NodeContext := { context with remainingBudget := reply.remainingBudget, timerFiredAt := fired }
        cases result with
        | finished => exact ⟨_, @Leaves.ends _ _ _ left (.inr rfl) rfl, System.hold_away (if_pos rfl) rfl⟩
        | noWork =>
            refine ⟨_, @Leaves.rests _ _ _ left ⟨by simp, by simp⟩ rfl rfl, System.hold_away ?_ rfl⟩
            simp only [Pc.placeAway, if_true, unfinished]
            rfl
        | didWork units =>
            let left : NodeContext :=
              { context.accountWork reply.remainingBudget units system.clock with timerFiredAt := fired }
            dsimp only
            split
            · refine ⟨_, @Leaves.rests _ _ _ left ⟨by simp, by simp⟩ rfl rfl, System.hold_away ?_ rfl⟩
              simp only [Pc.placeAway, if_true, ExecutionOutcome.accountWork, unfinished]
              rfl
            · next funded =>
                exact ⟨_, @Leaves.again _ _ _ left ⟨by simp, by simp⟩ rfl rfl (Nat.pos_of_ne_zero funded),
                  System.hold_away (if_pos rfl) rfl⟩

end Flowd
