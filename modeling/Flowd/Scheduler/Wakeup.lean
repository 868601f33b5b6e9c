import Flowd.Scheduler.Moves

namespace Flowd

/-! No wakeup is lost between the ready queue, the ready flags and the node in flight. -/

open Transition

variable {κ : Type} {enforced : Bool} {system next : System κ} {events trace : List Event}
variable {action : Action κ} {nodeId : NodeId}

/-- An accepted `signal_ready` or a drained timer of the node. -/
def Event.Wakes (nodeId : NodeId) (event : Event) : Prop :=
  event = .signalled nodeId true ∨ ∃ when, event = .timerExpired nodeId when

/-- A dispatch of the node begins, or the node is retired. -/
def Event.Releases (nodeId : NodeId) (event : Event) : Prop :=
  event = .dispatched nodeId ∨ event = .retired nodeId

def Queued (nodeId : NodeId) (system : System κ) : Prop := nodeId ∈ system.scheduler.state.readyQueue

/-- The node in flight carries its own signal, or it is not going to be checked in. -/
def Marked (nodeId : NodeId) (system : System κ) : Prop :=
  match system.pc with
  | .processing away _ context _ => away = nodeId ∧ system.scheduler.load context.readySignal = true
  | .checkingIn away _ context outcome =>
      away = nodeId ∧ (outcome.finished = true ∨ outcome.didWork = true ∨
        system.scheduler.load context.readySignal = true)
  | .panicked away => away = nodeId
  | _ => False

theorem Marked.inFlight (marked : Marked nodeId system) : system.pc.inFlight = some nodeId := by
  unfold Marked at marked
  split at marked
  · next pc => rw [pc, ← marked.1]; rfl
  · next pc => rw [pc, ← marked.1]; rfl
  · next pc => rw [pc, ← marked]; rfl
  · exact marked.elim

theorem Scheduler.load_of_set {scheduler other : Scheduler κ} {flag stored : FlagRef}
    (flags : other.flags = scheduler.flags.set stored true) (loaded : scheduler.load flag = true) :
    other.load flag = true := by
  unfold Scheduler.load at loaded ⊢
  rw [flags, List.getD_eq_getElem?_getD, List.getElem?_set]
  rw [List.getD_eq_getElem?_getD] at loaded
  split
  · next same =>
      split
      · rfl
      · next outside =>
          rw [← same, List.getElem?_eq_none (Nat.le_of_not_lt outside)] at loaded
          exact loaded
  · exact loaded

theorem Scheduler.load_store {scheduler : Scheduler κ} {flag : FlagRef}
    (bound : flag < scheduler.flags.length) : (scheduler.store flag true).load flag = true := by
  simp [Scheduler.load, Scheduler.store, List.getD_eq_getElem?_getD, bound]

theorem Scheduler.load_signalReady {scheduler : Scheduler κ} {flag : FlagRef}
    (loaded : scheduler.load flag = true) : (scheduler.signalReady nodeId).1.load flag = true := by
  rcases scheduler.signalReady_eq nodeId with ⟨_, same⟩ | ⟨stored, _, same⟩
  · rw [same]
    exact loaded
  · rw [same]
    exact Scheduler.load_of_set rfl loaded

theorem Scheduler.load_wakeAt {scheduler : Scheduler κ} {flag : FlagRef} {when : Instant} :
    (scheduler.wakeAt nodeId when).1.load flag = scheduler.load flag := by
  rcases scheduler.wakeAt_eq nodeId when with ⟨_, same⟩ | ⟨_, same⟩
  · rw [same]
  · rw [same]
    rfl

/-- A queued node stays queued until it is dispatched or retired. -/
theorem Queued.moved (queued : Queued nodeId system) (sound : Sound system)
    (moved : Moved enforced system action events next) :
    (∃ event ∈ events, event.Releases nodeId) ∨ Queued nodeId next := by
  have consistent := sound.consistent
  cases moved with
  | drains pc => exact .inr (consistent.queued_drainExpiredTimers (.inl queued))
  | popsUnavailable pc unavailable =>
      rw [pc] at consistent
      exact absurd unavailable (consistent.checkOut_available sound.equipped)
  | @dispatches first component context state pc taken =>
      obtain ⟨rest, metrics, queue, _, _, rfl⟩ := checkOut_taken taken
      have member : nodeId ∈ first :: rest := queue ▸ queued
      rcases List.mem_cons.mp member with rfl | member
      · exact .inl ⟨_, List.mem_singleton_self _, .inl rfl⟩
      · exact .inr member
  | @concludes away component context outcome pc =>
      cases finished : outcome.finished with
      | true =>
          obtain ⟨running, same, reports⟩ := system.conclude_finished away component context finished
          by_cases here : nodeId = away
          · subst here
            refine .inl ⟨.retired nodeId, ?_, .inr rfl⟩
            rcases reports with ⟨_, reports⟩ | ⟨_, reports⟩ <;> rw [reports] <;> simp
          · refine .inr ?_
            rw [same]
            exact List.mem_filter.mpr ⟨queued, by simpa using here⟩
      | false =>
          obtain ⟨state, same, states⟩ := system.conclude_unfinished away component context finished
          rw [pc] at consistent
          have home : Consistent ((system.scheduler.state.account away outcome).checkIn away component context) none :=
            consistent.account.checkIn
          have kept : nodeId ∈ ((system.scheduler.state.account away outcome).checkIn away component
              context).readyQueue := by
            rw [SchedulerState.checkIn_readyQueue]
            exact queued
          refine .inr ?_
          rw [same]
          rcases states with ⟨_, rfl⟩ | ⟨_, rfl⟩
          · exact home.mem_enqueueRecorded.mpr (.inr kept)
          · exact kept
  | @settles away component context outcome reply pc =>
      have settled := system.settled enforced away context outcome reply
      refine .inr ?_
      generalize system.settle enforced away context outcome reply = last at settled ⊢
      cases settled <;> exact queued
  | signals signalled free =>
      refine .inr ?_
      rcases system.scheduler.signalReady_eq signalled with ⟨_, same⟩ | ⟨flag, _, same⟩
      · simpa only [Queued, same] using queued
      · simpa only [Queued, same] using consistent.mem_enqueueRecorded.mpr (.inr queued)
  | registers registered when free =>
      refine .inr ?_
      rcases system.scheduler.wakeAt_eq registered when with ⟨_, same⟩ | ⟨_, same⟩
      · simpa only [Queued, same] using queued
      · simpa only [Queued, same, SchedulerState.registerTimer] using queued
  | _ => exact .inr queued

/-- The move that reports a signal leaves the node queued. -/
theorem Event.Wakes.queues {event : Event} (wakes : event.Wakes nodeId) (member : event ∈ events)
    (sound : Sound system) (moved : Moved enforced system action events next) : Queued nodeId next := by
  have consistent := sound.consistent
  cases moved with
  | drains pc =>
      obtain ⟨entry, fired, rfl⟩ := List.mem_map.mp member
      rcases wakes with signalled | ⟨when, expired⟩
      · cases signalled
      · cases expired
        exact consistent.queued_drainExpiredTimers (.inr ⟨entry, fired, rfl⟩)
  | signals signalled free =>
      rcases wakes with rfl | ⟨when, rfl⟩
      · rcases system.scheduler.signalReady_eq signalled with ⟨_, same⟩ | ⟨flag, _, same⟩
        · simp [same] at member
        · simp only [same, List.mem_singleton, Event.signalled.injEq, and_true] at member
          simpa only [Queued, same] using consistent.mem_enqueueRecorded.mpr (.inl member)
      · simp at member
  | @concludes away component context outcome pc =>
      rcases system.conclude_events away component context outcome with reports | reports | reports <;>
        rcases wakes with rfl | ⟨when, rfl⟩ <;> simp [reports] at member
  | _ => rcases wakes with rfl | ⟨when, rfl⟩ <;> simp at member

/-- A mark survives a move of another thread. -/
theorem Marked.beside (marked : Marked nodeId system)
    (pc : next.pc = system.pc ∨ next.pc = system.pc.notify)
    (flags : ∀ flag, system.scheduler.load flag = true → next.scheduler.load flag = true) :
    Marked nodeId next := by
  have same : next.pc = system.pc := by
    rcases pc with same | notified
    · exact same
    · unfold Marked at marked
      rw [notified]
      cases here : system.pc with
      | parked deadline => simp [here] at marked
      | _ => rfl
  unfold Marked at marked ⊢
  rw [same]
  split at marked
  · exact ⟨marked.1, flags _ marked.2⟩
  · exact ⟨marked.1, marked.2.imp_right fun reason => reason.imp_right (flags _)⟩
  · exact marked
  · exact marked

/-- A node that signalled itself keeps the mark or ends up queued. -/
theorem Marked.moved (marked : Marked nodeId system) (sound : Sound system)
    (moved : Moved enforced system action events next) :
    (∃ event ∈ events, event.Releases nodeId) ∨ Marked nodeId next ∨ Queued nodeId next := by
  cases moved with
  | @settles away component context outcome reply pc =>
      have settled := system.settled enforced away context outcome reply
      generalize system.settle enforced away context outcome reply = last at settled ⊢
      simp only [Marked, pc] at marked
      obtain ⟨rfl, loaded⟩ := marked
      refine .inr (.inl ?_)
      cases settled with
      | overran => rfl
      | ended _ _ finished => exact ⟨rfl, .inl finished⟩
      | idle _ signal _ => exact ⟨rfl, .inr (.inr (by rw [signal]; exact loaded))⟩
      | exhausted _ _ _ => exact ⟨rfl, .inr (.inl rfl)⟩
      | again _ signal _ _ => exact ⟨rfl, by rw [signal]; exact loaded⟩
  | @concludes away component context outcome pc =>
      simp only [Marked, pc] at marked
      obtain ⟨rfl, reason⟩ := marked
      cases finished : outcome.finished with
      | true =>
          obtain ⟨running, _, reports⟩ := system.conclude_finished away component context finished
          refine .inl ⟨.retired away, ?_, .inr rfl⟩
          rcases reports with ⟨_, reports⟩ | ⟨_, reports⟩ <;> rw [reports] <;> simp
      | false =>
          obtain ⟨state, same, states⟩ := system.conclude_unfinished away component context finished
          have consistent := sound.consistent
          rw [pc] at consistent
          have home : Consistent ((system.scheduler.state.account away outcome).checkIn away component context) none :=
            consistent.account.checkIn
          refine .inr (.inr ?_)
          rw [same]
          rcases states with ⟨_, rfl⟩ | ⟨⟨idle, unset⟩, _⟩
          · exact home.mem_enqueueRecorded.mpr (.inl rfl)
          · rw [finished, idle, unset] at reason
            simp at reason
  | selfSignals pc =>
      refine .inr (.inl ?_)
      simp only [Marked, pc] at marked ⊢
      exact ⟨marked.1, Scheduler.load_of_set rfl marked.2⟩
  | selfWakes when pc =>
      refine .inr (.inl ?_)
      simpa only [Marked, pc] using marked
  | signals signalled free =>
      refine .inr (.inl (marked.beside ?_ fun _ => Scheduler.load_signalReady))
      dsimp only
      split
      · exact .inr rfl
      · exact .inl rfl
  | registers registered when free =>
      refine .inr (.inl (marked.beside ?_ fun _ loaded => by rw [Scheduler.load_wakeAt]; exact loaded))
      dsimp only
      split
      · exact .inr rfl
      · exact .inl rfl
  | storesStop => exact .inr (.inl marked)
  | notifiesStop _ => exact .inr (.inl (marked.beside (.inr rfl) fun _ loaded => loaded))
  | elapses now _ => exact .inr (.inl marked)
  | enters pc => simp [Marked, pc] at marked
  | _ pc => simp [Marked, pc] at marked

theorem Marked.selfSignalled (sound : Sound system) (moved : Moved enforced system action events next)
    (member : .selfSignalled nodeId ∈ events) : Marked nodeId next := by
  cases moved with
  | @selfSignals away component context outcome pc =>
      rw [List.mem_singleton] at member
      cases member
      have known := sound.awaySignal context (congrArg Pc.contextAway pc)
      simpa only [Marked, pc] using ⟨trivial, Scheduler.load_store known⟩
  | drains pc =>
      obtain ⟨entry, _, same⟩ := List.mem_map.mp member
      cases same
  | @concludes away component context outcome pc =>
      rcases system.conclude_events away component context outcome with reports | reports | reports <;>
        simp [reports] at member
  | _ => simp at member

variable {scheduler : Scheduler κ} {clock : Instant}

theorem owes_wakeup (sound : Sound system)
    (run : (schedulerMachine κ enforced).Run anyMove system trace next) (nodeId : NodeId) :
    Owes (Queued nodeId) (Event.Wakes nodeId) (Event.Releases nodeId) trace next := by
  refine run.owes ?_ ?_
  · intro earlier state action next events before event after prior _ step split wakes
    have member : event ∈ events := by rw [split]; simp
    exact .inr (wakes.queues member (sound.run prior) (moved_of_step step))
  · intro earlier state action next events prior _ step queued
    exact queued.moved (sound.run prior) (moved_of_step step)

theorem owes_selfWakeup (sound : Sound system)
    (run : (schedulerMachine κ enforced).Run anyMove system trace next) (nodeId : NodeId) :
    Owes (fun system => Marked nodeId system ∨ Queued nodeId system) (· = .selfSignalled nodeId)
      (Event.Releases nodeId) trace next := by
  refine run.owes ?_ ?_
  · intro earlier state action next events before event after prior _ step split signalled
    have member : .selfSignalled nodeId ∈ events := by rw [split, ← signalled]; simp
    exact .inr (.inl (Marked.selfSignalled (sound.run prior) (moved_of_step step) member))
  · intro earlier state action next events prior _ step holds
    rcases holds with marked | queued
    · exact marked.moved (sound.run prior) (moved_of_step step)
    · exact (queued.moved (sound.run prior) (moved_of_step step)).imp_right .inr

/-- No wakeup of a node that is not retired is lost: the node is queued or has been
dispatched since; a signal that it gave itself may also wait for the check-in that
ends the dispatch in flight. -/
theorem no_lost_wakeup (built : Built scheduler) (equipped : Equipped scheduler.state)
    (run : (schedulerMachine κ enforced).Run anyMove (System.start scheduler clock) trace system)
    {before after : List Event} {event : Event} {nodeId : NodeId}
    (split : trace = before ++ event :: after) (live : .retired nodeId ∉ after) :
    (event.Wakes nodeId →
      nodeId ∈ system.scheduler.state.readyQueue ∨ .dispatched nodeId ∈ after) ∧
    (event = .selfSignalled nodeId →
      nodeId ∈ system.scheduler.state.readyQueue ∨ .dispatched nodeId ∈ after ∨
        system.pc.inFlight = some nodeId) := by
  have sound : Sound (System.start scheduler clock) := built.sound equipped
  have dispatched : (∃ later ∈ after, later.Releases nodeId) → .dispatched nodeId ∈ after := by
    rintro ⟨later, member, rfl | rfl⟩
    · exact member
    · exact absurd member live
  constructor
  · intro wakes
    rcases owes_wakeup sound run nodeId before event after split wakes with released | queued
    · exact .inr (dispatched released)
    · exact .inl queued
  · intro signalled
    rcases owes_selfWakeup sound run nodeId before event after split signalled with released | marked | queued
    · exact .inr (.inl (dispatched released))
    · exact .inr (.inr marked.inFlight)
    · exact .inl queued

/-- One node whose component is a unit. -/
def oneNode : Scheduler Unit := (Scheduler.new.addNode "n" .normal 0).addComponent () "n"

theorem oneNode_built : Built oneNode := .addComponent () "n" (.addNode "n" .normal 0 .new)

theorem oneNode_equipped : Equipped oneNode.state := Equipped.new.add

/-- The node is signalled and dispatched, and its `process()` is being called. -/
def dispatchOne : List (Action Unit) :=
  [.signalReady "n", .run, .run, .run, .run, .run, .run]

theorem no_lost_wakeup_oneNode :
    "n" ∈ ((schedulerMachine Unit false).played (System.start oneNode 0)
        (dispatchOne ++ [.signalReady "n"])).scheduler.state.readyQueue ∨
      .dispatched "n" ∈ ([] : List Event) := by
  have run := (schedulerMachine Unit false).run_played
    (Machine.permits_any (System.start oneNode 0) (dispatchOne ++ [.signalReady "n"])) (by decide)
  have split : (schedulerMachine Unit false).reported (System.start oneNode 0)
      (dispatchOne ++ [.signalReady "n"]) =
        [.signalled "n" true, .tested true, .tested true, .dispatched "n"] ++ .signalled "n" true :: [] := by
    decide
  exact (no_lost_wakeup oneNode_built oneNode_equipped run split (by decide)).1 (.inl rfl)

/-- While its `process()` is in flight, a node that signals itself is not queued,
although the lock is free and no later dispatch has begun. -/
theorem selfSignal_not_queued :
    ¬ ∀ {scheduler : Scheduler Unit} {trace before after : List Event} {event : Event} {system : System Unit}
        {nodeId : NodeId}, Built scheduler → Equipped scheduler.state →
      (schedulerMachine Unit false).Run anyMove (System.start scheduler 0) trace system →
      trace = before ++ event :: after → (event.Wakes nodeId ∨ event = .selfSignalled nodeId) →
      .retired nodeId ∉ after → system.lockFree = true →
      nodeId ∈ system.scheduler.state.readyQueue ∨ .dispatched nodeId ∈ after := by
  intro claim
  have run := (schedulerMachine Unit false).run_played
    (Machine.permits_any (System.start oneNode 0) (dispatchOne ++ [.selfSignalReady])) (by decide)
  have split : (schedulerMachine Unit false).reported (System.start oneNode 0)
      (dispatchOne ++ [.selfSignalReady]) =
        [.signalled "n" true, .tested true, .tested true, .dispatched "n"] ++ .selfSignalled "n" :: [] := by
    decide
  have answered := claim oneNode_built oneNode_equipped run split (.inr rfl) (by decide) (by decide)
  exact absurd answered (by decide)

end Flowd
