import Flowd.Scheduler.Timers
import Flowd.Scheduler.Wakeup

namespace Flowd

/-! The run thread waits only while there is nothing to do, and no longer than until the next
deadline. -/

open Transition

variable {κ : Type} {enforced : Bool} {system next : System κ} {action : Action κ}
variable {events trace : List Event} {state : SchedulerState κ} {scheduler : Scheduler κ}
variable {clock : Instant}

/-- The least deadline that is in force, if there is one. -/
def NextDeadline (deadline : Option Instant) (state : SchedulerState κ) : Prop :=
  match deadline with
  | none => ∀ nodeId, state.timerLatestByNode.lookup nodeId = none
  | some deadline => (∃ nodeId, state.timerLatestByNode.lookup nodeId = some deadline) ∧
      ∀ nodeId when, state.timerLatestByNode.lookup nodeId = some when → deadline ≤ when

/-- What the run thread has found before it waits or takes a node, for as long as it matters. -/
def Waits (system : System κ) : Prop :=
  match system.pc with
  | .choosing => system.scheduler.state.readyQueue = []
  | .parked deadline => system.scheduler.state.readyQueue = [] ∧ NextDeadline deadline system.scheduler.state
  | .retesting => system.scheduler.running = false ∨ system.scheduler.state.readyQueue ≠ []
  | .popping => system.scheduler.state.readyQueue ≠ []
  | .finished => system.scheduler.running = false
  | _ => True

theorem Waits.notified (waits : Waits system) {stopping : Nat} :
    Waits { system with pc := system.pc.notify, stopping } := by
  unfold Waits at waits ⊢
  cases pc : system.pc with
  | parked deadline => trivial
  | _ =>
      rw [pc] at waits
      exact waits

/-- A move of another thread that holds the mutex: the wait goes on, or it is notified. -/
theorem Waits.beside {scheduler : Scheduler κ} {accepted : Bool} (waits : Waits system)
    (free : system.lockFree = true) (running : scheduler.running = system.scheduler.running)
    (refused : accepted = false → scheduler = system.scheduler) :
    Waits { system with scheduler, pc := if accepted then system.pc.notify else system.pc } := by
  cases accepted with
  | false =>
      rw [refused rfl]
      exact waits
  | true =>
      unfold Waits at waits ⊢
      cases pc : system.pc with
      | choosing | retesting | popping => simp [System.lockFree, pc, Pc.holdsLock] at free
      | finished =>
          rw [pc] at waits
          exact running.trans waits
      | _ => trivial

theorem Waits.moved (waits : Waits system) (consistent : Consistent system.scheduler.state system.pc.inFlight)
    (moved : Moved enforced system action events next) : Waits next := by
  cases moved with
  | mustWait pc running idle => exact idle
  | parksTimed pc timer ahead =>
      rw [Waits, pc] at waits
      exact ⟨waits, consistent.order.queued.nextValidTimerDeadline_least timer⟩
  | parks pc untimed =>
      rw [Waits, pc] at waits
      exact ⟨waits, consistent.order.queued.nextValidTimerDeadline_none.mp untimed⟩
  | leavesWait pc leaves => exact leaves
  | goesOn pc running =>
      rw [Waits, pc, running] at waits
      exact waits.resolve_left (by decide)
  | leaves pc stopped => exact stopped
  | concludes pc => simp [Waits]
  | @settles away component context outcome reply pc =>
      have settled := system.settled enforced away context outcome reply
      generalize system.settle enforced away context outcome reply = last at settled ⊢
      cases settled <;> trivial
  | signals nodeId free =>
      refine waits.beside free ?_ fun refused => ?_
      · rcases system.scheduler.signalReady_eq nodeId with ⟨_, same⟩ | ⟨flag, _, same⟩ <;> rw [same]
      · rcases system.scheduler.signalReady_eq nodeId with ⟨_, same⟩ | ⟨flag, _, same⟩
        · rw [same]
        · simp [same] at refused
  | registers nodeId when free =>
      refine waits.beside free ?_ fun refused => ?_
      · rcases system.scheduler.wakeAt_eq nodeId when with ⟨_, same⟩ | ⟨_, same⟩ <;> rw [same]
      · rcases system.scheduler.wakeAt_eq nodeId when with ⟨_, same⟩ | ⟨_, same⟩
        · rw [same]
        · simp [same] at refused
  | storesStop =>
      unfold Waits at waits ⊢
      cases pc : system.pc with
      | finished => rfl
      | retesting => exact .inl rfl
      | _ =>
          rw [pc] at waits
          exact waits
  | notifiesStop pending => exact waits.notified
  | elapses now later => exact waits
  | selfSignals pc =>
      unfold Waits
      simp only [pc]
  | _ => trivial

theorem Waits.run {permitted : System κ → Action κ → Prop} {first : System κ} (sound : Sound first) (waits : Waits first)
    (run : (schedulerMachine κ enforced).Run permitted first trace system) : Waits system := by
  refine (Machine.Run.history (fun _ system => Sound system ∧ Waits system) run ⟨sound, waits⟩ ?_).2
  rintro earlier state action next events _ _ ⟨sound, waits⟩ step
  have moved := moved_of_step step
  exact ⟨sound.moved moved, waits.moved sound.consistent moved⟩

/-- The node is queued, or its deadline has passed. -/
def Due (nodeId : NodeId) (system : System κ) : Prop :=
  nodeId ∈ system.scheduler.state.readyQueue ∨
    ∃ when, system.scheduler.state.timerLatestByNode.lookup nodeId = some when ∧ when ≤ system.clock

/-- The moves of the run thread alone: it is woken only by the timeout it has asked for. -/
def OnItsOwn (system : System κ) : Action κ → Prop
  | .run => True
  | .wakeUp => ∃ deadline, system.pc = .parked (some deadline) ∧ deadline ≤ system.clock
  | _ => False

/-- Left to itself the run thread dispatches a node that is due. -/
def Dispatches (enforced : Bool) (system : System κ) : Prop :=
  ∃ trace last nodeId, (schedulerMachine κ enforced).Run OnItsOwn system trace last ∧
    .dispatched nodeId ∈ trace ∧ Due nodeId system

theorem Dispatches.step (dispatches : Dispatches enforced next)
    (step : System.step enforced system action = some (next, events)) (own : OnItsOwn system action)
    (due : ∀ nodeId, Due nodeId next → Due nodeId system) : Dispatches enforced system := by
  obtain ⟨trace, last, nodeId, run, member, dueNext⟩ := dispatches
  have first : (schedulerMachine κ enforced).step system action = some (next, events) := step
  exact ⟨events ++ trace, last, nodeId, (Machine.Run.single own first).append run,
    List.mem_append_right _ member, due nodeId dueNext⟩

theorem dispatches_popping (sound : Sound system) (pc : system.pc = .popping)
    (queued : system.scheduler.state.readyQueue ≠ []) : Dispatches enforced system := by
  have consistent := sound.consistent
  rw [pc] at consistent
  rcases system.scheduler.state.checkOut_cases with ⟨empty, _⟩ | ⟨nodeId, rest, queue, ⟨_, _, gone⟩ | found⟩
  · exact absurd empty queued
  · exact absurd gone (consistent.checkOut_available sound.equipped)
  · obtain ⟨component, context, metrics, _, _, taken⟩ := found
    obtain ⟨next, pop⟩ : ∃ next, (schedulerMachine κ enforced).step system .run = some (next, [.dispatched nodeId]) := by
      simp only [schedulerMachine, System.step, System.runStep, pc, taken]
      exact ⟨_, rfl⟩
    have own : OnItsOwn system .run := trivial
    have run : (schedulerMachine κ enforced).Run OnItsOwn system [.dispatched nodeId] next := .single own pop
    exact ⟨_, next, nodeId, run, List.mem_singleton_self _, .inl (by rw [queue]; exact List.mem_cons_self)⟩

theorem dispatches_retesting (sound : Sound system) (pc : system.pc = .retesting)
    (running : system.scheduler.running = true) (queued : system.scheduler.state.readyQueue ≠ []) :
    Dispatches enforced system := by
  have retest : System.step enforced system .run = some ({ system with pc := .popping }, [.tested true]) := by
    simp [System.step, System.runStep, pc, running]
  have pops : Dispatches enforced { system with pc := .popping } :=
    dispatches_popping (sound.moved (moved_of_step retest)) rfl queued
  exact pops.step retest trivial fun _ due => due

theorem dispatches_testing (sound : Sound system) (pc : system.pc = .testing)
    (running : system.scheduler.running = true) (queued : system.scheduler.state.readyQueue ≠ []) :
    Dispatches enforced system := by
  have test : System.step enforced system .run = some ({ system with pc := .retesting }, [.tested true]) := by
    simp [System.step, System.runStep, pc, running, queued]
  have retests : Dispatches enforced { system with pc := .retesting } :=
    dispatches_retesting (sound.moved (moved_of_step test)) rfl running queued
  exact retests.step test trivial fun _ due => due

theorem dispatches_draining (sound : Sound system) (pc : system.pc = .draining)
    (running : system.scheduler.running = true) (due : ∃ nodeId, Due nodeId system) : Dispatches enforced system := by
  have consistent := sound.consistent
  rw [pc] at consistent
  have drained : Drained system.clock system.scheduler _ _ := drained_timers consistent.order
  have drain : System.step enforced system .run =
      some ({ system with scheduler := (system.scheduler.drainExpiredTimers system.clock).1, pc := .testing },
        (system.scheduler.drainExpiredTimers system.clock).2.map fun entry =>
          .timerExpired entry.nodeId entry.when) := by
    simp only [System.step, System.runStep, pc]
  have tests : Dispatches enforced
      { system with scheduler := (system.scheduler.drainExpiredTimers system.clock).1, pc := .testing } := by
    refine dispatches_testing (sound.moved (moved_of_step drain)) rfl
      ((system.scheduler.drainExpiredTimers_running system.clock).trans running) ?_
    obtain ⟨nodeId, due⟩ := due
    refine List.ne_nil_of_mem ((drained.queued nodeId).mpr (due.imp_right ?_))
    rintro ⟨when, latest, passed⟩
    exact List.mem_map.mpr ⟨⟨when, nodeId⟩, (drained.fires _).mpr ⟨latest, passed⟩, rfl⟩
  refine tests.step drain trivial ?_
  rintro nodeId (queued | ⟨when, latest, passed⟩)
  · rcases (drained.queued nodeId).mp queued with queued | fired
    · exact .inl queued
    · obtain ⟨entry, member, rfl⟩ := List.mem_map.mp fired
      obtain ⟨latest, passed⟩ := (drained.fires entry).mp member
      exact .inr ⟨entry.when, latest, passed⟩
  · rw [drained.latest] at latest
    have ahead : system.clock < when := of_decide_eq_true (Option.filter_eq_some_iff.mp latest).2
    exact absurd ahead (Nat.not_lt.mpr passed)

/-- A due node is found from wherever the run thread stands outside of a dispatch. -/
theorem Waits.dispatches (waits : Waits system) (sound : Sound system) (running : system.scheduler.running = true)
    (idle : system.pc.inFlight = none) (due : ∃ nodeId, Due nodeId system) : Dispatches enforced system := by
  have consistent := sound.consistent
  -- what is due although the queue is empty is due by its deadline
  have timed (empty : system.scheduler.state.readyQueue = []) : ∃ nodeId when,
      system.scheduler.state.timerLatestByNode.lookup nodeId = some when ∧ when ≤ system.clock := by
    obtain ⟨nodeId, queued | timer⟩ := due
    · rw [empty] at queued
      cases queued
    · exact ⟨nodeId, timer⟩
  have relocks {here : System κ} (scheduler : here.scheduler = system.scheduler) (clock : here.clock = system.clock)
      (sound : Sound here) (step : System.step enforced here .run = some ({ here with pc := .draining }, [])) :
      Dispatches enforced here := by
    have same (nodeId : NodeId) : Due nodeId here ↔ Due nodeId system := by rw [Due, Due, scheduler, clock]
    have drains : Dispatches enforced { here with pc := .draining } := by
      refine dispatches_draining (sound.moved (moved_of_step step)) rfl ((congrArg Scheduler.running scheduler).trans
        running) ?_
      obtain ⟨nodeId, due⟩ := due
      exact ⟨nodeId, (same nodeId).mpr due⟩
    exact drains.step step trivial fun _ due => due
  have chooses {here : System κ} (scheduler : here.scheduler = system.scheduler) (clock : here.clock = system.clock)
      (sound : Sound here) (pc : here.pc = .choosing) (empty : system.scheduler.state.readyQueue = []) :
      Dispatches enforced here := by
    have consistent := sound.consistent
    obtain ⟨nodeId, when, latest, passed⟩ := timed empty
    rw [← scheduler] at latest
    rw [← clock] at passed
    obtain ⟨deadline, timer⟩ : ∃ deadline, here.scheduler.state.nextValidTimerDeadline.1 = some deadline := by
      cases found : here.scheduler.state.nextValidTimerDeadline.1 with
      | some deadline => exact ⟨deadline, rfl⟩
      | none =>
          rw [consistent.order.queued.nextValidTimerDeadline_none.mp found nodeId] at latest
          cases latest
    have least := (consistent.order.queued.nextValidTimerDeadline_least timer).2 nodeId when latest
    have expired : deadline ≤ here.clock := Nat.le_trans least passed
    have recheck : System.step enforced here .run =
        some ({ here with scheduler := here.scheduler.discard, pc := .draining }, []) := by
      simp only [System.step, System.runStep, pc, timer, if_pos expired]
      rfl
    have drains : Dispatches enforced { here with scheduler := here.scheduler.discard, pc := .draining } := by
      refine dispatches_draining (sound.moved (moved_of_step recheck)) rfl ?_ ⟨nodeId, .inr ⟨when, latest, passed⟩⟩
      exact (congrArg Scheduler.running scheduler).trans running
    exact drains.step recheck trivial fun _ due => due
  cases pc : system.pc with
  | top => exact relocks rfl rfl sound (by simp [System.step, System.runStep, pc])
  | draining => exact dispatches_draining sound pc running due
  | testing =>
      by_cases empty : system.scheduler.state.readyQueue = []
      · have test : System.step enforced system .run = some ({ system with pc := .choosing }, [.tested true]) := by
          simp [System.step, System.runStep, pc, running, empty]
        have choosing : Dispatches enforced { system with pc := .choosing } :=
          chooses rfl rfl (sound.moved (moved_of_step test)) rfl empty
        exact choosing.step test trivial fun _ due => due
      · exact dispatches_testing sound pc running empty
  | choosing =>
      rw [Waits, pc] at waits
      exact chooses rfl rfl sound pc waits
  | parked deadline =>
      rw [Waits, pc] at waits
      obtain ⟨empty, least⟩ := waits
      obtain ⟨nodeId, when, latest, passed⟩ := timed empty
      have wake : System.step enforced system .wakeUp = some ({ system with pc := .notified }, []) := by
        simp [System.step, pc]
      have notified : Dispatches enforced { system with pc := .notified } :=
        relocks rfl rfl (sound.moved (moved_of_step wake)) rfl
      cases deadline with
      | none =>
          rw [least nodeId] at latest
          cases latest
      | some deadline =>
          have own : OnItsOwn system .wakeUp := ⟨deadline, pc, Nat.le_trans (least.2 nodeId when latest) passed⟩
          exact notified.step wake own fun _ due => due
  | notified => exact relocks rfl rfl sound (by simp [System.step, System.runStep, pc])
  | retesting =>
      rw [Waits, pc, running] at waits
      exact dispatches_retesting sound pc running (waits.resolve_left (by decide))
  | popping =>
      rw [Waits, pc] at waits
      exact dispatches_popping sound pc waits
  | finished =>
      rw [Waits, pc, running] at waits
      cases waits
  | entering nodeId component context => simp [pc, Pc.inFlight] at idle
  | processing nodeId component context outcome => simp [pc, Pc.inFlight] at idle
  | checkingIn nodeId component context outcome => simp [pc, Pc.inFlight] at idle
  | panicked nodeId => simp [pc, Pc.inFlight] at idle

theorem waits_start : Waits (System.start scheduler clock) := trivial

/-- In every reachable state a parked run thread has nothing to do before the deadline it waits for,
which is the least in force; and whenever a node is due, a run thread that is not stopped and not
inside a component dispatches one by its own moves and timeouts alone. -/
theorem never_oversleeps (enforced : Bool) (scheduler : Scheduler κ) (clock : Instant) (trace : List Event)
    (system : System κ) (built : Built scheduler) (equipped : Equipped scheduler.state)
    (run : (schedulerMachine κ enforced).Run anyMove (.start scheduler clock) trace system) :
    (∀ deadline, system.pc = .parked deadline →
      system.scheduler.state.readyQueue = [] ∧ NextDeadline deadline system.scheduler.state) ∧
    (system.scheduler.running = true → system.pc.inFlight = none → (∃ nodeId, Due nodeId system) →
      Dispatches enforced system) := by
  have sound : Sound (System.start scheduler clock) := built.sound equipped
  have waits : Waits system := waits_start.run sound run
  refine ⟨fun deadline pc => ?_, waits.dispatches (sound.run run)⟩
  rw [Waits, pc] at waits
  exact waits

/-- The node has asked to be woken at 5, the run thread has parked until then and the time has come. -/
def parkUntilFive : List (Action Unit) := [.wakeAt "n" 5, .run, .run, .run, .run, .elapse 5]

theorem never_oversleeps_oneNode :
    NextDeadline (some 5) ((schedulerMachine Unit false).played (.start oneNode 0) parkUntilFive).scheduler.state ∧
      Dispatches false ((schedulerMachine Unit false).played (.start oneNode 0) parkUntilFive) := by
  have run := (schedulerMachine Unit false).run_played
    (Machine.permits_any (System.start oneNode 0) parkUntilFive) (by decide)
  have due : Due "n" ((schedulerMachine Unit false).played (.start oneNode 0) parkUntilFive) :=
    .inr ⟨5, by decide, by decide⟩
  obtain ⟨parked, dispatches⟩ := never_oversleeps false oneNode 0 _ _ oneNode_built oneNode_equipped run
  exact ⟨(parked (some 5) rfl).2, dispatches (by decide) (by decide) ⟨"n", due⟩⟩

end Flowd
