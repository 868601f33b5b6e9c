import Flowd.Scheduler.Moves

namespace Flowd

/-! `stop` and the wait of the run thread.

`stop` writes `running` and notifies without the mutex, so its notification can fall
between the test of the wait condition and the wait.  Everything else about stopping
holds on every run; that the thread does not stay parked holds on the runs without
such a notification.
-/

open Transition

variable {κ : Type} {enforced : Bool} {system next : System κ} {events trace : List Event}
variable {wakes : Bool} {action : Action κ} {scheduler : Scheduler κ} {clock : Instant}

/-- `stop()` has returned, or the last node has finished. -/
def Event.Stops (event : Event) : Prop := event = .stopReturned ∨ event = .stoppedItself

/-- The run thread has found `running` set, the queue empty and no valid timer, and
has not released the mutex by waiting yet. -/
def System.betweenTestAndWait (system : System κ) : Bool :=
  match system.pc with
  | .choosing => system.scheduler.state.nextValidTimerDeadline.1.isNone
  | _ => false

/-- The moves other than a notification by `stop` between test and wait. -/
def NotifiesInTime (system : System κ) (action : Action κ) : Prop :=
  match action with
  | .notifyStop => system.betweenTestAndWait = false
  | _ => True

/-- The untimed wait, with no notification pending. -/
def Pc.ParkedUntimed (pc : Pc κ) : Prop := pc = .parked none

theorem Scheduler.drainExpiredTimers_running (scheduler : Scheduler κ) (now : Instant) :
    (scheduler.drainExpiredTimers now).1.running = scheduler.running := by
  refine Scheduler.drainExpiredTimers_keeps (fun drained => drained.running = scheduler.running) ?_ ?_ ?_ rfl
  · exact fun _ same => same
  · intro between entry same
    obtain ⟨flags, fired, _⟩ := between.fireFirst_eq entry
    rw [fired]
    exact same
  · exact fun _ same => same

/-- Once `running` is cleared it stays so, and no test finds it set. -/
theorem stopped_moved (stopped : system.scheduler.running = false)
    (moved : Moved enforced system action events next) :
    (∀ event ∈ events, ¬ event = .tested true) ∧ next.scheduler.running = false := by
  cases moved with
  | drains pc => exact ⟨by simp, by rw [← stopped]; exact Scheduler.drainExpiredTimers_running _ _⟩
  | leavesWait pc _ => exact ⟨by simp [stopped], stopped⟩
  | mustWait pc running _ => rw [stopped] at running; cases running
  | goesOn pc running => rw [stopped] at running; cases running
  | @concludes nodeId component context outcome pc =>
      cases finished : outcome.finished with
      | true =>
          obtain ⟨running, same, ⟨kept, reports⟩ | ⟨cleared, reports⟩⟩ :=
            system.conclude_finished nodeId component context finished
          · exact ⟨by simp [reports], by rw [same]; exact kept.trans stopped⟩
          · exact ⟨by simp [reports], by rw [same]; exact cleared⟩
      | false =>
          obtain ⟨state, same, _⟩ := system.conclude_unfinished nodeId component context finished
          rw [same]
          exact ⟨by simp, stopped⟩
  | @settles nodeId component context outcome reply pc =>
      have settled := system.settled enforced nodeId context outcome reply
      generalize system.settle enforced nodeId context outcome reply = last at settled ⊢
      refine ⟨by simp, ?_⟩
      cases settled <;> exact stopped
  | signals nodeId _ =>
      refine ⟨by simp, ?_⟩
      rcases system.scheduler.signalReady_eq nodeId with ⟨_, same⟩ | ⟨flag, _, same⟩ <;>
        simpa only [same] using stopped
  | registers nodeId when _ =>
      refine ⟨by simp, ?_⟩
      rcases system.scheduler.wakeAt_eq nodeId when with ⟨_, same⟩ | ⟨_, same⟩ <;>
        simpa only [same] using stopped
  | storesStop => exact ⟨by simp, rfl⟩
  | _ => exact ⟨by simp, stopped⟩

/-- A `stop` that has stored but not notified has cleared `running`. -/
def StoresFirst (system : System κ) : Prop := system.stopping ≠ 0 → system.scheduler.running = false

theorem StoresFirst.moved (storesFirst : StoresFirst system)
    (moved : Moved enforced system action events next) : StoresFirst next := by
  intro pending
  by_cases before : system.stopping = 0
  · cases moved with
    | storesStop => rfl
    | notifiesStop some => exact absurd before some
    | @concludes nodeId component context outcome pc =>
        cases finished : outcome.finished with
        | true =>
            obtain ⟨running, same, _⟩ := system.conclude_finished nodeId component context finished
            rw [same] at pending
            exact absurd before pending
        | false =>
            obtain ⟨state, same, _⟩ := system.conclude_unfinished nodeId component context finished
            rw [same] at pending
            exact absurd before pending
    | @settles nodeId component context outcome reply pc =>
        have settled := system.settled enforced nodeId context outcome reply
        generalize system.settle enforced nodeId context outcome reply = last at settled pending ⊢
        cases settled <;> exact absurd before pending
    | _ => exact absurd before pending
  · exact (stopped_moved (storesFirst before) moved).2

theorem stops_stored {event : Event} (stops : event.Stops) (member : event ∈ events)
    (storesFirst : StoresFirst system) (moved : Moved enforced system action events next) :
    (∀ event ∈ events, ¬ event = .tested true) ∧ next.scheduler.running = false := by
  cases moved with
  | notifiesStop pending => exact ⟨by simp, storesFirst pending⟩
  | @concludes nodeId component context outcome pc =>
      cases finished : outcome.finished with
      | true =>
          obtain ⟨running, same, ⟨kept, reports⟩ | ⟨cleared, reports⟩⟩ :=
            system.conclude_finished nodeId component context finished
          · rcases stops with rfl | rfl <;> simp [reports] at member
          · exact ⟨by simp [reports], by rw [same]; exact cleared⟩
      | false =>
          obtain ⟨state, same, _⟩ := system.conclude_unfinished nodeId component context finished
          rcases stops with rfl | rfl <;> simp [same] at member
  | drains pc =>
      obtain ⟨entry, _, same⟩ := List.mem_map.mp member
      rcases stops with rfl | rfl <;> cases same
  | _ => rcases stops with rfl | rfl <;> simp at member

/-- The run thread is on its way out. -/
def Leaving (system : System κ) : Prop :=
  system.scheduler.running = false ∧ (system.pc = .retesting ∨ system.pc = .finished)

theorem Leaving.moved (leaving : Leaving system) (moved : Moved enforced system action events next) :
    (∀ event ∈ events, ¬ ∃ nodeId, event = .dispatched nodeId) ∧ Leaving next := by
  obtain ⟨stopped, pc⟩ := leaving
  have cleared := (stopped_moved stopped moved).2
  have away : ∀ {pc : Pc κ}, pc = .retesting ∨ pc = .finished → pc.notify = pc := by
    rintro pc (rfl | rfl) <;> rfl
  cases moved with
  | leaves here _ => exact ⟨by simp, cleared, .inr rfl⟩
  | goesOn here running => rw [stopped] at running; cases running
  | storesStop => exact ⟨by simp, cleared, pc⟩
  | elapses now _ => exact ⟨by simp, cleared, pc⟩
  | notifiesStop _ => exact ⟨by simp, cleared, by rw [away pc]; exact pc⟩
  | signals nodeId _ => exact ⟨by simp, cleared, by rw [away pc, ite_self]; exact pc⟩
  | registers nodeId when _ => exact ⟨by simp, cleared, by rw [away pc, ite_self]; exact pc⟩
  | settles reply here => simp [here] at pc
  | selfWakes when here => simp [here] at pc
  | _ here => simp [here] at pc

theorem leaving_of_tested (member : .tested false ∈ events)
    (moved : Moved enforced system action events next) :
    (∀ event ∈ events, ¬ ∃ nodeId, event = .dispatched nodeId) ∧ Leaving next := by
  cases moved with
  | leavesWait pc _ =>
      simp only [List.mem_singleton, Event.tested.injEq] at member
      exact ⟨by simp, member.symm, .inl rfl⟩
  | leaves pc stopped => exact ⟨by simp, stopped, .inr rfl⟩
  | drains pc =>
      obtain ⟨entry, _, same⟩ := List.mem_map.mp member
      cases same
  | @concludes nodeId component context outcome pc =>
      rcases system.conclude_events nodeId component context outcome with reports | reports | reports <;>
        simp [reports] at member
  | _ => simp at member

/-- The run thread is not parked without a deadline and is not about to be. -/
def Awake (system : System κ) : Prop :=
  system.scheduler.running = false ∧ ¬ system.pc.ParkedUntimed ∧ system.betweenTestAndWait = false

theorem Awake.of_pc (stopped : system.scheduler.running = false) (waits : ¬ system.pc.ParkedUntimed)
    (chooses : system.pc ≠ .choosing) : Awake system := by
  refine ⟨stopped, waits, ?_⟩
  unfold System.betweenTestAndWait
  cases pc : system.pc with
  | choosing => exact absurd pc chooses
  | _ => rfl

theorem Awake.notified (awake : Awake system) {stopping : Nat} :
    Awake { system with pc := system.pc.notify, stopping } := by
  obtain ⟨stopped, waits, chooses⟩ := awake
  refine ⟨stopped, ?_, ?_⟩
  · intro parked
    cases pc : system.pc <;> simp [Pc.ParkedUntimed, pc, Pc.notify] at parked
  · unfold System.betweenTestAndWait at chooses ⊢
    cases pc : system.pc with
    | choosing => simpa [pc, Pc.notify] using chooses
    | _ => rfl

/-- A move of another thread that holds the mutex. -/
theorem Awake.beside (awake : Awake system) (free : system.lockFree = true)
    (stopped : next.scheduler.running = false)
    (pc : next.pc = if wakes then system.pc.notify else system.pc) : Awake next := by
  have chooses : system.pc ≠ .choosing := by
    intro chooses
    simp [System.lockFree, chooses, Pc.holdsLock] at free
  refine .of_pc stopped ?_ ?_
  · rw [pc]
    split
    · exact (@Awake.notified _ _ awake 0).2.1
    · exact awake.2.1
  · rw [pc]
    split
    · intro notified
      cases here : system.pc <;> simp [here, Pc.notify] at notified chooses
    · exact chooses

/-- Once stopped, the run thread is not parked for good by any move. -/
theorem Awake.moved (awake : Awake system) (moved : Moved enforced system action events next) :
    Awake next := by
  have stopped := (stopped_moved awake.1 moved).2
  cases moved with
  | mustWait pc running _ => rw [awake.1] at running; cases running
  | goesOn pc running => rw [awake.1] at running; cases running
  | parksTimed pc timer ahead => exact .of_pc stopped (by simp [Pc.ParkedUntimed]) (by simp)
  | parks pc untimed =>
      have chooses := awake.2.2
      simp [System.betweenTestAndWait, pc, untimed] at chooses
  | signals nodeId free => exact awake.beside free stopped rfl
  | registers nodeId when free => exact awake.beside free stopped rfl
  | storesStop => exact ⟨rfl, awake.2⟩
  | notifiesStop _ => exact awake.notified
  | elapses now _ => exact awake
  | selfSignals pc => exact .of_pc stopped awake.2.1 (by simp [pc])
  | concludes pc => exact .of_pc stopped (by simp [Pc.ParkedUntimed]) (by simp)
  | @settles nodeId component context outcome reply pc =>
      have settled := system.settled enforced nodeId context outcome reply
      generalize system.settle enforced nodeId context outcome reply = last at settled stopped ⊢
      cases settled <;> exact .of_pc stopped (by simp [Pc.ParkedUntimed]) (by simp)
  | _ => exact .of_pc stopped (by simp [Pc.ParkedUntimed, System.enter]) (by simp [System.enter])

/-- A stop that notifies in time leaves the run thread awake. -/
theorem awake_of_stops {event : Event} (stops : event.Stops) (member : event ∈ events)
    (storesFirst : StoresFirst system) (inTime : NotifiesInTime system action)
    (moved : Moved enforced system action events next) : Awake next := by
  have stopped := (stops_stored stops member storesFirst moved).2
  cases moved with
  | notifiesStop pending =>
      refine ⟨stopped, ?_, ?_⟩
      · intro parked
        cases pc : system.pc <;> simp [Pc.ParkedUntimed, pc, Pc.notify] at parked
      · unfold NotifiesInTime at inTime
        unfold System.betweenTestAndWait at inTime ⊢
        cases pc : system.pc with
        | choosing => simpa [pc, Pc.notify] using inTime
        | _ => rfl
  | concludes pc => exact .of_pc stopped (by simp [Pc.ParkedUntimed]) (by simp)
  | drains pc =>
      obtain ⟨entry, _, same⟩ := List.mem_map.mp member
      rcases stops with rfl | rfl <;> cases same
  | _ => rcases stops with rfl | rfl <;> simp at member

/-- The run thread can leave `run()` by its own moves and timeouts. -/
def Finishes (enforced : Bool) (system : System κ) : Prop :=
  ∃ moves : List (Action κ), (∀ move ∈ moves, move = .run ∨ move = .wakeUp) ∧
    ∃ last events, (schedulerMachine κ enforced).play system moves = some (last, events) ∧ last.pc = .finished

theorem Finishes.step (finishes : Finishes enforced next) (own : action = .run ∨ action = .wakeUp)
    (step : System.step enforced system action = some (next, events)) : Finishes enforced system := by
  obtain ⟨moves, owns, last, later, played, finished⟩ := finishes
  refine ⟨action :: moves, ?_, last, events ++ later, ?_, finished⟩
  · intro move member
    rcases List.mem_cons.mp member with rfl | member
    · exact own
    · exact owns move member
  · have first : (schedulerMachine κ enforced).step system action = some (next, events) := step
    simp only [Machine.play, first, played]

theorem finishes_finished (pc : system.pc = .finished) : Finishes enforced system :=
  ⟨[], by simp, system, [], rfl, pc⟩

theorem finishes_retesting (stopped : system.scheduler.running = false) (pc : system.pc = .retesting) :
    Finishes enforced system := by
  have left : Finishes enforced { system with pc := .finished } := finishes_finished rfl
  have step : System.step enforced system .run = some ({ system with pc := .finished }, [.tested false]) := by
    simp [System.step, System.runStep, pc, stopped]
  exact left.step (.inl rfl) step

theorem finishes_draining (stopped : system.scheduler.running = false) (pc : system.pc = .draining) :
    Finishes enforced system := by
  have kept := (system.scheduler.drainExpiredTimers_running system.clock).trans stopped
  let drained := (system.scheduler.drainExpiredTimers system.clock).1
  have retests : Finishes enforced { system with scheduler := drained, pc := .retesting } :=
    finishes_retesting kept rfl
  have test : System.step enforced { system with scheduler := drained, pc := .testing } .run =
      some ({ system with scheduler := drained, pc := .retesting }, [.tested false]) := by
    simp [System.step, System.runStep, drained, kept]
  have drain : System.step enforced system .run =
      some ({ system with scheduler := drained, pc := .testing },
        (system.scheduler.drainExpiredTimers system.clock).2.map fun entry =>
          .timerExpired entry.nodeId entry.when) := by
    simp only [System.step, System.runStep, pc]
    rfl
  exact (retests.step (.inl rfl) test).step (.inl rfl) drain

theorem finishes_top (stopped : system.scheduler.running = false) (pc : system.pc = .top) :
    Finishes enforced system := by
  have drains : Finishes enforced { system with pc := .draining } := finishes_draining stopped rfl
  have lock : System.step enforced system .run = some ({ system with pc := .draining }, []) := by
    simp [System.step, System.runStep, pc]
  exact drains.step (.inl rfl) lock

theorem finishes_notified (stopped : system.scheduler.running = false) (pc : system.pc = .notified) :
    Finishes enforced system := by
  have drains : Finishes enforced { system with pc := .draining } := finishes_draining stopped rfl
  have relock : System.step enforced system .run = some ({ system with pc := .draining }, []) := by
    simp [System.step, System.runStep, pc]
  exact drains.step (.inl rfl) relock

theorem finishes_parked {deadline : Option Instant} (stopped : system.scheduler.running = false)
    (pc : system.pc = .parked deadline) : Finishes enforced system := by
  have notified : Finishes enforced { system with pc := .notified } := finishes_notified stopped rfl
  have wake : System.step enforced system .wakeUp = some ({ system with pc := .notified }, []) := by
    simp [System.step, pc]
  exact notified.step (.inr rfl) wake

/-- The run thread of an idle scheduler that was stopped in time can always be joined. -/
theorem Awake.finishes (awake : Awake system) (idle : system.pc.inFlight = none)
    (empty : system.scheduler.state.readyQueue = []) : Finishes enforced system := by
  obtain ⟨stopped, waits, chooses⟩ := awake
  cases pc : system.pc with
  | top => exact finishes_top stopped pc
  | draining => exact finishes_draining stopped pc
  | testing =>
      have retests : Finishes enforced { system with pc := .retesting } := finishes_retesting stopped rfl
      have test : System.step enforced system .run = some ({ system with pc := .retesting }, [.tested false]) := by
        simp [System.step, System.runStep, pc, stopped]
      exact retests.step (.inl rfl) test
  | choosing =>
      obtain ⟨deadline, timer⟩ : ∃ deadline, system.scheduler.state.nextValidTimerDeadline.1 = some deadline := by
        simpa [System.betweenTestAndWait, pc, Option.isSome_iff_exists, ← Option.not_isSome] using chooses
      by_cases expired : deadline ≤ system.clock
      · have drains : Finishes enforced { system with scheduler := system.scheduler.discard, pc := .draining } :=
          finishes_draining stopped rfl
        have recheck : System.step enforced system .run =
            some ({ system with scheduler := system.scheduler.discard, pc := .draining }, []) := by
          simp only [System.step, System.runStep, pc, timer, if_pos expired]
          rfl
        exact drains.step (.inl rfl) recheck
      · have parked : Finishes enforced
            { system with scheduler := system.scheduler.discard, pc := .parked (some deadline) } :=
          finishes_parked stopped rfl
        have wait : System.step enforced system .run =
            some ({ system with scheduler := system.scheduler.discard, pc := .parked (some deadline) }, []) := by
          simp only [System.step, System.runStep, pc, timer, if_neg expired]
          rfl
        exact parked.step (.inl rfl) wait
  | parked deadline => exact finishes_parked stopped pc
  | notified => exact finishes_notified stopped pc
  | retesting => exact finishes_retesting stopped pc
  | popping =>
      have top : Finishes enforced { system with pc := .top } := finishes_top stopped rfl
      have pop : System.step enforced system .run = some ({ system with pc := .top }, []) := by
        simp [System.step, System.runStep, pc, SchedulerState.checkOut, empty]
      exact top.step (.inl rfl) pop
  | finished => exact finishes_finished pc
  | entering nodeId component context => simp [pc, Pc.inFlight] at idle
  | processing nodeId component context outcome => simp [pc, Pc.inFlight] at idle
  | checkingIn nodeId component context outcome => simp [pc, Pc.inFlight] at idle
  | panicked nodeId => simp [pc, Pc.inFlight] at idle

theorem storesFirst_run {permitted : System κ → Action κ → Prop}
    (run : (schedulerMachine κ enforced).Run permitted (System.start scheduler clock) trace system) :
    StoresFirst system :=
  Machine.Run.invariant StoresFirst run (fun pending => absurd rfl pending)
    fun _ storesFirst step => storesFirst.moved (moved_of_step step)

/-- After a stop, `running` tests false. -/
theorem bars_testedTrue {permitted : System κ → Action κ → Prop}
    (run : (schedulerMachine κ enforced).Run permitted (System.start scheduler clock) trace system) :
    Bars Event.Stops (· = .tested true) trace := by
  refine run.bars (fun system => system.scheduler.running = false) ?_ ?_
  · intro earlier state action next events before event after prior _ step split stops
    have member : event ∈ events := by rw [split]; simp
    obtain ⟨untested, stopped⟩ := stops_stored stops member (storesFirst_run prior) (moved_of_step step)
    refine ⟨fun later inside => untested later ?_, stopped⟩
    rw [split]
    exact List.mem_append_right _ (List.mem_cons_of_mem _ inside)
  · intro state action next events _ step stopped
    exact stopped_moved stopped (moved_of_step step)

/-- After `running` tested false, no dispatch begins. -/
theorem bars_dispatched {permitted : System κ → Action κ → Prop}
    (run : (schedulerMachine κ enforced).Run permitted (System.start scheduler clock) trace system) :
    Bars (· = .tested false) (fun event => ∃ nodeId, event = .dispatched nodeId) trace := by
  refine run.bars Leaving ?_ ?_
  · intro earlier state action next events before event after _ _ step split tested
    have member : .tested false ∈ events := by rw [split, ← tested]; simp
    obtain ⟨undispatched, leaving⟩ := leaving_of_tested member (moved_of_step step)
    refine ⟨fun later inside => undispatched later ?_, leaving⟩
    rw [split]
    exact List.mem_append_right _ (List.mem_cons_of_mem _ inside)
  · intro state action next events _ step leaving
    exact leaving.moved (moved_of_step step)

/-- Where every `stop` notifies in time, a stopped run thread is never parked without
a deadline, begins no dispatch after its next test, and can be joined when idle. -/
theorem stop_not_lost
    (run : (schedulerMachine κ enforced).Run NotifiesInTime (System.start scheduler clock) trace system)
    {before after : List Event} {event : Event} (split : trace = before ++ event :: after)
    (stops : event.Stops) :
    ¬ system.pc.ParkedUntimed ∧
    (∀ middle later running nodeId, after = middle ++ .tested running :: later →
      .dispatched nodeId ∉ later) ∧
    (system.pc.inFlight = none → system.scheduler.state.readyQueue = [] → Finishes enforced system) := by
  have owed : Owes Awake Event.Stops (fun _ => False) trace system := by
    refine run.owes ?_ ?_
    · intro earlier state action next events before event after prior inTime step split stops
      have member : event ∈ events := by rw [split]; simp
      exact .inr (awake_of_stops stops member (storesFirst_run prior) inTime (moved_of_step step))
    · intro earlier state action next events _ _ step awake
      exact .inr (awake.moved (moved_of_step step))
  have awake : Awake system := by
    rcases owed before event after split stops with ⟨_, _, impossible⟩ | awake
    · exact impossible.elim
    · exact awake
  refine ⟨awake.2.1, ?_, fun idle empty => awake.finishes idle empty⟩
  intro middle later running nodeId position dispatched
  have tested : running = false := by
    cases running with
    | false => rfl
    | true =>
        have member : .tested true ∈ after := by rw [position]; simp
        exact absurd rfl (bars_testedTrue run before event after split stops _ member)
  have here : trace = (before ++ event :: middle) ++ .tested false :: later := by
    rw [split, position, tested]
    simp
  exact bars_dispatched run _ _ _ here rfl _ dispatched ⟨nodeId, rfl⟩

/-- A notification between test and wait is always lost: the thread parks next. -/
theorem parks_after_late_notify (window : system.betweenTestAndWait = true) (pending : system.stopping ≠ 0) :
    ∃ last, (schedulerMachine κ enforced).play system [.notifyStop, .run] = some (last, [.stopReturned]) ∧
      last.pc.ParkedUntimed := by
  have choosing : system.pc = .choosing := by
    unfold System.betweenTestAndWait at window
    cases pc : system.pc with
    | choosing => rfl
    | _ => simp [pc] at window
  have untimed : system.scheduler.state.nextValidTimerDeadline.1 = none := by
    simpa [System.betweenTestAndWait, choosing] using window
  refine ⟨{ system with
    scheduler := system.scheduler.discard, pc := .parked none, stopping := system.stopping - 1 }, ?_, rfl⟩
  simp only [schedulerMachine, Machine.play, System.step, System.runStep, pending, ↓reduceIte, choosing,
    Pc.notify, untimed, List.append_nil]
  rfl

/-- A scheduler with one node that nobody has signalled. -/
def idleNode : Scheduler Unit := (Scheduler.new.addNode "n" .normal 0).addComponent () "n"

/-- The run thread finds nothing to do and parks, and `stop` wakes it. -/
def stopParked : List (Action Unit) := [.run, .run, .run, .run, .storeStop, .notifyStop]

theorem stop_not_lost_parked :
    ((schedulerMachine Unit false).played (System.start idleNode 0) (stopParked.take 4)).pc.ParkedUntimed ∧
    ¬ ((schedulerMachine Unit false).played (System.start idleNode 0) stopParked).pc.ParkedUntimed ∧
    Finishes false ((schedulerMachine Unit false).played (System.start idleNode 0) stopParked) := by
  have inTime : (schedulerMachine Unit false).Permits NotifiesInTime (System.start idleNode 0) stopParked :=
    ⟨trivial, trivial, trivial, trivial, trivial, rfl, trivial⟩
  have run := (schedulerMachine Unit false).run_played inTime (by decide)
  have split : (schedulerMachine Unit false).reported (System.start idleNode 0) stopParked =
      [.tested true] ++ .stopReturned :: [] := by decide
  obtain ⟨awake, _, finishes⟩ := stop_not_lost run split (.inl rfl)
  exact ⟨rfl, awake, finishes rfl rfl⟩

/-- An idle run thread tests, `stop` stores and notifies, and the thread parks. -/
def stopWhileChoosing : List (Action Unit) := [.run, .run, .run, .storeStop, .notifyStop, .run]

/-- A `stop` that falls between the test and the wait is lost. -/
theorem stop_lost :
    ¬ ∀ {trace before after : List Event} {event : Event} {system : System Unit},
      (schedulerMachine Unit false).Run anyMove (System.start .new 0) trace system →
      trace = before ++ event :: after → event.Stops → ¬ system.pc.ParkedUntimed := by
  intro claim
  have run := (schedulerMachine Unit false).run_played
    (Machine.permits_any (System.start .new 0) stopWhileChoosing) (by decide)
  have split : (schedulerMachine Unit false).reported (System.start .new 0) stopWhileChoosing =
      [.tested true] ++ .stopReturned :: [] := by decide
  exact claim run split (.inl rfl) rfl

end Flowd
