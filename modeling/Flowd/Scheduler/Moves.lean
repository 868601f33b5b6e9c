import Flowd.Scheduler.Invariant

namespace Flowd

/-! The moves of the scheduler, one constructor for each, and what all of them keep. -/

variable {κ : Type} {enforced : Bool} {system next : System κ} {events : List Event}

inductive Moved (enforced : Bool) (system : System κ) : Action κ → List Event → System κ → Prop where
  | locks (pc : system.pc = .top) : Moved enforced system .run [] { system with pc := .draining }
  | drains (pc : system.pc = .draining) :
      Moved enforced system .run
        ((system.scheduler.drainExpiredTimers system.clock).2.map fun entry =>
          .timerExpired entry.nodeId entry.when)
        { system with
          scheduler := (system.scheduler.drainExpiredTimers system.clock).1, pc := .testing }
  | leavesWait (pc : system.pc = .testing)
      (leaves : system.scheduler.running = false ∨ system.scheduler.state.readyQueue ≠ []) :
      Moved enforced system .run [.tested system.scheduler.running] { system with pc := .retesting }
  | mustWait (pc : system.pc = .testing) (running : system.scheduler.running = true)
      (idle : system.scheduler.state.readyQueue = []) :
      Moved enforced system .run [.tested true] { system with pc := .choosing }
  | recheck {deadline : Instant} (pc : system.pc = .choosing)
      (timer : system.scheduler.state.nextValidTimerDeadline.1 = some deadline)
      (expired : deadline ≤ system.clock) :
      Moved enforced system .run []
        { system with scheduler := system.scheduler.discard, pc := .draining }
  | parksTimed {deadline : Instant} (pc : system.pc = .choosing)
      (timer : system.scheduler.state.nextValidTimerDeadline.1 = some deadline)
      (ahead : system.clock < deadline) :
      Moved enforced system .run []
        { system with scheduler := system.scheduler.discard, pc := .parked (some deadline) }
  | parks (pc : system.pc = .choosing)
      (untimed : system.scheduler.state.nextValidTimerDeadline.1 = none) :
      Moved enforced system .run []
        { system with scheduler := system.scheduler.discard, pc := .parked none }
  | relocks (pc : system.pc = .notified) : Moved enforced system .run [] { system with pc := .draining }
  | leaves (pc : system.pc = .retesting) (stopped : system.scheduler.running = false) :
      Moved enforced system .run [.tested false] { system with pc := .finished }
  | goesOn (pc : system.pc = .retesting) (running : system.scheduler.running = true) :
      Moved enforced system .run [.tested true] { system with pc := .popping }
  | popsNothing (pc : system.pc = .popping) (nothing : system.scheduler.state.checkOut = .nothing) :
      Moved enforced system .run [] { system with pc := .top }
  | popsUnavailable {state : SchedulerState κ} (pc : system.pc = .popping)
      (unavailable : system.scheduler.state.checkOut = .unavailable state) :
      Moved enforced system .run []
        { system with scheduler := { system.scheduler with state }, pc := .top }
  | dispatches {nodeId : NodeId} {component : κ} {context : NodeContext} {state : SchedulerState κ}
      (pc : system.pc = .popping)
      (taken : system.scheduler.state.checkOut = .taken nodeId component context state) :
      Moved enforced system .run [.dispatched nodeId]
        { system with
          scheduler := { system.scheduler with state }, pc := .entering nodeId component context }
  | enters {nodeId : NodeId} {component : κ} {context : NodeContext}
      (pc : system.pc = .entering nodeId component context) :
      Moved enforced system .run [] (system.enter nodeId component context)
  | concludes {nodeId : NodeId} {component : κ} {context : NodeContext} {outcome : ExecutionOutcome}
      (pc : system.pc = .checkingIn nodeId component context outcome) :
      Moved enforced system .run (system.conclude nodeId component context outcome).2
        (system.conclude nodeId component context outcome).1
  | wakes {deadline : Option Instant} (pc : system.pc = .parked deadline) :
      Moved enforced system .wakeUp [] { system with pc := .notified }
  | settles {nodeId : NodeId} {component : κ} {context : NodeContext} {outcome : ExecutionOutcome}
      (reply : Reply κ) (pc : system.pc = .processing nodeId component context outcome) :
      Moved enforced system (.processReturns reply) [.returned nodeId reply.returned]
        (system.settle enforced nodeId context outcome reply)
  | selfSignals {nodeId : NodeId} {component : κ} {context : NodeContext} {outcome : ExecutionOutcome}
      (pc : system.pc = .processing nodeId component context outcome) :
      Moved enforced system .selfSignalReady [.selfSignalled nodeId]
        { system with scheduler := system.scheduler.store context.readySignal true }
  | selfWakes {nodeId : NodeId} {component : κ} {context : NodeContext} {outcome : ExecutionOutcome}
      (when : Instant) (pc : system.pc = .processing nodeId component context outcome) :
      Moved enforced system (.selfWakeAt when) []
        { system with
          pc := .processing nodeId component { context with wakeAt := some when } outcome }
  | signals (nodeId : NodeId) (free : system.lockFree = true) :
      Moved enforced system (.signalReady nodeId)
        [.signalled nodeId (system.scheduler.signalReady nodeId).2]
        { system with
          scheduler := (system.scheduler.signalReady nodeId).1
          pc := if (system.scheduler.signalReady nodeId).2 then system.pc.notify else system.pc }
  | registers (nodeId : NodeId) (when : Instant) (free : system.lockFree = true) :
      Moved enforced system (.wakeAt nodeId when)
        [.wakeRegistered nodeId (system.scheduler.wakeAt nodeId when).2]
        { system with
          scheduler := (system.scheduler.wakeAt nodeId when).1
          pc := if (system.scheduler.wakeAt nodeId when).2 then system.pc.notify else system.pc }
  | storesStop :
      Moved enforced system .storeStop []
        { system with
          scheduler := { system.scheduler with running := false }, stopping := system.stopping + 1 }
  | notifiesStop (pending : system.stopping ≠ 0) :
      Moved enforced system .notifyStop [.stopReturned]
        { system with stopping := system.stopping - 1, pc := system.pc.notify }
  | elapses (now : Instant) (later : system.clock ≤ now) :
      Moved enforced system (.elapse now) [] { system with clock := now }

variable {nodeId other : NodeId} {component : κ} {context : NodeContext} {outcome : ExecutionOutcome}

/-- What the run thread can do next. -/
theorem moved_of_runStep (step : system.runStep = some (next, events)) :
    Moved enforced system .run events next := by
  unfold System.runStep at step
  cases pc : system.pc with
  | top =>
      simp only [pc, Option.some.injEq, Prod.mk.injEq] at step
      obtain ⟨rfl, rfl⟩ := step
      exact .locks pc
  | draining =>
      simp only [pc, Option.some.injEq, Prod.mk.injEq] at step
      obtain ⟨rfl, rfl⟩ := step
      exact .drains pc
  | testing =>
      simp only [pc, Option.some.injEq, Prod.mk.injEq] at step
      obtain ⟨rfl, rfl⟩ := step
      by_cases waits : system.scheduler.running = true ∧ system.scheduler.state.readyQueue = []
      · obtain ⟨running, idle⟩ := waits
        simpa [running, idle] using Moved.mustWait pc running idle
      · have leaves : system.scheduler.running = false ∨ system.scheduler.state.readyQueue ≠ [] := by
          rw [not_and_or, Bool.not_eq_true] at waits
          exact waits
        have test : (!system.scheduler.running || !system.scheduler.state.readyQueue.isEmpty) = true := by
          simpa using leaves
        rw [if_pos test]
        exact .leavesWait pc leaves
  | choosing =>
      simp only [pc] at step
      cases timer : system.scheduler.state.nextValidTimerDeadline.1 with
      | none =>
          simp only [timer, Option.some.injEq, Prod.mk.injEq] at step
          obtain ⟨rfl, rfl⟩ := step
          exact .parks pc timer
      | some deadline =>
          simp only [timer] at step
          split at step
          · next expired =>
              simp only [Option.some.injEq, Prod.mk.injEq] at step
              obtain ⟨rfl, rfl⟩ := step
              exact .recheck pc timer expired
          · next ahead =>
              simp only [Option.some.injEq, Prod.mk.injEq] at step
              obtain ⟨rfl, rfl⟩ := step
              exact .parksTimed pc timer (Nat.lt_of_not_le ahead)
  | notified =>
      simp only [pc, Option.some.injEq, Prod.mk.injEq] at step
      obtain ⟨rfl, rfl⟩ := step
      exact .relocks pc
  | retesting =>
      simp only [pc, Option.some.injEq, Prod.mk.injEq] at step
      obtain ⟨rfl, rfl⟩ := step
      cases running : system.scheduler.running with
      | true => exact .goesOn pc running
      | false => exact .leaves pc running
  | popping =>
      simp only [pc] at step
      cases checkout : system.scheduler.state.checkOut with
      | nothing =>
          simp only [checkout, Option.some.injEq, Prod.mk.injEq] at step
          obtain ⟨rfl, rfl⟩ := step
          exact .popsNothing pc checkout
      | unavailable state =>
          simp only [checkout, Option.some.injEq, Prod.mk.injEq] at step
          obtain ⟨rfl, rfl⟩ := step
          exact .popsUnavailable pc checkout
      | taken nodeId component context state =>
          simp only [checkout, Option.some.injEq, Prod.mk.injEq] at step
          obtain ⟨rfl, rfl⟩ := step
          exact .dispatches pc checkout
  | entering nodeId component context =>
      simp only [pc, Option.some.injEq, Prod.mk.injEq] at step
      obtain ⟨rfl, rfl⟩ := step
      exact .enters pc
  | checkingIn nodeId component context outcome =>
      simp only [pc, Option.some.injEq] at step
      have moved : Moved enforced system .run _ _ := .concludes pc
      rw [step] at moved
      exact moved
  | parked deadline => simp [pc] at step
  | processing nodeId component context outcome => simp [pc] at step
  | finished => simp [pc] at step
  | panicked nodeId => simp [pc] at step

theorem moved_of_step {action : Action κ} (step : System.step enforced system action = some (next, events)) :
    Moved enforced system action events next := by
  cases action with
  | run => exact moved_of_runStep step
  | wakeUp =>
      cases pc : system.pc <;> simp only [System.step, pc, reduceCtorEq, Option.some.injEq, Prod.mk.injEq] at step
      obtain ⟨rfl, rfl⟩ := step
      exact .wakes pc
  | processReturns reply =>
      cases pc : system.pc <;> simp only [System.step, pc, reduceCtorEq, Option.some.injEq, Prod.mk.injEq] at step
      obtain ⟨rfl, rfl⟩ := step
      exact .settles reply pc
  | selfSignalReady =>
      cases pc : system.pc <;> simp only [System.step, pc, reduceCtorEq, Option.some.injEq, Prod.mk.injEq] at step
      obtain ⟨rfl, rfl⟩ := step
      have moved : Moved enforced system .selfSignalReady _ _ := .selfSignals pc
      rw [pc] at moved
      exact moved
  | selfWakeAt when =>
      cases pc : system.pc <;> simp only [System.step, pc, reduceCtorEq, Option.some.injEq, Prod.mk.injEq] at step
      obtain ⟨rfl, rfl⟩ := step
      exact .selfWakes when pc
  | signalReady nodeId =>
      simp only [System.step, Option.ite_none_right_eq_some, Option.some.injEq, Prod.mk.injEq] at step
      obtain ⟨free, rfl, rfl⟩ := step
      exact .signals nodeId free
  | wakeAt nodeId when =>
      simp only [System.step, Option.ite_none_right_eq_some, Option.some.injEq, Prod.mk.injEq] at step
      obtain ⟨free, rfl, rfl⟩ := step
      exact .registers nodeId when free
  | storeStop =>
      simp only [System.step, Option.some.injEq, Prod.mk.injEq] at step
      obtain ⟨rfl, rfl⟩ := step
      exact .storesStop
  | notifyStop =>
      simp only [System.step, Option.ite_none_left_eq_some, Option.some.injEq, Prod.mk.injEq] at step
      obtain ⟨pending, rfl, rfl⟩ := step
      exact .notifiesStop pending
  | elapse now =>
      simp only [System.step, Option.ite_none_right_eq_some, Option.some.injEq, Prod.mk.injEq] at step
      obtain ⟨later, rfl, rfl⟩ := step
      exact .elapses now later

/-- What a return from `process()` leads to. -/
inductive Settled (system : System κ) (nodeId : NodeId) (context : NodeContext)
    (outcome : ExecutionOutcome) (reply : Reply κ) : System κ → Prop where
  | overran : Settled system nodeId context outcome reply { system with pc := .panicked nodeId }
  | ended {left : NodeContext} {final : ExecutionOutcome}
      (why : reply.returned = .panicked ∨ reply.returned = .result .finished)
      (signal : left.readySignal = context.readySignal) (finished : final.finished = true) :
      Settled system nodeId context outcome reply
        { system with
          scheduler := system.scheduler.store context.readySignal false
          pc := .checkingIn nodeId reply.component left final }
  | idle {left : NodeContext} (why : reply.returned = .result .noWork)
      (signal : left.readySignal = context.readySignal) (wake : left.wakeAt = context.wakeAt) :
      Settled system nodeId context outcome reply
        { system with pc := .checkingIn nodeId reply.component left outcome }
  | exhausted {left : NodeContext} {units : Nat} (why : reply.returned = .result (.didWork units))
      (signal : left.readySignal = context.readySignal) (wake : left.wakeAt = context.wakeAt) :
      Settled system nodeId context outcome reply
        { system with pc := .checkingIn nodeId reply.component left (outcome.accountWork units) }
  | again {left : NodeContext} {units : Nat} (why : reply.returned = .result (.didWork units))
      (signal : left.readySignal = context.readySignal) (wake : left.wakeAt = context.wakeAt)
      (budget : left.remainingBudget ≠ 0) :
      Settled system nodeId context outcome reply
        { system with pc := .processing nodeId reply.component left (outcome.accountWork units) }

theorem System.settled (system : System κ) (enforced : Bool) (nodeId : NodeId) (context : NodeContext)
    (outcome : ExecutionOutcome) (reply : Reply κ) :
    Settled system nodeId context outcome reply (system.settle enforced nodeId context outcome reply) := by
  unfold System.settle
  dsimp only
  split
  · exact .overran
  · cases returned : reply.returned with
    | panicked => exact .ended (.inl returned) rfl rfl
    | result result =>
        cases result with
        | finished => exact .ended (.inr returned) rfl rfl
        | noWork => exact .idle returned rfl rfl
        | didWork units =>
            dsimp only
            split
            · exact .exhausted returned rfl rfl
            · next budget => exact .again returned rfl rfl budget

@[simp] theorem System.settle_state {reply : Reply κ} :
    (system.settle enforced nodeId context outcome reply).scheduler.state = system.scheduler.state := by
  have settled := system.settled enforced nodeId context outcome reply
  generalize system.settle enforced nodeId context outcome reply = last at settled ⊢
  cases settled <;> rfl

theorem System.conclude_finished (system : System κ) (nodeId : NodeId) (component : κ)
    (context : NodeContext) (finished : outcome.finished = true) :
    ∃ running, (system.conclude nodeId component context outcome).1 =
      { system with
        scheduler := ⟨(system.scheduler.state.account nodeId outcome).retire nodeId, running,
          system.scheduler.flags⟩
        pc := .top } ∧
      (running = system.scheduler.running ∧
          (system.conclude nodeId component context outcome).2 = [.retired nodeId] ∨
        running = false ∧
          (system.conclude nodeId component context outcome).2 = [.retired nodeId, .stoppedItself]) := by
  unfold System.conclude
  rw [if_pos finished]
  dsimp only
  split
  · exact ⟨false, rfl, .inr ⟨rfl, rfl⟩⟩
  · exact ⟨system.scheduler.running, rfl, .inl ⟨rfl, rfl⟩⟩

theorem System.conclude_unfinished (system : System κ) (nodeId : NodeId) (component : κ)
    (context : NodeContext) (unfinished : outcome.finished = false) :
    ∃ state, system.conclude nodeId component context outcome =
      ({ system with scheduler := { system.scheduler with state }, pc := .top }, [.checkedIn nodeId]) ∧
      ((outcome.didWork = true ∨ system.scheduler.load context.readySignal = true) ∧
          state = ((system.scheduler.state.account nodeId outcome).checkIn nodeId component
            context).enqueueRecorded nodeId ∨
        (outcome.didWork = false ∧ system.scheduler.load context.readySignal = false) ∧
          state = (system.scheduler.state.account nodeId outcome).checkIn nodeId component context) := by
  unfold System.conclude
  rw [if_neg (by rw [unfinished]; decide)]
  dsimp only
  split
  · next requeue =>
      refine ⟨_, rfl, .inl ⟨?_, rfl⟩⟩
      simpa using requeue
  · next leave =>
      refine ⟨_, rfl, .inr ⟨?_, rfl⟩⟩
      simpa using leave

theorem System.conclude_events (system : System κ) (nodeId : NodeId) (component : κ)
    (context : NodeContext) (outcome : ExecutionOutcome) :
    (system.conclude nodeId component context outcome).2 = [.retired nodeId] ∨
      (system.conclude nodeId component context outcome).2 = [.retired nodeId, .stoppedItself] ∨
      (system.conclude nodeId component context outcome).2 = [.checkedIn nodeId] := by
  cases finished : outcome.finished with
  | true =>
      obtain ⟨running, _, ⟨_, reports⟩ | ⟨_, reports⟩⟩ :=
        system.conclude_finished nodeId component context finished
      · exact .inl reports
      · exact .inr (.inl reports)
  | false =>
      obtain ⟨state, same, _⟩ := system.conclude_unfinished nodeId component context finished
      rw [same]
      exact .inr (.inr rfl)

@[simp] theorem System.conclude_pc (system : System κ) (nodeId : NodeId) (component : κ)
    (context : NodeContext) (outcome : ExecutionOutcome) :
    (system.conclude nodeId component context outcome).1.pc = .top := by
  cases finished : outcome.finished with
  | true =>
      obtain ⟨running, same, _⟩ := system.conclude_finished nodeId component context finished
      rw [same]
  | false =>
      obtain ⟨state, same, _⟩ := system.conclude_unfinished nodeId component context finished
      rw [same]

/-- The context that is checked out with the node in flight. -/
def Pc.contextAway : Pc κ → Option NodeContext
  | .entering _ _ context | .processing _ _ context _ | .checkingIn _ _ context _ => some context
  | _ => none

@[simp] theorem Pc.notify_contextAway (pc : Pc κ) : pc.notify.contextAway = pc.contextAway := by
  cases pc <;> rfl

/-- What every move keeps: the maps fit together and every ready signal exists. -/
structure Sound (system : System κ) : Prop where
  consistent : Consistent system.scheduler.state system.pc.inFlight
  equipped : Equipped system.scheduler.state
  homeSignal : ∀ nodeId context, system.scheduler.state.nodes.lookup nodeId = some context →
    context.readySignal < system.scheduler.flags.length
  awaySignal : ∀ context, system.pc.contextAway = some context →
    context.readySignal < system.scheduler.flags.length

/-- `scheduler` has the nodes of `old` with the same ready signals, and their components. -/
structure SameHome (old scheduler : Scheduler κ) : Prop where
  nodes : ∀ nodeId context, scheduler.state.nodes.lookup nodeId = some context →
    ∃ before, old.state.nodes.lookup nodeId = some before ∧ context.readySignal = before.readySignal
  components : ∀ nodeId ∈ old.state.components, nodeId ∈ scheduler.state.components
  flags : scheduler.flags.length = old.flags.length

variable {old scheduler : Scheduler κ}

theorem SameHome.of_eq (nodes : scheduler.state.nodes = old.state.nodes)
    (components : scheduler.state.components = old.state.components)
    (flags : scheduler.flags.length = old.flags.length) : SameHome old scheduler := by
  refine ⟨?_, ?_, flags⟩
  · intro nodeId context found
    rw [nodes] at found
    exact ⟨context, found, rfl⟩
  · rw [components]
    exact fun _ present => present

theorem SameHome.drainExpiredTimers (now : Instant) :
    SameHome scheduler (scheduler.drainExpiredTimers now).1 := by
  refine Scheduler.drainExpiredTimers_keeps (SameHome scheduler) ?_ ?_ ?_ (.of_eq rfl rfl rfl)
  · exact fun _ same => ⟨same.nodes, same.components, same.flags⟩
  · intro between entry same
    obtain ⟨flags, fired, set⟩ := between.fireFirst_eq entry
    rw [fired]
    refine ⟨?_, ?_, ?_⟩
    · intro nodeId context found
      rw [SchedulerState.enqueue_nodes, HashMap.lookup_adjust] at found
      split at found
      · next here =>
          obtain ⟨marked, present, rfl⟩ := Option.map_eq_some_iff.mp found
          rw [← here] at present
          exact same.nodes nodeId marked present
      · exact same.nodes nodeId context found
    · intro nodeId present
      rw [SchedulerState.enqueue_components]
      exact same.components nodeId present
    · rcases set with rfl | ⟨flag, rfl⟩
      · exact same.flags
      · simpa using same.flags
  · exact fun _ same => ⟨same.nodes, same.components, same.flags⟩

theorem SameHome.signalReady : SameHome scheduler (scheduler.signalReady nodeId).1 := by
  rcases scheduler.signalReady_eq nodeId with ⟨_, same⟩ | ⟨flag, _, same⟩
  · rw [same]
    exact .of_eq rfl rfl rfl
  · obtain ⟨metrics, recorded⟩ :=
      scheduler.state.enqueueRecorded_eq nodeId
    rw [same, recorded]
    exact .of_eq (by simp) (by simp) (by simp)

theorem SameHome.wakeAt {when : Instant} : SameHome scheduler (scheduler.wakeAt nodeId when).1 := by
  rcases scheduler.wakeAt_eq nodeId when with ⟨_, same⟩ | ⟨_, same⟩
  · rw [same]
    exact .of_eq rfl rfl rfl
  · rw [same]
    exact .of_eq rfl rfl rfl

/-- A move that keeps the nodes at home and the node away. -/
theorem Sound.change {pc : Pc κ} {clock : Instant} {stopping : Nat} (sound : Sound system)
    (consistent : Consistent scheduler.state system.pc.inFlight)
    (home : SameHome system.scheduler scheduler) (inFlight : pc.inFlight = system.pc.inFlight)
    (away : ∀ context, pc.contextAway = some context →
      ∃ before, system.pc.contextAway = some before ∧ context.readySignal = before.readySignal) :
    Sound ⟨scheduler, clock, pc, stopping⟩ := by
  refine ⟨?_, ?_, ?_, ?_⟩
  · rw [inFlight]
    exact consistent
  · intro nodeId present
    obtain ⟨context, found⟩ := Option.isSome_iff_exists.mp (AList.lookup_isSome.mpr present)
    obtain ⟨before, known, _⟩ := home.nodes nodeId context found
    exact home.components nodeId
      (sound.equipped nodeId (AList.lookup_isSome.mp (by rw [known]; rfl)))
  · intro nodeId context found
    obtain ⟨before, known, same⟩ := home.nodes nodeId context found
    rw [home.flags, same]
    exact sound.homeSignal nodeId before known
  · intro context found
    obtain ⟨before, known, same⟩ := away context found
    rw [home.flags, same]
    exact sound.awaySignal before known

theorem Sound.relocate {pc : Pc κ} {clock : Instant} {stopping : Nat} {running : Bool}
    (sound : Sound system) (inFlight : pc.inFlight = system.pc.inFlight)
    (away : pc.contextAway = system.pc.contextAway) :
    Sound ⟨{ system.scheduler with running }, clock, pc, stopping⟩ :=
  sound.change sound.consistent (.of_eq rfl rfl rfl) inFlight
    fun context found => ⟨context, away ▸ found, rfl⟩

/-- What a checkout takes, once the maps fit together. -/
theorem checkOut_taken {state next : SchedulerState κ}
    (taken : state.checkOut = .taken nodeId component context next) :
    ∃ rest metrics, state.readyQueue = nodeId :: rest ∧
      state.components.lookup nodeId = some component ∧ state.nodes.lookup nodeId = some context ∧
      next = { state with
        readyQueue := rest
        readySet := state.readySet.erase nodeId
        components := state.components.erase nodeId
        nodes := state.nodes.erase nodeId
        metrics } := by
  rcases state.checkOut_cases with ⟨_, nothing⟩ | ⟨first, rest, queue, ⟨_, _, unavailable⟩ | found⟩
  · rw [nothing] at taken
    cases taken
  · rw [unavailable] at taken
    cases taken
  · obtain ⟨component, context, metrics, equipped, home, same⟩ := found
    rw [same] at taken
    cases taken
    exact ⟨rest, metrics, queue, equipped, home, rfl⟩

/-- A queued id is always there to be dispatched. -/
theorem Consistent.checkOut_available {state next : SchedulerState κ} (consistent : Consistent state none)
    (equipped : Equipped state) : state.checkOut ≠ .unavailable next := by
  intro unavailable
  rcases state.checkOut_cases with ⟨_, nothing⟩ | ⟨nodeId, rest, queue, ⟨missing, _⟩ | found⟩
  · rw [nothing] at unavailable
    cases unavailable
  · have flagged := consistent.queueFlag nodeId (by rw [queue]; exact List.mem_cons_self)
    have home : nodeId ∈ state.nodes := by
      rcases (consistent.flagHome nodeId).mp flagged with home | none
      · exact home
      · cases none
    rcases missing with missing | missing
    · exact missing (equipped nodeId home)
    · exact missing home
  · obtain ⟨component, context, metrics, _, _, same⟩ := found
    rw [same] at unavailable
    cases unavailable

theorem Sound.dispatched {clock : Instant} {stopping : Nat} {state : SchedulerState κ}
    (sound : Sound system) (home : system.pc.inFlight = none)
    (taken : system.scheduler.state.checkOut = .taken nodeId component context state) :
    Sound ⟨{ system.scheduler with state }, clock, .entering nodeId component context, stopping⟩ := by
  obtain ⟨rest, metrics, queue, equipped, found, rfl⟩ := checkOut_taken taken
  have consistent := sound.consistent
  rw [home] at consistent
  have present : nodeId ∈ system.scheduler.state.nodes := AList.lookup_isSome.mp (by rw [found]; rfl)
  refine ⟨consistent.checkOut queue present, ?_, ?_, ?_⟩
  · intro other remains
    have remaining := AList.mem_erase.mp remains
    exact AList.mem_erase.mpr ⟨remaining.1, sound.equipped other remaining.2⟩
  · intro other context remains
    rw [HashMap.lookup_erase_ite] at remains
    split at remains
    · cases remains
    · exact sound.homeSignal other context remains
  · intro taken same
    cases same
    exact sound.homeSignal nodeId context found

theorem Sound.retired {clock : Instant} {stopping : Nat} {running : Bool} (sound : Sound system)
    (away : system.pc.inFlight = some nodeId) :
    Sound ⟨⟨(system.scheduler.state.account nodeId outcome).retire nodeId, running,
      system.scheduler.flags⟩, clock, .top, stopping⟩ := by
  have consistent := sound.consistent
  rw [away] at consistent
  refine ⟨consistent.account.retire, sound.equipped, sound.homeSignal, ?_⟩
  intro context none
  cases none

theorem Sound.checkedIn {state : SchedulerState κ} {clock : Instant} {stopping : Nat} {running : Bool}
    (sound : Sound system) (away : system.pc.inFlight = some nodeId)
    (contextAway : system.pc.contextAway = some context)
    (same : state = (system.scheduler.state.account nodeId outcome).checkIn nodeId component context ∨
      state = ((system.scheduler.state.account nodeId outcome).checkIn nodeId component
        context).enqueueRecorded nodeId) :
    Sound ⟨⟨state, running, system.scheduler.flags⟩, clock, .top, stopping⟩ := by
  have consistent := sound.consistent
  rw [away] at consistent
  have flagged : nodeId ∈ system.scheduler.state.readyFlags := (consistent.flagHome nodeId).mpr (.inr rfl)
  have home : Consistent ((system.scheduler.state.account nodeId outcome).checkIn nodeId component context) none :=
    consistent.account.checkIn
  have inside : Sound (⟨⟨(system.scheduler.state.account nodeId outcome).checkIn nodeId component context,
      running, system.scheduler.flags⟩, clock, .top, stopping⟩ : System κ) := by
    refine ⟨home, ?_, ?_, by intro context none; cases none⟩
    · intro other present
      rw [SchedulerState.checkIn_nodes, AList.mem_insert] at present
      rw [SchedulerState.checkIn_components, AList.mem_insert]
      exact present.imp_right (sound.equipped other)
    · intro other found lookup
      rw [SchedulerState.checkIn_nodes, HashMap.lookup_insert_ite] at lookup
      split at lookup
      · cases lookup
        exact sound.awaySignal context contextAway
      · exact sound.homeSignal other found lookup
  rcases same with rfl | rfl
  · exact inside
  · obtain ⟨metrics, recorded⟩ := ((system.scheduler.state.account nodeId outcome).checkIn nodeId component
      context).enqueueRecorded_eq nodeId
    refine inside.change (home.enqueueRecorded ?_) ?_ rfl (by intro context none; cases none)
    · rw [SchedulerState.checkIn_readyFlags]
      exact flagged
    · rw [recorded]
      exact .of_eq (by simp) (by simp) rfl

theorem Sound.settled {reply : Reply κ} (sound : Sound system)
    (pc : system.pc = .processing nodeId component context outcome)
    (settled : Settled system nodeId context outcome reply next) : Sound next := by
  have flight : system.pc.inFlight = some nodeId := by rw [pc]; rfl
  have signal : system.pc.contextAway = some context := by rw [pc]; rfl
  cases settled with
  | overran =>
      refine sound.change sound.consistent (.of_eq rfl rfl rfl) flight.symm ?_
      intro context none
      cases none
  | ended _ same _ =>
      refine sound.change sound.consistent (.of_eq rfl rfl (by simp [Scheduler.store])) flight.symm ?_
      intro left found
      cases found
      exact ⟨context, signal, same⟩
  | idle _ same _ =>
      refine sound.change sound.consistent (.of_eq rfl rfl rfl) flight.symm ?_
      intro left found
      cases found
      exact ⟨context, signal, same⟩
  | exhausted _ same _ =>
      refine sound.change sound.consistent (.of_eq rfl rfl rfl) flight.symm ?_
      intro left found
      cases found
      exact ⟨context, signal, same⟩
  | again _ same _ _ =>
      refine sound.change sound.consistent (.of_eq rfl rfl rfl) flight.symm ?_
      intro left found
      cases found
      exact ⟨context, signal, same⟩

/-- Every move keeps a sound system sound. -/
theorem Sound.moved {action : Action κ} (sound : Sound system)
    (moved : Moved enforced system action events next) : Sound next := by
  cases moved with
  | locks pc => exact sound.relocate (by rw [pc]; rfl) (by rw [pc]; rfl)
  | drains pc =>
      refine sound.change sound.consistent.drainExpiredTimers (.drainExpiredTimers _) (by rw [pc]; rfl) ?_
      intro context none
      cases none
  | leavesWait pc _ => exact sound.relocate (by rw [pc]; rfl) (by rw [pc]; rfl)
  | mustWait pc _ _ => exact sound.relocate (by rw [pc]; rfl) (by rw [pc]; rfl)
  | recheck pc _ _ =>
      refine sound.change sound.consistent.nextValidTimerDeadline (.of_eq rfl rfl rfl) (by rw [pc]; rfl) ?_
      intro context none
      cases none
  | parksTimed pc _ _ =>
      refine sound.change sound.consistent.nextValidTimerDeadline (.of_eq rfl rfl rfl) (by rw [pc]; rfl) ?_
      intro context none
      cases none
  | parks pc _ =>
      refine sound.change sound.consistent.nextValidTimerDeadline (.of_eq rfl rfl rfl) (by rw [pc]; rfl) ?_
      intro context none
      cases none
  | relocks pc => exact sound.relocate (by rw [pc]; rfl) (by rw [pc]; rfl)
  | leaves pc _ => exact sound.relocate (by rw [pc]; rfl) (by rw [pc]; rfl)
  | goesOn pc _ => exact sound.relocate (by rw [pc]; rfl) (by rw [pc]; rfl)
  | popsNothing pc _ => exact sound.relocate (by rw [pc]; rfl) (by rw [pc]; rfl)
  | popsUnavailable pc unavailable =>
      have consistent := sound.consistent
      rw [pc] at consistent
      exact absurd unavailable (consistent.checkOut_available sound.equipped)
  | dispatches pc taken => exact sound.dispatched (by rw [pc]; rfl) taken
  | enters pc =>
      refine sound.change sound.consistent (.of_eq rfl rfl (by simp [Scheduler.store])) (by rw [pc]; rfl) ?_
      intro left found
      cases found
      exact ⟨_, congrArg Pc.contextAway pc, rfl⟩
  | @concludes nodeId component context outcome pc =>
      have away : system.pc.inFlight = some nodeId := by rw [pc]; rfl
      cases finished : outcome.finished with
      | true =>
          obtain ⟨running, same, _⟩ := system.conclude_finished nodeId component context finished
          rw [same]
          exact sound.retired away
      | false =>
          obtain ⟨state, same, states⟩ := system.conclude_unfinished nodeId component context finished
          rw [same]
          rcases states with ⟨_, checked⟩ | ⟨_, checked⟩
          · exact sound.checkedIn away (congrArg Pc.contextAway pc) (.inr checked)
          · exact sound.checkedIn away (congrArg Pc.contextAway pc) (.inl checked)
  | wakes pc => exact sound.relocate (by rw [pc]; rfl) (by rw [pc]; rfl)
  | settles reply pc => exact sound.settled pc (system.settled enforced _ _ _ reply)
  | selfSignals pc =>
      exact sound.change sound.consistent (.of_eq rfl rfl (by simp [Scheduler.store])) rfl
        fun context found => ⟨context, found, rfl⟩
  | selfWakes when pc =>
      refine sound.change sound.consistent (.of_eq rfl rfl rfl) (by rw [pc]; rfl) ?_
      intro left found
      cases found
      exact ⟨_, congrArg Pc.contextAway pc, rfl⟩
  | signals nodeId _ =>
      refine sound.change sound.consistent.signalReady .signalReady (by split <;> simp) ?_
      intro context found
      exact ⟨context, by revert found; split <;> simp, rfl⟩
  | registers nodeId when _ =>
      refine sound.change sound.consistent.wakeAt .wakeAt (by split <;> simp) ?_
      intro context found
      exact ⟨context, by revert found; split <;> simp, rfl⟩
  | storesStop => exact sound.relocate rfl rfl
  | notifiesStop _ => exact sound.relocate (by simp) (by simp)
  | elapses now _ => exact sound.relocate rfl rfl

/-- The schedulers that can be set up before `run()` is entered. -/
inductive Built : Scheduler κ → Prop where
  | new : Built .new
  | addNode {scheduler : Scheduler κ} (nodeId : NodeId) (budgetClass : BudgetClass) (now : Instant) :
      Built scheduler → Built (scheduler.addNode nodeId budgetClass now)
  | addComponent {scheduler : Scheduler κ} (component : κ) (nodeId : NodeId) :
      Built scheduler → Built (scheduler.addComponent component nodeId)
  | signalReady {scheduler : Scheduler κ} (nodeId : NodeId) :
      Built scheduler → Built (scheduler.signalReady nodeId).1
  | wakeAt {scheduler : Scheduler κ} (nodeId : NodeId) (when : Instant) :
      Built scheduler → Built (scheduler.wakeAt nodeId when).1

theorem Consistent.addNode {away : Option NodeId} {budgetClass : BudgetClass}
    {now : Instant} (consistent : Consistent scheduler.state away) (home : away ≠ some nodeId) :
    Consistent (scheduler.addNode nodeId budgetClass now).state away := by
  refine ⟨consistent.nodup, consistent.inSet, ?_, ?_, ?_, ?_, consistent.timerQueued⟩
  · intro other queued
    exact (AList.mem_insert _).mpr (.inr (consistent.queueFlag other queued))
  · intro other timed
    exact (AList.mem_insert _).mpr (.inr (consistent.timerFlag other timed))
  · intro other
    simp only [Scheduler.addNode, AList.mem_insert, consistent.flagHome, or_assoc]
  · rintro other rfl
    simp only [Scheduler.addNode, AList.mem_insert, not_or]
    exact ⟨fun same => home (by rw [same]), consistent.awayGone other rfl⟩

theorem Built.consistent (built : Built scheduler) : Consistent scheduler.state none := by
  induction built with
  | new => exact ⟨.nil, by simp [Scheduler.new, SchedulerState.new], by simp [Scheduler.new, SchedulerState.new],
      by simp [Scheduler.new, SchedulerState.new], by simp [Scheduler.new, SchedulerState.new], by simp,
      by simp [Scheduler.new, SchedulerState.new]⟩
  | addNode nodeId budgetClass now _ ih => exact ih.addNode (by simp)
  | addComponent component nodeId _ ih => exact ih.congr rfl rfl rfl rfl rfl fun _ => .rfl
  | signalReady nodeId _ ih => exact ih.signalReady
  | wakeAt nodeId when _ ih => exact ih.wakeAt

theorem Built.homeSignal (built : Built scheduler) {nodeId : NodeId} {context : NodeContext}
    (found : scheduler.state.nodes.lookup nodeId = some context) :
    context.readySignal < scheduler.flags.length := by
  induction built generalizing context with
  | new => simp [Scheduler.new, SchedulerState.new] at found
  | addNode added budgetClass now _ ih =>
      simp only [Scheduler.addNode, HashMap.lookup_insert_ite] at found
      simp only [Scheduler.addNode, List.length_append, List.length_singleton]
      split at found
      · cases found
        exact Nat.lt_succ_self _
      · exact Nat.lt_succ_of_lt (ih found)
  | addComponent component added _ ih => exact ih found
  | signalReady signalled _ ih =>
      obtain ⟨before, known, same⟩ := SameHome.signalReady.nodes _ _ found
      rw [same, SameHome.signalReady.flags]
      exact ih known
  | wakeAt woken when _ ih =>
      obtain ⟨before, known, same⟩ := SameHome.wakeAt.nodes _ _ found
      rw [same, SameHome.wakeAt.flags]
      exact ih known

theorem Built.sound {clock : Instant} (built : Built scheduler) (equipped : Equipped scheduler.state) :
    Sound (System.start scheduler clock) :=
  ⟨built.consistent, equipped, fun _ _ => built.homeSignal, by intro context none; cases none⟩

theorem Equipped.new : Equipped (Scheduler.new : Scheduler κ).state := by
  intro nodeId present
  cases present

/-- A node that is added together with its component. -/
theorem Equipped.add {budgetClass : BudgetClass} {now : Instant} (equipped : Equipped scheduler.state) :
    Equipped ((scheduler.addNode nodeId budgetClass now).addComponent component nodeId).state := by
  intro other present
  rcases (AList.mem_insert _).mp present with rfl | present
  · exact (AList.mem_insert _).mpr (.inl rfl)
  · exact (AList.mem_insert _).mpr (.inr (equipped other present))

open Transition in
/-- Every reachable state is sound. -/
theorem Sound.run {permitted : System κ → Action κ → Prop} {trace : List Event} (sound : Sound system)
    (run : (schedulerMachine κ enforced).Run permitted system trace next) : Sound next :=
  Machine.Run.invariant Sound run sound fun _ sound step => sound.moved (moved_of_step step)

end Flowd
