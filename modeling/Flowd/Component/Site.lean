import Flowd.Component.Timed
import Flowd.Scheduler.Budget
import Flowd.Scheduler.Node

namespace Flowd

/-! A component that uses its timer, under the scheduler.

The moves of the scheduler and of its other nodes are arbitrary; what the node itself does in
`process()` is what the component does with its edges, its context and the clock.
-/

open Transition

structure Site (component : TimedComponent) where
  system : System Unit
  state : component.State
  ports : Call component.In component.Out
  history : List (Turn component.State component.In component.Out component.Event)

inductive Happening (component : TimedComponent) where
  | move (action : Action Unit)
  | feed (port : component.In) (packet : FbpMessage)
  | close (port : component.In)
  | signal (message : FbpMessage)
  | drain (port : component.Out) (count : Nat)
  | process (schedule : component.Out → List Nat) (later : List Nat) (elapsed : Nat)

section
variable {ι ο : Type}

/-- The producer pushes a packet, if it can. -/
def Call.feed [DecidableEq ι] (port : ι) (packet : FbpMessage) (call : Call ι ο) : Option (Call ι ο) :=
  let inlet := call.ins port
  if inlet.ring.producerAlive then
    (inlet.ring.push packet).map fun ring => { call with ins := Function.update call.ins port { inlet with ring } }
  else none

/-- The producer is dropped. -/
def Call.close [DecidableEq ι] (port : ι) (call : Call ι ο) : Call ι ο :=
  let inlet := call.ins port
  { call with ins := Function.update call.ins port { inlet with ring := inlet.ring.dropProducer } }

/-- The consumer takes packets between two calls. -/
def Call.drain [DecidableEq ο] (port : ο) (count : Nat) (call : Call ι ο) : Call ι ο :=
  { call with outs := Function.update call.outs port ((call.outs port).consume count) }

/-- The edges of the next call, with the downstream pops that fall into it. -/
def Call.scheduled (call : Call ι ο) (schedule : ο → List Nat) : Call ι ο :=
  { call with outs := fun port => { call.outs port with schedule := schedule port } }

/-- What others do to the edges takes nothing out of the inputs and sends nothing. -/
structure Call.Idle (before after : Call ι ο) : Prop where
  taken : ∀ port, after.taken port = before.taken port
  sent : ∀ port, (after.outs port).sent = (before.outs port).sent

theorem Call.Idle.feed [DecidableEq ι] {call next : Call ι ο} {port : ι} {packet : FbpMessage}
    (fed : call.feed port packet = some next) : Call.Idle call next := by
  unfold Call.feed at fed
  dsimp only at fed
  split at fed
  · obtain ⟨ring, _, same⟩ := Option.map_eq_some_iff.mp fed
    cases same
    refine ⟨fun other => ?_, fun _ => rfl⟩
    by_cases here : other = port
    · subst here
      simp [Call.taken]
    · simp [Call.taken, Function.update_of_ne here]
  · cases fed

theorem Call.Idle.close [DecidableEq ι] (call : Call ι ο) (port : ι) : Call.Idle call (call.close port) := by
  refine ⟨fun other => ?_, fun _ => rfl⟩
  by_cases here : other = port
  · subst here
    simp [Call.taken, Call.close]
  · simp [Call.taken, Call.close, Function.update_of_ne here]

theorem Call.Idle.scheduled (call : Call ι ο) (schedule : ο → List Nat) : Call.Idle call (call.scheduled schedule) :=
  ⟨fun _ => rfl, fun _ => rfl⟩

theorem Call.Idle.drain [DecidableEq ο] (call : Call ι ο) (port : ο) (count : Nat) : Call.Idle call (call.drain port count) := by
  refine ⟨fun _ => rfl, fun other => ?_⟩
  by_cases here : other = port
  · subst here
    simp [Call.drain]
  · simp [Call.drain, Function.update_of_ne here]

end

/-- What the scheduler gets from a turn: the clock has gone on, a deadline may have been asked for, and
`process()` returns. -/
def Turn.actions {σ ι ο ε : Type} (turn : Turn σ ι ο ε) (elapsed : Nat) : List (Action Unit) :=
  .elapse turn.clock.now :: (turn.context.wakeAt.map Action.selfWakeAt).toList ++
    [.processReturns ⟨(), turn.context.remainingBudget, turn.context.timerFiredAt.isNone, elapsed, turn.returned⟩]

namespace Site

variable {component : TimedComponent}

/-- The scheduler is set up, and `run()` is entered. -/
def start (scheduler : Scheduler Unit) (clock : Instant) (inCapacity : component.In → Nat)
    (outCapacity : component.Out → Nat) : Site component where
  system := System.start scheduler clock
  state := component.new
  ports :=
    { ins := fun port => .ofRing (.empty (inCapacity port))
      outs := fun port => .ofRing (.empty (outCapacity port))
      signalsIn := []
      signalsOut := []
      heard := []
      workUnits := 0 }
  history := []

variable (site : Site component)

def log : List component.Event := site.history.flatMap Turn.log

/-- The call that is made with that context. -/
def turn (context : NodeContext) (schedule : component.Out → List Nat) (later : List Nat) :
    Turn component.State component.In component.Out component.Event :=
  component.process site.state (site.ports.scheduled schedule) context ⟨site.system.clock, later⟩

def step (nodeId : NodeId) (enforced : Bool) : Happening component → Option (Site component × List Returned)
  | .move action =>
      if Foreign nodeId site.system action then
        (site.system.step enforced action).map fun next => ({ site with system := next.1 }, [])
      else none
  | .feed port packet => (site.ports.feed port packet).map fun ports => ({ site with ports }, [])
  | .close port => some ({ site with ports := site.ports.close port }, [])
  | .signal message =>
      some ({ site with ports := { site.ports with signalsIn := site.ports.signalsIn ++ [message] } }, [])
  | .drain port count => some ({ site with ports := site.ports.drain port count }, [])
  | .process schedule later elapsed =>
      match site.system.pc with
      | .processing away _ context _ =>
          if away = nodeId then
            let turn := site.turn context schedule later
            ((schedulerMachine Unit enforced).play site.system (turn.actions elapsed)).map fun next =>
              (⟨next.1, turn.component, turn.call, site.history ++ [turn]⟩, [turn.returned])
          else none
      | _ => none

end Site

def siteMachine (component : TimedComponent) (nodeId : NodeId) (enforced : Bool) :
    Machine (Site component) (Happening component) Returned :=
  ⟨fun site => site.step nodeId enforced⟩

/-- What holds of the scheduler in every state. -/
structure Steady (system : System Unit) : Prop where
  sound : Sound system
  funded : system.pc.Funded
  unfinished : system.pc.Unfinished

theorem Steady.moved {enforced : Bool} {system next : System Unit} {action : Action Unit} {events : List Event}
    (steady : Steady system) (moved : Moved enforced system action events next) : Steady next :=
  ⟨steady.sound.moved moved, steady.funded.moved moved, steady.unfinished.moved moved⟩

theorem System.settle_clock {κ : Type} (system : System κ) (enforced : Bool) (nodeId : NodeId) (context : NodeContext)
    (outcome : ExecutionOutcome) (reply : Reply κ) :
    (system.settle enforced nodeId context outcome reply).clock = system.clock := by
  have settled := system.settled enforced nodeId context outcome reply
  generalize system.settle enforced nodeId context outcome reply = last at settled ⊢
  cases settled <;> rfl

theorem Moved.clock_le {κ : Type} {enforced : Bool} {system next : System κ} {action : Action κ}
    {events : List Event} (moved : Moved enforced system action events next) : system.clock ≤ next.clock := by
  cases moved with
  | elapses now later => exact later
  | @concludes away component context outcome pc =>
      cases finished : outcome.finished with
      | true =>
          obtain ⟨running, same, _⟩ := system.conclude_finished away component context finished
          rw [same]
      | false =>
          obtain ⟨state, same, _⟩ := system.conclude_unfinished away component context finished
          rw [same]
  | @settles away component context outcome reply pc =>
      exact Nat.le_of_eq (system.settle_clock enforced away context outcome reply).symm
  | _ => exact Nat.le_refl _

/-- What the actions of a turn come to. -/
theorem Turn.play_cases {σ ι ο ε : Type} {nodeId : NodeId} {enforced : Bool} {system next : System Unit}
    {component : Unit} {context : NodeContext} {outcome : ExecutionOutcome} {events : List Event}
    (turn : Turn σ ι ο ε) (elapsed : Nat) (pc : system.pc = .processing nodeId component context outcome)
    (played : (schedulerMachine Unit enforced).play system (turn.actions elapsed) = some (next, events)) :
    system.clock ≤ turn.clock.now ∧
      next = System.settle { system with
          clock := turn.clock.now
          pc := .processing nodeId component { context with wakeAt := turn.context.wakeAt.or context.wakeAt } outcome }
        enforced nodeId { context with wakeAt := turn.context.wakeAt.or context.wakeAt } outcome
        ⟨(), turn.context.remainingBudget, turn.context.timerFiredAt.isNone, elapsed, turn.returned⟩ := by
  unfold Turn.actions at played
  by_cases later : system.clock ≤ turn.clock.now
  · cases wake : turn.context.wakeAt with
    | none =>
        simp only [wake, Option.map_none, Option.toList_none, List.nil_append, List.cons_append, Machine.play,
          schedulerMachine, System.step, later, if_true, pc, Option.some.injEq, Prod.mk.injEq] at played
        exact ⟨later, played.1.symm⟩
    | some when =>
        simp only [wake, Option.map_some, Option.toList_some, List.cons_append, List.nil_append, Machine.play,
          schedulerMachine, System.step, later, if_true, pc, Option.some.injEq, Prod.mk.injEq] at played
        exact ⟨later, played.1.symm⟩
  · simp [Machine.play, schedulerMachine, System.step, later] at played

/-- An invariant of a site: of the time, of what the scheduler holds for the node, of the component, of its
edges and of the turns so far.  `woken` allows others to set a deadline for the node. -/
structure Watch (component : TimedComponent) (woken : Prop)
    (holds : Instant → Hold → component.State → Call component.In component.Out →
      List (Turn component.State component.In component.Out component.Event) → Prop) : Prop where
  passes : ∀ {now hold next state ports history}, holds now hold state ports history → Passes now hold next →
    holds now next state ports history
  wakes : woken → ∀ {now hold state ports history} when, holds now hold state ports history →
    holds now { hold with deadline := some when } state ports history
  elapses : ∀ {now later hold state ports history}, holds now hold state ports history → now ≤ later →
    holds later hold state ports history
  idles : ∀ {now hold state ports next history}, holds now hold state ports history → Call.Idle ports next →
    holds now hold state next history
  turns : ∀ {now context deadline queued state ports history place} later,
    holds now ⟨.processing context, deadline, queued⟩ state ports history → 0 < context.remainingBudget →
    Past now ⟨.processing context, deadline, queued⟩ →
    now ≤ (component.process state ports context ⟨now, later⟩).clock.now →
    Leaves (component.process state ports context ⟨now, later⟩).returned
      ((component.process state ports context ⟨now, later⟩).context.wakeAt.or context.wakeAt)
      (if (component.process state ports context ⟨now, later⟩).context.timerFiredAt.isNone then none
        else context.timerFiredAt) place →
    holds (component.process state ports context ⟨now, later⟩).clock.now ⟨place, deadline, queued⟩
      (component.process state ports context ⟨now, later⟩).component
      (component.process state ports context ⟨now, later⟩).call
      (history ++ [component.process state ports context ⟨now, later⟩])

variable {component : TimedComponent} {woken : Prop} {nodeId : NodeId} {enforced : Bool}
variable {holds : Instant → Hold → component.State → Call component.In component.Out →
  List (Turn component.State component.In component.Out component.Event) → Prop}

/-- The invariant in a state. -/
def Site.Keeps (holds : Instant → Hold → component.State → Call component.In component.Out →
      List (Turn component.State component.In component.Out component.Event) → Prop)
    (nodeId : NodeId) (site : Site component) : Prop :=
  Steady site.system ∧ Past site.system.clock (site.system.hold nodeId) ∧
    holds site.system.clock (site.system.hold nodeId) site.state site.ports site.history

theorem Watch.step {site next : Site component} {happening : Happening component} {events : List Returned}
    (watch : Watch component woken holds) (keeps : site.Keeps holds nodeId)
    (allowed : ∀ when, happening = .move (.wakeAt nodeId when) → woken)
    (step : site.step nodeId enforced happening = some (next, events)) : next.Keeps holds nodeId := by
  obtain ⟨steady, past, inv⟩ := keeps
  have edges {ports : Call component.In component.Out} (idle : Call.Idle site.ports ports) :
      Site.Keeps holds nodeId { site with ports } := ⟨steady, past, watch.idles inv idle⟩
  cases happening with
  | move action =>
      simp only [Site.step] at step
      split at step
      · next foreign =>
          obtain ⟨⟨system, fired⟩, stepped, same⟩ := Option.map_eq_some_iff.mp step
          cases same
          have moved := moved_of_step stepped
          refine ⟨steady.moved moved, ?_⟩
          rcases Passes.of_moved steady.sound moved foreign with passes | ⟨when, rfl, hold⟩
          · refine ⟨fun firedAt fired => ?_, watch.elapses (watch.passes inv passes) moved.clock_le⟩
            exact (passes.past past firedAt fired).trans moved.clock_le
          · have set := watch.wakes (allowed when rfl) when inv
            rw [← hold] at set
            refine ⟨fun firedAt fired => ?_, watch.elapses set moved.clock_le⟩
            rw [hold] at fired
            exact (past firedAt fired).trans moved.clock_le
      · cases step
  | feed port packet =>
      obtain ⟨ports, fed, same⟩ := Option.map_eq_some_iff.mp step
      cases same
      exact edges (.feed fed)
  | close port =>
      cases step
      exact edges (.close site.ports port)
  | signal message =>
      cases step
      exact edges ⟨fun _ => rfl, fun _ => rfl⟩
  | drain port count =>
      cases step
      exact edges (.drain site.ports port count)
  | process schedule later elapsed =>
      simp only [Site.step] at step
      split at step
      · next away found context outcome pc =>
          split at step
          · next here =>
              subst here
              obtain ⟨⟨system, fired⟩, played, same⟩ := Option.map_eq_some_iff.mp step
              cases same
              have run := Machine.run_of_play (Machine.permits_any _ _) played
              have after : Steady system :=
                Machine.Run.invariant Steady run steady fun _ steady step => steady.moved (moved_of_step step)
              refine ⟨after, ?_⟩
              obtain ⟨forward, settles⟩ := Turn.play_cases _ elapsed pc played
              have unfinished : outcome.finished = false := by
                have before := steady.unfinished
                rw [pc] at before
                exact before
              have funded : 0 < context.remainingBudget := by
                have before := steady.funded
                rw [pc] at before
                exact before
              have before : site.system.hold away = ⟨.processing context,
                  site.system.scheduler.state.timerLatestByNode.lookup away,
                  decide (away ∈ site.system.scheduler.state.readyQueue)⟩ := by
                simp [System.hold, pc, Pc.placeAway]
              let turn := site.turn context schedule later
              let asking : NodeContext := { context with wakeAt := turn.context.wakeAt.or context.wakeAt }
              obtain ⟨place, leaves, hold⟩ := Leaves.of_settle { site.system with
                  clock := turn.clock.now, pc := .processing away found asking outcome } enforced away unfinished
                ⟨(), turn.context.remainingBudget, turn.context.timerFiredAt.isNone, elapsed, turn.returned⟩
              rw [← settles] at hold
              rw [before] at inv past
              have turned := watch.turns later (watch.idles inv (.scheduled site.ports schedule)) funded past forward
                leaves
              have clock : system.clock = (site.turn context schedule later).clock.now := by
                rw [settles]
                exact System.settle_clock _ _ _ _ _ _
              rw [clock, hold]
              refine ⟨?_, turned⟩
              intro firedAt fired
              have kept := leaves.fired fired
              split at kept
              · cases kept
              · exact (past firedAt kept).trans forward
          · cases step
      · cases step

/-- A fresh node has no fired timer. -/
theorem Built.unfired {κ : Type} {scheduler : Scheduler κ} (built : Built scheduler) {nodeId : NodeId}
    {context : NodeContext} (found : scheduler.state.nodes.lookup nodeId = some context) :
    context.timerFiredAt = none := by
  induction built with
  | new => simp [Scheduler.new, SchedulerState.new] at found
  | addNode added budgetClass now _ ih =>
      simp only [Scheduler.addNode, HashMap.lookup_insert_ite] at found
      split at found
      · cases found
        rfl
      · exact ih found
  | addComponent component added _ ih => exact ih found
  | @signalReady scheduler signalled _ ih =>
      rcases scheduler.signalReady_eq signalled with ⟨_, same⟩ | ⟨flag, _, same⟩
      · rw [same] at found
        exact ih found
      · obtain ⟨metrics, recorded⟩ := scheduler.state.enqueueRecorded_eq signalled
        rw [same, recorded] at found
        exact ih (by simpa using found)
  | @wakeAt scheduler woken when _ ih =>
      rcases scheduler.wakeAt_eq woken when with ⟨_, same⟩ | ⟨_, same⟩
      · rw [same] at found
        exact ih found
      · rw [same] at found
        exact ih found

/-- An invariant that is watched holds in every state of a run. -/
theorem Watch.run {permitted : Site component → Happening component → Prop} {scheduler : Scheduler Unit}
    {clock : Instant} {inCapacity : component.In → Nat} {outCapacity : component.Out → Nat} {site : Site component}
    {trace : List Returned} (watch : Watch component woken holds)
    (allowed : ∀ site when, permitted site (.move (.wakeAt nodeId when)) → woken) (built : Built scheduler)
    (equipped : Equipped scheduler.state)
    (first : ∀ place, place = .home none ∨ place = .gone →
      holds clock ⟨place, scheduler.state.timerLatestByNode.lookup nodeId, decide (nodeId ∈ scheduler.state.readyQueue)⟩
        component.new (Site.start scheduler clock inCapacity outCapacity : Site component).ports [])
    (run : (siteMachine component nodeId enforced).Run permitted (.start scheduler clock inCapacity outCapacity)
      trace site) : site.Keeps holds nodeId := by
  refine Machine.Run.invariant (Site.Keeps holds nodeId) run ⟨⟨built.sound equipped, trivial, trivial⟩, ?_⟩ ?_
  · have place : scheduler.state.placeHome nodeId = .home none ∨ scheduler.state.placeHome nodeId = .gone := by
      unfold SchedulerState.placeHome
      cases found : scheduler.state.nodes.lookup nodeId with
      | none => exact .inr rfl
      | some context => exact .inl (congrArg Place.home (built.unfired found))
    refine ⟨?_, first _ place⟩
    intro firedAt fired
    change (scheduler.state.placeHome nodeId).fired = some firedAt at fired
    rcases place with home | gone
    · rw [home] at fired
      cases fired
    · rw [gone] at fired
      cases fired
  · intro site happening next events permits keeps step
    exact watch.step keeps (fun when same => allowed site when (same ▸ permits)) step

end Flowd
