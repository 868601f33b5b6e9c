import Flowd.Component.Basic
import Flowd.Scheduler.Machine

namespace Flowd

/-! A component under its scheduler: dispatches caused by upstream pushes.

The scheduler is reduced to what one node sees of it: a successful push puts the node
into the ready queue, a dispatch is one run of `execute_component`, and a dispatch that
did work puts the node back.
-/

open Transition

structure Station (component : Component) where
  stream : Stream component
  context : NodeContext
  queued : Bool

inductive Load (component : Component) where
  | push (port : component.In) (packet : FbpMessage)
  | close (port : component.In)
  | signal (message : FbpMessage)
  | drain (port : component.Out) (count : Nat)
  | dispatch (schedules : List (component.Out → List Nat)) (now : Instant)

variable {component : Component}

structure Execution (component : Component) where
  stream : Stream component
  context : NodeContext
  outcome : ExecutionOutcome

/-- The loop of `execute_component`.  Each round takes at least one unit of the budget,
so the budget bounds the rounds; `schedules` are the downstream pops of the calls. -/
def Stream.rounds (now : Instant) : Nat → List (component.Out → List Nat) → Stream component → NodeContext →
    ExecutionOutcome → Execution component
  | 0, _, stream, context, outcome => ⟨stream, context, outcome⟩
  | count + 1, schedules, stream, context, outcome =>
      let invocation := stream.invocation context.remainingBudget (schedules.headD fun _ => [])
      let after := stream.after invocation
      let left := invocation.outcome.remainingBudget
      match invocation.outcome.returned with
      | .panicked =>
          ⟨after, { context with remainingBudget := left }, { outcome with panicked := true, finished := true }⟩
      | .result .finished => ⟨after, { context with remainingBudget := left }, { outcome with finished := true }⟩
      | .result .noWork => ⟨after, { context with remainingBudget := left }, outcome⟩
      | .result (.didWork units) =>
          let context := context.accountWork left units now
          let outcome := outcome.accountWork units
          if context.remainingBudget = 0 then ⟨after, context, outcome⟩
          else rounds now count schedules.tail after context outcome

def Stream.execute (stream : Stream component) (context : NodeContext) (schedules : List (component.Out → List Nat))
    (now : Instant) : Execution component :=
  stream.rounds now context.budgetClass.units schedules
    { context with remainingBudget := context.budgetClass.units, wakeAt := none } .default

/-- Work costs at least one unit. -/
theorem NodeContext.accountWork_lt {context : NodeContext} (left units : Nat) (now : Instant)
    (positive : 0 < context.remainingBudget) :
    (context.accountWork left units now).remainingBudget < context.remainingBudget := by
  simp only [NodeContext.accountWork]
  omega

/-- More rounds than there is budget make no difference. -/
theorem Stream.rounds_enough {now : Instant} {count : Nat} (more : Nat) {schedules : List (component.Out → List Nat)}
    {stream : Stream component} {context : NodeContext} {outcome : ExecutionOutcome}
    (positive : 0 < context.remainingBudget) (enough : context.remainingBudget ≤ count) :
    stream.rounds now (count + more) schedules context outcome = stream.rounds now count schedules context outcome := by
  induction count generalizing schedules stream context outcome with
  | zero => exact absurd positive (by omega)
  | succ count ih =>
      rw [show count + 1 + more = count + more + 1 by omega]
      unfold Stream.rounds
      dsimp only
      split
      · rfl
      · rfl
      · rfl
      · next units _ =>
          split
          · rfl
          · next positiveLater =>
              have less := NodeContext.accountWork_lt
                (stream.invocation context.remainingBudget (schedules.headD fun _ => [])).outcome.remainingBudget
                units now positive
              exact ih (by omega) (by omega)

namespace Station

variable (station : Station component)

def start (nodeId : NodeId) (budgetClass : BudgetClass) (inCapacity : component.In → Nat)
    (outCapacity : component.Out → Nat) : Station component :=
  ⟨.start inCapacity outCapacity, .new nodeId budgetClass 0 0, false⟩

def step : Load component → Option (Station component × List Returned)
  | .push port packet =>
      (station.stream.step (.feed port packet)).map fun next =>
        ({ station with stream := next.1, queued := true }, next.2)
  | .close port =>
      (station.stream.step (.close port)).map fun next => ({ station with stream := next.1 }, next.2)
  | .signal message =>
      (station.stream.step (.signal message)).map fun next => ({ station with stream := next.1 }, next.2)
  | .drain port count =>
      (station.stream.step (.drain port count)).map fun next => ({ station with stream := next.1 }, next.2)
  | .dispatch schedules now =>
      if station.queued && !station.stream.isOver then
        let execution := station.stream.execute station.context schedules now
        some (⟨execution.stream, execution.context, execution.outcome.didWork && !execution.outcome.finished⟩,
          execution.stream.returned.toList)
      else none

end Station

def stationMachine (component : Component) : Machine (Station component) (Load component) Returned :=
  ⟨Station.step⟩

/-- The calls of a dispatch are moves of the stream. -/
theorem Stream.rounds_run {first : Stream component} {now : Instant} {count : Nat}
    {schedules : List (component.Out → List Nat)} {stream : Stream component} {context : NodeContext}
    {outcome : ExecutionOutcome} {trace : List Returned}
    (run : (streamMachine component).Run anyMove first trace stream) (going : stream.isOver = false) :
    ∃ later, (streamMachine component).Run anyMove first later
      (stream.rounds now count schedules context outcome).stream := by
  induction count generalizing schedules stream context outcome trace with
  | zero => exact ⟨trace, run⟩
  | succ count ih =>
      have step : (streamMachine component).step stream
          (.invoke context.remainingBudget (schedules.headD fun _ => [])) = some (_, _) := if_neg (by simp [going])
      have after := Machine.Run.snoc run trivial step
      unfold Stream.rounds
      dsimp only
      split
      · exact ⟨_, after⟩
      · exact ⟨_, after⟩
      · exact ⟨_, after⟩
      · next units returned =>
          split
          · exact ⟨_, after⟩
          · refine ih after ?_
            unfold Stream.isOver Stream.after
            rw [returned]
            rfl

/-- What happens at a station is what happens to its stream. -/
theorem Station.stream_run {nodeId : NodeId} {budgetClass : BudgetClass} {inCapacity : component.In → Nat}
    {outCapacity : component.Out → Nat} {station : Station component} {trace : List Returned}
    (run : (stationMachine component).Run anyMove (.start nodeId budgetClass inCapacity outCapacity) trace station) :
    ∃ later, (streamMachine component).Run anyMove (.start inCapacity outCapacity) later station.stream := by
  refine Machine.Run.invariant (fun station : Station component => ∃ later,
    (streamMachine component).Run anyMove (.start inCapacity outCapacity) later station.stream) run ⟨_, .nil⟩ ?_
  intro station load next events _ earlier step
  obtain ⟨trace, earlier⟩ := earlier
  have single (traffic : Traffic component) (queued : Bool)
      (moved : (station.stream.step traffic).map (fun result =>
        ((⟨result.1, station.context, queued⟩ : Station component), result.2)) = some (next, events)) :
      ∃ later, (streamMachine component).Run anyMove (.start inCapacity outCapacity) later next.stream := by
    obtain ⟨⟨stream, reported⟩, fed, same⟩ := Option.map_eq_some_iff.mp moved
    cases same
    exact ⟨_, .snoc earlier trivial fed⟩
  cases load with
  | push port packet => exact single (.feed port packet) true step
  | close port => exact single (.close port) station.queued step
  | signal message => exact single (.signal message) station.queued step
  | drain port count => exact single (.drain port count) station.queued step
  | dispatch schedules now =>
      simp only [stationMachine, Station.step] at step
      split at step
      · next idle =>
          cases step
          rw [Bool.and_eq_true, Bool.not_eq_true'] at idle
          exact Stream.rounds_run earlier idle.2
      · cases step

/-- A dispatch that does not put the node back ends with a call that did no work. -/
theorem Stream.rounds_last {now : Instant} {count : Nat} {schedules : List (component.Out → List Nat)}
    {stream : Stream component} {context : NodeContext} {outcome : ExecutionOutcome}
    (positive : 0 < context.remainingBudget) (enough : context.remainingBudget ≤ count)
    (going : outcome.finished = false) :
    let execution := stream.rounds now count schedules context outcome
    execution.outcome.didWork = true ∧ execution.outcome.finished = false ∨
      ∃ (earlier : Stream component) (invocation : Invocation component),
        execution.stream = earlier.after invocation ∧ ∀ units, invocation.outcome.returned ≠ .result (.didWork units) := by
  induction count generalizing schedules stream context outcome with
  | zero => exact absurd positive (by omega)
  | succ count ih =>
      unfold Stream.rounds
      dsimp only
      split
      · next returned => exact .inr ⟨_, _, rfl, fun units same => by rw [returned] at same; cases same⟩
      · next returned => exact .inr ⟨_, _, rfl, fun units same => by rw [returned] at same; cases same⟩
      · next returned => exact .inr ⟨_, _, rfl, fun units same => by rw [returned] at same; cases same⟩
      · next units returned =>
          split
          · exact .inl ⟨rfl, going⟩
          · have less := NodeContext.accountWork_lt
              (stream.invocation context.remainingBudget (schedules.headD fun _ => [])).outcome.remainingBudget
              units now positive
            exact ih (by omega) (by omega) going

theorem Stream.execute_last (stream : Stream component) (context : NodeContext)
    (schedules : List (component.Out → List Nat)) (now : Instant) :
    let execution := stream.execute context schedules now
    execution.outcome.didWork = true ∧ execution.outcome.finished = false ∨
      ∃ (earlier : Stream component) (invocation : Invocation component),
        execution.stream = earlier.after invocation ∧ ∀ units, invocation.outcome.returned ≠ .result (.didWork units) :=
  Stream.rounds_last context.budgetClass.units_pos (Nat.le_refl _) rfl

/-- The last call did no work, and since then nothing has come in. -/
def Stream.Rests (stream : Stream component) : Prop :=
  ∃ invocation ∈ stream.history, (∀ units, invocation.outcome.returned ≠ .result (.didWork units)) ∧
    stream.state = invocation.outcome.component ∧
    ∀ port, stream.ports.inbox port = invocation.outcome.call.inbox port

/-- A node that is not in the ready queue is still new, or it rests. -/
theorem Station.rests_run {nodeId : NodeId} {budgetClass : BudgetClass} {inCapacity : component.In → Nat}
    {outCapacity : component.Out → Nat} {station : Station component} {trace : List Returned}
    (run : (stationMachine component).Run anyMove (.start nodeId budgetClass inCapacity outCapacity) trace station) :
    station.queued = false → (station.stream.state = component.new ∧ ∀ port, station.stream.ports.inbox port = []) ∨
      station.stream.Rests := by
  refine Machine.Run.invariant (fun station : Station component => station.queued = false →
    (station.stream.state = component.new ∧ ∀ port, station.stream.ports.inbox port = []) ∨ station.stream.Rests)
    run (fun _ => .inl ⟨rfl, fun _ => rfl⟩) ?_
  intro station load next events _ earlier step
  -- what neither feeds nor calls the component
  have still (stream : Stream component) (state : stream.state = station.stream.state)
      (history : stream.history = station.stream.history)
      (inbox : ∀ port, stream.ports.inbox port = station.stream.ports.inbox port) (idle : station.queued = false) :
      (stream.state = component.new ∧ ∀ port, stream.ports.inbox port = []) ∨ stream.Rests := by
    rcases earlier idle with ⟨new, empty⟩ | ⟨invocation, member, unworked, same, left⟩
    · exact .inl ⟨state.trans new, fun port => (inbox port).trans (empty port)⟩
    · exact .inr ⟨invocation, history ▸ member, unworked, state.trans same, fun port => (inbox port).trans (left port)⟩
  cases load with
  | push port packet =>
      obtain ⟨_, _, same⟩ := Option.map_eq_some_iff.mp step
      cases same
      intro idle
      cases idle
  | close port =>
      cases step
      refine still _ rfl rfl fun other => ?_
      by_cases here : other = port
      · subst here
        simp [Call.inbox]
      · simp [Call.inbox, Function.update_of_ne here]
  | signal message =>
      cases step
      exact still _ rfl rfl fun _ => rfl
  | drain port count =>
      cases step
      exact still _ rfl rfl fun _ => rfl
  | dispatch schedules now =>
      simp only [stationMachine, Station.step] at step
      split at step
      · cases step
        intro idle
        rcases station.stream.execute_last station.context schedules now with
          ⟨worked, unfinished⟩ | ⟨before, invocation, same, unworked⟩
        · dsimp only at idle
          rw [worked, unfinished] at idle
          cases idle
        · dsimp only
          rw [same]
          exact .inr ⟨invocation, List.mem_append_right _ (List.mem_singleton_self _), unworked, rfl, fun _ => rfl⟩
      · cases step

end Flowd
