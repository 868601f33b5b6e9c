import Flowd.Api.Call
import Flowd.Lib.Transition

namespace Flowd

/-! Components and what they may meet between and during the calls to `process()`. -/

open Transition

/-- The ports of a component with one inport. -/
inductive InPort where
  | inn
deriving DecidableEq, Repr

/-- The ports of a component that also takes a configuration. -/
inductive ConfInPort where
  | conf
  | inn
deriving DecidableEq, Repr

theorem ConfInPort.inn_ne_conf : ConfInPort.inn ≠ .conf := by decide

inductive OutPort where
  | out
deriving DecidableEq, Repr

/-- `reads` is how the component reads a signal and `streams` its IN ports.  `held`
and `owes` say what a component is for: the items it has taken in and not sent yet,
and the items that the packets taken during a call become.  `exposed` are the items
that a call offers to the outputs without a place to keep them if they are refused.
A call `declines` if it finds that its configuration is invalid. -/
structure Component where
  In : Type
  Out : Type
  State : Type
  [decIn : DecidableEq In]
  [decOut : DecidableEq Out]
  new : State
  process : State → Call In Out → Nat → Outcome State In Out
  reads : FbpMessage → Option String
  streams : In → Prop
  held : State → List (Out × FbpMessage)
  owes : State → Call In Out → Call In Out → List (Out × FbpMessage)
  exposed : State → Call In Out → Nat → List (Out × FbpMessage)
  declines : State → Call In Out → Bool

/-- A component that passes on all it gets: whether the budget lets one call take and
send everything that waits, and the items that this is. -/
structure StreamComponent extends Component where
  affords : State → Call In Out → Nat → Prop
  backlog : State → Call In Out → List (Out × FbpMessage)

attribute [instance] Component.decIn Component.decOut

/-- The packets taken from a port between two moments of a call. -/
def Call.fresh {ι ο : Type} (before after : Call ι ο) (port : ι) : List FbpMessage :=
  (after.taken port).drop (before.taken port).length

theorem Call.Took.fresh {ι ο : Type} {port : ι} {before after : Call ι ο} {new : List FbpMessage}
    (took : Took port before after new) : before.fresh after port = new := by
  rw [Call.fresh, took.taken, List.drop_left]

variable {component : Component}

/-- What `process()` was called with. -/
structure Invocation (component : Component) where
  state : component.State
  call : Call component.In component.Out
  remainingBudget : Nat

def Invocation.outcome (invocation : Invocation component) :
    Outcome component.State component.In component.Out :=
  component.process invocation.state invocation.call invocation.remainingBudget

/-- The call returned `Finished`, and not because of a stop signal. -/
def Invocation.FinishesUnasked (invocation : Invocation component) : Prop :=
  invocation.outcome.returned = .result .finished ∧
    ¬ invocation.outcome.call.Stopped component.reads

/-- No output refuses an item that has nowhere else to go. -/
def Invocation.Roomy (invocation : Invocation component) : Prop :=
  invocation.call.outs.fits
    (component.exposed invocation.state invocation.call invocation.remainingBudget) = true

/-- A reason to finish that has nothing to do with the outputs. -/
def Invocation.HasReason (invocation : Invocation component) : Prop :=
  invocation.outcome.call.Stopped component.reads ∨
    component.declines invocation.state invocation.call = true ∨
    ∀ port, component.streams port → invocation.call.isAbandoned port = true

/-- The call has the budget and the room for everything that waits. -/
def Invocation.Ample {component : StreamComponent} (invocation : Invocation component.toComponent) : Prop :=
  component.affords invocation.state invocation.call invocation.remainingBudget ∧
    invocation.call.outs.fits (component.backlog invocation.state invocation.call) = true

/-- A component with its edges.  `owed` is what has been owed to the outputs so far,
`history` what `process()` has been called with. -/
structure Stream (component : Component) where
  state : component.State
  ports : Call component.In component.Out
  owed : List (component.Out × FbpMessage)
  history : List (Invocation component)
  returned : Option Returned

inductive Traffic (component : Component) where
  | feed (port : component.In) (packet : FbpMessage)
  | close (port : component.In)
  | signal (message : FbpMessage)
  | drain (port : component.Out) (count : Nat)
  | invoke (remainingBudget : Nat) (schedule : component.Out → List Nat)

namespace Stream

def start (inCapacity : component.In → Nat) (outCapacity : component.Out → Nat) : Stream component where
  state := component.new
  ports :=
    { ins := fun port => .ofRing (.empty (inCapacity port))
      outs := fun port => .ofRing (.empty (outCapacity port))
      signalsIn := []
      signalsOut := []
      heard := []
      workUnits := 0 }
  owed := []
  history := []
  returned := none

variable (stream : Stream component)

/-- A component that finished or panicked is not called again. -/
def isOver : Bool := stream.returned == some .panicked || stream.returned == some (.result .finished)

/-- The call that comes next, with the downstream pops that fall into it. -/
def invocation (remainingBudget : Nat) (schedule : component.Out → List Nat) : Invocation component where
  state := stream.state
  call := { stream.ports with
    outs := fun port => { stream.ports.outs port with schedule := schedule port } }
  remainingBudget

def after (invocation : Invocation component) : Stream component where
  state := invocation.outcome.component
  ports := invocation.outcome.call
  owed := stream.owed ++ component.owes invocation.state invocation.call invocation.outcome.call
  history := stream.history ++ [invocation]
  returned := some invocation.outcome.returned

def step : Traffic component → Option (Stream component × List Returned)
  | .feed port packet =>
      let inlet := stream.ports.ins port
      if inlet.ring.producerAlive then
        (inlet.ring.push packet).map fun ring =>
          ({ stream with ports := { stream.ports with
            ins := Function.update stream.ports.ins port { inlet with ring } } }, [])
      else none
  | .close port =>
      let inlet := stream.ports.ins port
      some ({ stream with ports := { stream.ports with
        ins := Function.update stream.ports.ins port { inlet with ring := inlet.ring.dropProducer } } }, [])
  | .signal message =>
      some ({ stream with ports := { stream.ports with
        signalsIn := stream.ports.signalsIn ++ [message] } }, [])
  | .drain port count =>
      some ({ stream with ports := { stream.ports with
        outs := Function.update stream.ports.outs port ((stream.ports.outs port).consume count) } }, [])
  | .invoke remainingBudget schedule =>
      if stream.isOver then none
      else
        let invocation := stream.invocation remainingBudget schedule
        some (stream.after invocation, [invocation.outcome.returned])

end Stream

def streamMachine (component : Component) : Machine (Stream component) (Traffic component) Returned :=
  ⟨Stream.step⟩

/-- The account of a component: each call balances, and loses something exactly if it
is not roomy. -/
def Ledger (component : Component) : Prop :=
  ∀ invocation : Invocation component, ∃ lost,
    Balance invocation.call.outs (component.held invocation.state)
      (component.owes invocation.state invocation.call invocation.outcome.call)
      invocation.outcome.call.outs (component.held invocation.outcome.component) lost ∧
    (invocation.outcome.returned ≠ .panicked → (lost = [] ↔ invocation.Roomy))

/-- What has been lost so far: nothing exactly if every call was roomy. -/
def Accounted (component : Component) (start stream : Stream component) : Prop :=
  ∃ lost, Balance start.ports.outs [] stream.owed stream.ports.outs (component.held stream.state) lost ∧
    (stream.returned ≠ some .panicked → (lost = [] ↔ ∀ invocation ∈ stream.history, invocation.Roomy))

theorem Accounted.step {start stream next : Stream component}
    {traffic : Traffic component} {events : List Returned} (accounted : Accounted component start stream)
    (ledger : Ledger component) (step : stream.step traffic = some (next, events)) :
    Accounted component start next := by
  obtain ⟨lost, balance, exact⟩ := accounted
  cases traffic with
  | feed port packet =>
      simp only [Stream.step] at step
      split at step
      · obtain ⟨ring, _, same⟩ := Option.map_eq_some_iff.mp step
        cases same
        exact ⟨lost, balance, exact⟩
      · cases step
  | close port =>
      cases step
      exact ⟨lost, balance, exact⟩
  | signal message =>
      cases step
      exact ⟨lost, balance, exact⟩
  | drain port count =>
      cases step
      refine ⟨lost, balance.congr fun other => ?_, exact⟩
      by_cases same : other = port
      · subst same
        simp
      · simp [Function.update_of_ne same]
  | invoke remainingBudget schedule =>
      simp only [Stream.step] at step
      split at step
      · cases step
      · next going =>
          cases step
          let invocation := stream.invocation remainingBudget schedule
          have unpanicked : stream.returned ≠ some .panicked := by
            intro panicked
            simp [Stream.isOver, panicked] at going
          obtain ⟨fresh, spent, exactNow⟩ := ledger invocation
          have before : Balance start.ports.outs [] stream.owed invocation.call.outs
              (component.held stream.state) lost := balance.congr fun port => Outlet.sent_schedule _ _
          refine ⟨lost ++ fresh, before.trans spent, fun returned => ?_⟩
          have calm : invocation.outcome.returned ≠ .panicked := fun panicked => returned (congrArg some panicked)
          rw [List.append_eq_nil_iff, exact unpanicked, exactNow calm]
          simp only [Stream.after, List.mem_append, List.mem_singleton]
          constructor
          · rintro ⟨earlier, now⟩ other (member | rfl)
            · exact earlier other member
            · exact now
          · intro all
            exact ⟨fun other member => all other (.inl member), all invocation (.inr rfl)⟩

theorem Accounted.run {permitted : Stream component → Traffic component → Prop}
    {inCapacity : component.In → Nat} {outCapacity : component.Out → Nat} {stream : Stream component}
    {trace : List Returned} (nothingHeld : component.held component.new = []) (ledger : Ledger component)
    (run : (streamMachine component).Run permitted (.start inCapacity outCapacity) trace stream) :
    Accounted component (.start inCapacity outCapacity) stream := by
  refine Machine.Run.invariant (Accounted component (.start inCapacity outCapacity)) run ?_ ?_
  · refine ⟨[], ?_, fun _ => ⟨fun _ _ member => (nomatch member), fun _ => rfl⟩⟩
    have held : component.held (Stream.start inCapacity outCapacity : Stream component).state = [] := nothingHeld
    rw [held]
    exact .still fun _ => rfl
  · intro state action next events _ accounted step
    exact accounted.step ledger step

/-- Everything owed has been sent or is held, exactly if every call was roomy. -/
theorem conserved_iff_roomy {permitted : Stream component → Traffic component → Prop}
    {inCapacity : component.In → Nat} {outCapacity : component.Out → Nat} {stream : Stream component}
    {trace : List Returned} (nothingHeld : component.held component.new = []) (ledger : Ledger component)
    (run : (streamMachine component).Run permitted (.start inCapacity outCapacity) trace stream)
    (returned : stream.returned ≠ some .panicked) :
    Conserved stream.ports.outs (component.held stream.state) stream.owed ↔
      ∀ invocation ∈ stream.history, invocation.Roomy := by
  obtain ⟨lost, balance, exact⟩ := Accounted.run nothingHeld ledger run
  have empty : ∀ port, ((Stream.start inCapacity outCapacity : Stream component).ports.outs port).sent = [] :=
    fun _ => rfl
  rw [balance.conserved_iff empty, exact returned]

/-- A component that finishes without a reason has met a full output. -/
def Reasonable (component : Component) : Prop :=
  ∀ invocation : Invocation component, invocation.outcome.returned = .result .finished →
    invocation.Roomy → invocation.HasReason

/-- Everything owed has been sent or is held and no call finished for want of room,
exactly if every call was roomy. -/
theorem harmless_iff_roomy {permitted : Stream component → Traffic component → Prop}
    {inCapacity : component.In → Nat} {outCapacity : component.Out → Nat} {stream : Stream component}
    {trace : List Returned} (nothingHeld : component.held component.new = []) (ledger : Ledger component)
    (reasonable : Reasonable component)
    (run : (streamMachine component).Run permitted (.start inCapacity outCapacity) trace stream)
    (returned : stream.returned ≠ some .panicked) :
    Conserved stream.ports.outs (component.held stream.state) stream.owed ∧
      (∀ invocation ∈ stream.history, invocation.outcome.returned = .result .finished → invocation.HasReason) ↔
      ∀ invocation ∈ stream.history, invocation.Roomy := by
  rw [conserved_iff_roomy nothingHeld ledger run returned]
  constructor
  · exact fun both => both.1
  · exact fun roomy => ⟨roomy, fun invocation member finished => reasonable invocation finished (roomy invocation member)⟩

/-- Nothing is left behind, and everything taken from upstream has been sent. -/
def Stream.Drained (stream : Stream component) : Prop :=
  (∀ port, component.streams port → stream.ports.inbox port = []) ∧ component.held stream.state = [] ∧
    Conserved stream.ports.outs [] stream.owed

section
variable {component : StreamComponent}

/-- A call that finishes leaves nothing behind and loses nothing exactly if it was
ample. -/
def Closes (component : StreamComponent) : Prop :=
  ∀ invocation : Invocation component.toComponent, invocation.FinishesUnasked →
    ((∀ port, component.streams port → invocation.outcome.call.inbox port = []) ∧
      component.held invocation.outcome.component = [] ∧ invocation.Roomy ↔ invocation.Ample)

/-- A call that finishes leaves everything drained exactly if it was ample and every
call before it was roomy. -/
theorem drained_iff {permitted : Stream component.toComponent → Traffic component.toComponent → Prop}
    {inCapacity : component.In → Nat} {outCapacity : component.Out → Nat} {stream : Stream component.toComponent}
    {trace : List Returned} (nothingHeld : component.held component.new = [])
    (ledger : Ledger component.toComponent) (closes : Closes component)
    (run : (streamMachine component.toComponent).Run permitted (.start inCapacity outCapacity) trace stream)
    (going : stream.isOver = false) (remainingBudget : Nat) (schedule : component.Out → List Nat)
    (finishes : (stream.invocation remainingBudget schedule).FinishesUnasked) :
    (stream.after (stream.invocation remainingBudget schedule)).Drained ↔
      (stream.invocation remainingBudget schedule).Ample ∧
        ∀ invocation ∈ stream.history, invocation.Roomy := by
  have closed := closes _ finishes
  have step : (streamMachine component.toComponent).step stream (.invoke remainingBudget schedule) =
      some (stream.after (stream.invocation remainingBudget schedule), [_]) := if_neg (by simp [going])
  have last := Machine.Run.snoc run.any trivial step
  have returned : (stream.after (stream.invocation remainingBudget schedule)).returned ≠ some .panicked := by
    intro panicked
    have finished := finishes.1.symm.trans (Option.some.inj panicked)
    cases finished
  have conserved := conserved_iff_roomy nothingHeld ledger last returned
  generalize stream.invocation remainingBudget schedule = invocation at closed conserved ⊢
  have history : (∀ other ∈ (stream.after invocation).history, other.Roomy) ↔
      (∀ other ∈ stream.history, other.Roomy) ∧ invocation.Roomy := by
    simp [Stream.after, or_imp, forall_and]
  rw [history] at conserved
  unfold Stream.Drained
  constructor
  · rintro ⟨empty, nothing, sent⟩
    have all := conserved.mp (by rw [nothing]; exact sent)
    exact ⟨closed.mp ⟨empty, nothing, all.2⟩, all.1⟩
  · rintro ⟨ample, earlier⟩
    obtain ⟨empty, nothing, roomyNow⟩ := closed.mpr ample
    have sent := conserved.mpr ⟨earlier, roomyNow⟩
    have held : component.held (stream.after invocation).state = [] := nothing
    rw [held] at sent
    exact ⟨empty, held, sent⟩

end

end Flowd
