import Flowd.Api.Background
import Flowd.Component.Site

namespace Flowd

/-! Components with a background thread, and what happens to them between and during the
calls to `process()`. -/

open Transition

/-- `work` is what goes on outside of the calls: threads, tasks and peers. -/
structure IoComponent extends TimedComponent where
  Move : Type
  work : State → Move → Option State

/-- What `process()` is called with. -/
structure Visit (component : IoComponent) where
  state : component.State
  call : Call component.In component.Out
  context : NodeContext
  clock : Clock

variable {component : IoComponent}

def Visit.turn (visit : Visit component) :
    Turn component.State component.In component.Out component.Event :=
  component.process visit.state visit.call visit.context visit.clock

/-- A component with its edges and its thread. -/
structure Outpost (component : IoComponent) where
  state : component.State
  ports : Call component.In component.Out
  now : Instant
  history : List (Visit component)
  returned : Option Returned

inductive Affair (component : IoComponent) where
  | feed (port : component.In) (packet : FbpMessage)
  | close (port : component.In)
  | signal (message : FbpMessage)
  | drain (port : component.Out) (count : Nat)
  | work (move : component.Move)
  | elapse (duration : Nat)
  | process (context : NodeContext) (schedule : component.Out → List Nat) (later : List Nat)

namespace Outpost

def start (state : component.State) (inCapacity : component.In → Nat) (outCapacity : component.Out → Nat)
    (now : Instant) : Outpost component where
  state
  ports :=
    { ins := fun port => .ofRing (.empty (inCapacity port))
      outs := fun port => .ofRing (.empty (outCapacity port))
      signalsIn := []
      signalsOut := []
      heard := []
      workUnits := 0 }
  now
  history := []
  returned := none

variable (outpost : Outpost component)

/-- A component that finished or panicked is not called again. -/
def isOver : Bool := outpost.returned == some .panicked || outpost.returned == some (.result .finished)

theorem isOver_eq_false :
    outpost.isOver = false ↔ outpost.returned ≠ some .panicked ∧ outpost.returned ≠ some (.result .finished) := by
  simp [isOver]

/-- The call that comes next. -/
def visit (context : NodeContext) (schedule : component.Out → List Nat) (later : List Nat) : Visit component :=
  ⟨outpost.state, outpost.ports.scheduled schedule, context, ⟨outpost.now, later⟩⟩

def after (visit : Visit component) : Outpost component where
  state := visit.turn.component
  ports := visit.turn.call
  now := visit.turn.clock.now
  history := outpost.history ++ [visit]
  returned := some visit.turn.returned

def step : Affair component → Option (Outpost component × List component.Event)
  | .feed port packet => (outpost.ports.feed port packet).map fun ports => ({ outpost with ports }, [])
  | .close port => some ({ outpost with ports := outpost.ports.close port }, [])
  | .signal message =>
      some ({ outpost with ports := { outpost.ports with signalsIn := outpost.ports.signalsIn ++ [message] } }, [])
  | .drain port count => some ({ outpost with ports := outpost.ports.drain port count }, [])
  | .work move => (component.work outpost.state move).map fun state => ({ outpost with state }, [])
  | .elapse duration => some ({ outpost with now := outpost.now + duration }, [])
  | .process context schedule later =>
      if outpost.isOver then none
      else
        let visit := outpost.visit context schedule later
        some (outpost.after visit, visit.turn.log)

end Outpost

def outpostMachine (component : IoComponent) : Machine (Outpost component) (Affair component) component.Event :=
  ⟨Outpost.step⟩

/-- What may change between two calls: the thread works, or others use the edges. -/
structure Outpost.Between (outpost next : Outpost component) (affair : Affair component) : Prop where
  worked : next.state = outpost.state ∨
    ∃ move, affair = .work move ∧ component.work outpost.state move = some next.state
  ports : Call.Idle outpost.ports next.ports
  now : outpost.now ≤ next.now
  history : next.history = outpost.history
  returned : next.returned = outpost.returned

/-- A step is a call or lies between two. -/
theorem Outpost.step_cases {outpost next : Outpost component} {affair : Affair component}
    {events : List component.Event} (step : outpost.step affair = some (next, events)) :
    (Outpost.Between outpost next affair ∧ events = []) ∨ ∃ context schedule later, outpost.isOver = false ∧
      next = outpost.after (outpost.visit context schedule later) ∧
        events = (outpost.visit context schedule later).turn.log := by
  have still : Call.Idle outpost.ports outpost.ports := ⟨fun _ => rfl, fun _ => rfl⟩
  cases affair with
  | feed port packet =>
      obtain ⟨ports, fed, same⟩ := Option.map_eq_some_iff.mp step
      cases same
      exact .inl ⟨⟨.inl rfl, .feed fed, Nat.le_refl _, rfl, rfl⟩, rfl⟩
  | close port =>
      cases step
      exact .inl ⟨⟨.inl rfl, .close _ _, Nat.le_refl _, rfl, rfl⟩, rfl⟩
  | signal message =>
      cases step
      exact .inl ⟨⟨.inl rfl, ⟨fun _ => rfl, fun _ => rfl⟩, Nat.le_refl _, rfl, rfl⟩, rfl⟩
  | drain port count =>
      cases step
      exact .inl ⟨⟨.inl rfl, .drain _ _ _, Nat.le_refl _, rfl, rfl⟩, rfl⟩
  | work move =>
      obtain ⟨state, worked, same⟩ := Option.map_eq_some_iff.mp step
      cases same
      exact .inl ⟨⟨.inr ⟨move, rfl, worked⟩, still, Nat.le_refl _, rfl, rfl⟩, rfl⟩
  | elapse duration =>
      cases step
      exact .inl ⟨⟨.inl rfl, still, Nat.le_add_right _ _, rfl, rfl⟩, rfl⟩
  | process context schedule later =>
      simp only [Outpost.step] at step
      split at step
      · cases step
      · next going =>
          cases step
          exact .inr ⟨context, schedule, later, by simpa using going, rfl, rfl⟩

/-- What threads and others on the edges keep, and a careful call as well. -/
structure Upholds (holds : component.State → Call component.In component.Out → Prop)
    (careful done : Visit component → Prop) : Prop where
  idles : ∀ {state ports later}, holds state ports → Call.Idle ports later → holds state later
  works : ∀ {state move next ports}, holds state ports → component.work state move = some next → holds next ports
  calls : ∀ visit, holds visit.state visit.call → careful visit →
    holds visit.turn.component visit.turn.call ∧ done visit

/-- The run rule: a run of careful calls ends with what they keep, and each of them has done its part. -/
theorem Upholds.run {holds : component.State → Call component.In component.Out → Prop}
    {careful done : Visit component → Prop} (upholds : Upholds holds careful done)
    {permitted : Outpost component → Affair component → Prop} {first outpost : Outpost component}
    {trace : List component.Event} (run : (outpostMachine component).Run permitted first trace outpost)
    (fresh : first.history = []) (begins : holds first.state first.ports)
    (checked : ∀ visit ∈ outpost.history, careful visit) :
    holds outpost.state outpost.ports ∧ ∀ visit ∈ outpost.history, done visit := by
  refine Machine.Run.invariant (fun outpost : Outpost component => (∀ visit ∈ outpost.history, careful visit) →
    holds outpost.state outpost.ports ∧ ∀ visit ∈ outpost.history, done visit) run ?_ ?_ checked
  · intro _
    refine ⟨begins, fun visit member => ?_⟩
    rw [fresh] at member
    cases member
  · intro outpost affair next events _ kept step checked
    rcases Outpost.step_cases step with ⟨between, _⟩ | ⟨context, schedule, later, _, rfl, _⟩
    · rw [between.history] at checked ⊢
      obtain ⟨held, did⟩ := kept checked
      have onwards : holds outpost.state next.ports := upholds.idles held between.ports
      refine ⟨?_, did⟩
      rcases between.worked with same | ⟨move, _, worked⟩
      · rw [same]
        exact onwards
      · exact upholds.works onwards worked
    · obtain ⟨held, did⟩ := kept fun visit member => checked visit (List.mem_append_left _ member)
      have last : outpost.visit context schedule later ∈
          (outpost.after (outpost.visit context schedule later)).history := by simp [Outpost.after]
      have onwards : holds outpost.state (outpost.ports.scheduled schedule) :=
        upholds.idles held (.scheduled outpost.ports schedule)
      obtain ⟨after, now⟩ := upholds.calls (outpost.visit context schedule later) onwards (checked _ last)
      refine ⟨after, fun visit member => ?_⟩
      rcases List.mem_append.mp member with earlier | here
      · exact did visit earlier
      · rw [List.mem_singleton.mp here]
        exact now

/-! Whether a component lives on. -/

/-- `field` is the variable that holds the variant the component is in; `finished` is what
`mem::replace` leaves there.  No work outside of the calls touches that variable.  An `idle`
call finds nothing to act upon; an `entitled` one has a reason to finish. -/
structure Lifecycle (component : IoComponent) where
  Field : Type
  field : component.State → Field
  finished : Field
  keepsField : ∀ state move next, component.work state move = some next → field next = field state
  idle : component.State → Call component.In component.Out → NodeContext → Clock → Prop
  entitled : component.State → Call component.In component.Out → Call component.In component.Out → Prop

theorem Outpost.Between.field {outpost next : Outpost component} {affair : Affair component}
    (between : Outpost.Between outpost next affair) (lifecycle : Lifecycle component) :
    lifecycle.field next.state = lifecycle.field outpost.state := by
  rcases between.worked with same | ⟨move, _, worked⟩
  · rw [same]
  · exact lifecycle.keepsField _ _ _ worked

/-- A call that returns something else than `Finished` does not leave the component
finished, an idle call leaves it as it was, and `Finished` is returned for a reason. -/
structure Turn.Survives {State In Out Event Field : Type} (field : State → Field) (finished : Field) (before : State)
    (idle entitled : Prop) (turn : Turn State In Out Event) : Prop where
  goesOn : ∀ result, turn.returned = .result result → result ≠ .finished → field turn.component ≠ finished
  rests : idle → field turn.component = field before
  entitled : turn.returned = .result .finished → entitled

namespace Turn.Survives

variable {State In Out Event Field : Type} {field : State → Field} {finished : Field} {before : State}
variable {idle idle' entitled entitled' : Prop} {turn : Turn State In Out Event}

/-- A turn that goes on in a state of its own. -/
theorem going (alive : field turn.component ≠ finished) (rests : idle → field turn.component = field before)
    (unfinished : turn.returned ≠ .result .finished) : turn.Survives field finished before idle entitled :=
  ⟨fun _ _ _ => alive, rests, fun ended => absurd ended unfinished⟩

/-- A turn that finishes, and not for want of something to do. -/
theorem ending (returned : turn.returned = .result .finished) (busy : ¬ idle) (reason : entitled) :
    turn.Survives field finished before idle entitled where
  goesOn result same different := by
    rw [returned] at same
    cases same
    exact absurd rfl different
  rests idle := absurd idle busy
  entitled _ := reason

theorem panicking (returned : turn.returned = .panicked) (busy : ¬ idle) :
    turn.Survives field finished before idle entitled where
  goesOn result same := by
    rw [returned] at same
    cases same
  rests idle := absurd idle busy
  entitled same := by
    rw [returned] at same
    cases same

theorem weaken (survives : turn.Survives field finished before idle entitled) (rests : idle' → idle)
    (reason : entitled → entitled') : turn.Survives field finished before idle' entitled' :=
  ⟨survives.goesOn, fun rest => survives.rests (rests rest), fun ended => reason (survives.entitled ended)⟩

end Turn.Survives

/-- What the poll at the start of a call leaves alone, and when it hears a stop. -/
structure Call.Heard {ι ο : Type} (call listened : Call ι ο) (stop : Bool) : Prop where
  ins : listened.ins = call.ins
  outs : listened.outs = call.outs
  workUnits : listened.workUnits = call.workUnits
  stopped : stop = true → listened.Stopped FbpMessage.textOrUtf8
  unstopped : stop = false → call.heard = [] → ¬ listened.Stopped FbpMessage.textOrUtf8
  asked : stop = true ↔ call.signalsIn.head?.bind FbpMessage.textOrUtf8 = some "stop"

namespace Call.Heard

variable {ι ο : Type}

theorem of_poll (call : Call ι ο) :
    call.Heard (call.poll FbpMessage.textOrUtf8).1 (call.poll FbpMessage.textOrUtf8).2 := by
  obtain ⟨signalsIn, signalsOut, new, polled, stopped⟩ := call.poll_cases FbpMessage.textOrUtf8
  refine ⟨by rw [polled], by rw [polled], by rw [polled], stopped, ?_, ?_⟩
  · intro quiet fresh
    unfold Call.poll at quiet ⊢
    unfold Call.Stopped
    cases queued : call.signalsIn with
    | nil => simp [fresh]
    | cons signal rest =>
        rw [queued] at quiet
        dsimp only at quiet ⊢
        by_cases stop : (FbpMessage.textOrUtf8 signal).getD "" = "stop"
        · simp [stop] at quiet
        · have other : ¬ FbpMessage.textOrUtf8 signal = some "stop" := fun read => stop (by rw [read]; rfl)
          rw [if_neg stop]
          split <;> simp [fresh, other]
  · unfold Call.poll
    cases call.signalsIn with
    | nil => simp
    | cons signal rest =>
        cases read : FbpMessage.textOrUtf8 signal with
        | none => simp [read]
        | some text =>
            by_cases stop : text = "stop"
            · simp [read, stop]
            · by_cases ping : text = "ping"
              · simp [read, ping]
              · simp [read, stop, ping]

variable {call listened : Call ι ο} {stop : Bool}

theorem inbox (heard : call.Heard listened stop) (port : ι) : listened.inbox port = call.inbox port := by rw [Call.inbox, Call.inbox, heard.ins]

theorem isAbandoned (heard : call.Heard listened stop) (port : ι) : listened.isAbandoned port = call.isAbandoned port := by
  rw [Call.isAbandoned, Call.isAbandoned, heard.ins]

end Call.Heard

variable (lifecycle : Lifecycle component)

def Visit.LivesThrough (visit : Visit component)
    (turn : Turn component.State component.In component.Out component.Event) : Prop :=
  turn.Survives lifecycle.field lifecycle.finished visit.state
    (lifecycle.idle visit.state visit.call visit.context visit.clock)
    (lifecycle.entitled visit.state visit.call turn.call)

def Visit.Lives (visit : Visit component) : Prop := visit.LivesThrough lifecycle visit.turn

/-- The calls that forget to put the state back are just those of this kind. -/
structure Forgets (forgets : Visit component → Prop) : Prop where
  harmful : ∀ visit, forgets visit → ¬ visit.Lives lifecycle
  harmless : ∀ visit : Visit component, lifecycle.field visit.state ≠ lifecycle.finished → ¬ forgets visit → visit.Lives lifecycle

/-- The first signal waiting is not a stop. -/
def Visit.Unstopped (visit : Visit component) : Prop :=
  visit.call.signalsIn.head?.bind FbpMessage.textOrUtf8 ≠ some "stop"

/-- A component that looks for a stop first: what it does before and after that, and when
what it does after it forgets the state. -/
structure Polling (forgetful : component.State → Call component.In component.Out → Prop) where
  opening : Call component.In component.Out → Call component.In component.Out
  stopping : component.State → Call component.In component.Out → NodeContext → Clock →
    Turn component.State component.In component.Out component.Event
  body : component.State → Call component.In component.Out → NodeContext → Clock →
    Turn component.State component.In component.Out component.Event
  signals : ∀ call, (opening call).signalsIn = call.signalsIn
  process : ∀ state call context clock, component.process state call context clock =
    if ((opening call).poll FbpMessage.textOrUtf8).2
    then stopping state ((opening call).poll FbpMessage.textOrUtf8).1 context clock
    else body state ((opening call).poll FbpMessage.textOrUtf8).1 context clock
  stops : ∀ state call context clock, (stopping state call context clock).returned = .result .finished ∧
    (stopping state call context clock).call = call
  quiet : ∀ state call context clock, lifecycle.idle state call context clock → call.signalsIn = []
  reason : ∀ state before after, after.Stopped FbpMessage.textOrUtf8 → lifecycle.entitled state before after
  harmful : ∀ (visit : Visit component) (listened : Call component.In component.Out),
    (opening visit.call).Heard listened false → forgetful visit.state visit.call →
      ¬ visit.LivesThrough lifecycle (body visit.state listened visit.context visit.clock)
  harmless : ∀ (visit : Visit component) (listened : Call component.In component.Out),
    (opening visit.call).Heard listened false → lifecycle.field visit.state ≠ lifecycle.finished →
      ¬ forgetful visit.state visit.call → visit.LivesThrough lifecycle (body visit.state listened visit.context visit.clock)

theorem Polling.forgets {forgetful : component.State → Call component.In component.Out → Prop}
    (polling : Polling lifecycle forgetful) :
    Forgets lifecycle fun visit => visit.Unstopped ∧ forgetful visit.state visit.call where
  harmful visit forgotten lives := by
    have heard := Call.Heard.of_poll (polling.opening visit.call)
    unfold Visit.Lives Visit.turn at lives
    rw [polling.process] at lives
    generalize (polling.opening visit.call).poll FbpMessage.textOrUtf8 = polled at heard lives
    obtain ⟨listened, stop⟩ := polled
    cases stop with
    | true => exact forgotten.1 (polling.signals visit.call ▸ heard.asked.mp rfl)
    | false => exact polling.harmful visit listened heard forgotten.2 lives
  harmless visit alive remembers := by
    have heard := Call.Heard.of_poll (polling.opening visit.call)
    unfold Visit.Lives Visit.turn
    rw [polling.process]
    generalize (polling.opening visit.call).poll FbpMessage.textOrUtf8 = polled at heard ⊢
    obtain ⟨listened, stop⟩ := polled
    cases stop with
    | true =>
        obtain ⟨returned, same⟩ := polling.stops visit.state listened visit.context visit.clock
        refine .ending returned (fun idle => ?_) (polling.reason _ _ _ (same.symm ▸ heard.stopped rfl))
        have asked := heard.asked.mp rfl
        rw [polling.signals, polling.quiet _ _ _ _ idle] at asked
        cases asked
    | false =>
        refine polling.harmless visit listened heard alive fun forgetful => remembers ⟨fun asked => ?_, forgetful⟩
        cases heard.asked.mpr (polling.signals visit.call ▸ asked)

/-- Every call of a run is all right exactly if none forgets its state. -/
theorem Forgets.lives_iff {forgets : Visit component → Prop} (exact : Forgets lifecycle forgets)
    {permitted : Outpost component → Affair component → Prop} {first : component.State}
    {inCapacity : component.In → Nat} {outCapacity : component.Out → Nat} {now : Instant}
    {outpost : Outpost component} {trace : List component.Event} (alive : lifecycle.field first ≠ lifecycle.finished)
    (run : (outpostMachine component).Run permitted (.start first inCapacity outCapacity now) trace outpost) :
    (∀ visit ∈ outpost.history, visit.Lives lifecycle) ↔ ∀ visit ∈ outpost.history, ¬ forgets visit := by
  refine ⟨fun lives visit member forgotten => exact.harmful visit forgotten (lives visit member), ?_⟩
  have kept : (∀ visit ∈ outpost.history, ¬ forgets visit) →
      (outpost.isOver = false → lifecycle.field outpost.state ≠ lifecycle.finished) ∧
        ∀ visit ∈ outpost.history, visit.Lives lifecycle := by
    refine Machine.Run.invariant (fun outpost : Outpost component => (∀ visit ∈ outpost.history, ¬ forgets visit) →
      (outpost.isOver = false → lifecycle.field outpost.state ≠ lifecycle.finished) ∧
        ∀ visit ∈ outpost.history, visit.Lives lifecycle) run ?_ ?_
    · intro _
      exact ⟨fun _ => alive, fun visit member => by cases member⟩
    · intro outpost affair next events _ holds step remembered
      rcases Outpost.step_cases step with ⟨between, _⟩ | ⟨context, schedule, later, going, rfl, _⟩
      · rw [between.history] at remembered
        rw [between.history, between.field lifecycle, Outpost.isOver, between.returned]
        exact holds remembered
      · obtain ⟨running, lived⟩ := holds fun visit member => remembered visit (List.mem_append_left _ member)
        have last : outpost.visit context schedule later ∈
            (outpost.after (outpost.visit context schedule later)).history := by simp [Outpost.after]
        have lives := exact.harmless (outpost.visit context schedule later) (running going) (remembered _ last)
        constructor
        · intro goesOn
          obtain ⟨calm, unfinished⟩ := (Outpost.isOver_eq_false _).mp goesOn
          cases returned : (outpost.visit context schedule later).turn.returned with
          | panicked => exact absurd (congrArg some returned) calm
          | result result =>
              apply lives.goesOn result returned
              rintro rfl
              exact unfinished (congrArg some returned)
        · intro visit member
          rcases List.mem_append.mp member with earlier | now
          · exact lived visit earlier
          · rw [List.mem_singleton.mp now]
            exact lives
  exact fun remembered => (kept remembered).2

end Flowd
