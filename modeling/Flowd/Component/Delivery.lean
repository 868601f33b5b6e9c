import Flowd.Component.Ordered

namespace Flowd

/-! The order of the packets from the IN port of a component to what its consumers get. -/

open Transition

section
variable {component : Component}

/-- What may change between two calls: packets are fed and taken, but nothing else is. -/
structure Between (stream next : Stream component) : Prop where
  state : next.state = stream.state
  owed : next.owed = stream.owed
  history : next.history = stream.history
  taken : ∀ port, next.ports.taken port = stream.ports.taken port
  fed : ∀ port, ∀ packet ∈ (stream.ports.ins port).fed, packet ∈ (next.ports.ins port).fed
  sent : ∀ port, (next.ports.outs port).sent = (stream.ports.outs port).sent

variable {orderly : Invocation component → Prop} {stream next : Stream component}
variable {traffic : Traffic component} {events : List Returned}

/-- A step is a call or lies between two. -/
theorem Stream.step_cases (step : stream.step traffic = some (next, events)) :
    Between stream next ∨ ∃ remainingBudget schedule, traffic = .invoke remainingBudget schedule ∧
      next = stream.after (stream.invocation remainingBudget schedule) := by
  cases traffic with
  | feed port packet =>
      simp only [Stream.step] at step
      split at step
      · obtain ⟨ring, pushed, same⟩ := Option.map_eq_some_iff.mp step
        have buffer := (Ring.push_some pushed).2.1
        cases same
        refine .inl ⟨rfl, rfl, rfl, ?_, ?_, fun _ => rfl⟩
        · intro other
          by_cases here : other = port
          · subst here
            simp [Call.taken]
          · simp [Call.taken, Function.update_of_ne here]
        · intro other found member
          by_cases here : other = port
          · subst here
            simp only [Inlet.fed, Function.update_self, buffer, List.mem_append] at member ⊢
            exact member.imp id Or.inl
          · simpa [Function.update_of_ne here] using member
      · cases step
  | close port =>
      cases step
      refine .inl ⟨rfl, rfl, rfl, ?_, ?_, fun _ => rfl⟩
      · intro other
        by_cases here : other = port
        · subst here
          simp [Call.taken]
        · simp [Call.taken, Function.update_of_ne here]
      · intro other found member
        by_cases here : other = port
        · subst here
          simpa [Inlet.fed] using member
        · simpa [Function.update_of_ne here] using member
  | signal message =>
      cases step
      exact .inl ⟨rfl, rfl, rfl, fun _ => rfl, fun _ _ => id, fun _ => rfl⟩
  | drain port count =>
      cases step
      refine .inl ⟨rfl, rfl, rfl, fun _ => rfl, fun _ _ => id, ?_⟩
      intro other
      by_cases here : other = port
      · subst here
        simp
      · simp [Function.update_of_ne here]
  | invoke remainingBudget schedule =>
      simp only [Stream.step] at step
      split at step
      · cases step
      · cases step
        exact .inr ⟨remainingBudget, schedule, rfl, rfl⟩

/-- The calls of this kind keep what they are owed in order. -/
def KeepsOrder (component : Component) (orderly : Invocation component → Prop) : Prop :=
  ∀ invocation : Invocation component, orderly invocation →
    InOrder invocation.call.outs (component.held invocation.state)
      (component.owes invocation.state invocation.call invocation.outcome.call)
      invocation.outcome.call.outs (component.held invocation.outcome.component)

/-- Everything owed has been sent or is held, in order, if every call was orderly. -/
def Sequenced (orderly : Invocation component → Prop) (stream : Stream component) : Prop :=
  (∀ invocation ∈ stream.history, orderly invocation) →
    ∀ port, (stream.ports.outs port).sent ++ addressed port (component.held stream.state) = addressed port stream.owed

theorem Sequenced.step (keeps : KeepsOrder component orderly) (sequenced : Sequenced orderly stream)
    (step : stream.step traffic = some (next, events)) : Sequenced orderly next := by
  rcases Stream.step_cases step with between | ⟨remainingBudget, schedule, _, rfl⟩
  · intro all port
    rw [between.sent, between.state, between.owed]
    exact sequenced (between.history ▸ all) port
  · intro all port
    have earlier := sequenced (fun invocation member => all invocation (List.mem_append_left _ member)) port
    have now := keeps (stream.invocation remainingBudget schedule) (all _ (by simp [Stream.after])) port
    have before : ((stream.invocation remainingBudget schedule).call.outs port).sent = (stream.ports.outs port).sent :=
      Outlet.sent_schedule _ _
    rw [before] at now
    simp only [Stream.after, addressed_append]
    rw [now, ← earlier]
    rfl

theorem Sequenced.run {permitted : Stream component → Traffic component → Prop}
    {inCapacity : component.In → Nat} {outCapacity : component.Out → Nat} {trace : List Returned}
    (nothingHeld : component.held component.new = []) (keeps : KeepsOrder component orderly)
    (run : (streamMachine component).Run permitted (.start inCapacity outCapacity) trace stream) :
    Sequenced orderly stream := by
  refine Machine.Run.invariant (Sequenced orderly) run ?_ fun _ sequenced step => sequenced.step keeps step
  intro _ port
  have held : component.held (Stream.start inCapacity outCapacity : Stream component).state = [] := nothingHeld
  rw [held]
  rfl

/-- A call owes what it takes from the port. -/
def OwesTaken (port : component.In) (items : List FbpMessage → List (component.Out × FbpMessage))
    (invocation : Invocation component) : Prop :=
  ∃ new, invocation.outcome.call.taken port = invocation.call.taken port ++ new ∧
    component.owes invocation.state invocation.call invocation.outcome.call = items new

variable {port : component.In} {items : List FbpMessage → List (component.Out × FbpMessage)}

theorem owed_taken {permitted : Stream component → Traffic component → Prop}
    {inCapacity : component.In → Nat} {outCapacity : component.Out → Nat} {trace : List Returned}
    (nothing : items [] = []) (additive : ∀ left right, items (left ++ right) = items left ++ items right)
    (run : (streamMachine component).Run permitted (.start inCapacity outCapacity) trace stream) :
    (∀ invocation ∈ stream.history, OwesTaken port items invocation) → stream.owed = items (stream.ports.taken port) := by
  refine Machine.Run.invariant (fun stream : Stream component =>
    (∀ invocation ∈ stream.history, OwesTaken port items invocation) → stream.owed = items (stream.ports.taken port))
    run (fun _ => nothing.symm) ?_
  intro stream action next events _ holds step
  rcases Stream.step_cases step with between | ⟨remainingBudget, schedule, _, rfl⟩
  · intro all
    rw [between.owed, between.taken]
    exact holds (between.history ▸ all)
  · intro all
    obtain ⟨new, taken, owes⟩ := all (stream.invocation remainingBudget schedule) (by simp [Stream.after])
    have earlier := holds fun invocation member => all invocation (List.mem_append_left _ member)
    change stream.owed ++ component.owes _ _ _ = items ((stream.invocation remainingBudget schedule).outcome.call.taken port)
    rw [owes, taken, additive, earlier]
    rfl

end

/-! Repeat and Trim. -/

theorem Buffering.addressed_held {ι : Type} {spec : Buffering ι OutPort FbpMessage}
    (routes : ∀ packet, spec.route packet = (.out, packet)) (pending : List FbpMessage) :
    addressed .out (spec.held pending) = pending := by
  induction pending with
  | nil => rfl
  | cons first rest ih =>
      rw [Buffering.held, List.map_cons, routes, addressed_cons, if_pos rfl]
      exact congrArg (first :: ·) ih

/-- What the consumer has got, then what is in OUT, in the queue and in IN, is what was put on IN. -/
def Delivers (change : FbpMessage → FbpMessage) (pendingOut : List FbpMessage) (ports : Call InPort OutPort) : Prop :=
  (ports.outs .out).taken ++ (ports.outs .out).ring.buffer ++ pendingOut ++ (ports.inbox .inn).map change =
    (ports.ins .inn).fed.map change

/-- A forwarder that flushes first. -/
structure Flushes (spec : Forwarder) (process : List FbpMessage → Call InPort OutPort → Nat → Outcome (List FbpMessage) InPort OutPort) :
    Prop where
  inn : spec.inn = .inn
  routes : ∀ packet, spec.route packet = (.out, packet)
  leaves : spec.leavesWhenFull = true
  outcome : ∀ pending call budget, ∃ verdict,
    process pending call budget = (spec.flushFirst budget pending call.begin).conclude verdict

section
variable {spec : Forwarder} {process : List FbpMessage → Call InPort OutPort → Nat → Outcome (List FbpMessage) InPort OutPort}

theorem Flushes.owes (flushes : Flushes spec process)
    (invocation : Invocation (spec.overflow.component [] process).toComponent) : OwesTaken spec.inn spec.items invocation := by
  obtain ⟨verdict, same⟩ := flushes.outcome invocation.state invocation.call invocation.remainingBudget
  obtain ⟨new, took, _⟩ := (spec.flushFirst_exchanged invocation.remainingBudget invocation.state invocation.call.begin).took
  have taken : invocation.outcome.call.taken spec.inn = invocation.call.taken spec.inn ++ new := by
    change (process invocation.state invocation.call invocation.remainingBudget).call.taken spec.inn = _
    rw [same]
    exact took.taken
  refine ⟨new, taken, ?_⟩
  have fresh : invocation.call.fresh invocation.outcome.call spec.inn = new := by
    unfold Call.fresh
    rw [taken, List.drop_left]
  exact congrArg spec.items fresh

theorem Flushes.keepsOrder (flushes : Flushes spec process) :
    KeepsOrder (spec.overflow.component [] process).toComponent
      fun invocation => spec.Orderly invocation.remainingBudget invocation.state invocation.call := by
  intro invocation orderly
  obtain ⟨state, call, budget⟩ := invocation
  obtain ⟨verdict, same⟩ := flushes.outcome state call budget
  have begun : spec.Orderly budget state call.begin := orderly
  obtain ⟨new, took, order⟩ := Buffering.flushFirst_inOrder begun (.inl flushes.leaves)
  change InOrder call.outs (spec.held state) (spec.items (call.fresh (process state call budget).call spec.inn))
    (process state call budget).call.outs (spec.held (process state call budget).component)
  have fresh : call.fresh (process state call budget).call spec.inn = new := by
    rw [same]
    exact took.fresh
  rw [fresh, same]
  exact order

/-- The packets come out in the order in which they went in, if nothing can get past the queue. -/
theorem Flushes.delivers (flushes : Flushes spec process) {permitted : Stream (spec.overflow.component [] process).toComponent →
      Traffic (spec.overflow.component [] process).toComponent → Prop}
    {inCapacity : InPort → Nat} {outCapacity : OutPort → Nat}
    {stream : Stream (spec.overflow.component [] process).toComponent} {trace : List Returned}
    {change : FbpMessage → FbpMessage}
    (run : (streamMachine (spec.overflow.component [] process).toComponent).Run permitted
      (.start inCapacity outCapacity) trace stream)
    (changes : ∀ packet ∈ (stream.ports.ins .inn).fed, spec.transform packet = some (change packet))
    (orderly : ∀ invocation ∈ stream.history,
      spec.Orderly invocation.remainingBudget invocation.state invocation.call) :
    Delivers change stream.state stream.ports := by
  let ports : Call InPort OutPort := stream.ports
  let pending : List FbpMessage := stream.state
  have owed := owed_taken rfl spec.items_append run fun invocation _ => flushes.owes invocation
  have order : (ports.outs .out).sent ++ addressed .out (spec.held pending) =
      addressed .out (spec.items (ports.taken spec.inn)) := by
    have sequenced := Sequenced.run rfl flushes.keepsOrder run orderly OutPort.out
    rw [owed] at sequenced
    exact sequenced
  have taken : (ports.taken .inn).filterMap spec.transform = (ports.taken .inn).map change := by
    have each : ∀ packet ∈ ports.taken .inn, spec.transform packet = (some ∘ change) packet := fun packet member =>
      changes packet (List.mem_append_left _ member)
    rw [List.filterMap_congr each, List.filterMap_eq_map]
  have items : addressed .out (spec.items (ports.taken .inn)) = (ports.taken .inn).filterMap spec.transform :=
    Buffering.addressed_held flushes.routes _
  rw [Buffering.addressed_held flushes.routes, flushes.inn, items, taken] at order
  unfold Delivers Inlet.fed
  rw [List.map_append]
  exact congrArg (· ++ (ports.inbox .inn).map change) order

end

theorem Repeat.flushes : Flushes Repeat.spec Repeat.process := ⟨rfl, fun _ => rfl, rfl, fun _ _ _ => ⟨_, rfl⟩⟩

theorem Trim.flushes : Flushes Trim.spec Trim.process := ⟨rfl, fun _ => rfl, rfl, fun _ _ _ => ⟨_, rfl⟩⟩

/-- What Trim makes of a text. -/
def Trim.trimmed (ip : FbpMessage) : FbpMessage := .text (trim (ip.asText.getD ""))

/-- Repeat and Trim put out what they take in, in order, while no new packet gets past
the queue; Trim takes texts. -/
theorem repeat_and_trim_keep_order (inCapacity : InPort → Nat) (outCapacity : OutPort → Nat) :
    (∀ (stream : Stream repeatComponent.toComponent) (trace : List Returned),
      (streamMachine repeatComponent.toComponent).Run anyMove (.start inCapacity outCapacity) trace stream →
      (∀ invocation ∈ stream.history,
        Repeat.spec.Orderly invocation.remainingBudget invocation.state invocation.call) →
      Delivers id stream.state stream.ports) ∧
    ∀ (stream : Stream trimComponent.toComponent) (trace : List Returned),
      (streamMachine trimComponent.toComponent).Run anyMove (.start inCapacity outCapacity) trace stream →
      (∀ packet ∈ (stream.ports.ins InPort.inn).fed, packet.asText.isSome = true) →
      (∀ invocation ∈ stream.history,
        Trim.spec.Orderly invocation.remainingBudget invocation.state invocation.call) →
      Delivers Trim.trimmed stream.state stream.ports := by
  constructor
  · intro stream trace run orderly
    exact Repeat.flushes.delivers run (fun _ _ => rfl) orderly
  · intro stream trace run texts orderly
    apply Trim.flushes.delivers run _ orderly
    intro packet member
    obtain ⟨text, read⟩ := Option.isSome_iff_exists.mp (texts packet member)
    simp [Trim.spec, Trim.trimmed, read]

/-- OUT has room for one packet, and the consumer takes one between the calls. -/
def retried : List (Traffic repeatComponent.toComponent) :=
  [.feed InPort.inn (.text "A"), .feed InPort.inn (.text "B"), .invoke 32 fun _ => [], .drain OutPort.out 1,
    .invoke 32 fun _ => []]

theorem repeat_and_trim_keep_order_retried :
    let stream := (streamMachine repeatComponent.toComponent).played (.start (fun _ => 3) fun _ => 1) retried
    Delivers id stream.state stream.ports := by
  have sent : ∀ invocation ∈ ((streamMachine repeatComponent.toComponent).played (.start (fun _ => 3) fun _ => 1)
      retried).history, (Outlets.offer invocation.call.outs
        ((Repeat.spec.held invocation.state).take invocation.remainingBudget)).1 = [] ∧
          (Repeat.spec.held invocation.state).drop invocation.remainingBudget = [] := by decide +kernel
  refine (repeat_and_trim_keep_order _ _).1 _ _ (Machine.run_played _ (Machine.permits_any _ _) rfl) ?_
  intro invocation member port waiting
  obtain ⟨offered, dropped⟩ := sent invocation member
  rw [dropped, List.append_nil] at waiting
  exact absurd (congrArg (addressed port) offered) waiting

/-- The queue is retried while OUT is full; before the packet behind it is pushed, the consumer makes room. -/
def overtaking : List (Traffic repeatComponent.toComponent) :=
  [.feed InPort.inn (.text "A"), .feed InPort.inn (.text "B"), .feed InPort.inn (.text "C"),
    .invoke 32 fun _ => [], .invoke 32 fun _ => [0, 1]]

/-- Repeat pushes C past B. -/
theorem repeat_overtakes :
    let stream := (streamMachine repeatComponent.toComponent).played (.start (fun _ => 3) fun _ => 1) overtaking
    (streamMachine repeatComponent.toComponent).Run anyMove (.start (fun _ => 3) fun _ => 1)
        ((streamMachine repeatComponent.toComponent).reported (.start (fun _ => 3) fun _ => 1) overtaking) stream ∧
      ¬ Delivers id stream.state stream.ports := by
  constructor
  · exact Machine.run_played _ (Machine.permits_any _ _) rfl
  · intro delivers
    have texts := congrArg (List.map FbpMessage.asText) delivers
    exact absurd texts (by decide +kernel)

end Flowd
