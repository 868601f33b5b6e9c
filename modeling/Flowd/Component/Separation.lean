import Flowd.Component.Delivery

namespace Flowd

/-! Equals sends what equals its comparison value to one port and the rest to the other. -/

open Transition

namespace Equals

/-- Where a packet belongs. -/
def destination (cmpValue ip : FbpMessage) : Out := if ip == cmpValue then .true else .false

/-- The consumers have got the packets that belong to them, in the order of IN, and every
packet that was taken is on its output or queued for it. -/
structure Separates (cmpValue : FbpMessage) (pendingPackets : List (FbpMessage × Bool)) (ports : Call In Out) : Prop where
  delivered : ∀ port, (ports.outs port).taken <+: (ports.ins .inn).fed.filter fun ip => destination cmpValue ip = port
  once : ∀ port, (ports.outs port).sent ++ addressed port (base.held pendingPackets) =
    (ports.taken .inn).filter fun ip => destination cmpValue ip = port

theorem Separates.texts {cmpValue : FbpMessage} {pendingPackets : List (FbpMessage × Bool)} {ports : Call In Out}
    (separates : Separates cmpValue pendingPackets ports) (port : Out) : (ports.outs port).taken.map FbpMessage.asText <+:
      ((ports.ins .inn).fed.filter fun ip => destination cmpValue ip = port).map FbpMessage.asText :=
  (separates.delivered port).map _

/-- Consumers that take packets between the calls only. -/
def betweenCalls : Stream component.toComponent → Traffic component.toComponent → Prop
  | _, .invoke _ schedule => ∀ port, schedule port = []
  | _, _ => True

/-- The calls that keep the order. -/
def Orderly (invocation : Invocation component.toComponent) : Prop :=
  (overflow.spec invocation.state invocation.call).Orderly invocation.remainingBudget
    (State.pendingPackets invocation.state) invocation.call

instance decidableOrderly (invocation : Invocation component.toComponent) : Decidable (Orderly invocation) :=
  Outlets.decidableBlocked [Out.true, Out.false] (fun port => by cases port <;> decide) _ _ _

/-! The comparison value. -/

/-- The value in force is the one that was ever sent. -/
structure Steady (cmpValue : FbpMessage) (state : State) (ports : Call In Out) : Prop where
  value : state.cmpValue = none ∨ state.cmpValue = some cmpValue
  waiting : ∀ packet ∈ (ports.ins .cmp).fed, packet = cmpValue

theorem Inlet.pop_fed {inlet next : Inlet FbpMessage} {packet : FbpMessage} (popped : inlet.pop = some (packet, next)) :
    next.fed = inlet.fed ∧ packet ∈ inlet.fed := by
  rcases inlet.pop_cases with ⟨_, none⟩ | ⟨first, rest, found, some⟩
  · rw [none] at popped
    cases popped
  · rw [some] at popped
    cases popped
    simp [Inlet.fed, found]

/-- A packet from CMP is one that was fed, and stays so. -/
theorem pop_cmp {call next : Call In Out} {packet : FbpMessage} (popped : call.pop .cmp = some (packet, next)) :
    (next.ins .cmp).fed = (call.ins .cmp).fed ∧ packet ∈ (call.ins .cmp).fed := by
  unfold Call.pop at popped
  cases found : (call.ins In.cmp).pop with
  | none =>
      rw [found] at popped
      cases popped
  | some result =>
      rw [found] at popped
      cases popped
      simpa using Inlet.pop_fed found

/-- What reading the comparison value makes of the call. -/
theorem readCmp_keeps (state : State) (call : Call In Out) :
    ((readCmp state call).2.ins .cmp).fed = (call.ins .cmp).fed ∧ (readCmp state call).2.signalsIn = call.signalsIn ∧
      ((readCmp state call).1 = state.cmpValue ∨ ∃ packet ∈ (call.ins .cmp).fed, (readCmp state call).1 = some packet) := by
  unfold readCmp
  cases known : state.cmpValue with
  | some value => exact ⟨rfl, rfl, .inl rfl⟩
  | none =>
      cases popped : call.pop In.cmp with
      | none => exact ⟨rfl, rfl, .inl rfl⟩
      | some result =>
          obtain ⟨packet, next⟩ := result
          have facts := pop_cmp popped
          exact ⟨facts.1, (Call.pop_keeps popped).1, .inr ⟨packet, facts.2, rfl⟩⟩

/-- What a call does, once it has a comparison value. -/
inductive Process (state : State) (call : Call In Out) (budget : Nat) (outcome : Outcome State In Out) : Prop where
  | waits (unknown : (readCmp state call.begin).1 = none) (value : state.cmpValue = none)
      (component : outcome.component = state) (inn : outcome.call.ins .inn = call.ins .inn)
      (cmp : (outcome.call.ins .cmp).fed = (call.ins .cmp).fed) (outs : outcome.call.outs = call.outs)
  | compares {cmpValue : FbpMessage} {prepared : Call In Out} {received : Received In Out (FbpMessage × Bool)}
      (known : (readCmp state call.begin).1 = some cmpValue)
      (source : state.cmpValue = some cmpValue ∨ cmpValue ∈ (call.ins .cmp).fed)
      (inn : prepared.ins .inn = call.ins .inn) (outs : prepared.outs = call.outs)
      (signals : prepared.signalsIn = call.signalsIn)
      (loops : received = { base with transform := transform cmpValue }.pollFirst budget state.pendingPackets prepared)
      (pending : outcome.component.pendingPackets = received.pending)
      (outInn : outcome.call.ins .inn = received.call.ins .inn) (outOuts : outcome.call.outs = received.call.outs)
      (cmp : (outcome.call.ins .cmp).fed = (call.ins .cmp).fed)
      (value : outcome.component.cmpValue = some cmpValue ∨
        ∃ packet ∈ (call.ins .cmp).fed, outcome.component.cmpValue = some packet)

theorem process_cases (state : State) (call : Call In Out) (budget : Nat) :
    Process state call budget (process state call budget) := by
  obtain ⟨inn, outs⟩ := readCmp_others state call.begin
  obtain ⟨cmp, signals, source⟩ := readCmp_keeps state call.begin
  unfold process
  cases read : readCmp state call.begin with
  | mk found prepared =>
      rw [read] at inn outs cmp signals source
      cases found with
      | none =>
          have value : state.cmpValue = none := by
            rcases source with same | ⟨packet, _, same⟩
            · exact same.symm
            · cases same
          exact .waits (by rw [read]) value rfl inn cmp outs
      | some cmpValue =>
          have origin : state.cmpValue = some cmpValue ∨ cmpValue ∈ (call.ins .cmp).fed := by
            rcases source with same | ⟨packet, member, same⟩
            · exact .inl same.symm
            · cases same
              exact .inr member
          have exchanged := { base with transform := transform cmpValue }.pollFirst_exchanged budget
            state.pendingPackets prepared
          obtain ⟨new, took, _⟩ := exchanged.took
          have others : ({ base with transform := transform cmpValue }.pollFirst budget state.pendingPackets
              prepared).call.ins .cmp = prepared.ins .cmp := took.others In.cmp (show In.cmp ≠ In.inn by decide)
          dsimp only
          generalize loops : { base with transform := transform cmpValue }.pollFirst budget state.pendingPackets prepared =
            received at others ⊢
          have fed : (received.call.ins .cmp).fed = (call.ins .cmp).fed := by
            rw [others]
            exact cmp
          cases received.ended with
          | some returned =>
              exact .compares (by rw [read]) origin inn outs signals loops.symm rfl rfl rfl fed (.inl rfl)
          | none =>
              dsimp only
              cases popped : received.call.pop In.cmp with
              | none => exact .compares (by rw [read]) origin inn outs signals loops.symm rfl rfl rfl fed (.inl rfl)
              | some result =>
                  obtain ⟨packet, next⟩ := result
                  obtain ⟨insNext, outsNext, _⟩ := Call.pop_others In.inn popped (by decide)
                  obtain ⟨fedNext, member⟩ := pop_cmp popped
                  exact .compares (by rw [read]) origin inn outs signals loops.symm rfl insNext outsNext
                    (fedNext.trans fed) (.inr ⟨packet, fed ▸ member, rfl⟩)

theorem inForce_some {state : State} {call : Call In Out} {cmpValue : FbpMessage}
    (known : (readCmp state call.begin).1 = some cmpValue) : inForce state call = transform cmpValue := by
  unfold inForce
  rw [known]

/-- A call whose consumers do not interfere keeps the order if it is orderly. -/
theorem keepsOrder : KeepsOrder component.toComponent fun invocation =>
    Orderly invocation ∧ invocation.call.outs.Quiet := by
  intro invocation ⟨orderly, quiet⟩
  obtain ⟨state, call, budget⟩ := invocation
  change InOrder call.outs (base.held state.pendingPackets)
    ((overflow.spec state call).items (call.fresh (process state call budget).call .inn))
    (process state call budget).call.outs (base.held (process state call budget).component.pendingPackets)
  have cases := process_cases state call budget
  generalize process state call budget = outcome at cases ⊢
  cases cases with
  | waits unknown value component inn cmp outs =>
      have fresh : call.fresh outcome.call .inn = [] := by
        unfold Call.fresh Call.taken
        rw [inn, List.drop_length]
      rw [fresh, outs, component]
      exact .still fun _ => rfl
  | @compares cmpValue prepared received known source inn outs signals loops pending outInn outOuts cmp value =>
      have force : overflow.spec state call = { base with transform := transform cmpValue } := by
        unfold Overflow.spec
        change { base with transform := inForce state call } = _
        rw [inForce_some known]
      have prepares : { base with transform := transform cmpValue }.Orderly budget state.pendingPackets prepared := by
        have inbox : prepared.inbox .inn = call.inbox .inn := by
          unfold Call.inbox
          rw [inn]
        have same : (overflow.spec state call).Orderly budget state.pendingPackets call := orderly
        rw [force] at same
        unfold Buffering.Orderly at same ⊢
        rw [outs, signals]
        change Outlets.Blocked _ _ (Buffering.items _ ((prepared.inbox .inn).take _))
        rw [inbox]
        exact same
      obtain ⟨new, took, order⟩ := Buffering.pollFirst_inOrder prepares (.inr (outs ▸ quiet))
      rw [← loops] at took order
      have fresh : call.fresh outcome.call .inn = new := by
        unfold Call.fresh Call.taken
        rw [outInn, ← inn]
        exact took.fresh
      rw [fresh, force, pending, outOuts, ← outs]
      exact order

/-- The packets that a list of packets becomes. -/
def routed (cmpValue : FbpMessage) (packets : List FbpMessage) : List (Out × FbpMessage) :=
  packets.map fun ip => (destination cmpValue ip, ip)

theorem items_routed (cmpValue : FbpMessage) (packets : List FbpMessage) :
    { base with transform := transform cmpValue }.items packets = routed cmpValue packets := by
  unfold Buffering.items routed
  have each : transform cmpValue = some ∘ fun ip => (ip, ip == cmpValue) := rfl
  change (packets.filterMap (transform cmpValue)).map base.route = _
  rw [each, List.filterMap_eq_map, List.map_map]
  rfl

theorem addressed_routed (cmpValue : FbpMessage) (packets : List FbpMessage) (port : Out) :
    addressed port (routed cmpValue packets) = packets.filter fun ip => destination cmpValue ip = port := by
  induction packets with
  | nil => rfl
  | cons first rest ih =>
      rw [routed, List.map_cons, addressed_cons, List.filter_cons]
      by_cases here : destination cmpValue first = port
      · simp only [here, if_true, decide_true]
        exact congrArg (first :: ·) ih
      · simp only [here, if_false, decide_false, Bool.false_eq_true]
        exact ih

/-- A call in which the one value is in force keeps it so and owes what it takes. -/
theorem process_steady {cmpValue : FbpMessage} {state : State} {call : Call In Out}
    (steady : Steady cmpValue state call) (budget : Nat) :
    Steady cmpValue (process state call budget).component (process state call budget).call ∧
      ∃ new, (process state call budget).call.taken .inn = call.taken .inn ++ new ∧
        (overflow.spec state call).items (call.fresh (process state call budget).call .inn) = routed cmpValue new := by
  have cases := process_cases state call budget
  generalize process state call budget = outcome at cases ⊢
  cases cases with
  | waits unknown value component inn cmp outs =>
      refine ⟨⟨component ▸ steady.value, cmp ▸ steady.waiting⟩, [], ?_, ?_⟩
      · unfold Call.taken
        rw [inn, List.append_nil]
      · have fresh : call.fresh outcome.call .inn = [] := by
          unfold Call.fresh Call.taken
          rw [inn, List.drop_length]
        rw [fresh]
        rfl
  | @compares found prepared received known source inn outs signals loops pending outInn outOuts cmp value =>
      have same : found = cmpValue := by
        rcases source with stored | fed
        · rcases steady.value with none | some
          · rw [none] at stored
            cases stored
          · rw [some] at stored
            exact (Option.some.inj stored).symm
        · exact steady.waiting found fed
      subst same
      have exchanged := { base with transform := transform found }.pollFirst_exchanged budget state.pendingPackets prepared
      rw [← loops] at exchanged
      obtain ⟨new, took, _⟩ := exchanged.took
      have taken : outcome.call.taken .inn = call.taken .inn ++ new := by
        have prepares := took.taken
        unfold Call.taken at prepares ⊢
        rw [outInn, ← inn]
        exact prepares
      have fresh : call.fresh outcome.call .inn = new := by
        unfold Call.fresh
        rw [taken, List.drop_left]
      refine ⟨⟨?_, cmp ▸ steady.waiting⟩, new, taken, ?_⟩
      · rcases value with kept | ⟨packet, member, changed⟩
        · exact .inr kept
        · rw [steady.waiting packet member] at changed
          exact .inr changed
      · rw [fresh, ← items_routed]
        unfold Overflow.spec Buffering.items
        change ((new.filterMap (inForce state call)).map base.route) = _
        rw [inForce_some known]

/-- Every call was made with the one value, or before it was there. -/
structure SteadyStream (cmpValue : FbpMessage) (stream : Stream component.toComponent) : Prop where
  now : Steady cmpValue stream.state stream.ports
  calls : ∀ invocation ∈ stream.history, OwesTaken In.inn (routed cmpValue) invocation

theorem steady_run {permitted : Stream component.toComponent → Traffic component.toComponent → Prop}
    {inCapacity : In → Nat} {outCapacity : Out → Nat} {stream : Stream component.toComponent} {trace : List Returned}
    {cmpValue : FbpMessage}
    (run : (streamMachine component.toComponent).Run permitted (.start inCapacity outCapacity) trace stream) :
    (∀ packet ∈ (stream.ports.ins In.cmp).fed, packet = cmpValue) → SteadyStream cmpValue stream := by
  refine Machine.Run.invariant (fun stream : Stream component.toComponent =>
    (∀ packet ∈ (stream.ports.ins In.cmp).fed, packet = cmpValue) → SteadyStream cmpValue stream) run
    (fun waiting => ⟨⟨.inl rfl, waiting⟩, fun _ member => by cases member⟩) ?_
  intro stream action next events _ holds step
  rcases Stream.step_cases step with between | ⟨remainingBudget, schedule, _, rfl⟩
  · intro all
    have earlier := holds fun packet member => all packet (between.fed In.cmp packet member)
    exact ⟨⟨between.state ▸ earlier.now.value, all⟩, between.history ▸ earlier.calls⟩
  · intro all
    have fed : ((process stream.state (stream.invocation remainingBudget schedule).call remainingBudget).call.ins
        .cmp).fed = (stream.ports.ins In.cmp).fed := by
      cases process_cases stream.state (stream.invocation remainingBudget schedule).call remainingBudget with
      | waits unknown value component inn cmp outs => exact cmp
      | compares known source inn outs signals loops pending outInn outOuts cmp value => exact cmp
    have earlier := holds fun packet member => all packet (fed.symm ▸ member)
    have begun : Steady cmpValue stream.state (stream.invocation remainingBudget schedule).call :=
      ⟨earlier.now.value, earlier.now.waiting⟩
    obtain ⟨steady, owes⟩ := process_steady begun remainingBudget
    refine ⟨steady, fun invocation member => ?_⟩
    rcases List.mem_append.mp member with old | new
    · exact earlier.calls invocation old
    · rw [List.mem_singleton.mp new]
      exact owes

/-- Where the consumers take packets between the calls only, no call meets one that does. -/
theorem quiet_run {inCapacity : In → Nat} {outCapacity : Out → Nat} {stream : Stream component.toComponent}
    {trace : List Returned}
    (run : (streamMachine component.toComponent).Run betweenCalls (.start inCapacity outCapacity) trace stream) :
    ∀ invocation ∈ stream.history, invocation.call.outs.Quiet := by
  refine Machine.Run.invariant (fun stream : Stream component.toComponent =>
    ∀ invocation ∈ stream.history, invocation.call.outs.Quiet) run (fun _ member => by cases member) ?_
  intro stream action next events allowed holds step
  rcases Stream.step_cases step with between | ⟨remainingBudget, schedule, rfl, rfl⟩
  · rw [between.history]
    exact holds
  · intro invocation member
    rcases List.mem_append.mp member with old | new
    · exact holds invocation old
    · rw [List.mem_singleton.mp new]
      exact allowed

/-- Each output gets the packets that belong to it in the order of IN, while no new packet
gets past one that is queued for the same output. -/
theorem equals_keeps_order {inCapacity : In → Nat} {outCapacity : Out → Nat} {stream : Stream component.toComponent}
    {trace : List Returned} {cmpValue : FbpMessage}
    (run : (streamMachine component.toComponent).Run betweenCalls (.start inCapacity outCapacity) trace stream)
    (value : ∀ packet ∈ (stream.ports.ins In.cmp).fed, packet = cmpValue)
    (orderly : ∀ invocation ∈ stream.history, Orderly invocation) :
    Separates cmpValue (State.pendingPackets stream.state) stream.ports := by
  have quiet := quiet_run run
  have sequenced := Sequenced.run rfl keepsOrder run fun invocation member =>
    ⟨orderly invocation member, quiet invocation member⟩
  have owed := owed_taken rfl (fun _ _ => List.map_append) run (steady_run run value).calls
  rw [owed] at sequenced
  let ports : Call In Out := stream.ports
  have once : ∀ port, (ports.outs port).sent ++ addressed port (base.held (State.pendingPackets stream.state)) =
      (ports.taken .inn).filter fun ip => destination cmpValue ip = port := by
    intro port
    rw [← addressed_routed]
    exact sequenced port
  refine ⟨fun port => ?_, once⟩
  have same := once port
  have whole : (ports.outs port).taken ++ ((ports.outs port).ring.buffer ++
      addressed port (base.held (State.pendingPackets stream.state)) ++
        (ports.inbox .inn).filter fun ip => destination cmpValue ip = port) =
      (ports.ins .inn).fed.filter fun ip => destination cmpValue ip = port := by
    unfold Inlet.fed
    rw [List.filter_append]
    unfold Call.taken Outlet.sent at same
    rw [← same]
    simp only [Call.inbox, List.append_assoc]
  exact ⟨_, whole⟩

theorem permits_betweenCalls {actions : List (Traffic component.toComponent)}
    (quiet : ∀ action ∈ actions, ∀ stream, betweenCalls stream action) (first : Stream component.toComponent) :
    (streamMachine component.toComponent).Permits betweenCalls first actions := by
  induction actions generalizing first with
  | nil => trivial
  | cons action rest ih =>
      refine ⟨quiet action List.mem_cons_self first, ?_⟩
      split
      · trivial
      · exact ih (fun other member => quiet other (List.mem_cons_of_mem _ member)) _

/-- TRUE fills, so that two packets wait for it, and then it is drained. -/
def waitForTrue : List (Traffic component.toComponent) :=
  [.feed In.cmp (.text "x"), .feed In.inn (.text "x"), .feed In.inn (.text "x"), .invoke 32 fun _ => [],
    .feed In.inn (.text "x"), .invoke 32 fun _ => [], .drain Out.true 1, .invoke 32 fun _ => []]

theorem equals_keeps_order_waitForTrue :
    let stream := (streamMachine component.toComponent).played (.start (fun _ => 5) fun _ => 1) waitForTrue
    stream.history.map (fun invocation => (State.pendingPackets invocation.state).length) = [0, 1, 2] ∧
      Separates (.text "x") (State.pendingPackets stream.state) stream.ports := by
  have texts : (((streamMachine component.toComponent).played (.start (fun _ => 5) fun _ => 1) waitForTrue).ports.ins
      In.cmp).fed = [.text "x"] := rfl
  refine ⟨by decide +kernel, equals_keeps_order (Machine.run_played _ (permits_betweenCalls ?_ _) rfl) ?_ ?_⟩
  · intro action member stream
    simp only [waitForTrue, List.mem_cons, List.not_mem_nil, or_false] at member
    rcases member with rfl | rfl | rfl | rfl | rfl | rfl | rfl | rfl
    all_goals first | exact fun _ => rfl | trivial
  · intro packet member
    rw [texts] at member
    exact List.mem_singleton.mp member
  · decide +kernel

/-- Both outputs fill, the second of two packets waits for each, then FALSE is drained and another packet for it comes. -/
def stuckBehind : List (Traffic component.toComponent) :=
  [.feed In.cmp (.text "x"), .feed In.inn (.text "x"), .feed In.inn (.text "x"), .feed In.inn (.text "a"),
    .feed In.inn (.text "b"), .invoke 32 fun _ => [], .drain Out.false 1, .feed In.inn (.text "c"),
    .invoke 32 fun _ => [], .drain Out.false 1]

/-- The queue waits for TRUE, so that "c" gets past "b". -/
theorem equals_overtakes :
    let stream := (streamMachine component.toComponent).played (.start (fun _ => 5) fun _ => 1) stuckBehind
    (streamMachine component.toComponent).Run betweenCalls (.start (fun _ => 5) fun _ => 1)
        ((streamMachine component.toComponent).reported (.start (fun _ => 5) fun _ => 1) stuckBehind) stream ∧
      (stream.ports.outs Out.false).taken.map FbpMessage.asText = [some "a", some "c"] ∧
      (stream.ports.ins In.inn).fed.map FbpMessage.asText = [some "x", some "x", some "a", some "b", some "c"] ∧
      ¬ Separates (.text "x") (State.pendingPackets stream.state) stream.ports := by
  have delivered : (((streamMachine component.toComponent).played (.start (fun _ => 5) fun _ => 1)
      stuckBehind).ports.outs Out.false).taken.map FbpMessage.asText = [some "a", some "c"] := by decide +kernel
  have belongs : ((((streamMachine component.toComponent).played (.start (fun _ => 5) fun _ => 1)
      stuckBehind).ports.ins In.inn).fed.filter fun ip => destination (.text "x") ip = .false).map
        FbpMessage.asText = [some "a", some "b", some "c"] := by decide +kernel
  refine ⟨Machine.run_played _ (permits_betweenCalls ?_ _) rfl, delivered, by decide +kernel, ?_⟩
  · intro action member stream
    simp only [stuckBehind, List.mem_cons, List.not_mem_nil, or_false] at member
    rcases member with rfl | rfl | rfl | rfl | rfl | rfl | rfl | rfl | rfl | rfl
    all_goals first | exact fun _ => rfl | trivial
  · intro separates
    have texts := separates.texts Out.false
    rw [delivered, belongs] at texts
    exact absurd texts (by decide)

end Equals

end Flowd
