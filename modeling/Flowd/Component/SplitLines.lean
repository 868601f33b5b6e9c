import Flowd.Component.Basic

namespace Flowd

/-! SplitLines: a packet becomes the packets of its lines. -/

namespace SplitLines

/-- `line_iter`, with the lines that are still to come. -/
abbrev State := Option (List FbpMessage)

/-- A line of bytes is sent as text where it is valid UTF-8. -/
def byteLine (line : List UInt8) : FbpMessage :=
  match fromUtf8 line with
  | some text => .text text
  | none => .bytes line

/-- The lines of a packet; messages of other types have none. -/
def lines (ip : FbpMessage) : List FbpMessage :=
  match ip.asText with
  | some text => (split text '\n').map .text
  | none =>
      match ip.asBytes with
      | some bytes => (bytes.splitOn 10).map byteLine
      | none => []

structure Sent where
  lineIter : State
  call : Call InPort OutPort
  remainingBudget : Nat
  linesSent : Nat

/-- The sending loop.  The iterator has moved past a line that is refused. -/
def send : List FbpMessage → Nat → Call InPort OutPort → Sent
  | lines, 0, call => ⟨some lines, call, 0, 0⟩
  | [], budget + 1, call => ⟨none, call, budget + 1, 0⟩
  | line :: rest, budget + 1, call =>
      match call.push (.out, line) with
      | (call, true) =>
          let sent := send rest budget call
          { sent with linesSent := sent.linesSent + 1 }
      | (call, false) => ⟨some rest, call, budget + 1, 0⟩

/-- A new packet is taken only if there is no active iterator. -/
def takeInput (state : State) (call : Call InPort OutPort) : State × Call InPort OutPort :=
  match state with
  | some lines => (some lines, call)
  | none =>
      match call.pop .inn with
      | none => (none, call)
      | some (ip, call) => (some (lines ip), call)

def finish (call : Call InPort OutPort) : Returned :=
  if call.isAbandoned .inn then .result .finished else call.didWork

def process (state : State) (call : Call InPort OutPort) (remainingBudget : Nat) : Outcome State InPort OutPort :=
  match call.begin.poll FbpMessage.textOrUtf8 with
  | (call, true) => ⟨state, call, remainingBudget, .result .finished⟩
  | (call, false) =>
      if remainingBudget = 0 then ⟨state, call, remainingBudget, finish call⟩
      else
        match call.poll FbpMessage.textOrUtf8 with
        | (call, true) => ⟨state, call, remainingBudget, .result .finished⟩
        | (call, false) =>
            match takeInput state call with
            | (none, call) => ⟨none, call, remainingBudget, finish call⟩
            | (some lines, call) =>
                let sent := send lines remainingBudget call
                let call := if 0 < sent.linesSent then sent.call.worked else sent.call
                ⟨sent.lineIter, call, sent.remainingBudget, finish call⟩

/-- One of the two polls finds a stop. -/
def stops (call : Call InPort OutPort) (remainingBudget : Nat) : Bool :=
  let first := call.begin.poll FbpMessage.textOrUtf8
  first.2 || remainingBudget != 0 && (first.1.poll FbpMessage.textOrUtf8).2

def items (lines : List FbpMessage) : List (OutPort × FbpMessage) := lines.map fun line => (.out, line)

/-- The lines that a call gets to see. -/
def available (state : State) (call : Call InPort OutPort) : List FbpMessage :=
  state.getD ((call.inbox .inn).head?.elim [] lines)

def component : StreamComponent where
  In := InPort
  Out := OutPort
  State := State
  new := none
  process
  reads := FbpMessage.textOrUtf8
  streams _ := True
  held state := items (state.getD [])
  owes _ before after := items ((before.fresh after .inn).flatMap lines)
  exposed state call budget :=
    if stops call budget then [] else items ((available state call).take budget)
  declines _ _ := false
  affords state call budget :=
    (state.isSome → call.inbox .inn = []) ∧ (call.inbox .inn).length ≤ min 1 budget ∧
      (available state call).length ≤ budget
  backlog state call := items (available state call)

/-- What the sending loop does. -/
structure Sends (lines : List FbpMessage) (budget : Nat) (call : Call InPort OutPort) (sent : Sent) : Prop where
  ins : sent.call.ins = call.ins
  lost : ∃ lost, Balance call.outs (items lines) [] sent.call.outs (items (sent.lineIter.getD [])) lost ∧
    (lost = [] ↔ call.outs.fits (items (lines.take budget)) = true)
  left : call.outs.fits (items (lines.take budget)) = true → sent.lineIter.getD [] = lines.drop budget

theorem sends (lines : List FbpMessage) (budget : Nat) (call : Call InPort OutPort) :
    Sends lines budget call (send lines budget call) := by
  induction budget generalizing lines call with
  | zero =>
      have sent : send lines 0 call = ⟨some lines, call, 0, 0⟩ := by
        cases lines <;> rfl
      rw [sent]
      exact ⟨rfl, ⟨[], .still fun _ => rfl, fun _ => rfl, fun _ => rfl⟩, fun _ => rfl⟩
  | succ budget ih =>
      cases lines with
      | nil => exact ⟨rfl, ⟨[], .still fun _ => rfl, fun _ => rfl, fun _ => rfl⟩, fun _ => rfl⟩
      | cons line rest =>
          unfold send
          rcases call.push_cases (OutPort.out, line) with ⟨outs, pushed, sent, fits⟩ | ⟨outs, refused, sent, fits⟩
          · rw [pushed]
            obtain ⟨ins, ⟨lost, balance, exact⟩, left⟩ := ih rest { call with outs }
            dsimp only
            have same : call.outs.fits (items ((line :: rest).take (budget + 1))) =
                outs.fits (items (rest.take budget)) := fits _
            rw [← same] at exact left
            exact ⟨ins, ⟨lost, (Balance.release sent).trans balance, exact⟩, left⟩
          · rw [refused]
            have unfit : call.outs.fits (items ((line :: rest).take (budget + 1))) = false := fits _
            refine ⟨rfl, ⟨[(.out, line)], .abandon sent, ?_⟩, fun fit => ?_⟩
            · rw [unfit]
              simp
            · cases unfit.symm.trans fit

theorem finish_ne_finished {call : Call InPort OutPort} (finished : finish call = .result .finished) :
    call.isAbandoned .inn = true := by
  unfold finish at finished
  split at finished
  · assumption
  · exact absurd finished (Call.didWork_ne_finished _)

/-- What a call does that no stop ends. -/
structure Splits (state : State) (call : Call InPort OutPort) (budget : Nat)
    (outcome : Outcome State InPort OutPort) : Prop where
  lost : ∃ lost, Balance call.outs (items (state.getD [])) (items ((call.fresh outcome.call .inn).flatMap lines))
      outcome.call.outs (items (outcome.component.getD [])) lost ∧
    (lost = [] ↔ call.outs.fits (items ((available state call).take budget)) = true)
  reason : outcome.returned = .result .finished → call.isAbandoned .inn = true
  left : call.outs.fits (items ((available state call).take budget)) = true →
    (outcome.call.inbox .inn = [] ∧ outcome.component.getD [] = [] ↔
      (state.isSome → call.inbox .inn = []) ∧ (call.inbox .inn).length ≤ min 1 budget ∧
        (available state call).length ≤ budget)

/-- A call that takes nothing and sends nothing. -/
theorem splits_nothing {state : State} {call after : Call InPort OutPort} {budget : Nat} (ins : after.ins = call.ins)
    (outs : after.outs = call.outs) (idle : budget = 0 ∨ state = none ∧ call.inbox .inn = []) :
    Splits state call budget ⟨state, after, budget, finish after⟩ := by
  have nothing : (available state call).take budget = [] := by
    rcases idle with rfl | ⟨rfl, empty⟩
    · rfl
    · simp [available, empty]
  have fresh : call.fresh after .inn = [] := by
    simp [Call.fresh, Call.taken, ins]
  have inbox : after.inbox .inn = call.inbox .inn := by
    rw [Call.inbox, Call.inbox, ins]
  refine ⟨⟨[], ?_, ?_⟩, fun finished => ?_, fun _ => ?_⟩
  · rw [fresh, outs]
    exact .still fun _ => rfl
  · rw [nothing]
    exact ⟨fun _ => rfl, fun _ => rfl⟩
  · have abandoned := finish_ne_finished finished
    rwa [Call.isAbandoned, ins] at abandoned
  · rw [inbox]
    rcases idle with rfl | ⟨rfl, empty⟩
    · cases state with
      | none => cases waits : call.inbox .inn <;> simp [available, waits]
      | some lines => simp [available]
    · simp [available, empty]

/-- A call that sends the lines of `taken`. -/
theorem splits_sent {state : State} {call between after : Call InPort OutPort} {budget : Nat}
    {taken : List FbpMessage} (took : Call.Took .inn call between taken) (outs : between.outs = call.outs)
    (kind : (∃ lines, state = some lines ∧ taken = []) ∨ state = none ∧ ∃ ip, taken = [ip])
    (positive : budget ≠ 0)
    (ins : after.ins = (send (available state call) budget between).call.ins)
    (sentOuts : after.outs = (send (available state call) budget between).call.outs) :
    Splits state call budget ⟨(send (available state call) budget between).lineIter, after,
      (send (available state call) budget between).remainingBudget, finish after⟩ := by
  obtain ⟨insSent, ⟨lost, balance, exact⟩, left⟩ := sends (available state call) budget between
  generalize send (available state call) budget between = sent at ins sentOuts insSent balance exact left ⊢
  have took : Call.Took .inn call after taken := took.congr (ins.trans insSent)
  rw [← sentOuts, outs] at balance
  rw [outs] at exact left
  refine ⟨⟨lost, ?_, exact⟩, fun finished => ?_, fun fit => ?_⟩
  · rw [took.fresh]
    rcases kind with ⟨lines, rfl, rfl⟩ | ⟨rfl, ip, rfl⟩
    · exact balance
    · have head : available none call = lines ip := by
        simp [available, took.inbox]
      rw [head] at balance
      rw [List.flatMap_singleton]
      exact balance.swap
  · rw [← took.abandoned]
    exact finish_ne_finished finished
  · rw [left fit, List.drop_eq_nil_iff]
    have inbox := took.inbox
    rcases kind with ⟨lines, rfl, rfl⟩ | ⟨rfl, ip, rfl⟩
    · rw [List.nil_append] at inbox
      rw [inbox]
      constructor
      · rintro ⟨empty, short⟩
        exact ⟨fun _ => empty, by simp [empty], short⟩
      · rintro ⟨empty, _, short⟩
        exact ⟨empty rfl, short⟩
    · have size : (call.inbox .inn).length = (after.inbox .inn).length + 1 := by
        rw [inbox]
        rfl
      have empty : after.inbox .inn = [] ↔ (call.inbox .inn).length ≤ min 1 budget := by
        rw [← List.length_eq_zero_iff]
        omega
      change after.inbox .inn = [] ∧ _ ↔ _
      rw [empty]
      simp

/-- What the sending loop leaves, returned. -/
def concluded (sent : Sent) : Outcome State InPort OutPort :=
  let call := if 0 < sent.linesSent then sent.call.worked else sent.call
  ⟨sent.lineIter, call, sent.remainingBudget, finish call⟩

/-- Before the lines are sent, the packet that they come from has been taken. -/
structure Prepared (state : State) (call between : Call InPort OutPort) (taken : List FbpMessage) : Prop where
  took : Call.Took .inn call between taken
  still : taken = [] → between.ins = call.ins
  outs : between.outs = call.outs
  workUnits : between.workUnits = 0
  kind : (∃ lines, state = some lines ∧ taken = []) ∨ state = none ∧
    ((∃ ip, taken = [ip]) ∨ call.inbox .inn = [] ∧ taken = [])

theorem available_nothing {call : Call InPort OutPort} (empty : call.inbox .inn = []) : available none call = [] := by
  simp [available, empty]

theorem send_nothing {budget : Nat} {call : Call InPort OutPort} (positive : budget ≠ 0) :
    send [] budget call = ⟨none, call, budget, 0⟩ := by
  cases budget with
  | zero => exact absurd rfl positive
  | succ budget => rfl

/-- A call without a budget, or stopped, leaves all as it is; the others send lines. -/
theorem process_cases (state : State) (call : Call InPort OutPort) (budget : Nat) :
    (stops call budget = true ∧ (process state call budget).component = state ∧
      (process state call budget).call.ins = call.ins ∧ (process state call budget).call.outs = call.outs ∧
      (process state call budget).call.Stopped FbpMessage.textOrUtf8) ∨
    stops call budget = false ∧
      ((budget = 0 ∧ ∃ after, after.ins = call.ins ∧ after.outs = call.outs ∧ after.workUnits = 0 ∧
          process state call budget = ⟨state, after, budget, finish after⟩) ∨
        budget ≠ 0 ∧ ∃ between taken, Prepared state call between taken ∧
          process state call budget = concluded (send (available state call) budget between)) := by
  obtain ⟨signalsIn, signalsOut, new, same, stop⟩ := call.begin.poll_cases FbpMessage.textOrUtf8
  unfold process stops
  generalize call.begin.poll FbpMessage.textOrUtf8 = result at same stop ⊢
  obtain ⟨first, firstStop⟩ := result
  have ins : first.ins = call.ins := by
    rw [show first = _ from same]
    rfl
  have outs : first.outs = call.outs := by
    rw [show first = _ from same]
    rfl
  have fresh : first.workUnits = 0 := by
    rw [show first = _ from same]
    rfl
  cases firstStop with
  | true => exact .inl ⟨rfl, rfl, ins, outs, stop rfl⟩
  | false =>
      dsimp only
      split
      · next spent => exact .inr ⟨by simp [spent], .inl ⟨spent, first, ins, outs, fresh, rfl⟩⟩
      · next positive =>
          obtain ⟨signalsIn, signalsOut, new, same, stop⟩ := first.poll_cases FbpMessage.textOrUtf8
          generalize first.poll FbpMessage.textOrUtf8 = result at same stop ⊢
          obtain ⟨second, secondStop⟩ := result
          have ins : second.ins = call.ins := by
            rw [show second = _ from same]
            exact ins
          have outs : second.outs = call.outs := by
            rw [show second = _ from same]
            exact outs
          have fresh : second.workUnits = 0 := by
            rw [show second = _ from same]
            exact fresh
          cases secondStop with
          | true => exact .inl ⟨by simpa using positive, rfl, ins, outs, stop rfl⟩
          | false =>
              refine .inr ⟨by simp, .inr ⟨positive, ?_⟩⟩
              dsimp only
              have begun : Call.Took InPort.inn call second [] := .of_eq ins
              cases state with
              | some lines => exact ⟨second, [], ⟨begun, fun _ => ins, outs, fresh, .inl ⟨lines, rfl, rfl⟩⟩, rfl⟩
              | none =>
                  rcases second.pop_cases .inn with
                    ⟨empty, popped⟩ | ⟨ip, rest, next, found, popped, took, _, kept, _, units⟩
                  · have waits : call.inbox .inn = [] := by
                      rw [← empty, Call.inbox, Call.inbox, ins]
                    refine ⟨second, [], ⟨begun, fun _ => ins, outs, fresh, .inr ⟨rfl, .inr ⟨waits, rfl⟩⟩⟩, ?_⟩
                    rw [available_nothing waits, send_nothing positive]
                    simp only [takeInput, popped]
                    rfl
                  · have took : Call.Took InPort.inn call next [ip] := by simpa using begun.trans took
                    have first : available none call = lines ip := by
                      simp [available, took.inbox]
                    refine ⟨next, [ip], ⟨took, fun none => (by cases none), kept.trans outs, units.trans fresh, .inr ⟨rfl, .inl ⟨ip, rfl⟩⟩⟩, ?_⟩
                    rw [first]
                    simp only [takeInput, popped]
                    rfl

theorem concluded_ins (sent : Sent) : (concluded sent).call.ins = sent.call.ins := by
  unfold concluded
  dsimp only
  split <;> rfl

theorem concluded_outs (sent : Sent) : (concluded sent).call.outs = sent.call.outs := by
  unfold concluded
  dsimp only
  split <;> rfl

/-- A call is stopped, or it does its work. -/
theorem processed (state : State) (call : Call InPort OutPort) (budget : Nat) :
    (stops call budget = true ∧ (process state call budget).component = state ∧
      (process state call budget).call.ins = call.ins ∧ (process state call budget).call.outs = call.outs ∧
      (process state call budget).call.Stopped FbpMessage.textOrUtf8) ∨
    stops call budget = false ∧ Splits state call budget (process state call budget) := by
  refine (process_cases state call budget).imp id (And.imp_right fun goes => ?_)
  rcases goes with ⟨spent, after, ins, outs, _, same⟩ | ⟨positive, between, taken, prepared, same⟩
  · rw [same]
    exact splits_nothing ins outs (.inl spent)
  · rw [same]
    rcases prepared.kind with active | ⟨unset, one | ⟨empty, none⟩⟩
    · exact splits_sent prepared.took prepared.outs (.inl active) positive (concluded_ins _) (concluded_outs _)
    · exact splits_sent prepared.took prepared.outs (.inr ⟨unset, one⟩) positive (concluded_ins _) (concluded_outs _)
    · subst unset none
      rw [available_nothing empty, send_nothing positive]
      exact splits_nothing (prepared.still rfl) prepared.outs (.inr ⟨rfl, empty⟩)

theorem ledger : Ledger component.toComponent := by
  rintro ⟨(state : State), (call : Call InPort OutPort), budget⟩
  have called : (Invocation.mk state call budget : Invocation component.toComponent).outcome =
    process state call budget := rfl
  rw [called]
  have processed := processed state call budget
  generalize process state call budget = outcome at processed ⊢
  change ∃ lost, Balance call.outs (items (state.getD [])) (items ((call.fresh outcome.call .inn).flatMap lines))
    outcome.call.outs (items (outcome.component.getD [])) lost ∧ (outcome.returned ≠ .panicked → (lost = [] ↔
      call.outs.fits (if stops call budget then [] else items ((available state call).take budget)) = true))
  rcases processed with ⟨stopped, same, ins, outs, _⟩ | ⟨goes, splits⟩
  · have fresh : call.fresh outcome.call .inn = [] := by
      simp [Call.fresh, Call.taken, ins]
    rw [stopped, fresh, outs, same]
    exact ⟨[], .still fun _ => rfl, fun _ => ⟨fun _ => rfl, fun _ => rfl⟩⟩
  · obtain ⟨lost, balance, exact⟩ := splits.lost
    rw [goes]
    exact ⟨lost, balance, fun _ => exact⟩

theorem reasonable : Reasonable component.toComponent := by
  rintro ⟨(state : State), (call : Call InPort OutPort), budget⟩ finished _
  rcases processed state call budget with ⟨_, _, _, _, stop⟩ | ⟨_, splits⟩
  · exact .inl stop
  · refine .inr (.inr fun port _ => ?_)
    cases port
    exact splits.reason finished

theorem closes : Closes component := by
  rintro ⟨(state : State), (call : Call InPort OutPort), budget⟩ ⟨finished, unasked⟩
  rcases processed state call budget with ⟨_, _, _, _, stop⟩ | ⟨goes, splits⟩
  · exact absurd stop unasked
  · have left := splits.left
    have drained : ((process state call budget).call.inbox .inn = [] ∧
        (process state call budget).component.getD [] = []) ∧
        call.outs.fits (items ((available state call).take budget)) = true ↔
        ((state.isSome → call.inbox .inn = []) ∧ (call.inbox .inn).length ≤ min 1 budget ∧
          (available state call).length ≤ budget) ∧ call.outs.fits (items (available state call)) = true := by
      constructor
      · rintro ⟨empty, fit⟩
        have ample := (left fit).mp empty
        exact ⟨ample, by rwa [List.take_of_length_le ample.2.2] at fit⟩
      · rintro ⟨ample, fit⟩
        rw [List.take_of_length_le ample.2.2] at left ⊢
        exact ⟨(left fit).mpr ample, fit⟩
    refine Iff.trans ?_ drained
    change _ ∧ items ((process state call budget).component.getD []) = [] ∧
      call.outs.fits (if stops call budget then [] else items ((available state call).take budget)) = true ↔ _
    rw [goes]
    constructor
    · rintro ⟨empty, none, fit⟩
      exact ⟨⟨empty .inn trivial, List.map_eq_nil_iff.mp none⟩, fit⟩
    · rintro ⟨⟨empty, none⟩, fit⟩
      refine ⟨?_, List.map_eq_nil_iff.mpr none, fit⟩
      intro port _
      cases port
      exact empty

end SplitLines

end Flowd
