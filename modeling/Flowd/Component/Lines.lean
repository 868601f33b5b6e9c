import Flowd.Component.Delivery
import Flowd.Component.Dispatch
import Flowd.Component.SplitLines

namespace Flowd

/-! When SplitLines leaves the ready queue with nothing left to do. -/

open Transition

namespace SplitLines

/-- Where OUT has room, as many lines are sent as the budget allows. -/
structure Emits (lines : List FbpMessage) (budget : Nat) (call : Call InPort OutPort) (sent : Sent) : Prop where
  emitted : (sent.call.outs .out).sent = (call.outs .out).sent ++ lines.take budget
  workUnits : sent.call.workUnits = call.workUnits
  linesSent : sent.linesSent = (lines.take budget).length

theorem emits {lines : List FbpMessage} {budget : Nat} {call : Call InPort OutPort}
    (fit : call.outs.fits (items (lines.take budget)) = true) : Emits lines budget call (send lines budget call) := by
  induction budget generalizing lines call with
  | zero =>
      have sent : send lines 0 call = ⟨some lines, call, 0, 0⟩ := by
        cases lines <;> rfl
      rw [sent]
      exact ⟨(List.append_nil _).symm, rfl, rfl⟩
  | succ budget ih =>
      cases lines with
      | nil => exact ⟨(List.append_nil _).symm, rfl, rfl⟩
      | cons line rest =>
          unfold send
          rcases call.push_cases (OutPort.out, line) with ⟨outs, pushed, sent, fits⟩ | ⟨outs, refused, sent, fits⟩
          · have room : outs.fits (items (rest.take budget)) = true := (fits _).symm.trans fit
            have rest : Emits rest budget { call with outs } (send rest budget { call with outs }) := ih room
            obtain ⟨emitted, workUnits, linesSent⟩ := rest
            rw [pushed]
            refine ⟨?_, workUnits, congrArg (· + 1) linesSent⟩
            rw [emitted, sent, addressed_singleton_self, List.append_assoc]
            rfl
          · exact absurd ((fits _).symm.trans fit) (by decide)

/-- A call that no stop ends, with room on OUT. -/
structure Goes (state : State) (call : Call InPort OutPort) (budget : Nat) (outcome : Outcome State InPort OutPort) :
    Prop where
  taken : ∃ new, outcome.call.taken .inn = call.taken .inn ++ new ∧
    (outcome.call.outs .out).sent ++ outcome.component.getD [] =
      (call.outs .out).sent ++ state.getD [] ++ new.flatMap lines
  returned : outcome.returned = if call.isAbandoned .inn then .result .finished
    else if (available state call).take budget = [] then .result .noWork else .result (.didWork 1)

variable {state : State} {call between : Call InPort OutPort} {budget : Nat} {taken : List FbpMessage}

theorem Prepared.available_eq (prepared : Prepared state call between taken) :
    available state call = state.getD [] ++ taken.flatMap lines := by
  have inbox := prepared.took.inbox
  rcases prepared.kind with ⟨lines, rfl, rfl⟩ | ⟨rfl, ⟨ip, rfl⟩ | ⟨empty, rfl⟩⟩
  · exact (List.append_nil _).symm
  · simp [available, inbox]
  · simp [available, empty]

theorem finish_eq {call : Call InPort OutPort} {units : Nat} (worked : call.workUnits = units) :
    finish call = if call.isAbandoned .inn then .result .finished
      else if units = 0 then .result .noWork else .result (.didWork units) := by
  unfold finish Call.didWork
  rw [worked]
  cases units with
  | zero => rfl
  | succ units => rfl

theorem goes (going : stops call budget = false) (fit : call.outs.fits (items ((available state call).take budget)) = true) :
    Goes state call budget (process state call budget) := by
  rcases process_cases state call budget with ⟨stopped, _⟩ |
    ⟨_, ⟨rfl, after, ins, outs, units, same⟩ | ⟨positive, between, taken, prepared, same⟩⟩
  · rw [going] at stopped
    cases stopped
  · rw [same]
    refine ⟨⟨[], ?_, ?_⟩, ?_⟩
    · rw [List.append_nil, Call.taken, ins]
      rfl
    · rw [outs]
      exact (List.append_nil _).symm
    · rw [finish_eq units, Call.isAbandoned, ins]
      rfl
  · have available := prepared.available_eq
    rw [← prepared.outs] at fit
    have sends := sends (SplitLines.available state call) budget between
    have emits := emits fit
    rw [same]
    generalize send (SplitLines.available state call) budget between = sent at sends emits ⊢
    refine ⟨⟨taken, ?_, ?_⟩, ?_⟩
    · have took := prepared.took.taken
      rw [Call.taken, concluded_ins, sends.ins]
      exact took
    · rw [concluded_outs, emits.emitted, prepared.outs, List.append_assoc]
      change _ ++ (_ ++ sent.lineIter.getD []) = _
      rw [sends.left fit, List.take_append_drop, available, List.append_assoc]
    · have fresh : sent.call.workUnits = 0 := emits.workUnits.trans prepared.workUnits
      have abandoned : sent.call.isAbandoned .inn = call.isAbandoned .inn := by
        rw [← prepared.took.abandoned, Call.isAbandoned, Call.isAbandoned, sends.ins]
      rw [← abandoned]
      by_cases nothing : (SplitLines.available state call).take budget = []
      · have none : sent.linesSent = 0 := by rw [emits.linesSent, nothing, List.length_nil]
        rw [if_pos nothing]
        have kept : (concluded sent).returned = finish sent.call := by simp [concluded, none]
        rw [kept, finish_eq fresh, if_pos rfl]
      · have some : 0 < sent.linesSent := by
          rw [emits.linesSent]
          exact List.length_pos_iff.mpr nothing
        rw [if_neg nothing]
        have worked : (concluded sent).returned = finish sent.call.worked := by simp [concluded, some]
        rw [worked, finish_eq (congrArg (· + 1) fresh)]
        rfl

theorem addressed_items (lines : List FbpMessage) : addressed .out (items lines) = lines := by
  induction lines with
  | nil => rfl
  | cons line rest ih =>
      change addressed .out ((OutPort.out, line) :: items rest) = _
      rw [addressed_cons, if_pos rfl, ih]

/-- With room on OUT a call sends or keeps the lines of all that it takes. -/
theorem accounts
    (roomy : call.outs.fits (if stops call budget then [] else items ((available state call).take budget)) = true) :
    ∃ new, (process state call budget).call.taken .inn = call.taken .inn ++ new ∧
      ((process state call budget).call.outs .out).sent ++ (process state call budget).component.getD [] =
        (call.outs .out).sent ++ state.getD [] ++ new.flatMap lines := by
  cases going : stops call budget with
  | false =>
      rw [going] at roomy
      exact (goes going roomy).taken
  | true =>
      rcases process_cases state call budget with ⟨_, component, ins, outs, _⟩ | ⟨unstopped, _⟩
      · refine ⟨[], ?_, ?_⟩
        · rw [List.append_nil, Call.taken, ins]
          rfl
        · rw [component, outs]
          exact (List.append_nil _).symm
      · rw [going] at unstopped
        cases unstopped

theorem keepsOrder : KeepsOrder component.toComponent Invocation.Roomy := by
  rintro ⟨(state : State), (call : Call InPort OutPort), budget⟩ roomy port
  obtain ⟨new, taken, order⟩ := accounts roomy
  have fresh : call.fresh (process state call budget).call .inn = new := by
    rw [Call.fresh, taken, List.drop_left]
  cases port
  change ((process state call budget).call.outs .out).sent ++
    addressed .out (items ((process state call budget).component.getD [])) = (call.outs .out).sent ++
      addressed .out (items (state.getD [])) ++
        addressed .out (items ((call.fresh (process state call budget).call .inn).flatMap lines))
  rw [fresh, addressed_items, addressed_items, addressed_items, order]

/-- What the packets become. -/
def itemsOf (packets : List FbpMessage) : List (OutPort × FbpMessage) := items (packets.flatMap lines)

theorem itemsOf_append (left right : List FbpMessage) : itemsOf (left ++ right) = itemsOf left ++ itemsOf right := by
  simp [itemsOf, items]

theorem owes {invocation : Invocation component.toComponent} (roomy : invocation.Roomy) :
    OwesTaken InPort.inn itemsOf invocation := by
  obtain ⟨(state : State), (call : Call InPort OutPort), budget⟩ := invocation
  obtain ⟨new, taken, _⟩ := accounts roomy
  have fresh : call.fresh (process state call budget).call .inn = new := by
    rw [Call.fresh, taken, List.drop_left]
  exact ⟨new, taken, congrArg itemsOf fresh⟩

/-- The lines that have been sent and those still to come, in the order of the packets taken. -/
theorem sent_taken {stream : Stream component.toComponent} {inCapacity : InPort → Nat} {outCapacity : OutPort → Nat}
    {trace : List Returned}
    (run : (streamMachine component.toComponent).Run anyMove (.start inCapacity outCapacity) trace stream)
    (roomy : ∀ invocation ∈ stream.history, invocation.Roomy) :
    (stream.ports.outs OutPort.out).sent ++ addressed OutPort.out (component.held stream.state) =
      (stream.ports.taken InPort.inn).flatMap lines := by
  have sequenced := Sequenced.run rfl keepsOrder run roomy OutPort.out
  have owed := owed_taken rfl itemsOf_append run fun invocation member => owes (roomy invocation member)
  rw [owed] at sequenced
  exact sequenced.trans (addressed_items _)

/-- The call is stopped, or it has a line to send and may get more input, or it can take and send all there is. -/
def Timely (invocation : Invocation component.toComponent) : Prop :=
  stops invocation.call invocation.remainingBudget = true ∨
    (invocation.call.isAbandoned InPort.inn = false ∧
      (available invocation.state invocation.call).take invocation.remainingBudget ≠ []) ∨
    component.affords invocation.state invocation.call invocation.remainingBudget

/-- IN is empty after the call, and no line is left. -/
def Drains (invocation : Invocation component.toComponent) : Prop :=
  invocation.outcome.call.inbox InPort.inn = [] ∧ component.held invocation.outcome.component = []

/-- SplitLines neither idles nor ends while it has work, unless it is stopped. -/
structure NeverIdles (station : Station component.toComponent) : Prop where
  drains : ∀ invocation ∈ station.stream.history, stops invocation.call invocation.remainingBudget = false →
    (∀ units, invocation.outcome.returned ≠ .result (.didWork units)) → Drains invocation
  /-- Out of the ready queue, all that has been put on IN has come out. -/
  emitted : station.queued = false →
    (∀ invocation ∈ station.stream.history, stops invocation.call invocation.remainingBudget = false) →
    (station.stream.ports.outs OutPort.out).sent = (station.stream.ports.ins InPort.inn).fed.flatMap lines

theorem drains_iff {invocation : Invocation component.toComponent} (roomy : invocation.Roomy)
    (going : stops invocation.call invocation.remainingBudget = false) :
    ((∀ units, invocation.outcome.returned ≠ .result (.didWork units)) → Drains invocation) ↔ Timely invocation := by
  obtain ⟨(state : State), (call : Call InPort OutPort), budget⟩ := invocation
  change stops call budget = false at going
  have fit : call.outs.fits (if stops call budget then [] else items ((available state call).take budget)) = true := roomy
  rw [going] at fit
  have returned := (goes going fit).returned
  have left : (process state call budget).call.inbox .inn = [] ∧ (process state call budget).component.getD [] = [] ↔
      component.affords state call budget := by
    rcases processed state call budget with ⟨stopped, _⟩ | ⟨_, splits⟩
    · rw [going] at stopped
      cases stopped
    · exact splits.left fit
  have drained : Drains (.mk state call budget : Invocation component.toComponent) ↔ component.affords state call budget :=
    Iff.trans (and_congr_right fun _ => List.map_eq_nil_iff) left
  change ((∀ units, (process state call budget).returned ≠ .result (.didWork units)) → _) ↔
    stops call budget = true ∨ (call.isAbandoned .inn = false ∧ (available state call).take budget ≠ []) ∨ _
  rw [returned, going, drained]
  cases call.isAbandoned InPort.inn with
  | true => simp
  | false =>
      by_cases nothing : (available state call).take budget = []
      · simp [nothing]
      · simp [nothing]

theorem never_idles_iff {nodeId : NodeId} {budgetClass : BudgetClass} {inCapacity : InPort → Nat}
    {outCapacity : OutPort → Nat} {station : Station component.toComponent} {trace : List Returned}
    (run : (stationMachine component.toComponent).Run anyMove (.start nodeId budgetClass inCapacity outCapacity) trace
      station)
    (roomy : ∀ invocation ∈ station.stream.history, invocation.Roomy) :
    NeverIdles station ↔ ∀ invocation ∈ station.stream.history, Timely invocation := by
  constructor
  · intro never invocation member
    cases going : stops invocation.call invocation.remainingBudget with
    | true => exact .inl going
    | false => exact (drains_iff (roomy invocation member) going).mp (never.drains invocation member going)
  · intro timely
    have drains (invocation) (member : invocation ∈ station.stream.history)
        (going : stops invocation.call invocation.remainingBudget = false) :=
      (drains_iff (roomy invocation member) going).mpr (timely invocation member)
    refine ⟨drains, fun idle unstopped => ?_⟩
    obtain ⟨later, streamed⟩ := Station.stream_run run
    have sent := sent_taken streamed roomy
    have empty : station.stream.ports.inbox InPort.inn = [] ∧ component.held station.stream.state = [] := by
      rcases Station.rests_run run idle with ⟨new, none⟩ | ⟨invocation, member, unworked, state, inbox⟩
      · exact ⟨none _, by rw [new]; rfl⟩
      · obtain ⟨none, left⟩ := drains invocation member (unstopped invocation member) unworked
        exact ⟨(inbox InPort.inn).trans none, by rw [state]; exact left⟩
    have fed : (station.stream.ports.ins InPort.inn).fed = station.stream.ports.taken InPort.inn := by
      have none : (station.stream.ports.ins InPort.inn).ring.buffer = [] := empty.1
      rw [Inlet.fed, none, List.append_nil]
      rfl
    rw [fed, ← sent, empty.2]
    exact (List.append_nil _).symm

instance : DecidablePred Timely := fun invocation =>
  inferInstanceAs (Decidable (stops invocation.call invocation.remainingBudget = true ∨
    (invocation.call.isAbandoned InPort.inn = false ∧
      (available invocation.state invocation.call).take invocation.remainingBudget ≠ []) ∨
    ((Option.isSome (α := List FbpMessage) invocation.state = true → invocation.call.inbox InPort.inn = []) ∧
      (invocation.call.inbox InPort.inn).length ≤ min 1 invocation.remainingBudget ∧
      (available invocation.state invocation.call).length ≤ invocation.remainingBudget)))

/-- A heavy node with room for two packets, and for ten on OUT, gets the packets and is dispatched twice. -/
def heavyStation (packets : List FbpMessage) : Station component.toComponent :=
  (stationMachine component.toComponent).played (.start "lines" .heavy (fun _ => 2) fun _ => 10)
    (packets.map (.push InPort.inn) ++ [.dispatch [] 0, .dispatch [] 0])

theorem never_idles_iff_threeLines :
    (heavyStation [.text "1\n2", .text "3"]).queued = false ∧
      NeverIdles (heavyStation [.text "1\n2", .text "3"]) := by
  refine ⟨by decide +kernel, ?_⟩
  refine (never_idles_iff ((stationMachine component.toComponent).run_played (Machine.permits_any _ _) ?_) ?_).mpr ?_
  · decide +kernel
  · unfold Invocation.Roomy
    decide +kernel
  · decide +kernel

/-- The eight lines of the first packet use up the budget; the next call finds their iterator exhausted and idles
with the second packet on IN. -/
theorem idles_with_work :
    ¬ ∀ {nodeId : NodeId} {budgetClass : BudgetClass} {inCapacity : InPort → Nat} {outCapacity : OutPort → Nat}
        {station : Station component.toComponent} {trace : List Returned},
      (stationMachine component.toComponent).Run anyMove (.start nodeId budgetClass inCapacity outCapacity) trace
        station →
      (∀ invocation ∈ station.stream.history, invocation.Roomy) → NeverIdles station := by
  intro claim
  have run : (stationMachine component.toComponent).Run anyMove (.start "lines" .heavy (fun _ => 2) fun _ => 10) _
      (heavyStation [.text "1\n2\n3\n4\n5\n6\n7\n8", .text "9"]) :=
    (stationMachine component.toComponent).run_played (Machine.permits_any _ _) (by decide +kernel)
  have never := claim run (by unfold Invocation.Roomy; decide +kernel)
  have emitted := congrArg List.length (never.emitted (by decide +kernel) (by decide +kernel))
  exact absurd emitted (by decide +kernel)

end SplitLines

end Flowd
