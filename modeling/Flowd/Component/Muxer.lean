import Flowd.Component.Dropping
import Mathlib.Data.List.FinRange

namespace Flowd

/-! Muxer: packets of any number of inports, port after port, on one outport. -/

namespace Muxer

variable {n : Nat}

/-- The inner loop, on one inport.  A refused packet ends it, not the outer one. -/
def inner (inport : Fin n) : Dropping (Fin n) OutPort Unit where
  inn := inport
  emit _ ip := some ((), [(.out, ip)])
  whenFull := .leave
  overflowChecks := true

/-- `for inport in self.inn.iter_mut()` -/
def outer : List (Fin n) → Nat → Call (Fin n) OutPort → Nat × Call (Fin n) OutPort
  | [], budget, call => (budget, call)
  | inport :: rest, budget, call =>
      let passed := (inner inport).pass () budget call
      if passed.remainingBudget = 0 then (0, passed.call)
      else outer rest passed.remainingBudget passed.call

def process (_ : Unit) (call : Call (Fin n) OutPort) (remainingBudget : Nat) : Outcome Unit (Fin n) OutPort :=
  match call.begin.poll FbpMessage.textOrUtf8 with
  | (call, true) => ⟨(), call, remainingBudget, .result .finished⟩
  | (call, false) =>
      let (remainingBudget, call) := outer (List.finRange n) remainingBudget call
      ⟨(), call, remainingBudget,
        if (List.finRange n).all call.isAbandoned then .result .finished else call.didWork⟩

/-- Each packet goes out as it is. -/
def items (packets : List FbpMessage) : List (OutPort × FbpMessage) := packets.map fun ip => (.out, ip)

/-- All that waits at some inports, in the order in which it is taken. -/
def waiting (inports : List (Fin n)) (call : Call (Fin n) OutPort) : List FbpMessage := inports.flatMap call.inbox

def component (n : Nat) : StreamComponent where
  In := Fin n
  Out := OutPort
  State := Unit
  new := ()
  process
  reads := FbpMessage.textOrUtf8
  streams _ := True
  held _ := []
  owes _ before after := items ((List.finRange n).flatMap (before.fresh after))
  exposed _ call budget :=
    if (call.begin.poll FbpMessage.textOrUtf8).2 then [] else items ((waiting (List.finRange n) call).take budget)
  declines _ _ := false
  affords _ call budget := (waiting (List.finRange n) call).length ≤ budget
  backlog _ call := items (waiting (List.finRange n) call)

theorem inner_oneForOne (inport : Fin n) : (inner inport).OneForOne := fun _ ip => ⟨(), (.out, ip), rfl⟩

@[simp] theorem inner_emitted (inport : Fin n) (packets : List FbpMessage) :
    (inner inport).emitted () packets = items packets := by
  induction packets with
  | nil => rfl
  | cons ip rest ih =>
      unfold Dropping.emitted
      rw [show (inner inport).emit () ip = some ((), [(.out, ip)]) from rfl]
      simp [ih, items]

theorem items_append (left right : List FbpMessage) : items (left ++ right) = items left ++ items right :=
  List.map_append

/-- What the outer loop does to the inports it visits. -/
structure Visits (inports : List (Fin n)) (budget : Nat) (call after : Call (Fin n) OutPort) : Prop where
  took : ∃ lost, Balance call.outs [] (items (inports.flatMap (call.fresh after))) after.outs [] lost ∧
    (lost = [] ↔ call.outs.fits (items ((waiting inports call).take budget)) = true)
  others : ∀ inport, inport ∉ inports → after.ins inport = call.ins inport
  abandoned : ∀ inport, after.isAbandoned inport = call.isAbandoned inport
  left : call.outs.fits (items ((waiting inports call).take budget)) = true →
    waiting inports after = (waiting inports call).drop budget

/-- A loop that goes no further. -/
theorem visits_nothing {inports : List (Fin n)} {budget : Nat} {call : Call (Fin n) OutPort}
    (idle : budget = 0 ∨ inports = []) : Visits inports budget call call := by
  have fresh : inports.flatMap (call.fresh call) = [] := by
    simp [Call.fresh]
  have none : (waiting inports call).take budget = [] := by
    rcases idle with rfl | rfl
    · rfl
    · simp [waiting]
  have all : (waiting inports call).drop budget = waiting inports call := by
    rcases idle with rfl | rfl
    · rfl
    · simp [waiting]
  refine ⟨⟨[], ?_, ?_⟩, fun _ _ => rfl, fun _ => rfl, fun _ => all.symm⟩
  · rw [fresh]
    exact .still fun _ => rfl
  · rw [none]
    exact ⟨fun _ => rfl, fun _ => rfl⟩

/-- One inport after the other. -/
theorem Visits.cons {inport : Fin n} {rest : List (Fin n)} {budget : Nat} {call last : Call (Fin n) OutPort}
    (once : inport ∉ rest)
    (visits : Visits rest ((inner inport).pass () budget call).remainingBudget ((inner inport).pass () budget call).call last) :
    Visits (inport :: rest) budget call last := by
  obtain ⟨⟨new, lost, took, balance, exact⟩, ends, left⟩ := (inner inport).passes () budget call
  generalize (inner inport).pass () budget call = passed at visits took balance exact ends left
  obtain ⟨⟨gone, balanceRest, exactRest⟩, others, abandoned, leftRest⟩ := visits
  have calm : passed.ended ≠ some .panicked := by
    intro panicked
    rcases ends with ended | ⟨_, several⟩ | ⟨ended, _⟩
    · cases ended.symm.trans panicked
    · exact several (inner_oneForOne inport)
    · cases ended.symm.trans panicked
  have attempts := (inner_oneForOne inport).attempts () budget (call.inbox inport)
  rw [inner_emitted] at attempts balance
  have exact := exact calm
  have left := left (inner_oneForOne inport)
  change lost = [] ↔ call.outs.fits ((inner inport).attempts () budget (call.inbox inport)) = true at exact
  change call.outs.fits ((inner inport).attempts () budget (call.inbox inport)) = true →
    passed.call.inbox inport = (call.inbox inport).drop budget ∧
      passed.remainingBudget = budget - (call.inbox inport).length ∧
      ∀ rest, call.outs.fits ((inner inport).attempts () budget (call.inbox inport) ++ rest) =
        passed.call.outs.fits rest at left
  rw [attempts] at exact left
  have elsewhere : ∀ other, other ≠ inport → passed.call.ins other = call.ins other := took.others
  have different : ∀ other ∈ rest, other ≠ inport := fun other member same => once (same ▸ member)
  have waits : waiting rest passed.call = waiting rest call := by
    refine List.flatMap_congr fun other member => ?_
    unfold Call.inbox
    rw [elsewhere other (different other member)]
  have freshHere : call.fresh last inport = new := by
    rw [← took.fresh]
    unfold Call.fresh Call.taken
    rw [others inport once]
    rfl
  have freshThere : rest.flatMap (call.fresh last) = rest.flatMap (passed.call.fresh last) := by
    refine List.flatMap_congr fun other member => ?_
    unfold Call.fresh Call.taken
    rw [elsewhere other (different other member)]
  have whole : waiting (inport :: rest) call = call.inbox inport ++ waiting rest call := rfl
  rw [waits] at exactRest leftRest
  have fits : call.outs.fits (items ((waiting (inport :: rest) call).take budget)) = true ↔
      call.outs.fits (items ((call.inbox inport).take budget)) = true ∧
        passed.call.outs.fits (items ((waiting rest call).take passed.remainingBudget)) = true := by
    rw [whole, List.take_append, items_append]
    constructor
    · intro fit
      have first := Outlets.fits_of_append _ fit
      obtain ⟨_, budgetLeft, same⟩ := left first
      rw [same, ← budgetLeft] at fit
      exact ⟨first, fit⟩
    · rintro ⟨first, second⟩
      obtain ⟨_, budgetLeft, same⟩ := left first
      rw [same, ← budgetLeft]
      exact second
  refine ⟨⟨lost ++ gone, ?_, ?_⟩, ?_, fun other => ?_, ?_⟩
  · rw [List.flatMap_cons, items_append, freshHere, freshThere]
    exact balance.trans balanceRest
  · rw [List.append_eq_nil_iff, fits, exact, exactRest]
  · intro other absent
    rw [others other fun member => absent (List.mem_cons_of_mem _ member)]
    exact elsewhere other fun same => absent (same ▸ List.mem_cons_self)
  · exact (abandoned other).trans (took.abandoned other)
  · intro fit
    obtain ⟨first, second⟩ := fits.mp fit
    obtain ⟨drained, budgetLeft, _⟩ := left first
    have here : last.inbox inport = (call.inbox inport).drop budget := by
      rw [← drained]
      unfold Call.inbox
      rw [others inport once]
    rw [whole, List.drop_append, ← budgetLeft, ← leftRest second, ← here]
    rfl

theorem visits {inports : List (Fin n)} (once : inports.Nodup) (budget : Nat) (call : Call (Fin n) OutPort) :
    Visits inports budget call (outer inports budget call).2 := by
  induction inports generalizing budget call with
  | nil => exact visits_nothing (.inr rfl)
  | cons inport rest ih =>
      obtain ⟨absent, once⟩ := List.nodup_cons.mp once
      refine .cons absent ?_
      unfold outer
      dsimp only
      split
      · next spent => exact visits_nothing (.inl spent)
      · exact ih once _ _

/-- A call is stopped, or it visits all inports. -/
inductive Processed (call : Call (Fin n) OutPort) (budget : Nat) (outcome : Outcome Unit (Fin n) OutPort) : Prop where
  | stopped (polled : (call.begin.poll FbpMessage.textOrUtf8).2 = true) (ins : outcome.call.ins = call.ins)
      (outs : outcome.call.outs = call.outs) (stop : outcome.call.Stopped FbpMessage.textOrUtf8)
  | visited (polled : (call.begin.poll FbpMessage.textOrUtf8).2 = false)
      (visits : Visits (List.finRange n) budget call outcome.call)
      (reason : outcome.returned = .result .finished → ∀ inport, call.isAbandoned inport = true)

theorem processed (call : Call (Fin n) OutPort) (budget : Nat) :
    Processed call budget (process () call budget) := by
  obtain ⟨signalsIn, signalsOut, new, same, stops⟩ := call.begin.poll_cases FbpMessage.textOrUtf8
  unfold process
  cases polled : call.begin.poll FbpMessage.textOrUtf8 with
  | mk listened stop =>
      rw [polled] at same stops
      have listened : listened = { call.begin with signalsIn, signalsOut, heard := call.begin.heard ++ new } := same
      subst listened
      cases stop with
      | true => exact .stopped (by rw [polled]) rfl rfl (stops rfl)
      | false =>
          have visits := visits (List.nodup_finRange n) budget
            { call.begin with signalsIn, signalsOut, heard := call.begin.heard ++ new }
          dsimp only
          generalize outer (List.finRange n) budget _ = visited at visits ⊢
          obtain ⟨left, after⟩ := visited
          have visits : Visits (List.finRange n) budget call after :=
            ⟨visits.took, visits.others, visits.abandoned, visits.left⟩
          refine .visited (by rw [polled]) visits fun finished => ?_
          dsimp only at finished
          split at finished
          · next abandoned =>
              intro inport
              rw [← visits.abandoned]
              exact List.all_eq_true.mp abandoned inport (List.mem_finRange inport)
          · exact absurd finished (Call.didWork_ne_finished _)

theorem ledger (n : Nat) : Ledger (component n).toComponent := by
  rintro ⟨⟨⟩, (call : Call (Fin n) OutPort), budget⟩
  have called : (Invocation.mk () call budget : Invocation (component n).toComponent).outcome =
    process () call budget := rfl
  rw [called]
  have processed := processed call budget
  generalize process () call budget = outcome at processed ⊢
  change ∃ lost, Balance call.outs [] (items ((List.finRange n).flatMap (call.fresh outcome.call)))
    outcome.call.outs [] lost ∧ (outcome.returned ≠ .panicked → (lost = [] ↔ call.outs.fits
      (if (call.begin.poll FbpMessage.textOrUtf8).2 then [] else
        items ((waiting (List.finRange n) call).take budget)) = true))
  cases processed with
  | stopped polled ins outs stop =>
      have fresh : (List.finRange n).flatMap (call.fresh outcome.call) = [] := by
        simp [Call.fresh, Call.taken, ins]
      rw [polled, fresh, outs]
      exact ⟨[], .still fun _ => rfl, fun _ => ⟨fun _ => rfl, fun _ => rfl⟩⟩
  | visited polled visits reason =>
      obtain ⟨lost, balance, exact⟩ := visits.took
      rw [polled]
      exact ⟨lost, balance, fun _ => exact⟩

theorem reasonable (n : Nat) : Reasonable (component n).toComponent := by
  rintro ⟨⟨⟩, (call : Call (Fin n) OutPort), budget⟩ finished _
  have processed := processed call budget
  cases processed with
  | stopped polled ins outs stop => exact .inl stop
  | visited polled visits reason => exact .inr (.inr fun inport _ => reason finished inport)

theorem closes (n : Nat) : Closes (component n) := by
  rintro ⟨⟨⟩, (call : Call (Fin n) OutPort), budget⟩ ⟨finished, unasked⟩
  have processed := processed call budget
  cases processed with
  | stopped polled ins outs stop => exact absurd stop unasked
  | visited polled visits reason =>
      have left := visits.left
      have everywhere : (∀ inport, (process () call budget).call.inbox inport = []) ↔
          waiting (List.finRange n) (process () call budget).call = [] := by
        simp [waiting]
      have drained : (∀ inport, (process () call budget).call.inbox inport = []) ∧
          call.outs.fits (items ((waiting (List.finRange n) call).take budget)) = true ↔
          (waiting (List.finRange n) call).length ≤ budget ∧
            call.outs.fits (items (waiting (List.finRange n) call)) = true := by
        rw [everywhere]
        constructor
        · rintro ⟨empty, fit⟩
          have short := List.drop_eq_nil_iff.mp ((left fit).symm.trans empty)
          exact ⟨short, by rwa [List.take_of_length_le short] at fit⟩
        · rintro ⟨short, fit⟩
          rw [List.take_of_length_le short] at left ⊢
          exact ⟨(left fit).trans (List.drop_eq_nil_iff.mpr short), fit⟩
      refine Iff.trans ?_ drained
      change _ ∧ _ ∧ call.outs.fits (if (call.begin.poll FbpMessage.textOrUtf8).2 then [] else
        items ((waiting (List.finRange n) call).take budget)) = true ↔ _
      rw [polled]
      constructor
      · rintro ⟨empty, _, fit⟩
        exact ⟨fun inport => empty inport trivial, fit⟩
      · rintro ⟨empty, fit⟩
        exact ⟨fun inport _ => empty inport, rfl, fit⟩

end Muxer

end Flowd
