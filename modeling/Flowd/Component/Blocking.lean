import Flowd.Component.Passing

namespace Flowd

/-! What a call of a forwarder has found out about its edges when it returns `NoWork`. -/

/-- In these stages the pending packets are going to be offered again. -/
def Stage.BeforeFlush (passing : Passing) : Stage → Prop
  | .resting | .flushing => True
  | .polling => passing.flushesFirst = false
  | _ => False

namespace Frame

/-- What could not be sent cannot be sent yet. -/
def Blocked (full : Prop) (frame : Frame) : Prop := frame.pending ≠ [] → full

/-- There is nothing to be done: no packets at all, or packets and no room. -/
def Quiet (full empty : Prop) (frame : Frame) : Prop := frame.Blocked full ∧ (frame.pending = [] → empty)

/-- What a call has found once it has offered its pending packets, by the stage. -/
def Finds (passing : Passing) (full empty : Prop) (frame : Frame) : Prop :=
  match frame.stage with
  | .polling => passing.flushesFirst = true → frame.Blocked full
  | .receiving | .taking | .offering _ => frame.Blocked full
  | .finishing | .returning (.result .noWork) => frame.Quiet full empty
  | _ => True

/-- The call has done some work, or nothing was to be done so far. -/
def Goes (passing : Passing) (full empty : Prop) (frame : Frame) : Prop :=
  0 < frame.workUnits ∨ frame.Finds passing full empty

/-- A call begins with a budget, and returns `NoWork` only if it did none. -/
structure Fits (frame : Frame) : Prop where
  budget : frame.stage ≠ .resting → 0 < frame.remainingBudget + frame.workUnits
  honest : frame.stage = .returning (.result .noWork) → frame.workUnits = 0

variable {passing : Passing} {full empty : Prop} {frame : Frame}

theorem Finds.of_beforeFlush (before : frame.stage.BeforeFlush passing) : frame.Finds passing full empty := by
  unfold Finds
  cases stage : frame.stage with
  | resting | flushing => trivial
  | polling =>
      rw [stage] at before
      intro flushes
      rw [show passing.flushesFirst = false from before] at flushes
      cases flushes
  | receiving | taking | offering _ | finishing | returning _ =>
      rw [stage] at before
      exact before.elim

end Frame

/-- However an access is answered, the call goes on with a frame of that kind. -/
def Access.All (holds : Frame → Prop) : Access → Prop
  | .enter next => ∀ remainingBudget, 0 < remainingBudget → holds (next remainingBudget)
  | .push _ next | .poll next | .probe next => ∀ answer, holds (next answer)
  | .pop next => ∀ answer, holds (next answer)
  | .turn next => holds next
  | .leave _ => True

/-- An accepted push is work; otherwise the call goes on with what the answer tells about the edges. -/
def Access.Goes (passing : Passing) (full empty : Prop) (frame : Frame) : Access → Prop
  | .enter next => ∀ remainingBudget, (next remainingBudget).Goes passing full empty
  | .push _ next => 0 < (next true).workUnits ∧ (full → (next false).Goes passing full empty)
  | .poll next | .probe next => ∀ answer, (next answer).Goes passing full empty
  | .pop next => frame.stage = .taking ∧ (empty → (next none).Goes passing full empty) ∧
      ∀ ip full empty, 0 < frame.workUnits ∨ frame.Blocked full → (next (some ip)).Goes passing full empty
  | .turn next => next.Goes passing full empty
  | .leave returned => frame.stage = .returning returned

namespace Passing

variable {full empty : Prop} {frame : Frame}

theorem finish_honest (passing : Passing) {workUnits : Nat} {pending : List FbpMessage} {abandoned : Bool}
    (idle : passing.finish workUnits pending abandoned = .result .noWork) : workUnits = 0 := by
  rcases passing.finishes workUnits pending abandoned with finished | worked
  · rw [finished] at idle
    cases idle
  · rw [worked, Returned.ofWork] at idle
    by_cases works : 0 < workUnits
    · simp [works] at idle
    · omega

theorem fits (passing : Passing) (fits : frame.Fits) : (passing.next frame).All Frame.Fits := by
  obtain ⟨budget, _⟩ := fits
  obtain ⟨stage, pending, remainingBudget, workUnits⟩ := frame
  have onwards {stage : Stage} {pending : List FbpMessage} (goes : stage ≠ .returning (.result .noWork))
      (funded : 0 < remainingBudget + workUnits) : Frame.Fits ⟨stage, pending, remainingBudget, workUnits⟩ :=
    ⟨fun _ => funded, fun returns => absurd returns goes⟩
  have works {stage : Stage} {pending : List FbpMessage} (goes : stage ≠ .returning (.result .noWork)) :
      Frame.Fits ⟨stage, pending, remainingBudget - 1, workUnits + 1⟩ :=
    ⟨fun _ => Nat.lt_of_lt_of_le (Nat.succ_pos workUnits) (Nat.le_add_left _ _), fun returns => absurd returns goes⟩
  have begins : passing.first ≠ .returning (.result .noWork) := by
    unfold first
    split <;> simp
  have flushed : passing.afterFlush ≠ .returning (.result .noWork) := by
    unfold afterFlush
    split <;> simp
  have polled : passing.afterPoll ≠ .returning (.result .noWork) := by
    unfold afterPoll
    split <;> simp
  cases stage with
  | resting => exact fun remainingBudget funded => ⟨fun _ => funded, fun returns => absurd returns begins⟩
  | flushing =>
      have funded := budget (by simp)
      cases remainingBudget with
      | zero => exact onwards flushed funded
      | succ remainingBudget =>
          cases pending with
          | nil => exact onwards flushed funded
          | cons packet rest =>
              intro accepted
              cases accepted with
              | true =>
                  have again : Frame.Fits ⟨.flushing, rest, remainingBudget + 1 - 1, workUnits + 1⟩ := works (by simp)
                  exact again
              | false => exact onwards flushed funded
  | polling =>
      have funded := budget (by simp)
      intro stop
      cases stop with
      | true => exact onwards (by simp) funded
      | false => exact onwards polled funded
  | receiving =>
      have funded := budget (by simp)
      cases remainingBudget with
      | zero => exact onwards (by simp) funded
      | succ remainingBudget =>
          intro stop
          cases stop <;> exact onwards (by simp) funded
  | taking =>
      have funded := budget (by simp)
      intro ip
      cases ip with
      | none => exact onwards (by simp) funded
      | some ip =>
          cases transformed : passing.spec.transform ip with
          | none =>
              simp only [transformed]
              exact onwards (by simp) funded
          | some packet =>
              simp only [transformed]
              exact onwards (by simp) funded
  | offering packet =>
      have funded := budget (by simp)
      intro accepted
      cases accepted with
      | true => exact works (by simp)
      | false =>
          show Frame.Fits (if passing.spec.leavesWhenFull then _ else _)
          cases passing.spec.leavesWhenFull with
          | true => exact onwards (by simp) funded
          | false => exact works (by simp)
  | finishing =>
      intro abandoned
      refine ⟨fun _ => budget (by simp), fun returns => ?_⟩
      exact passing.finish_honest (Stage.returning.inj returns)
  | returning returned => trivial

theorem goes (passing : Passing) (fits : frame.Fits) (goes : frame.Goes passing full empty) :
    (passing.next frame).Goes passing full empty frame := by
  obtain ⟨budget, _⟩ := fits
  obtain ⟨stage, pending, remainingBudget, workUnits⟩ := frame
  have flushed {pending : List FbpMessage} {remainingBudget : Nat} (blocked : pending ≠ [] → full) :
      Frame.Goes passing full empty ⟨passing.afterFlush, pending, remainingBudget, workUnits⟩ := by
    unfold afterFlush
    cases passing.flushesFirst with
    | true => exact .inr fun _ => blocked
    | false => exact .inr blocked
  cases stage with
  | resting =>
      refine fun _ => .inr (.of_beforeFlush ?_)
      show Stage.BeforeFlush passing passing.first
      unfold first
      cases order : passing.flushesFirst with
      | true => trivial
      | false => exact order
  | flushing =>
      cases remainingBudget with
      | zero =>
          have worked : 0 < workUnits := by simpa using budget (by simp)
          exact .inl worked
      | succ remainingBudget =>
          cases pending with
          | nil => exact flushed fun some => absurd rfl some
          | cons packet rest => exact ⟨Nat.succ_pos _, fun full => flushed fun _ => full⟩
  | polling =>
      intro stop
      cases stop with
      | true => exact .inr trivial
      | false =>
          refine goes.imp id fun finds => ?_
          show Frame.Finds passing full empty ⟨passing.afterPoll, pending, remainingBudget, workUnits⟩
          unfold afterPoll
          cases order : passing.flushesFirst with
          | true => exact finds order
          | false => trivial
  | receiving =>
      cases remainingBudget with
      | zero =>
          have worked : 0 < workUnits := by simpa using budget (by simp)
          exact .inl worked
      | succ remainingBudget =>
          intro stop
          cases stop with
          | true => exact .inr trivial
          | false => exact goes
  | taking =>
      refine ⟨rfl, fun empty => goes.imp id fun blocked => ⟨blocked, fun _ => empty⟩, fun ip full empty blocked => ?_⟩
      cases transformed : passing.spec.transform ip with
      | none =>
          simp only [transformed]
          exact .inr trivial
      | some packet =>
          simp only [transformed]
          exact blocked
  | offering packet =>
      refine ⟨Nat.succ_pos _, fun full => ?_⟩
      show Frame.Goes passing _ empty (if passing.spec.leavesWhenFull then _ else _)
      cases passing.spec.leavesWhenFull with
      | true => exact .inr ⟨fun _ => full, fun none => by simp [Frame.goTo, Frame.keep] at none⟩
      | false => exact .inl (Nat.succ_pos _)
  | finishing =>
      intro abandoned
      refine goes.imp id fun quiet => ?_
      show Frame.Finds passing full empty
        ⟨.returning (passing.finish workUnits pending abandoned), pending, remainingBudget, workUnits⟩
      rcases passing.finishes workUnits pending abandoned with finished | worked
      · rw [finished]
        trivial
      · rw [worked, Returned.ofWork]
        by_cases works : 0 < workUnits
        · rw [if_pos works]
          trivial
        · rw [if_neg works]
          exact quiet
  | returning returned => rfl

end Passing

end Flowd
