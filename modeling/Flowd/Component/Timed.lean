import Flowd.Component.Basic
import Flowd.Scheduler.Machine

namespace Flowd

/-! Components that use the timer of their node: `process()` reads the clock and the context. -/

/-- `later` are the steps by which the clock advances from one reading to the next. -/
structure Clock where
  now : Instant
  later : List Nat
deriving DecidableEq, Repr

/-- `Instant::now()`: the clock after the reading, `now` being what was read. -/
def Clock.read (clock : Clock) : Clock :=
  match clock.later with
  | [] => clock
  | step :: rest => ⟨clock.now + step, rest⟩

/-- Nanoseconds. -/
def fromMicros (micros : Nat) : Nat := micros * 1000

/-- `DEFAULT_IO_POLL_INTERVAL` -/
def defaultIoPollInterval : Nat := fromMicros 25000

/-- `remaining_budget -= 1` for a `u32`, none if it panics. -/
def NodeContext.spend (overflowChecks : Bool) (context : NodeContext) : Option NodeContext :=
  match context.remainingBudget with
  | 0 => if overflowChecks then none else some { context with remainingBudget := 2 ^ 32 - 1 }
  | budget + 1 => some { context with remainingBudget := budget }

/-- What a call to `process()` leaves behind.  `log` is for the history only. -/
structure Turn (σ ι ο ε : Type) where
  component : σ
  call : Call ι ο
  context : NodeContext
  clock : Clock
  log : List ε
  returned : Returned

structure TimedComponent where
  In : Type
  Out : Type
  State : Type
  Event : Type
  [decIn : DecidableEq In]
  [decOut : DecidableEq Out]
  new : State
  process : State → Call In Out → NodeContext → Clock → Turn State In Out Event

attribute [instance] TimedComponent.decIn TimedComponent.decOut

theorem Clock.now_le_read (clock : Clock) : clock.now ≤ clock.read.now := by
  unfold Clock.read
  split
  · exact Nat.le_refl _
  · exact Nat.le_add_right _ _

/-- A decrement panics only at zero; it touches nothing but the budget. -/
theorem NodeContext.spend_cases (overflowChecks : Bool) (context : NodeContext) :
    (context.remainingBudget = 0 ∧ overflowChecks = true ∧ context.spend overflowChecks = none) ∨
      ∃ budget, context.spend overflowChecks = some { context with remainingBudget := budget } ∧
        (0 < context.remainingBudget → budget + 1 = context.remainingBudget) := by
  unfold spend
  cases left : context.remainingBudget with
  | zero =>
      cases overflowChecks with
      | true => exact .inl ⟨rfl, rfl, rfl⟩
      | false => exact .inr ⟨2 ^ 32 - 1, rfl, fun positive => absurd positive (Nat.lt_irrefl 0)⟩
  | succ budget => exact .inr ⟨budget, rfl, fun _ => rfl⟩

end Flowd
