import Flowd.Lib.Ring
import Mathlib.Algebra.Order.Group.Multiset
import Mathlib.Tactic.Abel

namespace Flowd

/-! Rings seen from one end.

An `Inlet` is a ring at its receiving end, with what has been taken out of it.  An
`Outlet` is a ring at its sending end: it keeps what the consumer has taken so far
and how much the consumer takes before each of the coming push attempts, so that
consumption may fall between any two pushes.
-/

variable {α ο : Type}

structure Inlet (α : Type) where
  ring : Ring α
  taken : List α

namespace Inlet

def ofRing (ring : Ring α) : Inlet α := ⟨ring, []⟩

/-- Every packet that has been put into the ring, in order. -/
def fed (inlet : Inlet α) : List α := inlet.taken ++ inlet.ring.buffer

def pop (inlet : Inlet α) : Option (α × Inlet α) :=
  match inlet.ring.pop with
  | none => none
  | some (packet, ring) => some (packet, ⟨ring, inlet.taken ++ [packet]⟩)

theorem pop_cases (inlet : Inlet α) :
    (inlet.ring.buffer = [] ∧ inlet.pop = none) ∨
      ∃ packet rest, inlet.ring.buffer = packet :: rest ∧
        inlet.pop = some (packet, ⟨inlet.ring.drop 1, inlet.taken ++ [packet]⟩) := by
  unfold pop
  rw [Ring.pop_eq]
  cases found : inlet.ring.buffer with
  | nil => exact .inl ⟨rfl, rfl⟩
  | cons packet rest => exact .inr ⟨packet, rest, rfl, rfl⟩

end Inlet

structure Outlet (α : Type) where
  ring : Ring α
  taken : List α
  schedule : List Nat

namespace Outlet

def ofRing (ring : Ring α) : Outlet α := ⟨ring, [], []⟩

/-- Every packet pushed so far, in push order. -/
def sent (outlet : Outlet α) : List α := outlet.taken ++ outlet.ring.buffer

/-- The consumer takes up to `count` packets. -/
def consume (outlet : Outlet α) (count : Nat) : Outlet α :=
  { outlet with
    ring := outlet.ring.drop count
    taken := outlet.taken ++ outlet.ring.buffer.take count }

/-- What the consumer does before the next push attempt. -/
def await (outlet : Outlet α) : Outlet α :=
  { outlet.consume (outlet.schedule.headD 0) with schedule := outlet.schedule.tail }

/-- One push attempt; the Boolean tells whether the packet was accepted. -/
def push (outlet : Outlet α) (packet : α) : Outlet α × Bool :=
  match outlet.await.ring.push packet with
  | some ring => ({ outlet.await with ring }, true)
  | none => (outlet.await, false)

@[simp] theorem sent_consume (outlet : Outlet α) (count : Nat) :
    (outlet.consume count).sent = outlet.sent := by
  simp [sent, consume, List.append_assoc]

@[simp] theorem sent_await (outlet : Outlet α) : outlet.await.sent = outlet.sent :=
  outlet.sent_consume _

@[simp] theorem sent_schedule (outlet : Outlet α) (schedule : List Nat) :
    ({ outlet with schedule } : Outlet α).sent = outlet.sent := rfl

/-- The two ways a push attempt can go. -/
theorem push_cases (outlet : Outlet α) (packet : α) :
    (∃ next, outlet.push packet = (next, true) ∧ next.sent = outlet.sent ++ [packet] ∧
        next.ring.capacity = outlet.ring.capacity) ∨
      ∃ next, outlet.push packet = (next, false) ∧ next.sent = outlet.sent ∧
        next.ring.capacity = outlet.ring.capacity ∧ next.ring.isFull = true := by
  cases pushed : outlet.await.ring.push packet with
  | some ring =>
      obtain ⟨_, buffer, capacity, _⟩ := Ring.push_some pushed
      refine .inl ⟨{ outlet.await with ring }, by simp only [push, pushed], ?_, capacity⟩
      rw [← outlet.sent_await]
      simp only [sent, buffer, List.append_assoc]
  | none =>
      have full := Ring.push_eq_none.mp pushed
      exact .inr ⟨outlet.await, by simp only [push, pushed], outlet.sent_await, rfl, by simpa [Ring.isFull] using full⟩

/-- Where no consumer interferes, nothing happens before the push. -/
theorem await_unscheduled {outlet : Outlet α} (unscheduled : outlet.schedule = []) : outlet.await = outlet := by
  have same : outlet.ring.drop 0 = outlet.ring := Ring.ext rfl rfl rfl rfl
  cases outlet
  subst unscheduled
  simp [await, consume, same]

theorem push_full {outlet : Outlet α} (packet : α) (unscheduled : outlet.schedule = [])
    (full : outlet.ring.buffer.length = outlet.ring.capacity) : outlet.push packet = (outlet, false) := by
  unfold push
  rw [await_unscheduled unscheduled, Ring.push_eq_none.mpr full]

theorem push_room {outlet : Outlet α} (packet : α) (unscheduled : outlet.schedule = [])
    (room : outlet.ring.buffer.length < outlet.ring.capacity) :
    ∃ ring, outlet.push packet = ({ outlet with ring }, true) ∧ ring.buffer = outlet.ring.buffer ++ [packet] ∧
      ring.capacity = outlet.ring.capacity := by
  obtain ⟨ring, pushed, buffer, capacity, _⟩ := Ring.push_of_room packet room
  refine ⟨ring, ?_, buffer, capacity⟩
  unfold push
  rw [await_unscheduled unscheduled, pushed]

end Outlet

/-- The packets of a list that go to one port, in order. -/
def addressed [DecidableEq ο] (port : ο) (items : List (ο × α)) : List α :=
  items.filterMap fun item => if item.1 = port then some item.2 else none

section
variable [DecidableEq ο] {port : ο}

@[simp] theorem addressed_nil : addressed port ([] : List (ο × α)) = [] := rfl

@[simp] theorem addressed_append (left right : List (ο × α)) :
    addressed port (left ++ right) = addressed port left ++ addressed port right :=
  List.filterMap_append

theorem addressed_cons (item : ο × α) (rest : List (ο × α)) :
    addressed port (item :: rest) =
      if item.1 = port then item.2 :: addressed port rest else addressed port rest := by
  unfold addressed
  rw [List.filterMap_cons]
  split <;> simp_all

@[simp] theorem addressed_singleton_self (packet : α) : addressed port [(port, packet)] = [packet] := by
  simp [addressed]

theorem addressed_singleton_ne {other : ο} (packet : α) (different : other ≠ port) :
    addressed port [(other, packet)] = [] := by
  simp [addressed, different]

end

abbrev Outlets (ο α : Type) := ο → Outlet α

namespace Outlets

variable [DecidableEq ο]

def push (outs : Outlets ο α) (item : ο × α) : Outlets ο α × Bool :=
  (Function.update outs item.1 ((outs item.1).push item.2).1, ((outs item.1).push item.2).2)

/-- The items pushed one after the other are all accepted. -/
def fits (outs : Outlets ο α) : List (ο × α) → Bool
  | [] => true
  | item :: rest => (outs.push item).2 && fits (outs.push item).1 rest

theorem fits_of_append {left right : List (ο × α)} (outs : Outlets ο α)
    (fits : outs.fits (left ++ right) = true) : outs.fits left = true := by
  induction left generalizing outs with
  | nil => rfl
  | cons item rest ih =>
      simp only [List.cons_append, Outlets.fits, Bool.and_eq_true] at fits ⊢
      exact ⟨fits.1, ih _ fits.2⟩

theorem push_cases (outs : Outlets ο α) (item : ο × α) :
    (∃ next, outs.push item = (next, true) ∧
        (∀ port, (next port).sent = (outs port).sent ++ addressed port [item]) ∧
        ∀ rest, outs.fits (item :: rest) = fits next rest) ∨
      ∃ next, outs.push item = (next, false) ∧ (∀ port, (next port).sent = (outs port).sent) ∧
        ∀ rest, outs.fits (item :: rest) = false := by
  obtain ⟨target, packet⟩ := item
  rcases (outs target).push_cases packet with ⟨outlet, pushed, sent, _⟩ | ⟨outlet, refused, sent, _⟩
  · refine .inl ⟨Function.update outs target outlet, by simp only [push, pushed], ?_, ?_⟩
    · intro port
      by_cases same : port = target
      · subst same
        simpa using sent
      · rw [Function.update_of_ne same, addressed_singleton_ne _ (Ne.symm same), List.append_nil]
    · intro rest
      simp only [fits, push, pushed, Bool.true_and]
  · refine .inr ⟨Function.update outs target outlet, by simp only [push, refused], ?_, ?_⟩
    · intro port
      by_cases same : port = target
      · subst same
        simpa using sent
      · rw [Function.update_of_ne same]
    · intro rest
      simp only [fits, push, refused, Bool.false_and]

end Outlets

/-- Between `outs` with `held` items and `next` with `kept` items, the new `items`
have been sent, kept or lost, port by port. -/
def Balance [DecidableEq ο] (outs : Outlets ο α) (held items : List (ο × α))
    (next : Outlets ο α) (kept lost : List (ο × α)) : Prop :=
  ∀ port, ((next port).sent : Multiset α) + addressed port kept + addressed port lost =
    (outs port).sent + addressed port held + addressed port items

/-- Everything owed to a port has been sent to it or is still held for it. -/
def Conserved [DecidableEq ο] (outs : Outlets ο α) (held owed : List (ο × α)) : Prop :=
  ∀ port, ((outs port).sent : Multiset α) + addressed port held = addressed port owed

theorem addressed_eq_nil [DecidableEq ο] {items : List (ο × α)}
    (none : ∀ port, addressed port items = []) : items = [] := by
  cases items with
  | nil => rfl
  | cons item rest =>
      have here := none item.1
      rw [addressed_cons, if_pos rfl] at here
      cases here

namespace Balance

variable [DecidableEq ο] {outs next last : Outlets ο α}
variable {held items kept lost more final gone owed : List (ο × α)} {item : ο × α}

/-- Nothing is sent and nothing is new. -/
theorem still (sent : ∀ port, (next port).sent = (outs port).sent) : Balance outs held [] next held [] := by
  intro port
  rw [sent]

/-- Balance does not see what the consumers take. -/
theorem congr (balance : Balance outs held items next kept lost)
    (sent : ∀ port, (last port).sent = (next port).sent) : Balance outs held items last kept lost := by
  intro port
  rw [sent]
  exact balance port

theorem trans (first : Balance outs held items next kept lost)
    (second : Balance next kept more last final gone) :
    Balance outs held (items ++ more) last final (lost ++ gone) := by
  intro port
  have before := first port
  have after := second port
  rw [addressed_append, addressed_append, ← Multiset.coe_add, ← Multiset.coe_add]
  calc ((last port).sent : Multiset α) + addressed port final + (addressed port lost + addressed port gone)
      = ((last port).sent + addressed port final + addressed port gone) + addressed port lost := by abel
    _ = ((next port).sent + addressed port kept + addressed port lost) + addressed port more := by
        rw [after]
        abel
    _ = (outs port).sent + addressed port held + (addressed port items + addressed port more) := by
        rw [before]
        abel

/-- The oldest held item is sent. -/
theorem release (sent : ∀ port, (next port).sent = (outs port).sent ++ addressed port [item]) :
    Balance outs (item :: held) [] next held [] := by
  intro port
  have split : addressed port (item :: held) = addressed port [item] ++ addressed port held :=
    addressed_append [item] held
  rw [sent, split, ← Multiset.coe_add, ← Multiset.coe_add]
  abel

/-- New items are sent at once. -/
theorem forward (sent : ∀ port, (next port).sent = (outs port).sent ++ addressed port items) :
    Balance outs held items next held [] := by
  intro port
  rw [sent, ← Multiset.coe_add, addressed_nil, Multiset.coe_nil]
  abel

/-- A new item is held back. -/
theorem keep (sent : ∀ port, (next port).sent = (outs port).sent) :
    Balance outs held [item] next (held ++ [item]) [] := by
  intro port
  rw [sent, addressed_append, ← Multiset.coe_add, addressed_nil, Multiset.coe_nil]
  abel

/-- New items are lost. -/
theorem lose (sent : ∀ port, (next port).sent = (outs port).sent) :
    Balance outs held items next held items := by
  intro port
  rw [sent]

/-- The oldest held item is lost. -/
theorem abandon (sent : ∀ port, (next port).sent = (outs port).sent) :
    Balance outs (item :: held) [] next held [item] := by
  intro port
  have split : addressed port (item :: held) = addressed port [item] ++ addressed port held :=
    addressed_append [item] held
  rw [sent, split, ← Multiset.coe_add, addressed_nil, Multiset.coe_nil]
  abel

/-- It makes no difference whether an item was held or is new. -/
theorem swap (balance : Balance outs held items next kept lost) : Balance outs items held next kept lost := by
  intro port
  rw [balance port]
  abel

/-- From empty outlets on, conservation says that nothing was lost. -/
theorem conserved_iff (empty : ∀ port, (outs port).sent = [])
    (balance : Balance outs [] items next kept lost) : Conserved next kept items ↔ lost = [] := by
  have total : ∀ port, ((next port).sent : Multiset α) + addressed port kept + addressed port lost =
      addressed port items := by
    intro port
    rw [balance port, empty port]
    simp
  constructor
  · intro conserved
    refine addressed_eq_nil fun port => ?_
    have here := total port
    rw [conserved port, add_eq_left] at here
    exact (Multiset.coe_eq_zero _).mp here
  · intro none port
    have here := total port
    rw [none, addressed_nil, Multiset.coe_nil, add_zero] at here
    exact here

end Balance

end Flowd
