import Flowd.Lib.Ports

namespace Flowd

/-! The order in which items reach their ports. -/

variable {α ο : Type}

namespace Outlet

/-- The next push finds room. -/
def admits (outlet : Outlet α) : Bool := decide (outlet.await.ring.buffer.length < outlet.await.ring.capacity)

theorem push_admits (outlet : Outlet α) (packet : α) : (outlet.push packet).2 = outlet.admits := by
  have bounded := outlet.await.ring.bounded
  unfold push admits
  cases pushed : outlet.await.ring.push packet with
  | some ring => simp [(Ring.push_some pushed).1]
  | none =>
      have full := Ring.push_eq_none.mp pushed
      simp only [full, lt_self_iff_false, decide_false]

/-- A refused push changes nothing where no consumer interferes. -/
theorem push_refused {outlet : Outlet α} {packet : α} (unscheduled : outlet.schedule = [])
    (refused : (outlet.push packet).2 = false) : (outlet.push packet).1 = outlet := by
  unfold push at refused ⊢
  cases pushed : outlet.await.ring.push packet with
  | some ring => simp [pushed] at refused
  | none => exact await_unscheduled unscheduled

theorem push_schedule (outlet : Outlet α) (packet : α) : (outlet.push packet).1.schedule = outlet.schedule.tail := by
  unfold push
  cases outlet.await.ring.push packet <;> rfl

end Outlet

variable [DecidableEq ο]

namespace Outlets

variable {outs : Outlets ο α} {item : ο × α} {held fresh : List (ο × α)}

/-- Pushes the items until one is refused; what is left begins with that one. -/
def offer (outs : Outlets ο α) : List (ο × α) → List (ο × α) × Outlets ο α
  | [] => ([], outs)
  | item :: rest =>
      if (outs.push item).2 then offer (outs.push item).1 rest else (item :: rest, (outs.push item).1)

/-- How many of the items are accepted before one is refused. -/
def accepts (outs : Outlets ο α) (items : List (ο × α)) : Nat := items.length - (outs.offer items).1.length

/-- The same for several lists of items, each offered after the one before it. -/
def served (outs : Outlets ο α) : List (List (ο × α)) → List Nat
  | [] => []
  | items :: rest => outs.accepts items :: served (outs.offer items).2 rest

theorem offer_length (outs : Outlets ο α) (items : List (ο × α)) : (outs.offer items).1.length ≤ items.length := by
  induction items generalizing outs with
  | nil => exact Nat.le_refl _
  | cons item rest ih =>
      unfold offer
      split
      · exact Nat.le_succ_of_le (ih _)
      · exact Nat.le_refl _

theorem accepts_accepted (accepted : (outs.push item).2 = true) (rest : List (ο × α)) :
    outs.accepts (item :: rest) = (outs.push item).1.accepts rest + 1 := by
  have fewer := (outs.push item).1.offer_length rest
  simp only [accepts, offer, accepted, if_true, List.length_cons]
  omega

theorem accepts_refused (refused : (outs.push item).2 = false) (rest : List (ο × α)) :
    outs.accepts (item :: rest) = 0 := by
  simp [accepts, offer, refused]

@[simp] theorem length_served (outs : Outlets ο α) (lists : List (List (ο × α))) :
    (outs.served lists).length = lists.length := by
  induction lists generalizing outs with
  | nil => rfl
  | cons items rest ih => exact congrArg (· + 1) (ih _)

/-- A port for which an item is held refuses the next push if there is a fresh item for it. -/
def Blocked (outs : Outlets ο α) (held fresh : List (ο × α)) : Prop :=
  ∀ port, addressed port held ≠ [] → addressed port fresh ≠ [] → (outs port).admits = false

/-- By the list of all ports. -/
def decidableBlocked (ports : List ο) (all : ∀ port, port ∈ ports) (outs : Outlets ο α) (held fresh : List (ο × α)) :
    Decidable (outs.Blocked held fresh) :=
  decidable_of_iff (∀ port ∈ ports, (addressed port held).isEmpty = false → (addressed port fresh).isEmpty = false →
    (outs port).admits = false) (by simp only [Blocked, ne_eq, List.isEmpty_eq_false_iff, all, true_imp_iff])

/-- No consumer interferes. -/
def Quiet (outs : Outlets ο α) : Prop := ∀ port, (outs port).schedule = []

theorem push_other (outs : Outlets ο α) {port : ο} (different : port ≠ item.1) : (outs.push item).1 port = outs port :=
  Function.update_of_ne different _ _

theorem push_self (outs : Outlets ο α) (item : ο × α) : (outs.push item).1 item.1 = ((outs item.1).push item.2).1 :=
  Function.update_self _ _ _

theorem sent_accepted (accepted : (outs.push item).2 = true) (port : ο) :
    ((outs.push item).1 port).sent = (outs port).sent ++ addressed port [item] := by
  rcases outs.push_cases item with ⟨next, pushed, sent, _⟩ | ⟨next, pushed, _, _⟩
  · rw [pushed]
    exact sent port
  · rw [pushed] at accepted
    cases accepted

theorem sent_refused (refused : (outs.push item).2 = false) (port : ο) :
    ((outs.push item).1 port).sent = (outs port).sent := by
  rcases outs.push_cases item with ⟨next, pushed, _, _⟩ | ⟨next, pushed, sent, _⟩
  · rw [pushed] at refused
    cases refused
  · rw [pushed]
    exact sent port

theorem addressed_head (item : ο × α) (rest : List (ο × α)) : addressed item.1 (item :: rest) ≠ [] := by
  simp [addressed_cons]

theorem Blocked.rest (blocked : outs.Blocked held (item :: fresh)) : outs.Blocked held fresh := by
  intro port waiting coming
  apply blocked port waiting
  rw [addressed_cons]
  split
  · simp
  · exact coming

/-- What is accepted goes to a port for which nothing is held. -/
theorem Blocked.free (blocked : outs.Blocked held (item :: fresh)) (accepted : (outs.push item).2 = true) :
    addressed item.1 held = [] := by
  by_contra waiting
  have refused : (outs.push item).2 = false := by
    change ((outs item.1).push item.2).2 = false
    rw [Outlet.push_admits]
    exact blocked item.1 waiting (addressed_head item fresh)
  rw [refused] at accepted
  cases accepted

theorem Blocked.push (blocked : outs.Blocked held (item :: fresh)) (accepted : (outs.push item).2 = true) :
    (outs.push item).1.Blocked held fresh := by
  intro port waiting coming
  have different : port ≠ item.1 := fun same => waiting (same ▸ blocked.free accepted)
  rw [push_other outs different]
  exact blocked.rest port waiting coming

theorem Quiet.push (quiet : outs.Quiet) (item : ο × α) : (outs.push item).1.Quiet := by
  intro port
  by_cases same : port = item.1
  · rw [same, push_self, Outlet.push_schedule, quiet item.1]
    rfl
  · rw [push_other outs same]
    exact quiet port

theorem Quiet.refused (quiet : outs.Quiet) (refused : (outs.push item).2 = false) : (outs.push item).1 = outs := by
  funext port
  by_cases same : port = item.1
  · rw [same, push_self]
    exact Outlet.push_refused (quiet item.1) refused
  · exact push_other outs same

/-- An item that is refused joins those that are held. -/
theorem Blocked.keep (blocked : outs.Blocked held (item :: fresh)) (refused : (outs.push item).2 = false) :
    outs.Blocked (held ++ [item]) fresh := by
  intro port waiting coming
  by_cases same : port = item.1
  · rw [same, ← Outlet.push_admits _ item.2]
    exact refused
  · rw [addressed_append, addressed_singleton_ne item.2 (Ne.symm same), List.append_nil] at waiting
    exact blocked.rest port waiting coming

/-- No fresh item is accepted while one is held for its port; what is refused is held from
then on. -/
def InTurn (outs : Outlets ο α) : List (ο × α) → List (ο × α) → Prop
  | _, [] => True
  | held, item :: rest =>
      if (outs.push item).2 then addressed item.1 held = [] ∧ InTurn (outs.push item).1 held rest
      else InTurn (outs.push item).1 (held ++ [item]) rest

instance decidableInTurn : (outs : Outlets ο α) → (held fresh : List (ο × α)) → Decidable (outs.InTurn held fresh)
  | _, _, [] => inferInstanceAs (Decidable True)
  | outs, held, item :: rest =>
      have := decidableInTurn (outs.push item).1 held rest
      have := decidableInTurn (outs.push item).1 (held ++ [item]) rest
      have : Decidable (addressed item.1 held = []) := decidable_of_iff _ List.isEmpty_iff
      inferInstanceAs (Decidable (if (outs.push item).2 then addressed item.1 held = [] ∧
        InTurn (outs.push item).1 held rest else InTurn (outs.push item).1 (held ++ [item]) rest))

end Outlets

/-- Between `outs` with `held` items and `next` with `kept` items, the new `items` have
been sent or kept behind those that were held, port by port. -/
def InOrder (outs : Outlets ο α) (held items : List (ο × α)) (next : Outlets ο α) (kept : List (ο × α)) : Prop :=
  ∀ port, (next port).sent ++ addressed port kept = (outs port).sent ++ addressed port held ++ addressed port items

namespace InOrder

variable {outs next last : Outlets ο α} {held items kept more final : List (ο × α)} {item : ο × α}

theorem still (sent : ∀ port, (next port).sent = (outs port).sent) : InOrder outs held [] next held := by
  intro port
  rw [sent, addressed_nil, List.append_nil]

/-- The order does not depend on what the consumers take. -/
theorem congr (order : InOrder outs held items next kept) (sent : ∀ port, (last port).sent = (next port).sent) :
    InOrder outs held items last kept := by
  intro port
  rw [sent]
  exact order port

theorem trans (first : InOrder outs held items next kept) (second : InOrder next kept more last final) :
    InOrder outs held (items ++ more) last final := by
  intro port
  rw [second port, first port, addressed_append, List.append_assoc]

/-- The oldest held item is sent. -/
theorem release (sent : ∀ port, (next port).sent = (outs port).sent ++ addressed port [item]) :
    InOrder outs (item :: held) [] next held := by
  intro port
  have split : addressed port (item :: held) = addressed port [item] ++ addressed port held :=
    addressed_append [item] held
  rw [sent, split, addressed_nil, List.append_nil, List.append_assoc]

/-- A new item is sent to a port for which nothing is held. -/
theorem forward (sent : ∀ port, (next port).sent = (outs port).sent ++ addressed port [item])
    (free : addressed item.1 held = []) : InOrder outs held [item] next held := by
  intro port
  rw [sent]
  by_cases same : port = item.1
  · rw [same, free, List.append_nil, List.append_nil]
  · rw [addressed_singleton_ne item.2 (Ne.symm same), List.append_nil, List.append_nil]

/-- A new item is held back. -/
theorem keep (sent : ∀ port, (next port).sent = (outs port).sent) : InOrder outs held [item] next (held ++ [item]) := by
  intro port
  rw [sent, addressed_append, List.append_assoc]

end InOrder

end Flowd
