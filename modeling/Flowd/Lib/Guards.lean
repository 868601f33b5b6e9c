import Mathlib.Data.List.Basic
import Mathlib.Tactic.Common

namespace Flowd.Guards

/-! What one thread does with its locks. -/

/-- `lock` takes a lock for itself alone, `share` takes it together with other readers.
A `send` may fail. -/
inductive Step (L : Type) where
  | lock (name : L)
  | unlock (name : L)
  | share (name : L)
  | unshare (name : L)
  | send
deriving DecidableEq

variable {L : Type} [DecidableEq L]

/-- The locks that the thread has for itself alone afterwards. -/
def held : List L → List (Step L) → List L
  | owned, [] => owned
  | owned, .lock name :: rest => held (name :: owned) rest
  | owned, .unlock name :: rest => held (owned.erase name) rest
  | owned, _ :: rest => held owned rest

/-- The thread waits for a lock that it has itself. -/
def relocks : List L → List (Step L) → Bool
  | _, [] => false
  | owned, .lock name :: rest => decide (name ∈ owned) || relocks (name :: owned) rest
  | owned, .unlock name :: rest => relocks (owned.erase name) rest
  | owned, _ :: rest => relocks owned rest

/-- The locks that the thread has for itself alone at one of its sends. -/
def heldAtSends : List L → List (Step L) → List L
  | _, [] => []
  | owned, .lock name :: rest => heldAtSends (name :: owned) rest
  | owned, .unlock name :: rest => heldAtSends (owned.erase name) rest
  | owned, .send :: rest => owned ++ heldAtSends owned rest
  | owned, _ :: rest => heldAtSends owned rest

/-- What a failing send leaves poisoned. -/
def poisoned (owned : List L) : List (Step L) → Nat → List L
  | [], _ => []
  | .send :: _, 0 => owned
  | .send :: rest, failing + 1 => poisoned owned rest failing
  | .lock name :: rest, failing => poisoned (name :: owned) rest failing
  | .unlock name :: rest, failing => poisoned (owned.erase name) rest failing
  | _ :: rest, failing => poisoned owned rest failing

variable {owned : List L} {first rest : List (Step L)}

theorem held_append : held owned (first ++ rest) = held (held owned first) rest := by
  induction first generalizing owned with
  | nil => rfl
  | cons step later ih =>
      cases step with
      | lock name => exact ih
      | unlock name => exact ih
      | share name => exact ih
      | unshare name => exact ih
      | send => exact ih

theorem relocks_append : relocks owned (first ++ rest) = (relocks owned first || relocks (held owned first) rest) := by
  induction first generalizing owned with
  | nil => rfl
  | cons step later ih =>
      cases step with
      | lock name => simp only [List.cons_append, relocks, held, ih, Bool.or_assoc]
      | unlock name => exact ih
      | share name => exact ih
      | unshare name => exact ih
      | send => exact ih

theorem mem_poisoned_iff {name : L} :
    (∃ failing, name ∈ poisoned owned first failing) ↔ name ∈ heldAtSends owned first := by
  induction first generalizing owned with
  | nil => simp [poisoned, heldAtSends]
  | cons step later ih =>
      cases step with
      | lock other => exact ih
      | unlock other => exact ih
      | share other => exact ih
      | unshare other => exact ih
      | send =>
          rw [heldAtSends, List.mem_append, ← ih]
          constructor
          · intro found
            obtain ⟨failing, member⟩ := found
            cases failing with
            | zero => exact .inl member
            | succ failing => exact .inr ⟨failing, member⟩
          · intro found
            rcases found with member | ⟨failing, member⟩
            · exact ⟨0, member⟩
            · exact ⟨failing + 1, member⟩

theorem heldAtSends_append :
    heldAtSends owned (first ++ rest) = heldAtSends owned first ++ heldAtSends (held owned first) rest := by
  induction first generalizing owned with
  | nil => rfl
  | cons step later ih =>
      cases step with
      | lock name => exact ih
      | unlock name => exact ih
      | share name => exact ih
      | unshare name => exact ih
      | send => simp only [List.cons_append, heldAtSends, held, ih, List.append_assoc]

/-- Steps without a send that leave a thread with the locks it had. -/
structure Quiet (steps : List (Step L)) : Prop where
  balanced : ∀ owned, held owned steps = owned
  silent : ∀ owned, heldAtSends owned steps = []

theorem Quiet.nil : Quiet ([] : List (Step L)) :=
  ⟨fun _ => rfl, fun _ => rfl⟩

theorem Quiet.append (left : Quiet first) (right : Quiet rest) : Quiet (first ++ rest) := by
  constructor
  · intro owned
    rw [held_append, left.balanced, right.balanced]
  · intro owned
    rw [heldAtSends_append, left.silent, right.silent]
    rfl

theorem Quiet.flatMap {α : Type} {items : List α} {steps : α → List (Step L)} (each : ∀ item, Quiet (steps item)) :
    Quiet (items.flatMap steps) := by
  induction items with
  | nil => exact .nil
  | cons item later ih => exact (each item).append ih

theorem Quiet.locked (name : L) (inner : Quiet first) : Quiet ([.lock name] ++ first ++ [.unlock name]) := by
  constructor
  · intro owned
    rw [held_append, held_append, inner.balanced]
    exact List.erase_cons_head name owned
  · intro owned
    rw [heldAtSends_append, heldAtSends_append, inner.silent]
    rfl

theorem Quiet.lock (name : L) : Quiet [.lock name, .unlock name] :=
  Quiet.nil.locked name

theorem Quiet.share (name : L) : Quiet [.share name, .unshare name] :=
  ⟨fun _ => rfl, fun _ => rfl⟩

/-- Steps that send only while the thread has no lock for itself alone. -/
structure Open (steps : List (Step L)) : Prop where
  released : held [] steps = []
  sends : heldAtSends [] steps = []

theorem Quiet.open (quiet : Quiet first) : Open first :=
  ⟨quiet.balanced [], quiet.silent []⟩

theorem Open.append (left : Open first) (right : Open rest) : Open (first ++ rest) := by
  constructor
  · rw [held_append, left.released, right.released]
  · rw [heldAtSends_append, left.released, left.sends, right.sends]
    rfl

theorem Open.sends_map {α : Type} (items : List α) : Open (items.map fun _ => (.send : Step L)) := by
  induction items with
  | nil => exact ⟨rfl, rfl⟩
  | cons item later ih =>
      have one : Open [(.send : Step L)] := ⟨rfl, rfl⟩
      exact one.append ih

end Flowd.Guards
