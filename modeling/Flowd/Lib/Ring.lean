import Mathlib.Data.List.Basic
import Mathlib.Tactic.Common

namespace Flowd

/-! Bounded single-producer, single-consumer queues.  The two ends may be dropped
independently; what is still buffered survives its producer. -/

structure Ring (α : Type) where
  buffer : List α
  capacity : Nat
  producerAlive : Bool
  consumerAlive : Bool
  bounded : buffer.length ≤ capacity

namespace Ring

variable {α : Type}

def empty (capacity : Nat) : Ring α :=
  ⟨[], capacity, true, true, Nat.zero_le _⟩

def isEmpty (ring : Ring α) : Bool := ring.buffer.isEmpty

def isFull (ring : Ring α) : Bool := decide (ring.buffer.length = ring.capacity)

/-- The producer is gone; packets may still be buffered. -/
def isAbandoned (ring : Ring α) : Bool := !ring.producerAlive

/-- A full ring refuses the packet. -/
def push (ring : Ring α) (packet : α) : Option (Ring α) :=
  if room : ring.buffer.length < ring.capacity then
    some { ring with
      buffer := ring.buffer ++ [packet]
      bounded := by simp only [List.length_append, List.length_singleton]; omega }
  else none

def pop (ring : Ring α) : Option (α × Ring α) :=
  match found : ring.buffer with
  | [] => none
  | packet :: rest =>
      some (packet, { ring with
        buffer := rest
        bounded := by
          have bounded := ring.bounded
          rw [found, List.length_cons] at bounded
          omega })

/-- Removes the oldest `count` packets. -/
def drop (ring : Ring α) (count : Nat) : Ring α :=
  { ring with
    buffer := ring.buffer.drop count
    bounded := by have bounded := ring.bounded; simp only [List.length_drop]; omega }

def dropProducer (ring : Ring α) : Ring α := { ring with producerAlive := false }

def dropConsumer (ring : Ring α) : Ring α := { ring with consumerAlive := false }

@[simp] theorem drop_buffer (ring : Ring α) (count : Nat) :
    (ring.drop count).buffer = ring.buffer.drop count := rfl
@[simp] theorem drop_capacity (ring : Ring α) (count : Nat) :
    (ring.drop count).capacity = ring.capacity := rfl
@[simp] theorem drop_producerAlive (ring : Ring α) (count : Nat) :
    (ring.drop count).producerAlive = ring.producerAlive := rfl
@[simp] theorem drop_isAbandoned (ring : Ring α) (count : Nat) :
    (ring.drop count).isAbandoned = ring.isAbandoned := rfl
@[simp] theorem dropProducer_buffer (ring : Ring α) : ring.dropProducer.buffer = ring.buffer := rfl
@[simp] theorem dropProducer_isAbandoned (ring : Ring α) : ring.dropProducer.isAbandoned = true := rfl

@[ext] theorem ext {left right : Ring α} (buffer : left.buffer = right.buffer)
    (capacity : left.capacity = right.capacity)
    (producer : left.producerAlive = right.producerAlive)
    (consumer : left.consumerAlive = right.consumerAlive) : left = right := by
  cases left
  cases right
  simp only [mk.injEq]
  exact ⟨buffer, capacity, producer, consumer⟩

theorem push_of_room {ring : Ring α} (packet : α) (room : ring.buffer.length < ring.capacity) :
    ∃ next, ring.push packet = some next ∧ next.buffer = ring.buffer ++ [packet] ∧
      next.capacity = ring.capacity ∧ next.producerAlive = ring.producerAlive ∧
      next.consumerAlive = ring.consumerAlive := by
  simp only [push, room, ↓reduceDIte]
  exact ⟨_, rfl, rfl, rfl, rfl, rfl⟩

theorem push_eq_none {ring : Ring α} {packet : α} :
    ring.push packet = none ↔ ring.buffer.length = ring.capacity := by
  have bounded := ring.bounded
  unfold push
  split
  · simp only [reduceCtorEq, false_iff]; omega
  · simp only [true_iff]; omega

theorem push_some {ring next : Ring α} {packet : α} (pushed : ring.push packet = some next) :
    ring.buffer.length < ring.capacity ∧ next.buffer = ring.buffer ++ [packet] ∧
      next.capacity = ring.capacity ∧ next.producerAlive = ring.producerAlive ∧
      next.consumerAlive = ring.consumerAlive := by
  unfold push at pushed
  split at pushed
  · next room => cases pushed; exact ⟨room, rfl, rfl, rfl, rfl⟩
  · cases pushed

theorem pop_eq (ring : Ring α) : ring.pop =
    match ring.buffer with
    | [] => none
    | packet :: _ => some (packet, ring.drop 1) := by
  unfold pop
  split
  · next found => simp [found]
  · next packet rest found =>
      simp only [found]
      congr 2
      exact Ring.ext (by simp [found]) rfl rfl rfl

end Ring

end Flowd
