import Mathlib

namespace Flowd

/-! Lists cut at delimiters, and the lists that are joined with one. -/

namespace Delimited

variable {α : Type} {delimiter : α} {front back left right : List α}

/-- The first delimiter tells where the front ends. -/
theorem cut_inj (outside : delimiter ∉ front) (other : delimiter ∉ left)
    (same : front ++ delimiter :: back = left ++ delimiter :: right) : front = left ∧ back = right := by
  induction front generalizing left with
  | nil =>
      cases left with
      | nil => exact ⟨rfl, (List.cons.inj same).2⟩
      | cons first left => exact absurd (List.mem_cons.mpr (.inl (List.cons.inj same).1)) other
  | cons first front ih =>
      cases left with
      | nil => exact absurd (List.mem_cons.mpr (.inl (List.cons.inj same).1.symm)) outside
      | cons second left =>
          obtain ⟨rfl, rest⟩ := List.cons.inj same
          obtain ⟨rfl, rfl⟩ := ih (fun member => outside (List.mem_cons_of_mem _ member))
            (fun member => other (List.mem_cons_of_mem _ member)) rest
          exact ⟨rfl, rfl⟩

/-- A part holds elements of the list, and no delimiter. -/
theorem mem_splitOnP {delimits : α → Bool} {list part : List α} (member : part ∈ list.splitOnP delimits) :
    ∀ element ∈ part, element ∈ list ∧ delimits element = false := by
  induction list generalizing part with
  | nil =>
      rw [List.splitOnP_nil, List.mem_singleton] at member
      simp [member]
  | cons first rest ih =>
      rw [List.splitOnP_cons_eq_if_modifyHead] at member
      split at member
      · rcases List.mem_cons.mp member with rfl | later
        · simp
        · exact fun element inside => ⟨List.mem_cons_of_mem _ (ih later element inside).1, (ih later element inside).2⟩
      · next plain =>
          cases parts : rest.splitOnP delimits with
          | nil => exact absurd parts (List.splitOnP_ne_nil _ _)
          | cons head tail =>
              rw [parts] at ih member
              intro element inside
              have later : (element ∈ rest ∧ delimits element = false) → element ∈ first :: rest ∧ delimits element = false :=
                fun found => ⟨List.mem_cons_of_mem _ found.1, found.2⟩
              rcases List.mem_cons.mp member with rfl | other
              · rcases List.mem_cons.mp inside with rfl | inner
                · exact ⟨List.mem_cons_self, by simpa using plain⟩
                · exact later (ih List.mem_cons_self element inner)
              · exact later (ih (List.mem_cons_of_mem _ other) element inside)

theorem mem_intercalate {element : α} {joined : List (List α)} (member : element ∈ [delimiter].intercalate joined) :
    element = delimiter ∨ ∃ part ∈ joined, element ∈ part := by
  induction joined with
  | nil => cases member
  | cons first rest ih =>
      cases rest with
      | nil => exact .inr ⟨first, List.mem_cons_self, by simpa using member⟩
      | cons second rest =>
          rw [List.intercalate_cons_cons, List.mem_append, List.mem_append, List.mem_singleton] at member
          rcases member with (inside | same) | later
          · exact .inr ⟨first, List.mem_cons_self, inside⟩
          · exact .inl same
          · rcases ih later with same | ⟨part, known, inside⟩
            · exact .inl same
            · exact .inr ⟨part, List.mem_cons_of_mem _ known, inside⟩

/-- What has been joined to a line; nothing makes the empty line. -/
def parts [DecidableEq α] (delimiter : α) (line : List α) : List (List α) := if line.isEmpty then [] else line.splitOn delimiter

theorem parts_intercalate [DecidableEq α] {joined : List (List α)} (outside : ∀ part ∈ joined, delimiter ∉ part)
    (something : ∀ part ∈ joined, part ≠ []) : parts delimiter ([delimiter].intercalate joined) = joined := by
  cases joined with
  | nil => rfl
  | cons first rest =>
      have split := List.splitOn_intercalate delimiter outside (List.cons_ne_nil first rest)
      have line : [delimiter].intercalate (first :: rest) ≠ [] := by
        intro empty
        rw [empty, List.splitOn_nil] at split
        exact something first List.mem_cons_self (List.cons.inj split).1.symm
      rw [parts, if_neg (by simpa using line), split]

end Delimited

end Flowd
