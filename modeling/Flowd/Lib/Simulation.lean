import Flowd.Lib.HashMap

namespace Flowd

/-! Two runs of one program on related states. -/

section Except

variable {ε α β γ δ : Type} {related : α → β → Prop} {relatedNext : γ → δ → Prop}

/-- Both fail alike, or both succeed with related results. -/
inductive Agree (related : α → β → Prop) : Except ε α → Except ε β → Prop where
  | ok {left : α} {right : β} : related left right → Agree related (.ok left) (.ok right)
  | error (failure : ε) : Agree related (.error failure) (.error failure)

theorem Agree.bind {left : Except ε α} {right : Except ε β} {leftNext : α → Except ε γ} {rightNext : β → Except ε δ}
    (agree : Agree related left right)
    (next : ∀ leftResult rightResult, related leftResult rightResult →
      Agree relatedNext (leftNext leftResult) (rightNext rightResult)) :
    Agree relatedNext (left >>= leftNext) (right >>= rightNext) := by
  cases agree with
  | ok results => exact next _ _ results
  | error failure => exact .error failure

theorem Agree.map {left : Except ε α} {right : Except ε β} {leftNext : α → γ} {rightNext : β → δ}
    (agree : Agree related left right)
    (next : ∀ leftResult rightResult, related leftResult rightResult →
      relatedNext (leftNext leftResult) (rightNext rightResult)) :
    Agree relatedNext (left.map leftNext) (right.map rightNext) := by
  cases agree with
  | ok results => exact .ok (next _ _ results)
  | error failure => exact .error failure

theorem Agree.refl (result : Except ε α) : Agree Eq result result := by
  cases result with
  | ok result => exact .ok rfl
  | error failure => exact .error failure

end Except

theorem rel_cases {α β : Type} {related : α → β → Prop} {left : Option α} {right : Option β}
    (values : Option.Rel related left right) :
    (left = none ∧ right = none) ∨ ∃ value other, left = some value ∧ right = some other ∧ related value other := by
  cases values with
  | none => exact .inl ⟨rfl, rfl⟩
  | some values => exact .inr ⟨_, _, rfl, rfl, values⟩

theorem rel_map {α β γ δ : Type} {related : α → β → Prop} {relatedNext : γ → δ → Prop} {left : Option α}
    {right : Option β} {leftNext : α → γ} {rightNext : β → δ} (values : Option.Rel related left right)
    (next : ∀ value other, related value other → relatedNext (leftNext value) (rightNext other)) :
    Option.Rel relatedNext (left.map leftNext) (right.map rightNext) := by
  cases values with
  | none => exact .none
  | some values => exact .some (next _ _ values)

namespace HashMap

variable {K V W : Type} [DecidableEq K] {related : V → W → Prop} {left : HashMap K V} {right : HashMap K W}

/-- The same keys, with related values. -/
def Alike (related : V → W → Prop) (left : HashMap K V) (right : HashMap K W) : Prop :=
  ∀ key, Option.Rel related (left.lookup key) (right.lookup key)

namespace Alike

theorem empty : Alike related (∅ : HashMap K V) (∅ : HashMap K W) := fun _ => .none

theorem refl {related : V → V → Prop} (map : HashMap K V)
    (self : ∀ key value, map.lookup key = some value → related value value) : Alike related map map := by
  intro key
  cases found : map.lookup key with
  | none => exact .none
  | some value => exact .some (self key value found)

theorem of_lookup {change : V → W} (same : ∀ key, right.lookup key = (left.lookup key).map change)
    (values : ∀ value, related value (change value)) : Alike related left right := by
  intro key
  rw [same key]
  cases left.lookup key with
  | none => exact .none
  | some value => exact .some (values value)

theorem mem_iff (alike : Alike related left right) (key : K) : key ∈ left ↔ key ∈ right := by
  rw [← AList.lookup_isSome, ← AList.lookup_isSome]
  generalize leftFound : left.lookup key = here
  generalize rightFound : right.lookup key = there
  have values := alike key
  rw [leftFound, rightFound] at values
  cases values with
  | none => rfl
  | some _ => rfl

theorem insert (alike : Alike related left right) (key : K) {value : V} {other : W} (values : related value other) :
    Alike related (AList.insert key value left) (AList.insert key other right) := by
  intro found
  rw [lookup_insert_ite, lookup_insert_ite]
  split
  · exact .some values
  · exact alike found

theorem erase (alike : Alike related left right) (key : K) :
    Alike related (AList.erase key left) (AList.erase key right) := by
  intro found
  rw [lookup_erase_ite, lookup_erase_ite]
  split
  · exact .none
  · exact alike found

theorem adjust (alike : Alike related left right) (key : K) {change : V → V} {changeOther : W → W}
    (values : ∀ value other, related value other → related (change value) (changeOther other)) :
    Alike related (left.adjust key change) (right.adjust key changeOther) := by
  intro found
  rw [lookup_adjust, lookup_adjust]
  split
  · exact rel_map (alike key) values
  · exact alike found

theorem tryInsert (alike : Alike related left right) (key : K) {value : V} {other : W} (values : related value other) :
    Option.Rel (Alike related) (left.tryInsert key value) (right.tryInsert key other) := by
  unfold HashMap.tryInsert
  by_cases taken : key ∈ left
  · rw [if_pos taken, if_pos ((alike.mem_iff key).mp taken)]
    exact .none
  · rw [if_neg taken, if_neg fun member => taken ((alike.mem_iff key).mpr member)]
    exact .some (alike.insert key values)

theorem weaken {weaker : V → W → Prop} (alike : Alike related left right)
    (implies : ∀ key value other, left.lookup key = some value → related value other → weaker value other) :
    Alike weaker left right := by
  intro key
  rcases rel_cases (alike key) with ⟨here, there⟩ | ⟨value, other, here, there, values⟩
  · rw [here, there]
    exact .none
  · rw [here, there]
    exact .some (implies key value other here values)

theorem trans {U : Type} {last : HashMap K U} {relatedNext : W → U → Prop} {relatedBoth : V → U → Prop}
    (first : Alike related left right) (second : Alike relatedNext right last)
    (both : ∀ value middle other, related value middle → relatedNext middle other → relatedBoth value other) :
    Alike relatedBoth left last := by
  intro key
  rcases rel_cases (first key) with ⟨here, there⟩ | ⟨value, middle, here, there, values⟩
  · rcases rel_cases (second key) with ⟨_, far⟩ | ⟨_, _, found, _⟩
    · rw [here, far]
      exact .none
    · rw [there] at found
      cases found
  · rcases rel_cases (second key) with ⟨missing, _⟩ | ⟨_, other, found, far, valuesNext⟩
    · rw [there] at missing
      cases missing
    · rw [there] at found
      cases found
      rw [here, far]
      exact .some (both value middle other values valuesNext)

/-- The lookups agree in what is read off the values. -/
theorem lookup_map {R : Type} {view : V → R} {viewOther : W → R} (alike : Alike related left right)
    (same : ∀ value other, related value other → view value = viewOther other) (key : K) :
    (left.lookup key).map view = (right.lookup key).map viewOther := by
  rcases rel_cases (alike key) with ⟨here, there⟩ | ⟨value, other, here, there, values⟩
  · rw [here, there]
    rfl
  · rw [here, there]
    exact congrArg some (same value other values)

end Alike

end HashMap

end Flowd
