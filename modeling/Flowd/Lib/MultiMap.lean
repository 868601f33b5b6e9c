import Flowd.Lib.HashMap
import Mathlib.Algebra.Order.Group.Multiset
import Mathlib.Tactic.Abel

namespace Flowd

/-- A multimap, as the list of what has been inserted. -/
abbrev MultiMap (K V : Type) := List (K × V)

namespace MultiMap

variable {K V : Type} [DecidableEq K]

/-- `get_vec`: the values of a key, in the order of their insertion. -/
def values (map : MultiMap K V) (key : K) : List V :=
  map.filterMap fun entry => if entry.1 = key then some entry.2 else none

def containsKey (map : MultiMap K V) (key : K) : Bool := map.any fun entry => entry.1 = key

def insert (map : MultiMap K V) (key : K) (value : V) : MultiMap K V := map ++ [(key, value)]

variable {map left right : MultiMap K V} {key : K} {value : V}

@[simp] theorem values_append : values (left ++ right) key = values left key ++ values right key :=
  List.filterMap_append

theorem mem_values : value ∈ map.values key ↔ (key, value) ∈ map := by
  unfold values
  rw [List.mem_filterMap]
  constructor
  · intro found
    obtain ⟨⟨other, stored⟩, member, same⟩ := found
    dsimp only at same
    split at same
    · next here =>
        cases same
        rw [← here]
        exact member
    · cases same
  · intro member
    exact ⟨(key, value), member, if_pos rfl⟩

theorem containsKey_iff : map.containsKey key = true ↔ map.values key ≠ [] := by
  rw [containsKey, List.any_eq_true]
  constructor
  · intro found
    obtain ⟨⟨other, stored⟩, member, same⟩ := found
    rw [decide_eq_true_eq] at same
    subst same
    exact List.ne_nil_of_mem (mem_values.mpr member)
  · intro some
    obtain ⟨stored, member⟩ := List.exists_mem_of_ne_nil _ some
    exact ⟨(key, stored), mem_values.mp member, decide_eq_true rfl⟩

end MultiMap

namespace HashMap

variable {K V : Type} [DecidableEq K]

/-- `entry(key).or_insert_with(Vec::new).push(value)` -/
def pushTo (map : HashMap K (List V)) (key : K) (value : V) : HashMap K (List V) :=
  AList.insert key ((map.lookup key).getD [] ++ [value]) map

/-- The keys with each of their values, key by key. -/
def pairsOf (entries : List (Sigma fun _ : K => List V)) : MultiMap K V :=
  entries.flatMap fun entry => entry.2.map fun value => (entry.1, value)

def pairs (map : HashMap K (List V)) : MultiMap K V := pairsOf map.entries

omit [DecidableEq K] in
theorem pairsOf_append (left right : List (Sigma fun _ : K => List V)) :
    pairsOf (left ++ right) = pairsOf left ++ pairsOf right := List.flatMap_append

omit [DecidableEq K] in
theorem pairsOf_cons (entry : Sigma fun _ : K => List V) (rest : List (Sigma fun _ : K => List V)) :
    pairsOf (entry :: rest) = (entry.2.map fun value => (entry.1, value)) ++ pairsOf rest := List.flatMap_cons

theorem lookup_pushTo (map : HashMap K (List V)) (key found : K) (value : V) :
    ((map.pushTo key value).lookup found).getD [] =
      (map.lookup found).getD [] ++ if found = key then [value] else [] := by
  unfold pushTo
  rw [lookup_insert_ite]
  split
  · next same =>
      subst same
      rfl
  · rw [List.append_nil]

/-- Around the entry of a key: the others, and what is there without it. -/
theorem entries_split {map : HashMap K V} {key : K} {value : V} (found : map.lookup key = some value) :
    ∃ before after, map.entries = before ++ ⟨key, value⟩ :: after ∧
      (AList.erase key map).entries = before ++ after ∧
      ∀ entry ∈ before ++ after, entry.1 ≠ key := by
  have present : key ∈ map.entries.keys := by
    have member : key ∈ map := AList.lookup_isSome.mp (by rw [found]; rfl)
    exact member
  obtain ⟨stored, before, after, _, split, erased⟩ := List.exists_of_kerase present
  have same : stored = value := by
    have member : (⟨key, stored⟩ : Sigma fun _ : K => V) ∈ map.entries := by
      rw [split]
      exact List.mem_append_right _ List.mem_cons_self
    have looked := (List.mem_dlookup_iff map.nodupKeys).mpr member
    have here : map.entries.dlookup key = some value := found
    rw [here] at looked
    exact (Option.mem_some_iff.mp looked).symm
  subst same
  refine ⟨before, after, split, erased, ?_⟩
  intro entry member same
  have gone := List.notMem_keys_kerase key map.nodupKeys
  rw [erased] at gone
  exact gone (List.mem_keys.mpr ⟨entry.2, by rw [← same]; exact member⟩)

theorem pairs_pushTo (map : HashMap K (List V)) (key : K) (value : V) :
    (map.pushTo key value).pairs.Perm (map.pairs ++ [(key, value)]) := by
  unfold pushTo pairs
  cases found : map.lookup key with
  | none =>
      rw [AList.entries_insert_of_notMem (AList.lookup_eq_none.mp found)]
      exact (List.perm_append_singleton _ _).symm
  | some old =>
      obtain ⟨before, after, split, erased, _⟩ := entries_split found
      have others : map.entries.kerase key = before ++ after := erased
      rw [AList.entries_insert, others, split]
      rw [pairsOf_cons, pairsOf_append, pairsOf_append, pairsOf_cons, ← Multiset.coe_eq_coe]
      simp only [Option.getD_some, List.map_append, List.map_cons, List.map_nil, ← Multiset.coe_add]
      abel

theorem pairs_erase (map : HashMap K (List V)) (key : K) :
    pairs (AList.erase key map) = map.pairs.filter fun pair => pair.1 ≠ key := by
  unfold pairs
  have others : ∀ entries : List (Sigma fun _ : K => List V), (∀ entry ∈ entries, entry.1 ≠ key) →
      (pairsOf entries).filter (fun pair => pair.1 ≠ key) = pairsOf entries := by
    intro entries different
    apply List.filter_eq_self.mpr
    intro pair member
    obtain ⟨entry, here, inside⟩ := List.mem_flatMap.mp member
    obtain ⟨value, _, same⟩ := List.mem_map.mp inside
    rw [← same]
    simpa using different entry here
  cases found : map.lookup key with
  | none =>
      have absent : key ∉ map := AList.lookup_eq_none.mp found
      have same : (AList.erase key map).entries = map.entries := List.kerase_of_notMem_keys absent
      rw [same, others]
      intro entry member here
      exact absent (List.mem_keys.mpr ⟨entry.2, by rw [← here]; exact member⟩)
  | some old =>
      obtain ⟨before, after, split, erased, different⟩ := entries_split found
      have gone : (old.map fun value => (key, value)).filter (fun pair => pair.1 ≠ key) = [] := by
        apply List.filter_eq_nil_iff.mpr
        intro pair member
        obtain ⟨value, _, same⟩ := List.mem_map.mp member
        rw [← same]
        simp
      rw [erased, split, pairsOf_append, pairsOf_append, pairsOf_cons, List.filter_append, List.filter_append, gone,
        List.nil_append, others before fun entry member => different entry (List.mem_append_left _ member),
        others after fun entry member => different entry (List.mem_append_right _ member)]

end HashMap

end Flowd
