import Flowd.Lib.HashMap
import Mathlib.Order.Basic

namespace Flowd.SortedMap

/-! Maps as entry lists in the order of their keys.

The entries of a map are determined by its lookups, so that two maps that are
filled in a different order are equal.
-/

variable {K V W : Type} [LinearOrder K]

def get (key : K) : List (K × V) → Option V
  | [] => none
  | entry :: rest => if entry.1 = key then some entry.2 else get key rest

def insert (key : K) (value : V) : List (K × V) → List (K × V)
  | [] => [(key, value)]
  | entry :: rest =>
      if key < entry.1 then (key, value) :: entry :: rest
      else if key = entry.1 then (key, value) :: rest
      else entry :: insert key value rest

def remove (key : K) (entries : List (K × V)) : List (K × V) := entries.filter fun entry => entry.1 ≠ key

/-- The last entry of a key counts. -/
def ofList (entries : List (K × V)) : List (K × V) :=
  entries.foldl (fun map entry => insert entry.1 entry.2 map) []

def Sorted (entries : List (K × V)) : Prop := entries.Pairwise fun left right => left.1 < right.1

variable {key other : K} {value : V} {entry : K × V} {entries rest left right : List (K × V)}

@[simp] theorem get_nil : get key ([] : List (K × V)) = none := rfl

theorem get_cons : get key (entry :: rest) = if entry.1 = key then some entry.2 else get key rest := rfl

theorem get_eq_none (absent : ∀ entry ∈ entries, entry.1 ≠ key) : get key entries = none := by
  induction entries with
  | nil => rfl
  | cons head tail ih =>
      rw [get_cons, if_neg (absent head List.mem_cons_self)]
      exact ih fun entry member => absent entry (List.mem_cons_of_mem _ member)

theorem get_map (entries : List (K × V)) (change : V → W) :
    get key (entries.map fun entry => (entry.1, change entry.2)) = (get key entries).map change := by
  induction entries with
  | nil => rfl
  | cons head tail ih =>
      rw [List.map_cons, get_cons, get_cons, ih]
      split <;> rfl

theorem mem_insert (member : entry ∈ insert key value entries) : entry = (key, value) ∨ entry ∈ entries := by
  induction entries with
  | nil => exact .inl (List.mem_singleton.mp member)
  | cons head tail ih =>
      rw [insert] at member
      split at member
      · exact List.mem_cons.mp member
      · split at member
        · rcases List.mem_cons.mp member with here | later
          · exact .inl here
          · exact .inr (List.mem_cons_of_mem _ later)
        · rcases List.mem_cons.mp member with here | later
          · exact .inr (here ▸ List.mem_cons_self)
          · exact (ih later).imp_right (List.mem_cons_of_mem _)

theorem Sorted.insert (sorted : Sorted entries) : Sorted (SortedMap.insert key value entries) := by
  induction entries with
  | nil => exact List.pairwise_singleton _ _
  | cons head tail ih =>
      obtain ⟨below, tailSorted⟩ := List.pairwise_cons.mp sorted
      rw [SortedMap.insert]
      split
      · next less =>
          apply List.Pairwise.cons _ sorted
          intro entry member
          rcases List.mem_cons.mp member with here | later
          · exact here ▸ less
          · exact less.trans (below entry later)
      · next notLess =>
          split
          · next same =>
              subst same
              exact tailSorted.cons below
          · next different =>
              apply List.Pairwise.cons _ (ih tailSorted)
              intro entry member
              rcases mem_insert member with here | later
              · exact here ▸ lt_of_le_of_ne (not_lt.mp notLess) (Ne.symm different)
              · exact below entry later

theorem get_insert (entries : List (K × V)) :
    get other (insert key value entries) = if key = other then some value else get other entries := by
  induction entries with
  | nil => rfl
  | cons head tail ih =>
      rw [insert]
      split
      · rfl
      · split
        · next same =>
            rw [get_cons, get_cons, same]
            split <;> rfl
        · next different =>
            rw [get_cons, get_cons, ih]
            by_cases here : head.1 = other
            · rw [if_pos here, if_pos here, if_neg fun same => different (same.trans here.symm)]
            · rw [if_neg here, if_neg here]

theorem get_remove (entries : List (K × V)) :
    get other (remove key entries) = if key = other then none else get other entries := by
  unfold remove
  induction entries with
  | nil => simp
  | cons head tail ih =>
      by_cases dropped : head.1 = key
      · rw [List.filter_cons_of_neg (by simpa using dropped), ih, get_cons, dropped]
        split <;> rfl
      · rw [List.filter_cons_of_pos (by simpa using dropped), get_cons, get_cons, ih]
        by_cases here : head.1 = other
        · rw [if_pos here, if_pos here, if_neg fun same => dropped (here.trans same.symm)]
        · rw [if_neg here, if_neg here]

theorem fill_sorted (sorted : Sorted left) :
    Sorted (entries.foldl (fun map entry => insert entry.1 entry.2 map) left) := by
  induction entries generalizing left with
  | nil => exact sorted
  | cons head tail ih => exact ih sorted.insert

theorem sorted_ofList (entries : List (K × V)) : Sorted (ofList entries) := fill_sorted List.Pairwise.nil

theorem get_fill (distinct : (entries.map Prod.fst).Nodup) (fresh : ∀ entry ∈ entries, get entry.1 left = none) :
    get key (entries.foldl (fun map entry => insert entry.1 entry.2 map) left) =
      (get key entries).or (get key left) := by
  induction entries generalizing left with
  | nil => rfl
  | cons head tail ih =>
      obtain ⟨new, distinctTail⟩ := List.nodup_cons.mp distinct
      have different : ∀ entry ∈ tail, entry.1 ≠ head.1 := by
        intro entry member same
        exact new (List.mem_map.mpr ⟨entry, member, same⟩)
      have freshTail : ∀ entry ∈ tail, get entry.1 (insert head.1 head.2 left) = none := by
        intro entry member
        rw [get_insert, if_neg (different entry member).symm]
        exact fresh entry (List.mem_cons_of_mem _ member)
      rw [List.foldl_cons, ih distinctTail freshTail, get_insert, get_cons]
      by_cases here : head.1 = key
      · have absent : get key tail = none := get_eq_none fun entry member => here ▸ different entry member
        rw [if_pos here, if_pos here, absent]
        rfl
      · rw [if_neg here, if_neg here]

/-- The lookups of a filled map are those of the list it is filled from. -/
theorem get_ofList (distinct : (entries.map Prod.fst).Nodup) : get key (ofList entries) = get key entries := by
  rw [ofList, get_fill distinct fun _ _ => rfl, get_nil, Option.or_none]

theorem Sorted.get_none (sorted : Sorted (entry :: rest)) (less : key < entry.1) : get key (entry :: rest) = none := by
  apply get_eq_none
  intro later member
  rcases List.mem_cons.mp member with here | below
  · exact here ▸ less.ne'
  · exact (less.trans ((List.pairwise_cons.mp sorted).1 later below)).ne'

theorem Sorted.get_tail (sorted : Sorted (entry :: rest)) :
    get key rest = if entry.1 = key then none else get key (entry :: rest) := by
  by_cases here : entry.1 = key
  · rw [if_pos here]
    exact get_eq_none fun later member => here ▸ ((List.pairwise_cons.mp sorted).1 later member).ne'
  · rw [if_neg here, get_cons, if_neg here]

theorem Sorted.ext (leftSorted : Sorted left) (rightSorted : Sorted right)
    (same : ∀ key, get key left = get key right) : left = right := by
  induction left generalizing right with
  | nil =>
      cases right with
      | nil => rfl
      | cons other rest => simpa [get_cons] using same other.1
  | cons head tail ih =>
      cases right with
      | nil => simpa [get_cons] using same head.1
      | cons other rest =>
          have keys : head.1 = other.1 := by
            rcases lt_trichotomy head.1 other.1 with less | equal | greater
            · have found := same head.1
              rw [rightSorted.get_none less] at found
              simp [get_cons] at found
            · exact equal
            · have found := same other.1
              rw [leftSorted.get_none greater] at found
              simp [get_cons] at found
          have values : some head.2 = some other.2 := by
            have found := same head.1
            rwa [get_cons, get_cons, if_pos rfl, if_pos keys.symm] at found
          have heads : head = other := Prod.ext keys (Option.some.inj values)
          subst heads
          have tails : tail = rest := by
            apply ih (List.pairwise_cons.mp leftSorted).2 (List.pairwise_cons.mp rightSorted).2
            intro key
            rw [leftSorted.get_tail, rightSorted.get_tail, same key]
          rw [tails]

theorem Sorted.nodup (sorted : Sorted entries) : (entries.map Prod.fst).Nodup :=
  List.pairwise_map.mpr (sorted.imp fun less => less.ne)

theorem Sorted.map (sorted : Sorted entries) (change : V → W) :
    Sorted (entries.map fun entry => (entry.1, change entry.2)) := List.pairwise_map.mpr sorted

/-! The entries of a hash map, in the order of their keys. -/

def ofHashMap (map : HashMap K V) : List (K × V) := ofList (map.entries.map fun entry => (entry.1, id entry.2))

def toHashMap (entries : List (K × V)) : HashMap K V :=
  entries.foldl (fun map entry => AList.insert entry.1 entry.2 map) ∅

theorem get_entries (map : HashMap K V) (change : V → W) :
    get key (map.entries.map fun entry => (entry.1, change entry.2)) = (map.lookup key).map change := by
  change _ = (List.dlookup key map.entries).map _
  induction map.entries with
  | nil => rfl
  | cons head tail ih =>
      obtain ⟨found, value⟩ := head
      rw [List.map_cons, get_cons, ih]
      by_cases here : found = key
      · subst here
        rw [if_pos rfl, List.dlookup_cons_eq]
        rfl
      · rw [if_neg here, List.dlookup_cons_ne _ _ (Ne.symm here)]

omit [LinearOrder K] in
theorem nodup_entries (map : HashMap K V) (change : V → W) :
    ((map.entries.map fun entry => (entry.1, change entry.2)).map Prod.fst).Nodup := by
  rw [List.map_map]
  exact map.nodupKeys

@[simp] theorem get_ofHashMap (map : HashMap K V) : get key (ofHashMap map) = map.lookup key := by
  rw [ofHashMap, get_ofList (nodup_entries map id), get_entries map id, Option.map_id, id]

theorem sorted_ofHashMap (map : HashMap K V) : Sorted (ofHashMap map) := sorted_ofList _

theorem lookup_toHashMap (distinct : (entries.map Prod.fst).Nodup) : (toHashMap entries).lookup key = get key entries := by
  have general : ∀ map : HashMap K V,
      (entries.foldl (fun map entry => AList.insert entry.1 entry.2 map) map).lookup key =
        (get key entries).or (map.lookup key) := by
    induction entries with
    | nil => intro map; rfl
    | cons head tail ih =>
        intro map
        obtain ⟨new, distinctTail⟩ := List.nodup_cons.mp distinct
        rw [List.foldl_cons, ih distinctTail, get_cons, HashMap.lookup_insert_ite]
        by_cases here : key = head.1
        · have absent : get key tail = none := by
            apply get_eq_none
            intro entry member same
            exact new (List.mem_map.mpr ⟨entry, member, same.trans here⟩)
          rw [if_pos here, if_pos here.symm, absent]
          rfl
        · rw [if_neg here, if_neg (Ne.symm here)]
  rw [toHashMap, general, AList.lookup_empty, Option.or_none]

end Flowd.SortedMap
