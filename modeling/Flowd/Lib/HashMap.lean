import Mathlib

namespace Flowd

/-- A hash map: at most one value for each key.  Its iteration order is that of
the entries, which nothing relies on. -/
abbrev HashMap (K V : Type) := AList fun _ : K => V

namespace HashMap

variable {K V W : Type} [DecidableEq K]

/-- `get_mut` followed by an update in place. -/
def adjust (map : HashMap K V) (key : K) (change : V → V) : HashMap K V :=
  match map.lookup key with
  | some value => map.replace key (change value)
  | none => map

/-- `try_insert`: an occupied key is left alone. -/
def tryInsert (map : HashMap K V) (key : K) (value : V) : Option (HashMap K V) :=
  if key ∈ map then none else some (AList.insert key value map)

def mapValues (map : HashMap K V) (change : V → W) : HashMap K W where
  entries := map.entries.map fun entry => ⟨entry.1, change entry.2⟩
  nodupKeys := by
    have keys : (map.entries.map fun entry => (⟨entry.1, change entry.2⟩ : Sigma fun _ : K => W)).keys = map.keys := by
      simp [List.keys, AList.keys]
    rw [List.NodupKeys, keys]
    exact map.keys_nodup

def filterKeys (map : HashMap K V) (keeps : K → Bool) : HashMap K V where
  entries := map.entries.filter fun entry => keeps entry.1
  nodupKeys := map.nodupKeys.sublist List.filter_sublist

theorem lookup_insert_ite (map : HashMap K V) (key found : K) (value : V) :
    (AList.insert key value map).lookup found = if found = key then some value else map.lookup found := by
  by_cases same : found = key
  · subst found
    simp
  · simp [same, AList.lookup_insert_ne same]

theorem lookup_erase_ite (map : HashMap K V) (key found : K) :
    (AList.erase key map).lookup found = if found = key then none else map.lookup found := by
  by_cases same : found = key
  · subst found
    simp
  · simp [same, AList.lookup_erase_ne same]

theorem erase_absent {map : HashMap K V} {key : K} (absent : key ∉ map.keys) : AList.erase key map = map :=
  AList.ext (List.kerase_of_notMem_keys absent)

theorem lookup_mapValues (map : HashMap K V) (change : V → W) (key : K) :
    (map.mapValues change).lookup key = (map.lookup key).map change := by
  change List.dlookup key (map.entries.map fun entry => (⟨entry.1, change entry.2⟩ : Sigma fun _ : K => W)) =
    (List.dlookup key map.entries).map change
  induction map.entries with
  | nil => rfl
  | cons head tail ih =>
      obtain ⟨found, value⟩ := head
      rw [List.map_cons]
      by_cases same : key = found
      · subst same
        rw [List.dlookup_cons_eq, List.dlookup_cons_eq]
        rfl
      · rw [List.dlookup_cons_ne _ _ same, List.dlookup_cons_ne _ _ same]
        exact ih

theorem mem_of_lookup_map {map : HashMap K V} {other : HashMap K W} {change : V → W}
    (same : ∀ key, other.lookup key = (map.lookup key).map change) (key : K) : key ∈ other ↔ key ∈ map := by
  rw [← AList.lookup_isSome, same, Option.isSome_map, AList.lookup_isSome]

theorem dlookup_kreplace (found key : K) (value : V) {entries : List (Sigma fun _ : K => V)} (present : key ∈ entries.keys) :
    List.dlookup found (List.kreplace key value entries) = if found = key then some value else List.dlookup found entries := by
  induction entries with
  | nil => cases present
  | cons head tail ih =>
      obtain ⟨first, held⟩ := head
      by_cases here : key = first
      · subst here
        have replaced : List.kreplace key value (⟨key, held⟩ :: tail) = ⟨key, value⟩ :: tail :=
          List.lookmap_cons_some _ _ (if_pos rfl)
        rw [replaced]
        by_cases same : found = key
        · subst same
          rw [if_pos rfl, List.dlookup_cons_eq]
        · rw [if_neg same, List.dlookup_cons_ne _ _ same, List.dlookup_cons_ne _ _ same]
      · have replaced : List.kreplace key value (⟨first, held⟩ :: tail) = ⟨first, held⟩ :: List.kreplace key value tail :=
          List.lookmap_cons_none _ _ (if_neg here)
        have later : key ∈ tail.keys := by simpa [here] using present
        rw [replaced]
        by_cases same : found = first
        · subst same
          rw [if_neg (Ne.symm here), List.dlookup_cons_eq, List.dlookup_cons_eq]
        · rw [List.dlookup_cons_ne _ _ same, List.dlookup_cons_ne _ _ same]
          exact ih later

theorem lookup_adjust (map : HashMap K V) (key found : K) (change : V → V) :
    (map.adjust key change).lookup found =
      if found = key then (map.lookup key).map change else map.lookup found := by
  unfold adjust
  cases present : map.lookup key with
  | some value =>
      have member : key ∈ map := AList.lookup_isSome.mp (Option.isSome_of_eq_some present)
      exact dlookup_kreplace found key (change value) member
  | none =>
      by_cases same : found = key
      · subst same
        simpa using present
      · simp [same]

/-- Nothing changes with a value that stays the same. -/
theorem adjust_same {map : HashMap K V} {key : K} {value : V} {change : V → V} (found : map.lookup key = some value)
    (same : change value = value) : map.adjust key change = map := by
  unfold adjust
  rw [found]
  dsimp only
  rw [same]
  exact AList.ext (List.kreplace_self map.nodupKeys (AList.mem_lookup_iff.mp found))

@[simp] theorem mem_adjust (map : HashMap K V) (key found : K) (change : V → V) :
    found ∈ map.adjust key change ↔ found ∈ map := by
  rw [← AList.lookup_isSome, ← AList.lookup_isSome, lookup_adjust]
  split
  · next same => subst same; simp
  · rfl

end HashMap

end Flowd
