import Mathlib.Data.List.AList
import Mathlib.Data.List.Sort

/-! # Dictionaries and ordered sets

Finite maps with distinct keys, as hash maps and concurrent maps are used by the
source. The order of the entries is one iteration order among those a hash map
may have; nothing below depends on it. -/

namespace RustyCore

/-- A finite map from `κ` to `ν`. -/
abbrev Dict (κ ν : Type*) := AList (fun _ : κ => ν)

namespace Dict

variable {κ ν : Type*} [DecidableEq κ]
variable {d : Dict κ ν} {k : κ} {v : ν} {p : κ → ν → Bool} {rank : κ → ℕ}

/-- Keep the entries that satisfy `p`. -/
def retain (p : κ → ν → Bool) (d : Dict κ ν) : Dict κ ν :=
  ⟨d.entries.filter (fun e => p e.1 e.2), d.nodupKeys.sublist List.filter_sublist⟩

omit [DecidableEq κ] in
/-- Whether there is no entry at all. -/
def isEmpty (d : Dict κ ν) : Bool := d.entries.isEmpty

omit [DecidableEq κ] in
/-- The values, in iteration order. -/
def values (d : Dict κ ν) : List ν := d.entries.map (·.2)

omit [DecidableEq κ] in
/-- Whether some entry satisfies `p`. -/
def anyEntry (p : κ → ν → Bool) (d : Dict κ ν) : Bool := d.entries.any (fun e => p e.1 e.2)

omit [DecidableEq κ] in
/-- The first key whose entry satisfies `p`, when the map is iterated in the order of
`rank`. Hash maps promise no order, so `rank` is left open. -/
def findKey (rank : κ → ℕ) (p : κ → ν → Bool) (d : Dict κ ν) : Option κ :=
  ((d.entries.insertionSort (fun e e' => rank e.1 ≤ rank e'.1)).find?
    (fun e => p e.1 e.2)).map Sigma.fst

/-- Change the value stored under `k`, if there is one. -/
def modify (k : κ) (f : ν → ν) (d : Dict κ ν) : Dict κ ν :=
  match d.lookup k with
  | none => d
  | some v => d.insert k (f v)

omit [DecidableEq κ] in
/-- Change every value. -/
def mapValues {ν' : Type*} (f : κ → ν → ν') (d : Dict κ ν) : Dict κ ν' where
  entries := d.entries.map fun e => ⟨e.1, f e.1 e.2⟩
  nodupKeys := by
    have hkeys : (d.entries.map fun e => (⟨e.1, f e.1 e.2⟩ : Sigma fun _ : κ => ν')).keys =
        d.entries.keys := by
      simp [List.keys, Function.comp_def]
    exact (congrArg List.Nodup hkeys).mpr d.nodupKeys

omit [DecidableEq κ] in
/-- The entries by ascending key, as an ordered map is walked through. -/
def ascending {κ : Type*} [LinearOrder κ] (d : Dict κ ν) : List (Sigma fun _ : κ => ν) :=
  d.entries.insertionSort fun e e' => e.1 ≤ e'.1

/-- `d.entry(k).or_default().push(v)` on a map of vectors. -/
def push {α : Type*} (d : Dict κ (List α)) (k : κ) (v : α) : Dict κ (List α) :=
  d.insert k ((d.lookup k).getD [] ++ [v])

/-- Push one row after the other, under the key it has. -/
def pushRows {α β : Type*} (key : β → Option (κ × α)) (rows : List β) : Dict κ (List α) :=
  rows.foldl (fun d row => match key row with
    | some (k, v) => d.push k v
    | none => d) ∅

/-- The vector stored under `k`, or an empty one. -/
def slice {α : Type*} (d : Dict κ (List α)) (k : κ) : List α := (d.lookup k).getD []

/-! ## Lookups -/

theorem lookup_insert_eq (d : Dict κ ν) (k k' : κ) (v : ν) :
    (AList.insert k v d).lookup k' = if k' = k then some v else d.lookup k' := by
  by_cases h : k' = k
  · subst h
    simp
  · simp [h]

theorem lookup_erase_eq (d : Dict κ ν) (k k' : κ) :
    (AList.erase k d).lookup k' = if k' = k then none else d.lookup k' := by
  by_cases h : k' = k
  · subst h
    simp
  · simp [h]

@[simp] theorem lookup_singleton_eq (k k' : κ) (v : ν) :
    (AList.singleton k v : Dict κ ν).lookup k' = if k' = k then some v else none := by
  rw [← AList.insert_empty, lookup_insert_eq, AList.lookup_empty]

theorem mem_entries_iff : (⟨k, v⟩ : Sigma fun _ : κ => ν) ∈ d.entries ↔ d.lookup k = some v :=
  AList.mem_lookup_iff.symm

theorem mem_ascending {κ : Type*} [LinearOrder κ] [DecidableEq κ] {d : Dict κ ν} {k : κ} :
    (⟨k, v⟩ : Sigma fun _ : κ => ν) ∈ d.ascending ↔ d.lookup k = some v := by
  rw [ascending, List.mem_insertionSort, mem_entries_iff]

theorem lookup_retain (p : κ → ν → Bool) (d : Dict κ ν) (k : κ) :
    (d.retain p).lookup k = (d.lookup k).filter (p k) := by
  apply Option.ext
  intro v
  rw [← mem_entries_iff, Option.filter_eq_some_iff, ← mem_entries_iff]
  exact List.mem_filter

theorem lookup_retain_keys (p : κ → Bool) (d : Dict κ ν) (k : κ) :
    (d.retain (fun k _ => p k)).lookup k = if p k then d.lookup k else none := by
  rw [lookup_retain]
  cases hk : d.lookup k with
  | none => simp
  | some v => cases p k <;> simp [Option.filter]

theorem lookup_modify (k : κ) (f : ν → ν) (d : Dict κ ν) (k' : κ) :
    (d.modify k f).lookup k' = if k' = k then (d.lookup k).map f else d.lookup k' := by
  unfold modify
  cases h : d.lookup k with
  | none =>
    by_cases hk : k' = k
    · subst hk
      simp [h]
    · simp [hk]
  | some v => rw [lookup_insert_eq]; simp

theorem lookup_mapValues {ν' : Type*} (f : κ → ν → ν') (d : Dict κ ν) (k : κ) :
    (d.mapValues f).lookup k = (d.lookup k).map (f k) := by
  apply Option.ext
  intro v
  rw [← mem_entries_iff, Option.map_eq_some_iff]
  simp only [mapValues, List.mem_map, ← mem_entries_iff]
  constructor
  · rintro ⟨⟨k', w⟩, hmem, heq⟩
    cases heq
    exact ⟨w, hmem, rfl⟩
  · rintro ⟨w, hmem, rfl⟩
    exact ⟨⟨k, w⟩, hmem, rfl⟩

theorem erase_of_lookup_eq_none (h : d.lookup k = none) : AList.erase k d = d :=
  AList.ext (List.kerase_of_notMem_keys fun hk =>
    AList.lookup_eq_none.mp h (AList.mem_keys.mpr hk))

theorem isEmpty_iff : d.isEmpty = true ↔ ∀ k, d.lookup k = none := by
  unfold isEmpty
  rw [List.isEmpty_iff]
  constructor
  · intro h k
    rw [AList.lookup_eq_none, AList.mem_keys, AList.keys, h]
    simp
  · intro h
    apply List.eq_nil_iff_forall_not_mem.mpr
    rintro ⟨k, v⟩ hkv
    have hk := mem_entries_iff.mp hkv
    rw [h k] at hk
    cases hk

theorem isEmpty_eq_false_of_lookup (h : d.lookup k = some v) : d.isEmpty = false := by
  apply Bool.eq_false_iff.mpr
  intro he
  rw [isEmpty_iff.mp he k] at h
  cases h

theorem anyEntry_iff : d.anyEntry p = true ↔ ∃ k v, d.lookup k = some v ∧ p k v = true := by
  simp only [anyEntry, List.any_eq_true]
  constructor
  · rintro ⟨⟨k, v⟩, hmem, hp⟩
    exact ⟨k, v, mem_entries_iff.mp hmem, hp⟩
  · rintro ⟨k, v, hk, hp⟩
    exact ⟨⟨k, v⟩, mem_entries_iff.mpr hk, hp⟩

theorem anyEntry_eq_false_iff :
    d.anyEntry p = false ↔ ∀ k v, d.lookup k = some v → p k v = false := by
  rw [← Bool.not_eq_true, anyEntry_iff]
  simp

theorem lookup_of_findKey (h : d.findKey rank p = some k) :
    ∃ v, d.lookup k = some v ∧ p k v = true := by
  obtain ⟨⟨k', v⟩, hfind, rfl⟩ := Option.map_eq_some_iff.mp h
  have hmem := List.mem_of_find?_eq_some hfind
  have hp := List.find?_some hfind
  rw [List.mem_insertionSort] at hmem
  exact ⟨v, mem_entries_iff.mp hmem, hp⟩

/-- The key that is found comes first in the order of `rank`. -/
theorem rank_le_of_findKey {k' : κ} (h : d.findKey rank p = some k) (hk' : d.lookup k' = some v)
    (hp : p k' v = true) : rank k ≤ rank k' := by
  obtain ⟨e, hfind, rfl⟩ := Option.map_eq_some_iff.mp h
  obtain ⟨_, front, rest, hsplit, hfront⟩ := List.find?_eq_some_iff_append.mp hfind
  have hsorted := List.pairwise_insertionSort
    (fun e e' : Sigma fun _ : κ => ν => rank e.1 ≤ rank e'.1) d.entries
  have hmem : (⟨k', v⟩ : Sigma fun _ : κ => ν) ∈ front ++ e :: rest := by
    rw [← hsplit, List.mem_insertionSort]
    exact mem_entries_iff.mpr hk'
  rw [hsplit] at hsorted
  rcases List.mem_append.mp hmem with hmem | hmem
  · have := hfront _ hmem
    simp [hp] at this
  · rcases List.mem_cons.mp hmem with heq | hmem
    · rw [← heq]
    · exact (List.pairwise_cons.mp (List.pairwise_append.mp hsorted).2.1).1 _ hmem

theorem findKey_eq_none_iff :
    d.findKey rank p = none ↔ ∀ k v, d.lookup k = some v → p k v = false := by
  unfold findKey
  rw [Option.map_eq_none_iff, List.find?_eq_none]
  simp only [List.mem_insertionSort, Bool.not_eq_true]
  constructor
  · exact fun h k v hk => h ⟨k, v⟩ (mem_entries_iff.mpr hk)
  · rintro h ⟨k, v⟩ hmem
    exact h k v (mem_entries_iff.mp hmem)

theorem mem_values_iff : v ∈ d.values ↔ ∃ k, d.lookup k = some v := by
  simp only [values, List.mem_map]
  constructor
  · rintro ⟨⟨k, w⟩, hmem, rfl⟩
    exact ⟨k, mem_entries_iff.mp hmem⟩
  · rintro ⟨k, hk⟩
    exact ⟨⟨k, v⟩, mem_entries_iff.mpr hk, rfl⟩

section Slices

variable {α β : Type*}

@[simp] theorem slice_empty (k : κ) : (∅ : Dict κ (List α)).slice k = [] := rfl

theorem slice_push (d : Dict κ (List α)) (k k' : κ) (v : α) :
    (d.push k v).slice k' = if k' = k then d.slice k ++ [v] else d.slice k' := by
  rw [slice, push, lookup_insert_eq]
  split <;> rfl

theorem slice_pushRows (key : β → Option (κ × α)) (rows : List β) (k : κ) :
    (pushRows key rows).slice k = rows.filterMap fun row => (key row).bind fun kv =>
      if k = kv.1 then some kv.2 else none := by
  have hrun : ∀ d : Dict κ (List α), (rows.foldl (fun d row => match key row with
      | some (k, v) => d.push k v
      | none => d) d).slice k = d.slice k ++ rows.filterMap fun row => (key row).bind fun kv =>
        if k = kv.1 then some kv.2 else none := by
    induction rows with
    | nil => exact fun d => (List.append_nil _).symm
    | cons row rows ih =>
      intro d
      rw [List.foldl_cons, ih]
      cases hrow : key row with
      | none => rw [List.filterMap_cons_none (by rw [hrow]; rfl)]
      | some kv =>
        dsimp only
        rw [slice_push]
        by_cases hk : k = kv.1
        · rw [if_pos hk, List.filterMap_cons_some (by rw [hrow]; exact if_pos hk), ← hk,
            List.append_assoc]
          rfl
        · rw [if_neg hk, List.filterMap_cons_none (by rw [hrow]; exact if_neg hk)]
  exact hrun ∅

theorem mem_slice_pushRows {key : β → Option (κ × α)} {rows : List β} {v : α} :
    v ∈ (pushRows key rows).slice k ↔ ∃ row ∈ rows, key row = some (k, v) := by
  rw [slice_pushRows, List.mem_filterMap]
  refine exists_congr fun row => and_congr_right fun _ => ?_
  rw [Option.bind_eq_some_iff]
  constructor
  · rintro ⟨⟨k', v'⟩, hrow, hv⟩
    dsimp only at hv
    split at hv
    case isTrue hk =>
      subst hk
      obtain rfl := Option.some.inj hv
      exact hrow
    case isFalse => cases hv
  · exact fun hrow => ⟨_, hrow, if_pos rfl⟩

theorem slice_mapValues {f : List α → List β} (hf : f [] = []) (d : Dict κ (List α)) (k : κ) :
    (d.mapValues fun _ => f).slice k = f (d.slice k) := by
  rw [slice, slice, lookup_mapValues]
  cases d.lookup k with
  | none => exact hf.symm
  | some l => rfl

end Slices

end Dict

/-! ## Dictionaries of dictionaries

A map from an outer key to a map from an inner key, read and written at a pair of
keys. An absent outer key and an empty inner map read the same. -/

/-- A finite map from `κ` to finite maps from `ι` to `ν`. -/
abbrev NestedDict (κ ι ν : Type*) := Dict κ (Dict ι ν)

namespace NestedDict

variable {κ ι ν : Type*} [DecidableEq κ] [DecidableEq ι]

/-- `map.get(k).and_then(|inner| inner.get(i))`. -/
def get (d : NestedDict κ ι ν) (k : κ) (i : ι) : Option ν :=
  (d.lookup k).bind fun inner => inner.lookup i

/-- `map.entry(k).or_default().insert(i, v)`. -/
def put (d : NestedDict κ ι ν) (k : κ) (i : ι) (v : ν) : NestedDict κ ι ν :=
  AList.insert k (AList.insert i v ((d.lookup k).getD ∅)) d

/-- `map.get_mut(k).and_then(|inner| inner.remove(i))`; the inner map stays, even if empty. -/
def remove (d : NestedDict κ ι ν) (k : κ) (i : ι) : NestedDict κ ι ν :=
  Dict.modify k (fun inner => AList.erase i inner) d

/-- `map.get_mut(k).and_then(|inner| inner.get_mut(i)).map(f)`. -/
def update (d : NestedDict κ ι ν) (k : κ) (i : ι) (f : ν → ν) : NestedDict κ ι ν :=
  Dict.modify k (fun inner => Dict.modify i f inner) d

/-- Drop the inner map of `k` if it is there and empty. -/
def dropEmpty (d : NestedDict κ ι ν) (k : κ) : NestedDict κ ι ν :=
  if (d.lookup k).any Dict.isEmpty then AList.erase k d else d

omit [DecidableEq κ] [DecidableEq ι] in
/-- Whether some value satisfies `p`. -/
def anyValue (p : ν → Bool) (d : NestedDict κ ι ν) : Bool :=
  Dict.anyEntry (fun _ inner => Dict.anyEntry (fun _ v => p v) inner) d

/-! ## Reads after writes -/

@[simp] theorem get_empty (k : κ) (i : ι) : (∅ : NestedDict κ ι ν).get k i = none := rfl

@[simp] theorem getD_lookup (d : NestedDict κ ι ν) (k : κ) (i : ι) :
    ((d.lookup k).getD ∅).lookup i = d.get k i := by
  unfold get
  cases d.lookup k with
  | none => rfl
  | some inner => rfl

theorem get_put (d : NestedDict κ ι ν) (k k' : κ) (i i' : ι) (v : ν) :
    (d.put k i v).get k' i' = if k' = k ∧ i' = i then some v else d.get k' i' := by
  unfold put
  rw [get, Dict.lookup_insert_eq]
  by_cases hk : k' = k
  · subst hk
    rw [if_pos rfl, Option.bind_some, Dict.lookup_insert_eq, getD_lookup]
    simp
  · rw [if_neg hk, if_neg (fun h => hk h.1)]
    rfl

theorem get_remove (d : NestedDict κ ι ν) (k k' : κ) (i i' : ι) :
    (d.remove k i).get k' i' = if k' = k ∧ i' = i then none else d.get k' i' := by
  unfold remove
  rw [get, Dict.lookup_modify]
  by_cases hk : k' = k
  · subst hk
    rw [if_pos rfl]
    unfold get
    cases d.lookup k' with
    | none => simp
    | some inner => simpa using Dict.lookup_erase_eq inner i i'
  · rw [if_neg hk, if_neg (fun h => hk h.1)]
    rfl

theorem get_update (d : NestedDict κ ι ν) (k k' : κ) (i i' : ι) (f : ν → ν) :
    (d.update k i f).get k' i' =
      if k' = k ∧ i' = i then (d.get k i).map f else d.get k' i' := by
  unfold update
  rw [get, Dict.lookup_modify]
  by_cases hk : k' = k
  · subst hk
    rw [if_pos rfl]
    unfold get
    cases d.lookup k' with
    | none => simp
    | some inner => simpa using Dict.lookup_modify i f inner i'
  · rw [if_neg hk, if_neg (fun h => hk h.1)]
    rfl

@[simp] theorem get_dropEmpty (d : NestedDict κ ι ν) (k k' : κ) (i : ι) :
    (d.dropEmpty k).get k' i = d.get k' i := by
  unfold dropEmpty
  split
  case isFalse => rfl
  case isTrue hempty =>
    rw [get, Dict.lookup_erase_eq]
    by_cases hk : k' = k
    · subst hk
      obtain ⟨inner, hinner, hno⟩ := Option.any_eq_true _ _ |>.mp hempty
      rw [if_pos rfl, get, hinner]
      exact (Dict.isEmpty_iff.mp hno i).symm
    · rw [if_neg hk]
      rfl

theorem anyValue_iff {p : ν → Bool} {d : NestedDict κ ι ν} :
    d.anyValue p = true ↔ ∃ k i v, d.get k i = some v ∧ p v = true := by
  unfold anyValue get
  rw [Dict.anyEntry_iff]
  constructor
  · rintro ⟨k, inner, hk, hinner⟩
    obtain ⟨i, v, hv, hp⟩ := Dict.anyEntry_iff.mp hinner
    exact ⟨k, i, v, by rw [hk]; exact hv, hp⟩
  · rintro ⟨k, i, v, hv, hp⟩
    obtain ⟨inner, hk, hi⟩ := Option.bind_eq_some_iff.mp hv
    exact ⟨k, inner, hk, Dict.anyEntry_iff.mpr ⟨i, v, hi, hp⟩⟩

end NestedDict

end RustyCore

/-! ## Maps of values that carry their own key

Each value is kept under the key it names itself. -/

namespace RustyCore

/-- A finite map in which `key` of each value is the key it is kept under. -/
structure KeyedMap {κ ν : Type*} [DecidableEq κ] (key : ν → κ) where
  dict : Dict κ ν
  keyed : ∀ k v, dict.lookup k = some v → key v = k

namespace KeyedMap

variable {κ ν : Type*} [DecidableEq κ] {key : ν → κ}
variable {m : KeyedMap key}

def empty : KeyedMap key := ⟨∅, by simp⟩

def get (m : KeyedMap key) (k : κ) : Option ν := m.dict.lookup k

def insert (m : KeyedMap key) (v : ν) : KeyedMap key where
  dict := AList.insert (key v) v m.dict
  keyed := by
    intro k v' h
    rw [Dict.lookup_insert_eq] at h
    split at h
    · cases h
      exact Eq.symm ‹_›
    · exact m.keyed k v' h

def remove (m : KeyedMap key) (k : κ) : KeyedMap key where
  dict := AList.erase k m.dict
  keyed := by
    intro k' v h
    rw [Dict.lookup_erase_eq] at h
    split at h
    · cases h
    · exact m.keyed k' v h

def keys (m : KeyedMap key) : List κ := m.dict.keys

def values (m : KeyedMap key) : List ν := m.dict.values

theorem key_of_get {k : κ} {v : ν} (h : m.get k = some v) : key v = k :=
  m.keyed k v h

@[simp] theorem get_empty (k : κ) : (empty : KeyedMap key).get k = none := rfl

theorem get_insert (m : KeyedMap key) (v : ν) (k : κ) :
    (m.insert v).get k = if k = key v then some v else m.get k :=
  Dict.lookup_insert_eq _ _ _ _

theorem get_remove (m : KeyedMap key) (k k' : κ) :
    (m.remove k).get k' = if k' = k then none else m.get k' :=
  Dict.lookup_erase_eq _ _ _

/-- A value that is removed again might as well not have been inserted. -/
theorem remove_insert (m : KeyedMap key) (v : ν) :
    (m.insert v).remove (key v) = m.remove (key v) := by
  have hdict : AList.erase (key v) (AList.insert (key v) v m.dict) = AList.erase (key v) m.dict := by
    refine AList.ext ?_
    change List.kerase (key v) (List.kinsert (key v) v m.dict.entries) =
      List.kerase (key v) m.dict.entries
    simp [List.kinsert, List.kerase]
  simp only [insert, remove, hdict]

theorem mem_values {v : ν} : v ∈ m.values ↔ m.get (key v) = some v := by
  rw [values, Dict.mem_values_iff]
  constructor
  · rintro ⟨k, h⟩
    have hkey : key v = k := m.keyed k v h
    rw [hkey]
    exact h
  · exact fun h => ⟨_, h⟩

theorem map_key_values (m : KeyedMap key) : m.values.map key = m.keys := by
  simp only [values, Dict.values, keys, AList.keys, List.keys, List.map_map]
  apply List.map_congr_left
  rintro ⟨k, v⟩ hmem
  exact m.keyed k v (Dict.mem_entries_iff.mp hmem)

theorem nodup_keys (m : KeyedMap key) : (m.values.map key).Nodup := by
  rw [map_key_values]
  exact m.dict.keys_nodup

theorem mem_map_key_values {k : κ} : k ∈ m.values.map key ↔ m.get k ≠ none := by
  rw [map_key_values, keys, ← AList.mem_keys, get, ← AList.lookup_isSome,
    Option.isSome_iff_ne_none]

/-! ## Settling one map against another -/

section Settle

variable {settle : KeyedMap key → ν → KeyedMap key} {settled : Option ν → Option ν → Option ν}

theorem get_foldl_of_pointwise
    (hpoint : ∀ m v k, (settle m v).get k =
      if k = key v then settled (some v) (m.get (key v)) else m.get k)
    (vs : List ν) (m : KeyedMap key) (k : κ) (hkeys : (vs.map key).Nodup) :
    (k ∉ vs.map key → (vs.foldl settle m).get k = m.get k) ∧
    ∀ v ∈ vs, key v = k → (vs.foldl settle m).get k = settled (some v) (m.get k) := by
  induction vs generalizing m with
  | nil => exact ⟨fun _ => rfl, fun v hv => by cases hv⟩
  | cons head vs ih =>
    rw [List.map_cons, List.nodup_cons] at hkeys
    obtain ⟨hothers, hown⟩ := ih (settle m head) hkeys.2
    constructor
    · intro hnot
      rw [List.map_cons, List.mem_cons, not_or] at hnot
      rw [List.foldl_cons, hothers hnot.2, hpoint, if_neg hnot.1]
    · intro v hv hkey
      rw [List.foldl_cons]
      rcases List.mem_cons.mp hv with rfl | hmem
      · subst hkey
        rw [hothers hkeys.1, hpoint, if_pos rfl]
      · have hne : k ≠ key head := by
          rintro rfl
          exact hkeys.1 (hkey ▸ List.mem_map_of_mem hmem)
        rw [hown v hmem hkey, hpoint, if_neg hne]

/-- When each value is settled at its own key only, the keys are settled independently. -/
theorem get_foldl_values
    (hpoint : ∀ m v k, (settle m v).get k =
      if k = key v then settled (some v) (m.get (key v)) else m.get k)
    (hnone : ∀ current, settled none current = current) (saved m : KeyedMap key) (k : κ) :
    (saved.values.foldl settle m).get k = settled (saved.get k) (m.get k) := by
  obtain ⟨hothers, hown⟩ := get_foldl_of_pointwise hpoint saved.values m k saved.nodup_keys
  cases hsaved : saved.get k with
  | none =>
    rw [hnone]
    exact hothers fun hmem => mem_map_key_values.mp hmem hsaved
  | some v =>
    have hkey : key v = k := key_of_get hsaved
    refine hown v (mem_values.mpr ?_) hkey
    rw [hkey]
    exact hsaved

end Settle

end KeyedMap

end RustyCore

/-! ## Ordered sets

A set over a linear order as the list of its members in ascending order, as a `BTreeSet` walks
through it. -/

namespace RustyCore

/-- The members of a set, in strictly ascending order. -/
structure SortedSet (α : Type*) [LinearOrder α] where
  toList : List α
  sorted : toList.Pairwise (· < ·)

variable {α : Type*} [LinearOrder α]

/-- Inserts into an ascending list what is not in it. -/
def insertSorted (a : α) : List α → List α
  | [] => [a]
  | b :: l => if a < b then a :: b :: l else if a = b then b :: l else b :: insertSorted a l

theorem mem_insertSorted {a b : α} {l : List α} : b ∈ insertSorted a l ↔ b = a ∨ b ∈ l := by
  induction l with
  | nil => simp [insertSorted]
  | cons c l ih =>
    rw [insertSorted]
    split_ifs with hlt heq
    · simp
    · subst heq
      simp
    · simp [ih, or_left_comm]

theorem insertSorted_sorted {a : α} {l : List α} (h : l.Pairwise (· < ·)) :
    (insertSorted a l).Pairwise (· < ·) := by
  induction l with
  | nil => simp [insertSorted]
  | cons b l ih =>
    obtain ⟨below, rest⟩ := List.pairwise_cons.mp h
    rw [insertSorted]
    split_ifs with hlt heq
    · refine List.pairwise_cons.mpr ⟨fun c mem => ?_, h⟩
      rcases List.mem_cons.mp mem with rfl | mem
      · exact hlt
      · exact hlt.trans (below c mem)
    · exact h
    · refine List.pairwise_cons.mpr ⟨fun c mem => ?_, ih rest⟩
      rcases mem_insertSorted.mp mem with rfl | mem
      · exact lt_of_le_of_ne (not_lt.mp hlt) (Ne.symm heq)
      · exact below c mem

/-- A member that a filter drops may be inserted unseen. -/
theorem filter_insertSorted_of_false {p : α → Bool} {a : α} (ha : p a = false) (l : List α) :
    (insertSorted a l).filter p = l.filter p := by
  induction l with
  | nil => simp [insertSorted, ha]
  | cons b l ih =>
    rw [insertSorted]
    split_ifs with hlt heq
    · simp [ha]
    · rfl
    · simp [List.filter_cons, ih]

theorem count_insertSorted_le [DecidableEq α] (a b : α) (l : List α) :
    (insertSorted a l).count b ≤ (if a = b then 1 else 0) + l.count b := by
  induction l with
  | nil =>
    rw [insertSorted, List.count_singleton]
    simp
  | cons c l ih =>
    rw [insertSorted]
    split
    · rw [List.count_cons, Nat.add_comm]
      simp
    · split
      · exact Nat.le_add_left _ _
      · rw [List.count_cons, List.count_cons]
        omega

namespace SortedSet

variable {s : SortedSet α} {a b : α}

instance : Membership α (SortedSet α) := ⟨fun s a => a ∈ s.toList⟩

theorem mem_iff : a ∈ s ↔ a ∈ s.toList := Iff.rfl

/-- The set without members. -/
def empty : SortedSet α := ⟨[], List.Pairwise.nil⟩

def insert (a : α) (s : SortedSet α) : SortedSet α :=
  ⟨insertSorted a s.toList, insertSorted_sorted s.sorted⟩

def erase (a : α) (s : SortedSet α) : SortedSet α :=
  ⟨s.toList.erase a, s.sorted.sublist List.erase_sublist⟩

@[simp] theorem not_mem_empty : a ∉ (empty : SortedSet α) := List.not_mem_nil

theorem nodup (s : SortedSet α) : s.toList.Nodup := s.sorted.imp ne_of_lt

@[simp] theorem mem_insert : b ∈ s.insert a ↔ b = a ∨ b ∈ s := mem_insertSorted

@[simp] theorem mem_erase : b ∈ s.erase a ↔ b ≠ a ∧ b ∈ s :=
  s.nodup.mem_erase_iff

theorem erase_sublist (s : SortedSet α) (a : α) : (s.erase a).toList.Sublist s.toList :=
  List.erase_sublist

theorem le_of_toList_eq_cons {l : List α} (h : s.toList = a :: l) (mem : b ∈ s) : a ≤ b := by
  rw [mem_iff, h] at mem
  rcases List.mem_cons.mp mem with rfl | mem
  · exact le_rfl
  · exact (List.rel_of_pairwise_cons (h ▸ s.sorted) mem).le

theorem erase_head {l : List α} (h : s.toList = a :: l) : (s.erase a).toList = l := by
  change s.toList.erase a = l
  rw [h, List.erase_cons_head]

end SortedSet

end RustyCore
