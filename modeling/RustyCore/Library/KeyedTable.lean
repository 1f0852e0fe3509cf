import Mathlib.Data.List.Nodup

/-! # Tables

Tables with a primary key, and tables without one.

## Primary keys

The rows keep their order; an insertion of a key that is there is refused. -/

namespace RustyCore

structure KeyedTable {κ ρ : Type*} [DecidableEq κ] (key : ρ → κ) where
  rows : List ρ
  nodup : (rows.map key).Nodup

namespace KeyedTable

variable {κ ρ : Type*} [DecidableEq κ] {key : ρ → κ}
variable {row : ρ} {k : κ}

instance [DecidableEq ρ] : DecidableEq (KeyedTable key) := fun t t' =>
  decidable_of_iff (t.rows = t'.rows) ⟨fun h => by cases t; cases t'; simp_all, fun h => by rw [h]⟩

def empty : KeyedTable key := ⟨[], List.nodup_nil⟩

/-- `SELECT .. WHERE key = k`. -/
def find (t : KeyedTable key) (k : κ) : Option ρ := t.rows.find? fun row => key row = k

/-- `INSERT`. -/
def insert (t : KeyedTable key) (row : ρ) : Option (KeyedTable key) :=
  if h : key row ∈ t.rows.map key then none
  else some ⟨t.rows ++ [row], by
    rw [List.map_append, List.map_singleton, ← List.concat_eq_append]
    exact (List.nodup_concat _ _).mpr ⟨h, t.nodup⟩⟩

/-- `UPDATE .. WHERE key = k`, for a change that keeps the key. -/
def update (t : KeyedTable key) (k : κ) (change : ρ → ρ)
    (hchange : ∀ row, key (change row) = key row) : KeyedTable key where
  rows := t.rows.map fun row => if key row = k then change row else row
  nodup := by
    have hkeys : (t.rows.map fun row => if key row = k then change row else row).map key =
        t.rows.map key := by
      rw [List.map_map]
      refine List.map_congr_left fun row _ => ?_
      rw [Function.comp_apply]
      split
      · exact hchange row
      · rfl
    rw [hkeys]
    exact t.nodup

/-- `DELETE .. WHERE key = k`. -/
def delete (t : KeyedTable key) (k : κ) : KeyedTable key where
  rows := t.rows.filter fun row => key row ≠ k
  nodup := t.nodup.sublist (List.filter_sublist.map key)

/-- `DELETE .. WHERE p`. -/
def deleteWhere (t : KeyedTable key) (p : ρ → Bool) : KeyedTable key where
  rows := t.rows.filter fun row => !p row
  nodup := t.nodup.sublist (List.filter_sublist.map key)

variable {t : KeyedTable key}

theorem key_of_find (h : t.find k = some row) : key row = k := by
  simpa using List.find?_some h

theorem mem_of_find (h : t.find k = some row) : row ∈ t.rows :=
  List.mem_of_find?_eq_some h

theorem find_eq_none_iff : t.find k = none ↔ k ∉ t.rows.map key := by
  simp [find]

theorem find_of_mem (h : row ∈ t.rows) : t.find (key row) = some row := by
  cases hfind : t.find (key row) with
  | none => exact absurd (List.mem_map_of_mem h) (find_eq_none_iff.mp hfind)
  | some row' =>
    have hinj := List.inj_on_of_nodup_map t.nodup (mem_of_find hfind) h (key_of_find hfind)
    rw [hinj]

@[simp] theorem find_empty (k : κ) : (empty : KeyedTable key).find k = none := rfl

theorem insert_eq_some {t' : KeyedTable key} (h : t.insert row = some t') :
    t.find (key row) = none ∧ t'.rows = t.rows ++ [row] := by
  unfold insert at h
  split at h
  · cases h
  case isFalse hnew =>
    cases h
    exact ⟨find_eq_none_iff.mpr hnew, rfl⟩

theorem insert_of_find (h : t.find (key row) = none) : ∃ t', t.insert row = some t' := by
  rw [insert, dif_neg (find_eq_none_iff.mp h)]
  exact ⟨_, rfl⟩

theorem find_insert {t' : KeyedTable key} (h : t.insert row = some t') (k : κ) :
    t'.find k = if k = key row then some row else t.find k := by
  obtain ⟨hnew, hrows⟩ := insert_eq_some h
  unfold find at hnew ⊢
  rw [hrows, List.find?_append]
  by_cases hk : k = key row
  · subst hk
    simp [hnew]
  · simp [hk, Ne.symm hk]

theorem find_update (t : KeyedTable key) (k : κ) (change : ρ → ρ)
    (hchange : ∀ row, key (change row) = key row) (k' : κ) :
    (t.update k change hchange).find k' =
      if k' = k then (t.find k').map change else t.find k' := by
  have hkey : ∀ row, key (if key row = k then change row else row) = key row := by
    intro row
    split
    · exact hchange row
    · rfl
  unfold find update
  rw [List.find?_map]
  simp only [Function.comp_def, hkey]
  cases h : t.rows.find? fun row => key row = k' with
  | none => simp
  | some row =>
    have hrow : key row = k' := by simpa using List.find?_some h
    rw [Option.map_some, hrow]
    by_cases hk : k' = k
    · simp [hk]
    · simp [hk]

theorem find_delete (t : KeyedTable key) (k k' : κ) :
    (t.delete k).find k' = if k' = k then none else t.find k' := by
  unfold find delete
  rw [List.find?_filter]
  by_cases hk : k' = k
  · subst hk
    simp
  · rw [if_neg hk]
    refine congrArg (fun p => t.rows.find? p) (funext fun row => ?_)
    by_cases hrow : key row = k'
    · simp [hrow, hk]
    · simp [hrow]

/-! ## Rows in another order -/

/-- What is found does not depend on the order where at most one element is wanted. -/
theorem find?_eq_of_perm {p : ρ → Bool} {rows rows' : List ρ} (hperm : rows.Perm rows')
    (hunique : ∀ row ∈ rows, ∀ row' ∈ rows, p row = true → p row' = true → row = row') :
    rows.find? p = rows'.find? p := by
  cases hfind : rows.find? p with
  | none =>
    refine (List.find?_eq_none.mpr fun row hrow => ?_).symm
    exact List.find?_eq_none.mp hfind row (hperm.mem_iff.mpr hrow)
  | some row =>
    have hrow := List.mem_of_find?_eq_some hfind
    cases hfind' : rows'.find? p with
    | none =>
      exact absurd (List.find?_some hfind)
        (List.find?_eq_none.mp hfind' row (hperm.mem_iff.mp hrow))
    | some row' =>
      have hrow' := hperm.mem_iff.mpr (List.mem_of_find?_eq_some hfind')
      rw [hunique row hrow row' hrow' (List.find?_some hfind) (List.find?_some hfind')]

end KeyedTable

end RustyCore

/-! ## Tables of rows

A table without constraints: a list of rows, of which a statement selects those with a
given key. The rows of one key are all that a reader of the table can rely on, because a
query without an order may return the rows in any. -/

namespace RustyCore

/-- The rows of a table in the order they were inserted. -/
abbrev RowTable (ρ : Type*) := List ρ

namespace RowTable

variable {ρ κ : Type*} [DecidableEq κ] (key : ρ → κ)
variable {k : κ} {rows : RowTable ρ} {row : ρ}

/-- `SELECT .. WHERE key = k`. -/
def rowsAt (k : κ) (rows : RowTable ρ) : RowTable ρ := rows.filter fun row => key row = k

/-- `DELETE .. WHERE key = k`. -/
def deleteAt (k : κ) (rows : RowTable ρ) : RowTable ρ := rows.filter fun row => key row ≠ k

/-- `INSERT`. -/
def insertRow (rows : RowTable ρ) (row : ρ) : RowTable ρ := rows ++ [row]

/-- `UPDATE .. WHERE key = k`. -/
def updateAt (k : κ) (change : ρ → ρ) (rows : RowTable ρ) : RowTable ρ :=
  rows.map fun row => if key row = k then change row else row

@[simp] theorem rowsAt_nil (k : κ) : rowsAt key k [] = [] := rfl

@[simp] theorem mem_rowsAt : row ∈ rowsAt key k rows ↔ row ∈ rows ∧ key row = k := by
  simp [rowsAt]

theorem rowsAt_deleteAt (k k' : κ) (rows : RowTable ρ) :
    rowsAt key k' (deleteAt key k rows) = if k' = k then [] else rowsAt key k' rows := by
  unfold rowsAt deleteAt
  rw [List.filter_filter]
  split
  case isTrue h =>
    subst h
    simp
  case isFalse h =>
    refine List.filter_congr fun row _ => ?_
    by_cases hrow : key row = k'
    · simp [hrow, h]
    · simp [hrow]

theorem rowsAt_insertRow (k : κ) (rows : RowTable ρ) (row : ρ) :
    rowsAt key k (insertRow rows row) =
      rowsAt key k rows ++ if key row = k then [row] else [] := by
  unfold rowsAt insertRow
  rw [List.filter_append]
  by_cases h : key row = k
  · simp [h]
  · simp [h]

/-- An update that keeps the key changes the rows of that key only. -/
theorem rowsAt_updateAt {change : ρ → ρ} (hchange : ∀ row, key (change row) = key row)
    (k k' : κ) (rows : RowTable ρ) :
    rowsAt key k' (updateAt key k change rows) =
      if k' = k then (rowsAt key k' rows).map change else rowsAt key k' rows := by
  unfold rowsAt updateAt
  induction rows with
  | nil => simp
  | cons row rows ih =>
    have hkey : key (if key row = k then change row else row) = key row := by
      split
      · exact hchange row
      · rfl
    rw [List.map_cons, List.filter_cons, List.filter_cons, hkey, ih]
    by_cases hrow : key row = k'
    · subst hrow
      by_cases hk : key row = k
      · simp [hk]
      · simp [hk]
    · simp [hrow]

theorem rowsAt_perm {rows' : RowTable ρ} (h : rows.Perm rows') (k : κ) :
    (rowsAt key k rows).Perm (rowsAt key k rows') := h.filter _

/-- A key with at most one row reads the same in any order. -/
theorem rowsAt_eq_of_perm {rows' : RowTable ρ} (h : rows'.Perm rows) {row : Option ρ}
    (hrow : rowsAt key k rows = row.toList) : rowsAt key k rows' = row.toList := by
  have hperm := rowsAt_perm key h k
  rw [hrow] at hperm
  cases row with
  | none => exact List.perm_nil.mp hperm
  | some row => exact List.perm_singleton.mp hperm

theorem rowsAt_keyed {key : ρ → κ} (t : KeyedTable key) (k : κ) :
    rowsAt key k t.rows = (t.find k).toList := by
  obtain ⟨rows, hnodup⟩ := t
  change rowsAt key k rows = (rows.find? fun row => key row = k).toList
  induction rows with
  | nil => rfl
  | cons row rows ih =>
    rw [List.map_cons, List.nodup_cons] at hnodup
    by_cases hrow : key row = k
    · have hrest : rowsAt key k rows = [] := by
        refine List.filter_eq_nil_iff.mpr fun other hother hk => hnodup.1 ?_
        rw [hrow, ← of_decide_eq_true hk]
        exact List.mem_map_of_mem hother
      simp only [rowsAt] at hrest
      simp [rowsAt, hrow, hrest]
    · have hrest := ih hnodup.2
      simp only [rowsAt] at hrest
      simp [rowsAt, hrow, hrest]

/-! ## Reading a table into a map -/

theorem rowsAt_cons_of_eq (h : key row = k) (rows : RowTable ρ) :
    rowsAt key k (row :: rows) = row :: rowsAt key k rows :=
  List.filter_cons_of_pos (decide_eq_true h)

theorem rowsAt_cons_of_ne (h : key row ≠ k) (rows : RowTable ρ) :
    rowsAt key k (row :: rows) = rowsAt key k rows :=
  List.filter_cons_of_neg (by simpa using h)

/-- A key renamed without merging keys selects the same rows. -/
theorem rowsAt_comp {κ' : Type*} [DecidableEq κ'] {f : κ → κ'} (hf : f.Injective) (k : κ)
    (rows : RowTable ρ) : rowsAt (fun row => f (key row)) (f k) rows = rowsAt key k rows := by
  simp [rowsAt, hf.eq_iff]

/-- When each row is written under its key, the last row of a key decides what is read
there; `P` is an invariant of the writes. -/
theorem read_foldl {δ ν : Type*} (write : δ → ρ → δ) (read : δ → κ → Option ν)
    (value : ρ → Option ν) (P : δ → Prop) (rows : RowTable ρ)
    (hwrite : ∀ d, P d → ∀ row ∈ rows, P (write d row) ∧
      ∀ k, read (write d row) k = if k = key row then value row else read d k)
    (d : δ) (hd : P d) :
    P (rows.foldl write d) ∧
      ∀ k, read (rows.foldl write d) k =
        (rowsAt key k rows).getLast?.elim (read d k) value := by
  induction rows generalizing d with
  | nil => exact ⟨hd, fun _ => rfl⟩
  | cons row rows ih =>
    have hrow := hwrite d hd row List.mem_cons_self
    obtain ⟨hP, hread⟩ := ih (fun d hd row hmem => hwrite d hd row (List.mem_cons_of_mem _ hmem))
      _ hrow.1
    refine ⟨hP, fun k => ?_⟩
    rw [List.foldl_cons, hread, hrow.2]
    by_cases h : key row = k
    · rw [rowsAt_cons_of_eq key h, if_pos h.symm]
      cases rowsAt key k rows with
      | nil => rfl
      | cons row' rest => simp [List.getLast?_cons]
    · rw [rowsAt_cons_of_ne key h, if_neg fun hk => h hk.symm]

end RowTable

end RustyCore
