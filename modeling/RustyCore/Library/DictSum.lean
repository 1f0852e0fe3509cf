import Mathlib.Algebra.GroupWithZero.Nat
import Mathlib.Algebra.Order.BigOperators.Group.List
import Mathlib.Algebra.Order.Group.Nat
import Mathlib.Data.List.Count
import RustyCore.Library.Dict

/-! # Sums over dictionaries -/

namespace RustyCore.Dict

variable {κ ν : Type*} [DecidableEq κ] (f : κ → ν → ℕ)

omit [DecidableEq κ] in
/-- The sum of `f` over all entries. -/
def sumBy (d : Dict κ ν) : ℕ := (d.entries.map fun e => f e.1 e.2).sum

omit [DecidableEq κ] in
@[simp] theorem sumBy_empty : sumBy f (∅ : Dict κ ν) = 0 := rfl

theorem sumBy_erase (d : Dict κ ν) (k : κ) :
    sumBy f (AList.erase k d) + (d.lookup k).elim 0 (f k) = sumBy f d := by
  cases hk : d.lookup k with
  | none =>
    rw [erase_of_lookup_eq_none hk]
    rfl
  | some v =>
    obtain ⟨v', front, rest, hfront, hentries, herase⟩ :=
      List.exists_of_kerase (List.mem_keys_of_mem (mem_entries_iff.mpr hk))
    have hmem : (⟨k, v'⟩ : Sigma fun _ : κ => ν) ∈ d.entries := by
      rw [hentries]
      simp
    have hv : v' = v := Option.some.inj ((mem_entries_iff.mp hmem).symm.trans hk)
    subst hv
    change (((d.entries.kerase k).map fun e => f e.1 e.2).sum + f k v') =
      (d.entries.map fun e => f e.1 e.2).sum
    rw [herase, hentries]
    simp only [List.map_append, List.map_cons, List.sum_append, List.sum_cons]
    omega

theorem sumBy_insert (d : Dict κ ν) (k : κ) (v : ν) :
    sumBy f (AList.insert k v d) + (d.lookup k).elim 0 (f k) = f k v + sumBy f d := by
  have herase := sumBy_erase f d k
  have hinsert : sumBy f (AList.insert k v d) = f k v + sumBy f (AList.erase k d) :=
    List.sum_cons
  omega

variable {f} in
theorem sumBy_insert_le {d : Dict κ ν} {k : κ} {v : ν} {n : ℕ}
    (h : f k v ≤ n + (d.lookup k).elim 0 (f k)) :
    sumBy f (AList.insert k v d) ≤ n + sumBy f d := by
  have hinsert := sumBy_insert f d k v
  omega

omit [DecidableEq κ] in
theorem sumBy_retain_le (p : κ → ν → Bool) (d : Dict κ ν) :
    sumBy f (d.retain p) ≤ sumBy f d :=
  (List.filter_sublist.map _).sum_le_sum fun _ _ => Nat.zero_le _

omit [DecidableEq κ] in
theorem sumBy_retain (p : κ → ν → Bool) (d : Dict κ ν) :
    sumBy f (d.retain p) = sumBy (fun k v => if p k v then f k v else 0) d := by
  have hfilter (l : List (Sigma fun _ : κ => ν)) :
      ((l.filter fun e => p e.1 e.2).map fun e => f e.1 e.2).sum =
        (l.map fun e => if p e.1 e.2 then f e.1 e.2 else 0).sum := by
    induction l with
    | nil => rfl
    | cons e l ih =>
      rw [List.filter_cons]
      split <;> simp [*]
  exact hfilter d.entries

omit [DecidableEq κ] in
@[simp] theorem sumBy_mapValues (g : κ → ν → ν) (d : Dict κ ν) :
    sumBy f (d.mapValues g) = sumBy (fun k v => f k (g k v)) d := by
  simp [sumBy, mapValues, Function.comp_def]

omit [DecidableEq κ] in
theorem sumBy_add (g : κ → ν → ℕ) (d : Dict κ ν) :
    sumBy (fun k v => f k v + g k v) d = sumBy f d + sumBy g d :=
  List.sum_map_add

variable {f} in
omit [DecidableEq κ] in
theorem sumBy_le_sumBy {g : κ → ν → ℕ} {d : Dict κ ν} (h : ∀ k v, f k v ≤ g k v) :
    sumBy f d ≤ sumBy g d :=
  List.sum_le_sum fun e _ => h e.1 e.2

theorem sumBy_modify_le (k : κ) (g : ν → ν) (d : Dict κ ν) (h : ∀ v, f k (g v) ≤ f k v) :
    sumBy f (d.modify k g) ≤ sumBy f d := by
  unfold modify
  cases hk : d.lookup k with
  | none => exact le_rfl
  | some v =>
    have hinsert := sumBy_insert f d k (g v)
    have hv := h v
    simp only [hk, Option.elim] at hinsert
    simp only
    omega

omit [DecidableEq κ] in
theorem countP_values (p : ν → Bool) (d : Dict κ ν) :
    d.values.countP p = sumBy (fun _ v => if p v then 1 else 0) d := by
  have hlist (l : List (Sigma fun _ : κ => ν)) :
      (l.map (·.2)).countP p = (l.map fun e => if p e.2 then 1 else 0).sum := by
    induction l with
    | nil => rfl
    | cons e l ih => simp [List.countP_cons, ih, Nat.add_comm]
  exact hlist d.entries

theorem countP_values_insert (p : ν → Bool) (d : Dict κ ν) (k : κ) (v : ν) :
    (values (AList.insert k v d)).countP p + (d.lookup k).elim 0 (fun v => if p v then 1 else 0) =
      (if p v then 1 else 0) + d.values.countP p := by
  simp only [countP_values]
  exact sumBy_insert _ d k v

/-- What a walk through an ordered map collects, counted entry by entry. -/
theorem count_flatMap_ascending {κ α : Type*} [LinearOrder κ] [DecidableEq α]
    (g : κ → ν → List α) (a : α) (d : Dict κ ν) :
    (d.ascending.flatMap fun e => g e.1 e.2).count a = sumBy (fun k v => (g k v).count a) d := by
  have hperm : d.ascending.Perm d.entries := List.perm_insertionSort _ _
  rw [(hperm.flatMap_right _).count_eq, List.count_flatMap]
  rfl

theorem sumBy_eq_zero_iff {d : Dict κ ν} :
    sumBy f d = 0 ↔ ∀ k v, d.lookup k = some v → f k v = 0 := by
  unfold sumBy
  rw [List.sum_eq_zero_iff_forall_eq_nat]
  simp only [List.mem_map]
  constructor
  · intro h k v hk
    exact h _ ⟨⟨k, v⟩, mem_entries_iff.mpr hk, rfl⟩
  · rintro h n ⟨⟨k, v⟩, hmem, rfl⟩
    exact h k v (mem_entries_iff.mp hmem)

end RustyCore.Dict

/-! ## Tallies

Groups of distinct members, each member in one group, with a counter for each group that
counts its marked members. -/

namespace RustyCore

variable {ι γ : Type*}

/-- No member is listed twice, neither in one group nor in two. -/
structure Grouped (members : ι → List γ) : Prop where
  distinct : ∀ i, (members i).Nodup
  oneGroup : ∀ i j x, x ∈ members i → x ∈ members j → i = j

/-- Each counter is the number of marked members of its group. -/
def Tallies (members : ι → List γ) (marked : γ → Bool) (counter : ι → ℕ) : Prop :=
  ∀ i, counter i = (members i).countP marked

variable {members : ι → List γ} {marked marked' : γ → Bool} {counter counter' : ι → ℕ} {i : ι}
  {x : γ}

namespace Tallies

theorem eq_zero_iff (h : Tallies members marked counter) :
    counter i = 0 ↔ ∀ x ∈ members i, marked x = false := by
  rw [h i, List.countP_eq_zero]
  simp

theorem pos (h : Tallies members marked counter) (hx : x ∈ members i) (hmarked : marked x) :
    0 < counter i := by
  rw [h i, List.countP_pos_iff]
  exact ⟨x, hx, hmarked⟩

theorem lt_length (h : Tallies members marked counter) (hx : x ∈ members i)
    (hfree : marked x = false) : counter i < (members i).length := by
  rw [h i, List.countP_lt_length_iff]
  exact ⟨x, hx, hfree⟩

theorem le_of_imp (h : Tallies members marked counter) (h' : Tallies members marked' counter')
    (himp : ∀ x, marked' x → marked x) (i : ι) : counter' i ≤ counter i := by
  rw [h i, h' i]
  exact List.countP_mono_left fun x _ => himp x

end Tallies

variable [DecidableEq γ]

/-- Two markings that differ at one member only count the others alike. -/
theorem countP_eq_of_erase {l : List γ} (hl : l.Nodup) (hx : x ∈ l)
    (hothers : ∀ y ∈ l, y ≠ x → marked' y = marked y) :
    ∃ n, l.countP marked = n + (if marked x then 1 else 0) ∧
      l.countP marked' = n + (if marked' x then 1 else 0) := by
  refine ⟨(l.erase x).countP marked, ?_, ?_⟩
  · rw [(List.perm_cons_erase hx).countP_eq marked, List.countP_cons]
  · rw [(List.perm_cons_erase hx).countP_eq marked', List.countP_cons]
    have hcongr : (l.erase x).countP marked' = (l.erase x).countP marked := by
      refine List.countP_congr fun y hy => ?_
      have hne := (hl.mem_erase_iff.mp hy).1
      rw [hothers y (List.mem_of_mem_erase hy) hne]
    rw [hcongr]

namespace Tallies

variable (hgrouped : Grouped members)
include hgrouped

/-- One member changes, and the counter of its group with it. -/
theorem change (h : Tallies members marked counter) (hx : x ∈ members i)
    (hothers : ∀ j, ∀ y ∈ members j, y ≠ x → marked' y = marked y)
    (hcounter : ∀ j, j ≠ i → counter' j = counter j)
    (hchange : counter' i + (if marked x then 1 else 0) =
      counter i + (if marked' x then 1 else 0)) :
    Tallies members marked' counter' := by
  intro j
  by_cases hj : j = i
  · subst hj
    obtain ⟨n, hbefore, hafter⟩ :=
      countP_eq_of_erase (hgrouped.distinct j) hx (hothers j)
    have hcount := h j
    omega
  · rw [hcounter j hj, h j]
    refine List.countP_congr fun y hy => ?_
    have hne : y ≠ x := by
      rintro rfl
      exact hj (hgrouped.oneGroup j i y hy hx)
    rw [hothers j y hy hne]

variable [DecidableEq ι]

/-- A free member is marked, and the counter of its group goes up. -/
theorem mark (h : Tallies members marked counter) (hx : x ∈ members i)
    (hfree : marked x = false)
    (hmarked : ∀ j, ∀ y ∈ members j, marked' y = (marked y || decide (y = x)))
    (hcounter : ∀ j, counter' j = if j = i then counter i + 1 else counter j) :
    Tallies members marked' counter' := by
  refine change hgrouped h hx ?_ ?_ ?_
  · intro j y hy hne
    simp [hmarked j y hy, hne]
  · intro j hj
    rw [hcounter, if_neg hj]
  · simp [hcounter, hmarked i x hx, hfree]

/-- A marked member is freed, and the counter of its group goes down. -/
theorem unmark (h : Tallies members marked counter) (hx : x ∈ members i)
    (hbefore : marked x = true)
    (hmarked : ∀ j, ∀ y ∈ members j, marked' y = (marked y && !decide (y = x)))
    (hcounter : ∀ j, counter' j = if j = i then counter i - 1 else counter j) :
    Tallies members marked' counter' := by
  have hpos := h.pos hx hbefore
  refine change hgrouped h hx ?_ ?_ ?_
  · intro j y hy hne
    simp [hmarked j y hy, hne]
  · intro j hj
    rw [hcounter, if_neg hj]
  · have hcounter_i := hcounter i
    rw [if_pos rfl] at hcounter_i
    simp only [hmarked i x hx, hbefore, decide_true, Bool.not_true, Bool.and_false, if_true,
      Bool.false_eq_true, if_false]
    omega

end Tallies

end RustyCore
