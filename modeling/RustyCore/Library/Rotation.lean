import Mathlib.Data.List.Rotate

/-! # Searching around a cycle

A round-robin search starts behind a position, runs to the end of the list and goes
around to its start. With distinct elements, repeated searches walk through the
elements that are looked for, one after the other. -/

namespace RustyCore

variable {α : Type*} {p : α → Bool} {xs : List α}

/-- The first element that satisfies `p`, from `start` to the end and then from the start. -/
def findFrom (p : α → Bool) (start : ℕ) (xs : List α) : Option α :=
  (xs.drop start ++ xs.take start).find? p

/-- The search sees the elements it looks for from one of them on, in their own cycle. -/
theorem findFrom_eq_head? (p : α → Bool) (start : ℕ) (xs : List α) :
    findFrom p start xs = ((xs.filter p).rotate ((xs.take start).countP p)).head? := by
  have hsplit : xs.filter p = (xs.take start).filter p ++ (xs.drop start).filter p := by
    rw [← List.filter_append, List.take_append_drop]
  have hrotate : (xs.filter p).rotate ((xs.take start).countP p) =
      (xs.drop start).filter p ++ (xs.take start).filter p := by
    rw [hsplit, List.countP_eq_length_filter, List.rotate_append_length_eq]
  rw [findFrom, hrotate, ← List.filter_append, List.head?_filter]

theorem findFrom_eq_getElem? (hpos : 0 < (xs.filter p).length) (start : ℕ) :
    findFrom p start xs =
      (xs.filter p)[(xs.take start).countP p % (xs.filter p).length]? := by
  rw [findFrom_eq_head?, ← List.rotate_mod, List.head?_rotate (Nat.mod_lt _ hpos)]

/-- What is found lies a number of steps ahead, and nothing before it was looked for. -/
theorem findFrom_steps {start : ℕ} {a : α} (hstart : start ≤ xs.length)
    (h : findFrom p start xs = some a) :
    ∃ k < xs.length, xs[(start + k) % xs.length]? = some a ∧ p a = true ∧
      ∀ j < k, ∀ b, xs[(start + j) % xs.length]? = some b → p b = false := by
  rw [findFrom, ← List.rotate_eq_drop_append_take hstart] at h
  obtain ⟨hp, k, hk, rfl, hbefore⟩ := List.find?_eq_some_iff_getElem.mp h
  have hlen : (xs.rotate start).length = xs.length := List.length_rotate xs start
  have hpos : 0 < xs.length := by omega
  refine ⟨k, hlen ▸ hk, ?_, hp, fun j hj b hb => ?_⟩
  · rw [List.getElem_rotate, Nat.add_comm start k]
    exact List.getElem?_eq_getElem _
  · have hj' : j < (xs.rotate start).length := hj.trans hk
    have hnot : p (xs.rotate start)[j] = false := by simpa using hbefore j hj
    rw [List.getElem_rotate] at hnot
    rw [Nat.add_comm start j, List.getElem?_eq_getElem (Nat.mod_lt _ hpos)] at hb
    exact Option.some.inj hb ▸ hnot

/-! ## Distinct elements -/

/-- Before the position of the `j`-th element that is looked for, there are `j` of them. -/
theorem countP_take_of_getElem (hnodup : xs.Nodup) {i j : ℕ} {a : α} (hi : xs[i]? = some a)
    (hj : (xs.filter p)[j]? = some a) : (xs.take i).countP p = j := by
  obtain ⟨hlt, hget⟩ := List.getElem?_eq_some_iff.mp hi
  have hpa : p a = true := List.of_mem_filter (List.mem_of_getElem? hj)
  have hsplit : xs = xs.take i ++ a :: xs.drop (i + 1) := by
    rw [← hget, List.getElem_cons_drop, List.take_append_drop]
  have hfilter : xs.filter p = (xs.take i).filter p ++ a :: (xs.drop (i + 1)).filter p := by
    conv_lhs => rw [hsplit]
    rw [List.filter_append, List.filter_cons_of_pos hpa]
  have hat : (xs.filter p)[(xs.take i).countP p]? = some a := by
    rw [hfilter, List.countP_eq_length_filter, List.getElem?_append_right le_rfl]
    simp
  obtain ⟨hlt', hget'⟩ := List.getElem?_eq_some_iff.mp hat
  obtain ⟨hjlt, hjget⟩ := List.getElem?_eq_some_iff.mp hj
  exact (List.Nodup.getElem_inj_iff (hnodup.filter p)).mp (hget'.trans hjget.symm)

variable [DecidableEq α]

/-- The position behind `current`, or the first one when it is not there. -/
def startAfter (current : α) (xs : List α) : ℕ :=
  match xs.findIdx? (fun x => x == current) with
  | some index => index + 1
  | none => 0

/-- The search that starts behind `current`. -/
def findAfter (p : α → Bool) (current : α) (xs : List α) : Option α :=
  findFrom p (startAfter current xs) xs

theorem findIdx?_beq_eq_some {current : α} {index : ℕ}
    (h : xs.findIdx? (fun x => x == current) = some index) : xs[index]? = some current := by
  obtain ⟨hlt, heq, -⟩ := List.findIdx?_eq_some_iff_getElem.mp h
  rw [List.getElem?_eq_getElem hlt, beq_iff_eq.mp heq]

theorem findAfter_exists (hpos : 0 < (xs.filter p).length) (current : α) :
    ∃ r < (xs.filter p).length, findAfter p current xs = (xs.filter p)[r]? :=
  ⟨_, Nat.mod_lt _ hpos, findFrom_eq_getElem? hpos _⟩

/-- From an element that is looked for, the search goes on to the next one. -/
theorem findAfter_of_getElem? (hnodup : xs.Nodup) {j : ℕ} {a : α}
    (ha : (xs.filter p)[j]? = some a) :
    findAfter p a xs = (xs.filter p)[(j + 1) % (xs.filter p).length]? := by
  have hmem : a ∈ xs.filter p := List.mem_of_getElem? ha
  have hp : p a = true := List.of_mem_filter hmem
  unfold findAfter startAfter
  cases hindex : xs.findIdx? (fun x => x == a) with
  | none =>
    have hno := List.findIdx?_eq_none_iff.mp hindex _ (List.mem_of_mem_filter hmem)
    simp at hno
  | some index =>
    have hat := findIdx?_beq_eq_some hindex
    have hbefore := countP_take_of_getElem hnodup hat ha
    have hcount : (xs.take (index + 1)).countP p = j + 1 := by
      rw [List.take_add_one, hat, List.countP_append, hbefore]
      simp [hp]
    rw [findFrom_eq_getElem? (List.length_pos_of_mem hmem), hcount]

/-- A run of searches, each from what the last one found, walks around the cycle. -/
theorem findAfter_run (hnodup : xs.Nodup) (hpos : 0 < (xs.filter p).length) {f : ℕ → α}
    (hf : ∀ i, findAfter p (f i) xs = some (f (i + 1))) :
    ∃ r, ∀ i, (xs.filter p)[(r + i) % (xs.filter p).length]? = some (f (i + 1)) := by
  obtain ⟨r, hr, hfirst⟩ := findAfter_exists hpos (f 0)
  refine ⟨r, fun i => ?_⟩
  induction i with
  | zero => rw [Nat.add_zero, Nat.mod_eq_of_lt hr, ← hfirst, hf 0]
  | succ i ih =>
    rw [← hf (i + 1), findAfter_of_getElem? hnodup ih, Nat.mod_add_mod, Nat.add_assoc]

/-- As many searches in a row as there are elements to look for find each of them once. -/
theorem findAfter_run_perm (hnodup : xs.Nodup) (hpos : 0 < (xs.filter p).length) {f : ℕ → α}
    (hf : ∀ i, findAfter p (f i) xs = some (f (i + 1))) (before : ℕ) :
    ((List.range (xs.filter p).length).map fun i => f (before + i + 1)).Perm (xs.filter p) := by
  obtain ⟨r, hr⟩ := findAfter_run hnodup hpos hf
  have hrotate : ((List.range (xs.filter p).length).map fun i => f (before + i + 1)) =
      (xs.filter p).rotate (r + before) := by
    apply List.ext_getElem
    · simp
    · intro i hi hi'
      have hat := hr (before + i)
      rw [List.getElem?_eq_getElem (Nat.mod_lt _ hpos)] at hat
      rw [List.getElem_map, List.getElem_range, List.getElem_rotate, ← Option.some.inj hat]
      congr 2
      omega
  rw [hrotate]
  exact List.rotate_perm _ _

end RustyCore
