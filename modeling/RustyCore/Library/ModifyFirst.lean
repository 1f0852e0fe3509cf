import Mathlib.Data.List.Basic

/-! # Changing one element of a list

`iter_mut().find(p)` followed by a write changes the first element that satisfies
`p` and no other; a write through an index changes the element there. -/

namespace RustyCore

variable {α β : Type*}
variable {xs : List α} {i : ℕ} {x : α}

/-- Apply `f` to the first element that satisfies `p`. -/
def modifyFirst (p : α → Bool) (f : α → α) : List α → List α
  | [] => []
  | x :: xs => if p x then f x :: xs else x :: modifyFirst p f xs

variable {p : α → Bool} {f : α → α}

theorem modifyFirst_cons_of_pos (h : p x = true) : modifyFirst p f (x :: xs) = f x :: xs := by
  simp [modifyFirst, h]

theorem modifyFirst_cons_of_neg (h : p x = false) :
    modifyFirst p f (x :: xs) = x :: modifyFirst p f xs := by
  simp [modifyFirst, h]

theorem mem_modifyFirst {y : α} (h : y ∈ modifyFirst p f xs) :
    y ∈ xs ∨ ∃ x ∈ xs, p x = true ∧ y = f x := by
  induction xs with
  | nil => cases h
  | cons x xs ih =>
    by_cases hx : p x = true
    · rw [modifyFirst_cons_of_pos hx] at h
      rcases List.mem_cons.mp h with rfl | h
      · exact .inr ⟨x, List.mem_cons_self, hx, rfl⟩
      · exact .inl (List.mem_cons_of_mem x h)
    · rw [modifyFirst_cons_of_neg (Bool.eq_false_iff.mpr hx)] at h
      rcases List.mem_cons.mp h with rfl | h
      · exact .inl List.mem_cons_self
      · rcases ih h with h | ⟨z, hz, hpz, rfl⟩
        · exact .inl (List.mem_cons_of_mem x h)
        · exact .inr ⟨z, List.mem_cons_of_mem x hz, hpz, rfl⟩

/-- An observation that `f` leaves alone is left alone on the whole list. -/
theorem map_modifyFirst (g : α → β) (hg : ∀ x, p x = true → g (f x) = g x) (xs : List α) :
    (modifyFirst p f xs).map g = xs.map g := by
  induction xs with
  | nil => rfl
  | cons x xs ih =>
    by_cases h : p x = true
    · rw [modifyFirst_cons_of_pos h]
      simp [hg x h]
    · rw [modifyFirst_cons_of_neg (Bool.eq_false_iff.mpr h)]
      simp [ih]

/-- A change that is visible through `g` is the same change of the observations. -/
theorem map_modifyFirst_comm {q : β → Bool} {k : β → β} (g : α → β) (hq : ∀ x, q (g x) = p x)
    (hk : ∀ x, p x = true → g (f x) = k (g x)) (xs : List α) :
    (modifyFirst p f xs).map g = modifyFirst q k (xs.map g) := by
  induction xs with
  | nil => rfl
  | cons x xs ih =>
    by_cases h : p x = true
    · rw [modifyFirst_cons_of_pos h, List.map_cons, List.map_cons,
        modifyFirst_cons_of_pos ((hq x).trans h), hk x h]
    · have h' := Bool.eq_false_iff.mpr h
      rw [modifyFirst_cons_of_neg h', List.map_cons, List.map_cons,
        modifyFirst_cons_of_neg ((hq x).trans h'), ih]

theorem find?_modifyFirst_self (hf : ∀ x, p x = true → p (f x) = true) (xs : List α) :
    (modifyFirst p f xs).find? p = (xs.find? p).map f := by
  induction xs with
  | nil => rfl
  | cons x xs ih =>
    by_cases h : p x = true
    · rw [modifyFirst_cons_of_pos h]
      simp [h, hf x h]
    · have h' := Bool.eq_false_iff.mpr h
      rw [modifyFirst_cons_of_neg h']
      simp [h', ih]

/-- Searching with a predicate that is disjoint from `p` finds what it found before. -/
theorem find?_modifyFirst_of_disjoint {q : α → Bool}
    (hq : ∀ x, p x = true → q x = false ∧ q (f x) = false) (xs : List α) :
    (modifyFirst p f xs).find? q = xs.find? q := by
  induction xs with
  | nil => rfl
  | cons x xs ih =>
    by_cases h : p x = true
    · rw [modifyFirst_cons_of_pos h]
      simp [(hq x h).1, (hq x h).2]
    · rw [modifyFirst_cons_of_neg (Bool.eq_false_iff.mpr h)]
      simp only [List.find?_cons, ih]

/-- A second change with the same predicate reaches the element of the first one. -/
theorem modifyFirst_modifyFirst (f g : α → α) (hf : ∀ x, p x = true → p (f x) = true)
    (xs : List α) : modifyFirst p g (modifyFirst p f xs) = modifyFirst p (g ∘ f) xs := by
  induction xs with
  | nil => rfl
  | cons x xs ih =>
    by_cases hx : p x = true
    · rw [modifyFirst_cons_of_pos hx, modifyFirst_cons_of_pos (hf x hx),
        modifyFirst_cons_of_pos hx]
      rfl
    · have hx' := Bool.eq_false_iff.mpr hx
      rw [modifyFirst_cons_of_neg hx', modifyFirst_cons_of_neg hx', modifyFirst_cons_of_neg hx',
        ih]

theorem modifyFirst_eq_self {a : α} (h : xs.find? p = some a) (ha : f a = a) :
    modifyFirst p f xs = xs := by
  induction xs with
  | nil => rfl
  | cons x xs ih =>
    rw [List.find?_cons] at h
    by_cases hx : p x = true
    · obtain rfl : x = a := by simpa [hx] using h
      rw [modifyFirst_cons_of_pos hx, ha]
    · have hx' := Bool.eq_false_iff.mpr hx
      rw [modifyFirst_cons_of_neg hx', ih (by simpa [hx'] using h)]

/-- The first match splits the list: everything around it is kept. -/
theorem modifyFirst_eq_of_find?_eq_some (f : α → α) {a : α} (h : xs.find? p = some a) :
    ∃ front back, xs = front ++ a :: back ∧ (∀ x ∈ front, p x = false) ∧ p a = true ∧
      modifyFirst p f xs = front ++ f a :: back := by
  induction xs with
  | nil => simp at h
  | cons x xs ih =>
    by_cases hx : p x = true
    · have hxa : x = a := by simpa [hx] using h
      subst hxa
      exact ⟨[], xs, rfl, by simp, hx, by rw [modifyFirst_cons_of_pos hx]; rfl⟩
    · have hx' := Bool.eq_false_iff.mpr hx
      rw [List.find?_cons, hx'] at h
      obtain ⟨front, back, rfl, hfront, ha, hmod⟩ := ih h
      refine ⟨x :: front, back, rfl, ?_, ha, ?_⟩
      · intro y hy
        rcases List.mem_cons.mp hy with rfl | hy
        · exact hx'
        · exact hfront y hy
      · rw [modifyFirst_cons_of_neg hx', hmod]
        rfl

/-! ## Writes through an index -/

/-- A write through the index of the first match changes the first match. -/
theorem modify_of_findIdx? (h : xs.findIdx? p = some i) : xs.modify i f = modifyFirst p f xs := by
  induction xs generalizing i with
  | nil => cases h
  | cons x xs ih =>
    rw [List.findIdx?_cons] at h
    by_cases hx : p x = true
    · rw [if_pos hx] at h
      obtain rfl := Option.some.inj h
      rw [modifyFirst_cons_of_pos hx, List.modify_zero_cons]
    · rw [if_neg hx] at h
      obtain ⟨j, hj, rfl⟩ := Option.map_eq_some_iff.mp h
      rw [modifyFirst_cons_of_neg (Bool.eq_false_iff.mpr hx), List.modify_succ_cons, ih hj]

theorem modify_eq_self_of_fixed (h : ∀ x, xs[i]? = some x → f x = x) : xs.modify i f = xs := by
  apply List.ext_getElem?
  intro j
  rw [List.getElem?_modify]
  by_cases hij : i = j
  · subst hij
    cases hx : xs[i]? with
    | none => rfl
    | some x => simp [h x hx]
  · simp [hij]

theorem map_modify_of_eq (g : α → β) (hg : ∀ x, g (f x) = g x) (xs : List α) (i : ℕ) :
    (xs.modify i f).map g = xs.map g := by
  apply List.ext_getElem?
  intro j
  simp only [List.getElem?_map, List.getElem?_modify]
  by_cases hij : i = j
  · cases xs[j]? <;> simp [hij, hg]
  · simp [hij]

theorem forall_mem_modify {P : α → Prop} (h : ∀ x ∈ xs, P x) (hf : ∀ x ∈ xs, P (f x)) (i : ℕ) :
    ∀ x ∈ xs.modify i f, P x := by
  intro x hx
  obtain ⟨j, hj⟩ := List.mem_iff_getElem?.mp hx
  rw [List.getElem?_modify] at hj
  obtain ⟨y, hy, hxy⟩ := Option.map_eq_some_iff.mp hj
  have hmem : y ∈ xs := List.mem_of_getElem? hy
  by_cases hij : i = j
  · rw [if_pos hij] at hxy
    exact hxy ▸ hf y hmem
  · rw [if_neg hij] at hxy
    exact hxy ▸ h y hmem

/-- A write moves one element from one side of the predicate to the other. -/
theorem countP_modify_add (f : α → α) (q : α → Bool) (h : xs[i]? = some x) :
    (xs.modify i f).countP q + (if q x then 1 else 0) = xs.countP q + (if q (f x) then 1 else 0) := by
  induction xs generalizing i with
  | nil => simp at h
  | cons y xs ih =>
    cases i with
    | zero =>
      obtain rfl : y = x := by simpa using h
      simp only [List.modify_zero_cons, List.countP_cons]
      omega
    | succ i =>
      have htail := ih (by simpa using h)
      simp only [List.modify_succ_cons, List.countP_cons]
      omega

theorem countP_modify (h : ∀ x, xs[i]? = some x → p (f x) = p x) :
    (xs.modify i f).countP p = xs.countP p := by
  cases hx : xs[i]? with
  | none => rw [modify_eq_self_of_fixed (by simp [hx])]
  | some x =>
    have hmove := countP_modify_add f p hx
    rw [h x hx] at hmove
    omega

end RustyCore
