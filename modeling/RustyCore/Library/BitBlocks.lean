import Mathlib.Data.BitVec

/-! # Sets of numbers in blocks of bits

A list of words of one width holds the set of the numbers `i` whose bit `i % w` is set in
the word `i / w`. -/

namespace RustyCore

namespace BitBlocks

variable {w : ℕ}
variable {blocks : List (BitVec w)} {b : ℕ}

/-- The word at this position, zero past the end. -/
def block (blocks : List (BitVec w)) (b : ℕ) : BitVec w := blocks[b]?.getD 0

/-- The bit of one number. -/
def testBit (blocks : List (BitVec w)) (i : ℕ) : Bool := (block blocks (i / w)).getLsbD (i % w)

/-- The word in which only the bit of this number is set. -/
def flag (w i : ℕ) : BitVec w := 1#w <<< (i % w)

theorem getLsbD_flag (hw : 0 < w) (i j : ℕ) (hj : j < w) :
    (flag w i).getLsbD j = decide (j = i % w) := by
  have hi := Nat.mod_lt i hw
  rw [flag, BitVec.getLsbD_shiftLeft, BitVec.getLsbD_one]
  by_cases hji : j = i % w
  · subst hji
    simp [hi, hw]
  · simp only [hji, decide_false]
    by_cases hlt : j < i % w
    · simp [hlt]
    · have hne : j - i % w ≠ 0 := by omega
      simp [hne]

theorem eq_iff_div_mod (i j : ℕ) : i = j ↔ i / w = j / w ∧ i % w = j % w := by
  refine ⟨fun h => by simp [h], fun ⟨hdiv, hmod⟩ => ?_⟩
  rw [← Nat.div_add_mod i w, ← Nat.div_add_mod j w, hdiv, hmod]

theorem block_of_length_le (h : blocks.length ≤ b) : block blocks b = 0 := by
  rw [block, List.getElem?_eq_none h, Option.getD_none]

theorem block_of_getElem? {value : BitVec w} (h : blocks[b]? = some value) :
    block blocks b = value := by
  rw [block, h, Option.getD_some]

theorem testBit_eq_getLsbD (blocks : List (BitVec w)) {j : ℕ} (hj : j < w) :
    testBit blocks (w * b + j) = (block blocks b).getLsbD j := by
  rw [testBit, Nat.mul_add_div (by omega), Nat.div_eq_of_lt hj, Nat.add_zero, Nat.mul_add_mod,
    Nat.mod_eq_of_lt hj]

/-- A word is zero if no number of its range is in the set. -/
theorem block_eq_zero_iff (hw : 0 < w) (blocks : List (BitVec w)) (b : ℕ) :
    block blocks b = 0 ↔ ∀ i, i / w = b → testBit blocks i = false := by
  constructor
  · intro h i hi
    rw [testBit, hi, h]
    simp
  · intro h
    refine BitVec.eq_of_getLsbD_eq fun j hj => ?_
    have hdiv : (w * b + j) / w = b := by
      rw [Nat.mul_add_div hw, Nat.div_eq_of_lt hj, Nat.add_zero]
    rw [← testBit_eq_getLsbD blocks hj, h _ hdiv]
    simp

theorem block_ne_zero_iff (hw : 0 < w) (blocks : List (BitVec w)) (b : ℕ) :
    block blocks b ≠ 0 ↔ ∃ i, i / w = b ∧ testBit blocks i := by
  rw [ne_eq, block_eq_zero_iff hw]
  simp

/-- Some word is not zero if the set is not empty. -/
theorem any_ne_zero_iff (hw : 0 < w) (blocks : List (BitVec w)) :
    blocks.any (· ≠ 0) ↔ ∃ i, testBit blocks i := by
  simp only [List.any_eq_true, decide_eq_true_eq]
  constructor
  · rintro ⟨value, hvalue, hne⟩
    obtain ⟨b, hb⟩ := List.getElem?_of_mem hvalue
    rw [← block_of_getElem? hb, block_ne_zero_iff hw] at hne
    obtain ⟨i, -, hi⟩ := hne
    exact ⟨i, hi⟩
  · rintro ⟨i, hi⟩
    have hne : block blocks (i / w) ≠ 0 := (block_ne_zero_iff hw _ _).mpr ⟨i, rfl, hi⟩
    have hlt : i / w < blocks.length := by
      by_contra hle
      exact hne (block_of_length_le (Nat.le_of_not_lt hle))
    refine ⟨blocks[i / w], List.getElem_mem hlt, ?_⟩
    rwa [← block_of_getElem? (List.getElem?_eq_getElem hlt)]

theorem and_flag_ne_zero_iff (hw : 0 < w) (value : BitVec w) (i : ℕ) :
    value &&& flag w i ≠ 0 ↔ value.getLsbD (i % w) := by
  constructor
  · intro hne
    by_contra hbit
    refine hne (BitVec.eq_of_getLsbD_eq fun j hj => ?_)
    rw [BitVec.getLsbD_and, getLsbD_flag hw i j hj]
    by_cases hji : j = i % w
    · rw [hji, Bool.eq_false_iff.mpr hbit]
      simp
    · simp [hji]
  · intro hbit hzero
    have hand : (value &&& flag w i).getLsbD (i % w) = true := by
      rw [BitVec.getLsbD_and, hbit, getLsbD_flag hw i _ (Nat.mod_lt i hw)]
      simp
    rw [hzero] at hand
    simp at hand

/-! ## One word changed -/

theorem block_modify (hb : b < blocks.length) (f : BitVec w → BitVec w) (c : ℕ) :
    block (blocks.modify b f) c = if c = b then f (block blocks c) else block blocks c := by
  unfold block
  rw [List.getElem?_modify]
  by_cases hc : c = b
  · subst hc
    simp [hb]
  · simp [hc, Ne.symm hc]

theorem testBit_modify (hb : b < blocks.length) (f : BitVec w → BitVec w) (i : ℕ) :
    testBit (blocks.modify b f) i =
      if i / w = b then (f (block blocks b)).getLsbD (i % w) else testBit blocks i := by
  rw [testBit, block_modify hb]
  split_ifs with h
  · rw [h]
  · rfl

theorem testBit_insert (hw : 0 < w) {i : ℕ} (hi : i / w < blocks.length) (j : ℕ) :
    testBit (blocks.modify (i / w) (· ||| flag w i)) j = (decide (j = i) || testBit blocks j) := by
  rw [testBit_modify hi]
  split_ifs with h
  · rw [BitVec.getLsbD_or, getLsbD_flag hw _ _ (Nat.mod_lt j hw), testBit, h, Bool.or_comm]
    simp [eq_iff_div_mod (w := w) j i, h]
  · have hne : j ≠ i := fun heq => h (congrArg (· / w) heq)
    simp [hne]

theorem testBit_erase (hw : 0 < w) {i : ℕ} (hi : i / w < blocks.length) (j : ℕ) :
    testBit (blocks.modify (i / w) (· &&& ~~~flag w i)) j =
      (decide (j ≠ i) && testBit blocks j) := by
  have hj := Nat.mod_lt j hw
  rw [testBit_modify hi]
  split_ifs with h
  · rw [BitVec.getLsbD_and, BitVec.getLsbD_not, getLsbD_flag hw _ _ hj, testBit, h, Bool.and_comm]
    simp [hj, eq_iff_div_mod (w := w) j i, h]
  · have hne : j ≠ i := fun heq => h (congrArg (· / w) heq)
    simp [hne]

/-! ## All words changed -/

theorem block_replicate (n : ℕ) (value : BitVec w) (b : ℕ) :
    block (List.replicate n value) b = if b < n then value else 0 := by
  rw [block, List.getElem?_replicate]
  split_ifs <;> rfl

/-- The words of the second list go into those at the same positions of the first. -/
def zipUpdate (f : BitVec w → BitVec w → BitVec w) :
    List (BitVec w) → List (BitVec w) → List (BitVec w)
  | left :: lefts, right :: rights => f left right :: zipUpdate f lefts rights
  | lefts, _ => lefts

variable {f : BitVec w → BitVec w → BitVec w} {lefts rights : List (BitVec w)}

@[simp] theorem length_zipUpdate : (zipUpdate f lefts rights).length = lefts.length := by
  induction lefts generalizing rights with
  | nil => rfl
  | cons left lefts ih => cases rights with
    | nil => rfl
    | cons right rights => exact congrArg (· + 1) ih

theorem block_zipUpdate (hb : b < lefts.length) (hb' : b < rights.length) :
    block (zipUpdate f lefts rights) b = f (block lefts b) (block rights b) := by
  induction lefts generalizing rights b with
  | nil => simp at hb
  | cons left lefts ih => cases rights with
    | nil => simp at hb'
    | cons right rights => cases b with
      | zero => rfl
      | succ b =>
        simp only [List.length_cons, Nat.add_lt_add_iff_right] at hb hb'
        exact ih hb hb'

theorem block_zipUpdate_of_le (hb : rights.length ≤ b) :
    block (zipUpdate f lefts rights) b = block lefts b := by
  induction lefts generalizing rights b with
  | nil => rfl
  | cons left lefts ih => cases rights with
    | nil => rfl
    | cons right rights => cases b with
      | zero => simp at hb
      | succ b =>
        simp only [List.length_cons, Nat.add_le_add_iff_right] at hb
        exact ih hb

theorem testBit_and (hlength : lefts.length = rights.length) (i : ℕ) :
    testBit (zipUpdate (· &&& ·) lefts rights) i = (testBit lefts i && testBit rights i) := by
  unfold testBit
  by_cases hi : i / w < lefts.length
  · rw [block_zipUpdate hi (hlength ▸ hi), BitVec.getLsbD_and]
  · have hle := Nat.le_of_not_lt hi
    rw [block_zipUpdate_of_le (hlength ▸ hle), block_of_length_le hle]
    simp

theorem testBit_or (hlength : lefts.length = rights.length) (i : ℕ) :
    testBit (zipUpdate (· ||| ·) lefts rights) i = (testBit lefts i || testBit rights i) := by
  unfold testBit
  by_cases hi : i / w < lefts.length
  · rw [block_zipUpdate hi (hlength ▸ hi), BitVec.getLsbD_or]
  · have hle := Nat.le_of_not_lt hi
    have hle' : rights.length ≤ i / w := hlength ▸ hle
    rw [block_zipUpdate_of_le hle', block_of_length_le hle']
    simp

/-- Only the words at the positions of the first list are taken over. -/
theorem testBit_overwrite_zero (n i : ℕ) :
    testBit (zipUpdate (fun _ right => right) (List.replicate n 0) rights) i =
      (decide (i / w < n) && testBit rights i) := by
  unfold testBit
  by_cases hi : i / w < rights.length
  · by_cases hn : i / w < n
    · rw [block_zipUpdate (by simpa using hn) hi]
      simp [hn]
    · rw [block_of_length_le (by simpa using Nat.le_of_not_lt hn)]
      simp [hn]
  · have hle := Nat.le_of_not_lt hi
    rw [block_zipUpdate_of_le hle, block_of_length_le hle, block_replicate]
    simp

/-! ## The last word -/

theorem getLsbD_allOnes_ushiftRight {used j : ℕ} (hused : used ≤ w) :
    (BitVec.allOnes w >>> (w - used)).getLsbD j = decide (j < used) := by
  rw [BitVec.getLsbD_ushiftRight, BitVec.getLsbD_allOnes]
  congr 1
  exact propext (by omega)

/-- Where only the last word goes past `n`, keeping its lowest bits keeps what is below `n`. -/
theorem testBit_modify_last (hw : 0 < w) {n : ℕ} (hlength : blocks.length = n / w + 1) (i : ℕ) :
    testBit (blocks.modify (blocks.length - 1) (· &&& BitVec.allOnes w >>> (w - n % w))) i =
      (decide (i < n) && testBit blocks i) := by
  have hlt : n % w < w := Nat.mod_lt n hw
  have hdiv : w * (n / w) + n % w = n := Nat.div_add_mod n w
  have hdivi : w * (i / w) + i % w = i := Nat.div_add_mod i w
  have hmodi : i % w < w := Nat.mod_lt i hw
  have hlast : blocks.length - 1 < blocks.length := by rw [hlength]; exact Nat.lt_succ_self _
  rw [testBit_modify hlast, hlength, Nat.add_sub_cancel]
  rcases Nat.lt_trichotomy (i / w) (n / w) with hi | hi | hi
  · have hin : i < n := by
      have hstep : w * (i / w + 1) ≤ w * (n / w) := Nat.mul_le_mul_left w hi
      rw [Nat.mul_succ] at hstep
      omega
    rw [if_neg hi.ne, decide_eq_true hin, Bool.true_and]
  · have hin : i % w < n % w ↔ i < n := by
      rw [hi] at hdivi
      omega
    rw [if_pos hi, BitVec.getLsbD_and, getLsbD_allOnes_ushiftRight hlt.le, testBit, hi,
      Bool.and_comm, decide_eq_decide.mpr hin]
  · rw [if_neg hi.ne', testBit, block_of_length_le (by omega)]
    simp

end BitBlocks

end RustyCore
