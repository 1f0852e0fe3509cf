import Mathlib.Data.BitVec
import Mathlib.Order.Nat

/-! # Fixed-width counters

Unsigned machine integers are natural numbers below `2 ^ w`. The operations below
are the wrapping and saturating ones of the source's integer types. -/

namespace RustyCore

/-- `x.wrapping_add(y)` on `w`-bit integers. -/
def wrappingAdd (w x y : ℕ) : ℕ := (x + y) % 2 ^ w

/-- `x.saturating_add(y)` on `w`-bit integers. -/
def saturatingAdd (w x y : ℕ) : ℕ := min (x + y) (2 ^ w - 1)

/-- `x.wrapping_add(1).max(1)` on 64-bit integers: a counter that skips zero. -/
def nextNonzero (x : ℕ) : ℕ := max (wrappingAdd 64 x 1) 1

theorem one_le_nextNonzero (x : ℕ) : 1 ≤ nextNonzero x := Nat.le_max_right _ _

theorem nextNonzero_of_lt {x : ℕ} (h : x + 1 < 2 ^ 64) : nextNonzero x = x + 1 := by
  rw [nextNonzero, wrappingAdd, Nat.mod_eq_of_lt h]
  exact Nat.max_eq_left (by omega)

theorem nextNonzero_last : nextNonzero (2 ^ 64 - 1) = 1 := by decide

/-- The values of a non-zero counter that starts at one. -/
def counterAt (n : ℕ) : ℕ := nextNonzero^[n] 1

theorem counterAt_succ (n : ℕ) : counterAt (n + 1) = nextNonzero (counterAt n) :=
  Function.iterate_succ_apply' nextNonzero n 1

theorem counterAt_of_lt {n : ℕ} (h : n < 2 ^ 64 - 1) : counterAt n = n + 1 := by
  induction n with
  | zero => rfl
  | succ n ih =>
    rw [counterAt_succ, ih (by omega)]
    exact nextNonzero_of_lt (by omega)

theorem counterAt_period : counterAt (2 ^ 64 - 1) = 1 := by
  have hlast : counterAt (2 ^ 64 - 2) = 2 ^ 64 - 1 := counterAt_of_lt (by omega)
  have hstep := counterAt_succ (2 ^ 64 - 2)
  rw [hlast, nextNonzero_last] at hstep
  exact hstep

theorem saturatingAdd_of_lt {w x y : ℕ} (h : x + y < 2 ^ w) : saturatingAdd w x y = x + y :=
  Nat.min_eq_left (by omega)

theorem saturatingAdd_le (w x y : ℕ) : saturatingAdd w x y ≤ x + y := Nat.min_le_left _ _

/-! ## Little-endian bytes -/

abbrev Byte := BitVec 8

/-- The `k` low bytes of `v`, the lowest first. -/
def leBytes : ℕ → ℕ → List Byte
  | 0, _ => []
  | k + 1, v => BitVec.ofNat 8 v :: leBytes k (v / 256)

/-- The number that the bytes spell, the lowest first. -/
def ofLeBytes : List Byte → ℕ
  | [] => 0
  | b :: bs => b.toNat + 256 * ofLeBytes bs

@[simp] theorem length_leBytes (k v : ℕ) : (leBytes k v).length = k := by
  induction k generalizing v with
  | zero => rfl
  | succ k ih => simp [leBytes, ih]

theorem ofLeBytes_leBytes (k v : ℕ) : ofLeBytes (leBytes k v) = v % 256 ^ k := by
  induction k generalizing v with
  | zero => simp [leBytes, ofLeBytes, Nat.mod_one]
  | succ k ih =>
    have hpow : 256 ^ (k + 1) = 256 * 256 ^ k := Nat.pow_succ'
    rw [leBytes, ofLeBytes, ih, BitVec.toNat_ofNat, hpow, Nat.mod_mul]

theorem ofLeBytes_leBytes_of_lt {k v : ℕ} (h : v < 256 ^ k) : ofLeBytes (leBytes k v) = v := by
  rw [ofLeBytes_leBytes, Nat.mod_eq_of_lt h]

/-! ## Flag words -/

variable {w : ℕ}

/-- Set or clear the bits of `flag` in a word. -/
def applyFlag (apply : Bool) (flag flags : BitVec w) : BitVec w :=
  if apply then flags ||| flag else flags &&& ~~~flag

@[simp] theorem applyFlag_true (flag flags : BitVec w) :
    applyFlag true flag flags = flags ||| flag := rfl

@[simp] theorem applyFlag_false (flag flags : BitVec w) :
    applyFlag false flag flags = flags &&& ~~~flag := rfl

theorem or_and_self_right (flags flag : BitVec w) : (flags ||| flag) &&& flag = flag := by
  ext i hi
  cases hf : flag[i] <;> simp [hf]

theorem andNot_and_self (flags flag : BitVec w) : flags &&& ~~~flag &&& flag = 0 := by
  rw [BitVec.and_assoc, BitVec.and_comm (~~~flag), BitVec.and_not_self]
  simp

theorem or_andNot_self (flags flag : BitVec w) : (flags ||| flag) &&& ~~~flag = flags &&& ~~~flag := by
  ext i hi
  cases hx : flags[i] <;> cases hf : flag[i] <;> simp [hx, hf]

theorem andNot_eq_self {flags flag : BitVec w} (h : flags &&& flag = 0) :
    flags &&& ~~~flag = flags := by
  have hbit : ∀ (i : ℕ) (hi : i < w), (flags[i] && flag[i]) = false := by
    intro i hi
    rw [← BitVec.getElem_and, h]
    simp
  ext i hi
  have := hbit i hi
  cases hx : flags[i] <;> cases hf : flag[i] <;> simp_all

theorem or_eq_self {flags flag : BitVec w} (h : flags &&& flag = flag) :
    flags ||| flag = flags := by
  rw [← h]
  ext i hi
  cases hx : flags[i] <;> cases hf : flag[i] <;> simp [hx, hf]

/-- A flag word does not change at the bits outside the flag. -/
theorem applyFlag_and_of_disjoint {flag other : BitVec w} (h : flag &&& other = 0) (apply : Bool)
    (flags : BitVec w) : applyFlag apply flag flags &&& other = flags &&& other := by
  have hbit : ∀ (i : ℕ) (hi : i < w), (flag[i] && other[i]) = false := by
    intro i hi
    rw [← BitVec.getElem_and, h]
    simp
  cases apply with
  | true =>
    rw [applyFlag_true, BitVec.and_or_distrib_right, h]
    simp
  | false =>
    ext i hi
    have := hbit i hi
    cases hx : flags[i] <;> cases hf : flag[i] <;> cases ho : other[i] <;> simp_all

end RustyCore
