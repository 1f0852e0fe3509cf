import Mathlib.Data.ZMod.Basic
import Mathlib.Tactic.Ring
import RustyCore.Library.Checked

/-! # Unsigned big integers and key agreement

Numbers without a bound, their byte strings without leading zeros, and powers modulo a
number by squaring. -/

namespace RustyCore.BigUint

/-! ## Byte strings -/

/-- The bits up to the highest one that is set. -/
def bits (n : ℕ) : ℕ := if n = 0 then 0 else n.log2 + 1

/-- The bytes up to the highest one that is not zero; zero has one byte. -/
def byteLength (n : ℕ) : ℕ := max 1 ((bits n + 7) / 8)

def toBytesLe (n : ℕ) : List Byte := leBytes (byteLength n) n

def toBytesBe (n : ℕ) : List Byte := (toBytesLe n).reverse

def fromBytesLe (bytes : List Byte) : ℕ := ofLeBytes bytes

def fromBytesBe (bytes : List Byte) : ℕ := fromBytesLe bytes.reverse

theorem bits_le_iff {n k : ℕ} : bits n ≤ k ↔ n < 2 ^ k := by
  unfold bits
  by_cases hn : n = 0
  · subst hn
    simp
  · rw [if_neg hn, Nat.succ_le_iff, Nat.log2_lt hn]

theorem byteLength_le_iff {n len : ℕ} (hlen : 1 ≤ len) : byteLength n ≤ len ↔ n < 256 ^ len := by
  have hpow : 256 ^ len = 2 ^ (8 * len) := by rw [Nat.pow_mul]
  rw [hpow, ← bits_le_iff, byteLength]
  omega

theorem lt_pow_byteLength (n : ℕ) : n < 256 ^ byteLength n :=
  (byteLength_le_iff (le_max_left _ _)).mp le_rfl

@[simp] theorem fromBytesLe_toBytesLe (n : ℕ) : fromBytesLe (toBytesLe n) = n :=
  ofLeBytes_leBytes_of_lt (lt_pow_byteLength n)

@[simp] theorem fromBytesBe_toBytesBe (n : ℕ) : fromBytesBe (toBytesBe n) = n := by
  rw [fromBytesBe, toBytesBe, List.reverse_reverse, fromBytesLe_toBytesLe]

@[simp] theorem length_toBytesBe (n : ℕ) : (toBytesBe n).length = byteLength n := by
  rw [toBytesBe, List.length_reverse, toBytesLe, length_leBytes]

theorem fromBytesLe_lt (bytes : List Byte) : fromBytesLe bytes < 256 ^ bytes.length := by
  induction bytes with
  | nil => exact Nat.one_pos
  | cons b bytes ih =>
    have hb := b.isLt
    rw [fromBytesLe] at ih ⊢
    rw [ofLeBytes, List.length_cons, Nat.pow_succ']
    omega

theorem fromBytesBe_lt (bytes : List Byte) : fromBytesBe bytes < 256 ^ bytes.length := by
  have hlt := fromBytesLe_lt bytes.reverse
  rwa [List.length_reverse] at hlt

/-! ## Modular powers -/

/-- Square and multiply, over this many bits of the exponent. -/
def powBits (modulus base : ℕ) : ℕ → ℕ → ℕ
  | 0, _ => 1 % modulus
  | count + 1, exponent =>
    let root := powBits modulus base count (exponent / 2)
    root * root * (if exponent % 2 = 1 then base else 1) % modulus

/-- `base.modpow(exponent, modulus)` for a modulus that is not zero. -/
def modpow (base exponent modulus : ℕ) : ℕ := powBits modulus base (bits exponent) exponent

theorem powBits_eq (modulus base : ℕ) {count exponent : ℕ} (h : exponent < 2 ^ count) :
    powBits modulus base count exponent = base ^ exponent % modulus := by
  induction count generalizing exponent with
  | zero =>
    obtain rfl : exponent = 0 := by simpa using h
    rfl
  | succ count ih =>
    have hroot : powBits modulus base count (exponent / 2) ≡ base ^ (exponent / 2)
        [MOD modulus] := by
      rw [ih (by rw [Nat.pow_succ] at h; omega)]
      exact Nat.mod_modEq _ _
    have hbit : (if exponent % 2 = 1 then base else 1) = base ^ (exponent % 2) := by
      rcases Nat.mod_two_eq_zero_or_one exponent with hparity | hparity <;> simp [hparity]
    have hpower : base ^ (exponent / 2) * base ^ (exponent / 2) * base ^ (exponent % 2) =
        base ^ exponent := by
      rw [← pow_add, ← pow_add]
      congr 1
      omega
    simp only [powBits]
    rw [hbit]
    exact (((hroot.mul hroot).mul_right _).trans (hpower ▸ Nat.ModEq.rfl))

theorem modpow_eq (base exponent modulus : ℕ) :
    modpow base exponent modulus = base ^ exponent % modulus :=
  powBits_eq modulus base (bits_le_iff.mp le_rfl)

theorem modpow_lt (base exponent : ℕ) {modulus : ℕ} (h : 0 < modulus) :
    modpow base exponent modulus < modulus := by
  rw [modpow_eq]
  exact Nat.mod_lt _ h

variable {ε : Type}

/-- The power that crashes for the modulus zero. -/
def checkedModpow (base exponent modulus : ℕ) : Checked ε ℕ :=
  if modulus = 0 then .error (.crash .divisionByZero) else .ok (modpow base exponent modulus)

@[simp] theorem checkedModpow_of_pos {base exponent modulus : ℕ} (h : 0 < modulus) :
    (checkedModpow base exponent modulus : Checked ε ℕ) = .ok (modpow base exponent modulus) :=
  if_neg h.ne'

end RustyCore.BigUint

/-! ## The SRP-6 key agreement

Client and server raise different numbers to different powers and meet in the same one.
The agreement is an identity of commutative rings; on numbers it holds modulo any `n`. -/

namespace RustyCore.Srp

open BigUint

/-- Client and server agree, in any commutative ring. -/
theorem agreement {R : Type*} [CommRing R] (g k : R) (x a b u : ℕ) :
    (g ^ b + k * g ^ x - k * g ^ x) ^ (a + u * x) = (g ^ a * (g ^ x) ^ u) ^ b := by
  rw [add_sub_cancel_right, ← pow_mul, ← pow_mul, ← pow_add, ← pow_mul]
  congr 1
  ring

/-! ## On numbers -/

section Numbers

variable (n g k : ℕ)

/-- What the client sends. -/
def clientPublic (a : ℕ) : ℕ := modpow g a n

/-- What the server sends. -/
def serverPublic (v b : ℕ) : ℕ := (modpow g b n + k * v % n) % n

def serverSecret (A v u b : ℕ) : ℕ := modpow (A * modpow v u n % n) b n

/-- `B - k * g ^ x` modulo `n`. -/
def clientBase (x B : ℕ) : ℕ := (B + (n - k * modpow g x n % n)) % n

def clientSecret (x a u B : ℕ) : ℕ := modpow (clientBase n g k x B) (a + u * x) n

variable {n} {g} {k}

theorem cast_modpow (base exponent : ℕ) :
    ((modpow base exponent n : ℕ) : ZMod n) = (base : ZMod n) ^ exponent := by
  rw [modpow_eq, ZMod.natCast_mod, Nat.cast_pow]

/-- Equal residues below the modulus are equal numbers. -/
theorem modpow_eq_of_cast {base base' exponent exponent' : ℕ}
    (h : (base : ZMod n) ^ exponent = (base' : ZMod n) ^ exponent') :
    modpow base exponent n = modpow base' exponent' n := by
  rw [modpow_eq, modpow_eq]
  refine (ZMod.natCast_eq_natCast_iff' _ _ n).mp ?_
  rw [Nat.cast_pow, Nat.cast_pow, h]

theorem cast_clientBase (hn : 0 < n) (x B : ℕ) :
    ((clientBase n g k x B : ℕ) : ZMod n) = (B : ZMod n) - k * (g : ZMod n) ^ x := by
  have hle : k * modpow g x n % n ≤ n := (Nat.mod_lt _ hn).le
  rw [clientBase, ZMod.natCast_mod, Nat.cast_add, Nat.cast_sub hle, ZMod.natCast_mod,
    Nat.cast_mul, cast_modpow, ZMod.natCast_self, zero_sub, sub_eq_add_neg]

theorem cast_serverPublic (v b : ℕ) :
    ((serverPublic n g k v b : ℕ) : ZMod n) = (g : ZMod n) ^ b + k * v := by
  rw [serverPublic, ZMod.natCast_mod, Nat.cast_add, cast_modpow, ZMod.natCast_mod, Nat.cast_mul]

/-- The client's base is the part of the server's ephemeral that hides no verifier. -/
theorem cast_clientBase_serverPublic (hn : 0 < n) (x b : ℕ) :
    ((clientBase n g k x (serverPublic n g k (modpow g x n) b) : ℕ) : ZMod n) =
      (g : ZMod n) ^ b := by
  rw [cast_clientBase hn, cast_serverPublic, cast_modpow, add_sub_cancel_right]

theorem secrets_agree (hn : 0 < n) (x a b u : ℕ) :
    clientSecret n g k x a u (serverPublic n g k (modpow g x n) b) =
      serverSecret n (clientPublic n g a) (modpow g x n) u b := by
  refine modpow_eq_of_cast ?_
  rw [cast_clientBase hn, cast_serverPublic, cast_modpow, agreement (g : ZMod n) k x a b u,
    ZMod.natCast_mod, Nat.cast_mul, clientPublic, cast_modpow, cast_modpow, cast_modpow]

/-- Where a power of the generator is one, exponents may be reduced by it. -/
theorem modpow_mod_order {order : ℕ} (horder : modpow g order n = 1 % n) {base b : ℕ}
    (hbase : (base : ZMod n) = (g : ZMod n) ^ b) (exponent : ℕ) :
    modpow base (exponent % order) n = modpow base exponent n := by
  have hone : (g : ZMod n) ^ order = 1 := by
    rw [← cast_modpow, horder, ZMod.natCast_mod, Nat.cast_one]
  refine modpow_eq_of_cast ?_
  have hbase_order : (base : ZMod n) ^ order = 1 := by
    rw [hbase, ← pow_mul, Nat.mul_comm, pow_mul, hone, one_pow]
  exact (pow_eq_pow_mod exponent hbase_order).symm

end Numbers

end RustyCore.Srp
