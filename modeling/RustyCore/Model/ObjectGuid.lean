import Mathlib.Data.BitVec
import Mathlib.Data.Prod.Lex

/-! # Object identifiers -/

namespace RustyCore

/-- The 128-bit object identifier; both halves are 64-bit two's complement words. -/
structure ObjectGuid where
  high : BitVec 64
  low : BitVec 64
deriving DecidableEq

namespace ObjectGuid

def empty : ObjectGuid := ⟨0, 0⟩

def isEmpty (guid : ObjectGuid) : Bool := guid.high == 0 && guid.low == 0

/-- The type discriminants of `HighGuid` that the accessors below distinguish. -/
def highGuidPlayer : BitVec 64 := 2

def highGuidTransport : BitVec 64 := 6

def highGuidCreature : BitVec 64 := 8

def highGuidGameObject : BitVec 64 := 11

/-- The raw discriminant in the top six bits of the high word. -/
def highType (guid : ObjectGuid) : BitVec 64 := (guid.high.sshiftRight 58) &&& 0x3F

def counter (guid : ObjectGuid) : BitVec 64 :=
  if guid.highType = highGuidTransport then (guid.high.sshiftRight 38) &&& 0xFFFFF
  else guid.low &&& 0xFFFFFFFFFF

def createPlayer (realmId : BitVec 16) (dbId : BitVec 64) : ObjectGuid :=
  ⟨(highGuidPlayer <<< 58) ||| ((realmId.zeroExtend 64 &&& 0x1FFF) <<< 42), dbId⟩

/-- `create_global`; `guidType` is the discriminant of the high type. -/
def createGlobal (guidType dbIdHigh dbId : BitVec 64) : ObjectGuid :=
  ⟨(guidType <<< 58) ||| (dbIdHigh &&& 0x3FFFFFFFFFFFFFF), dbId⟩

/-- `guidType` is the discriminant of the high type. -/
def createWorldObject (guidType : BitVec 64) (subType : BitVec 8) (realmId mapId : BitVec 16)
    (serverId entry : BitVec 32) (counter : BitVec 64) : ObjectGuid :=
  ⟨(guidType <<< 58) ||| ((realmId.zeroExtend 64 &&& 0x1FFF) <<< 42) |||
      ((mapId.zeroExtend 64 &&& 0x1FFF) <<< 29) ||| ((entry.zeroExtend 64 &&& 0x7FFFFF) <<< 6) |||
      (subType.zeroExtend 64 &&& 0x3F),
    ((serverId.zeroExtend 64 &&& 0xFFFFFF) <<< 40) ||| (counter &&& 0xFFFFFFFFFF)⟩

/-- By the high word, then by the low one, both signed. -/
def le (guid guid' : ObjectGuid) : Bool :=
  guid.high.slt guid'.high || guid.high == guid'.high && guid.low.sle guid'.low

@[simp] theorem isEmpty_empty : empty.isEmpty = true := rfl

theorem isEmpty_iff {guid : ObjectGuid} : guid.isEmpty = true ↔ guid = empty := by
  cases guid
  simp [isEmpty, empty]

theorem isEmpty_eq_false_iff {guid : ObjectGuid} : guid.isEmpty = false ↔ guid ≠ empty := by
  rw [← Bool.not_eq_true, isEmpty_iff]

/-! ## Order -/

def rank (guid : ObjectGuid) : ℤ ×ₗ ℤ := toLex (guid.high.toInt, guid.low.toInt)

theorem rank_injective : Function.Injective rank := by
  rintro ⟨high, low⟩ ⟨high', low'⟩ same
  simp only [rank, toLex_inj, Prod.mk.injEq, BitVec.toInt_inj] at same
  obtain ⟨rfl, rfl⟩ := same
  rfl

instance : LinearOrder ObjectGuid := LinearOrder.lift' rank rank_injective

/-- The order is the one that the comparison of the two words gives. -/
theorem le_eq_true_iff {guid guid' : ObjectGuid} : guid.le guid' = true ↔ guid ≤ guid' := by
  change _ ↔ guid.rank ≤ guid'.rank
  simp only [le, rank, Prod.Lex.toLex_le_toLex, Bool.or_eq_true, Bool.and_eq_true, beq_iff_eq,
    BitVec.slt_iff_toInt_lt, BitVec.sle_iff_toInt_le, BitVec.toInt_inj]

end ObjectGuid

end RustyCore
