import RustyCore.Library.BitBlocks
import RustyCore.Library.Checked

/-! # Update masks

The set of the fields of one entity to be sent. A second level of blocks has a bit for each
block of the first that is not zero. -/

namespace RustyCore.Entities

open BitBlocks

def blockIndex (bit : ℕ) : ℕ := bit / 32

def blockFlag (bit : ℕ) : BitVec 32 := 1#32 <<< (bit % 32)

def divCeil (x y : ℕ) : ℕ := (x + y - 1) / y

structure UpdateMask where
  bits : ℕ
  blocks : List (BitVec 32)
  blocksMask : List (BitVec 32)
deriving DecidableEq

namespace UpdateMask

def new (bits : ℕ) : UpdateMask :=
  let blockCount := divCeil bits 32
  let blocksMaskCount := divCeil blockCount 32
  { bits := bits
    blocks := List.replicate blockCount 0
    blocksMask := List.replicate blocksMaskCount 0 }

def blockCount (mask : UpdateMask) : ℕ := mask.blocks.length

def maskUnusedTailBits (mask : UpdateMask) : UpdateMask :=
  let usedBits := mask.bits % 32
  if usedBits ≠ 0 then
    { mask with
      blocks := mask.blocks.modify (mask.blocks.length - 1)
        (· &&& BitVec.allOnes 32 >>> (32 - usedBits)) }
  else mask

/-- One round of the loop over the blocks. -/
def markBlock (blocksMask : List (BitVec 32)) (value : BitVec 32) (block : ℕ) :
    Checked Empty (List (BitVec 32)) :=
  if value ≠ 0 then checkedModify blocksMask (blockIndex block) (· ||| blockFlag block)
  else pure blocksMask

def rebuildBlocksMask (mask : UpdateMask) : Checked Empty UpdateMask := do
  let zeros := List.replicate mask.blocksMask.length 0
  let blocksMask ← mask.blocks.zipIdx.foldlM (fun s a => markBlock s a.1 a.2) zeros
  return { mask with blocksMask := blocksMask }

def resetAll (mask : UpdateMask) : UpdateMask :=
  { mask with
    blocks := List.replicate mask.blocks.length 0
    blocksMask := List.replicate mask.blocksMask.length 0 }

def setAll (mask : UpdateMask) : Checked Empty UpdateMask :=
  { mask with blocks := List.replicate mask.blocks.length (BitVec.allOnes 32)
    }.maskUnusedTailBits.rebuildBlocksMask

def fromBlocks (bits : ℕ) (input : List (BitVec 32)) : Checked Empty UpdateMask :=
  let mask := new bits
  { mask with blocks := zipUpdate (fun _ value => value) mask.blocks input
    }.maskUnusedTailBits.rebuildBlocksMask

def allBits (bits : ℕ) : Checked Empty UpdateMask := (new bits).setAll

def isSet (mask : UpdateMask) (index : ℕ) : Checked Empty Bool := do
  assertThat (index < mask.bits)
  let block ← checkedGet mask.blocks (blockIndex index)
  return decide (block &&& blockFlag index ≠ 0)

def isAnySet (mask : UpdateMask) : Bool := mask.blocksMask.any (· ≠ 0)

def set (mask : UpdateMask) (index : ℕ) : Checked Empty UpdateMask := do
  assertThat (index < mask.bits)
  let block := blockIndex index
  let blocks ← checkedModify mask.blocks block (· ||| blockFlag index)
  let blocksMask ← checkedModify mask.blocksMask (blockIndex block) (· ||| blockFlag block)
  return { mask with blocks := blocks, blocksMask := blocksMask }

def reset (mask : UpdateMask) (index : ℕ) : Checked Empty UpdateMask := do
  assertThat (index < mask.bits)
  let block := blockIndex index
  let blocks ← checkedModify mask.blocks block (· &&& ~~~blockFlag index)
  let value ← checkedGet blocks block
  if value = 0 then
    let blocksMask ← checkedModify mask.blocksMask (blockIndex block) (· &&& ~~~blockFlag block)
    return { mask with blocks := blocks, blocksMask := blocksMask }
  else
    return { mask with blocks := blocks }

def bitAndAssign (mask rhs : UpdateMask) : Checked Empty UpdateMask := do
  assertThat (mask.bits = rhs.bits)
  { mask with blocks := zipUpdate (· &&& ·) mask.blocks rhs.blocks }.rebuildBlocksMask

def bitOrAssign (mask rhs : UpdateMask) : Checked Empty UpdateMask := do
  assertThat (mask.bits = rhs.bits)
  { mask with blocks := zipUpdate (· ||| ·) mask.blocks rhs.blocks
    }.maskUnusedTailBits.rebuildBlocksMask

end UpdateMask

/-! ## How a mask is built -/

/-- The calls that built a mask, those for the right operands included. -/
inductive MaskBuild where
  | new (bits : ℕ)
  | fromBlocks (bits : ℕ) (input : List (BitVec 32))
  | allBits (bits : ℕ)
  | set (mask : MaskBuild) (index : ℕ)
  | reset (mask : MaskBuild) (index : ℕ)
  | setAll (mask : MaskBuild)
  | resetAll (mask : MaskBuild)
  | andAssign (mask rhs : MaskBuild)
  | orAssign (mask rhs : MaskBuild)
deriving DecidableEq

namespace MaskBuild

/-- The mask that the calls leave. -/
def eval : MaskBuild → Checked Empty UpdateMask
  | new bits => pure (UpdateMask.new bits)
  | fromBlocks bits input => UpdateMask.fromBlocks bits input
  | allBits bits => UpdateMask.allBits bits
  | set mask index => do (← mask.eval).set index
  | reset mask index => do (← mask.eval).reset index
  | setAll mask => do (← mask.eval).setAll
  | resetAll mask => return (← mask.eval).resetAll
  | andAssign mask rhs => do
      let left ← mask.eval
      let right ← rhs.eval
      left.bitAndAssign right
  | orAssign mask rhs => do
      let left ← mask.eval
      let right ← rhs.eval
      left.bitOrAssign right

/-- The size of the first call. -/
def bits : MaskBuild → ℕ
  | new bits | fromBlocks bits _ | allBits bits => bits
  | set mask _ | reset mask _ | setAll mask | resetAll mask => mask.bits
  | andAssign mask _ | orAssign mask _ => mask.bits

/-- The calls as operations on sets of numbers. -/
def members : MaskBuild → Finset ℕ
  | new _ => ∅
  | fromBlocks bits input => {index ∈ Finset.range bits | testBit input index}
  | allBits bits => Finset.range bits
  | set mask index => insert index mask.members
  | reset mask index => mask.members.erase index
  | setAll mask => Finset.range mask.bits
  | resetAll _ => ∅
  | andAssign mask rhs => mask.members ∩ rhs.members
  | orAssign mask rhs => mask.members ∪ rhs.members

/-- The indexes are below the size, and both operands of a call have the same one. -/
def InBounds : MaskBuild → Prop
  | new _ | fromBlocks _ _ | allBits _ => True
  | set mask index | reset mask index => mask.InBounds ∧ index < mask.bits
  | setAll mask | resetAll mask => mask.InBounds
  | andAssign mask rhs | orAssign mask rhs => mask.InBounds ∧ rhs.InBounds ∧ mask.bits = rhs.bits

end MaskBuild

end RustyCore.Entities
