import RustyCore.Model.Entities.UpdateMask

/-! # Update masks are sets of numbers

The two levels of blocks are in step after every call: the second one has exactly the
numbers of the blocks that are not zero. -/

namespace RustyCore.Entities

open BitBlocks

variable {n : ℕ} {mask : UpdateMask}

section OneFlag

variable {blocks : List (BitVec 32)} {i : ℕ}

theorem testBit_or_blockFlag (hi : blockIndex i < blocks.length) (j : ℕ) :
    testBit (blocks.modify (blockIndex i) (· ||| blockFlag i)) j =
      (decide (j = i) || testBit blocks j) :=
  testBit_insert (by decide) hi j

theorem testBit_and_not_blockFlag (hi : blockIndex i < blocks.length) (j : ℕ) :
    testBit (blocks.modify (blockIndex i) (· &&& ~~~blockFlag i)) j =
      (decide (j ≠ i) && testBit blocks j) :=
  testBit_erase (by decide) hi j

theorem checkedGet_eq_block (hi : i < blocks.length) :
    (checkedGet blocks i : Checked Empty _) = .ok (block blocks i) := by
  rw [checkedGet_eq_ok_iff, block, List.getElem?_eq_getElem hi, Option.getD_some]

end OneFlag

theorem blockIndex_lt {i : ℕ} (h : i < n) : blockIndex i < divCeil n 32 := by
  unfold blockIndex divCeil
  omega

theorem divCeil_of_mod_ne (h : n % 32 ≠ 0) : divCeil n 32 = n / 32 + 1 := by
  unfold divCeil
  omega

theorem divCeil_of_mod_eq (h : n % 32 = 0) : divCeil n 32 * 32 = n := by
  unfold divCeil
  omega

namespace UpdateMask

/-! ## The tail of the last block -/

theorem maskUnusedTailBits_eq (mask : UpdateMask) :
    mask.maskUnusedTailBits = { mask with blocks := mask.maskUnusedTailBits.blocks } := by
  unfold maskUnusedTailBits
  dsimp only
  split_ifs <;> rfl

@[simp] theorem bits_maskUnusedTailBits (mask : UpdateMask) :
    mask.maskUnusedTailBits.bits = mask.bits := by
  rw [maskUnusedTailBits_eq]

@[simp] theorem blocksMask_maskUnusedTailBits (mask : UpdateMask) :
    mask.maskUnusedTailBits.blocksMask = mask.blocksMask := by
  rw [maskUnusedTailBits_eq]

@[simp] theorem length_maskUnusedTailBits (mask : UpdateMask) :
    mask.maskUnusedTailBits.blocks.length = mask.blocks.length := by
  unfold maskUnusedTailBits
  dsimp only
  split_ifs
  · exact List.length_modify _ _ _
  · rfl

theorem testBit_maskUnusedTailBits (hlength : mask.blocks.length = divCeil mask.bits 32) (i : ℕ) :
    testBit mask.maskUnusedTailBits.blocks i =
      (decide (i < mask.bits) && testBit mask.blocks i) := by
  unfold maskUnusedTailBits
  dsimp only
  split_ifs with hused
  · exact testBit_modify_last (by decide) (hlength.trans (divCeil_of_mod_ne hused)) i
  · by_cases hi : i < mask.bits
    · simp [hi]
    · have hceil : divCeil mask.bits 32 * 32 = mask.bits := divCeil_of_mod_eq (not_not.mp hused)
      rw [testBit, block_of_length_le (by omega)]
      simp

/-! ## The second level -/

theorem markBlock_eq (value : BitVec 32) {blocksMask : List (BitVec 32)}
    (hn : blockIndex n < blocksMask.length) :
    ∃ blocksMask', markBlock blocksMask value n = .ok blocksMask' ∧
      blocksMask'.length = blocksMask.length ∧
      ∀ b, testBit blocksMask' b =
        (decide (b = n ∧ value ≠ 0) || testBit blocksMask b) := by
  unfold markBlock
  split_ifs with hvalue
  · refine ⟨_, checkedModify_of_lt hn, List.length_modify _ _ _, fun b => ?_⟩
    rw [testBit_or_blockFlag hn]
    simp only [ne_eq, hvalue, not_false_eq_true, and_true]
  · exact ⟨blocksMask, rfl, rfl, fun b => by simp [not_not.mp hvalue]⟩

theorem markBlocks_eq (blocks blocksMask : List (BitVec 32)) (n : ℕ)
    (hlength : n + blocks.length ≤ blocksMask.length * 32) :
    ∃ blocksMask', (blocks.zipIdx n).foldlM (fun s a => markBlock s a.1 a.2) blocksMask
        = .ok blocksMask' ∧
      blocksMask'.length = blocksMask.length ∧
      ∀ b, testBit blocksMask' b =
        (decide (n ≤ b ∧ block blocks (b - n) ≠ 0) || testBit blocksMask b) := by
  induction blocks generalizing blocksMask n with
  | nil => exact ⟨blocksMask, rfl, rfl, fun b => by simp [block]⟩
  | cons value blocks ih =>
    rw [List.length_cons] at hlength
    have hn : blockIndex n < blocksMask.length := by
      unfold blockIndex
      omega
    obtain ⟨marked, hmarked, hmarkedLength, hmarkedBit⟩ := markBlock_eq value hn
    obtain ⟨blocksMask', hrest, hrestLength, hrestBit⟩ :=
      ih marked (n + 1) (by omega)
    refine ⟨blocksMask', ?_, hrestLength.trans hmarkedLength, fun b => ?_⟩
    · rw [List.zipIdx_cons, List.foldlM_cons, bind_eq_ok_iff]
      exact ⟨marked, hmarked, hrest⟩
    · rw [hrestBit, hmarkedBit, ← Bool.or_assoc, ← Bool.decide_or]
      congr 2
      rcases Nat.lt_trichotomy b n with hb | rfl | hb
      · simp [hb.ne, Nat.not_le_of_lt hb, Nat.not_le_of_lt (Nat.lt_succ_of_lt hb)]
      · simp [block]
      · obtain ⟨k, rfl⟩ := Nat.exists_eq_add_of_lt hb
        have hk : n + k + 1 - n = k + 1 := by omega
        have hk' : n + k + 1 - (n + 1) = k := by omega
        simp [block, hk, hk', hb.le, hb.ne', Nat.succ_le_of_lt hb]

theorem rebuildBlocksMask_eq (hlength : mask.blocks.length ≤ mask.blocksMask.length * 32) :
    ∃ blocksMask, mask.rebuildBlocksMask = .ok { mask with blocksMask := blocksMask } ∧
      blocksMask.length = mask.blocksMask.length ∧
      ∀ b, testBit blocksMask b = decide (block mask.blocks b ≠ 0) := by
  obtain ⟨blocksMask, hrun, hblocksMask, hbit⟩ := markBlocks_eq mask.blocks
    (List.replicate mask.blocksMask.length 0) 0 (by simpa using hlength)
  rw [List.length_replicate] at hblocksMask
  refine ⟨blocksMask, ?_, hblocksMask, fun b => ?_⟩
  · rw [rebuildBlocksMask, hrun]
    rfl
  · rw [hbit b, testBit, block_replicate]
    simp

/-! ## One bit -/

section OneBit

variable {mask : UpdateMask} {i : ℕ}

theorem set_eq (hi : i < mask.bits) (hblock : blockIndex i < mask.blocks.length)
    (hblockMask : blockIndex (blockIndex i) < mask.blocksMask.length) :
    mask.set i = .ok { mask with
      blocks := mask.blocks.modify (blockIndex i) (· ||| blockFlag i)
      blocksMask := mask.blocksMask.modify (blockIndex (blockIndex i))
        (· ||| blockFlag (blockIndex i)) } := by
  simp only [set, assertThat_of hi, checkedModify_of_lt hblock, checkedModify_of_lt hblockMask]
  rfl

theorem reset_eq (hi : i < mask.bits) (hblock : blockIndex i < mask.blocks.length)
    (hblockMask : blockIndex (blockIndex i) < mask.blocksMask.length) :
    mask.reset i = .ok { mask with
      blocks := mask.blocks.modify (blockIndex i) (· &&& ~~~blockFlag i)
      blocksMask :=
        if block (mask.blocks.modify (blockIndex i) (· &&& ~~~blockFlag i)) (blockIndex i) = 0 then
          mask.blocksMask.modify (blockIndex (blockIndex i)) (· &&& ~~~blockFlag (blockIndex i))
        else mask.blocksMask } := by
  have hlength : blockIndex i <
      (mask.blocks.modify (blockIndex i) (· &&& ~~~blockFlag i)).length := by
    rwa [List.length_modify]
  simp only [reset, assertThat_of hi, checkedModify_of_lt hblock]
  change (checkedGet (mask.blocks.modify (blockIndex i) (· &&& ~~~blockFlag i)) _ >>= _) = _
  rw [checkedGet_eq_block hlength]
  change (if _ then _ else _) = _
  split_ifs
  · rw [checkedModify_of_lt hblockMask]
    rfl
  · rfl

end OneBit

end UpdateMask

/-! ## The set of a mask -/

open UpdateMask

/-- The mask is the one of this set of numbers below `bits`. -/
structure Denotes (bits : ℕ) (mask : UpdateMask) (members : Finset ℕ) : Prop where
  bits_eq : mask.bits = bits
  length_blocks : mask.blocks.length = divCeil bits 32
  length_blocksMask : mask.blocksMask.length = divCeil (divCeil bits 32) 32
  testBit_blocks : ∀ i, testBit mask.blocks i = decide (i ∈ members)
  testBit_blocksMask : ∀ b, testBit mask.blocksMask b = decide (block mask.blocks b ≠ 0)
  lt_of_mem : ∀ i ∈ members, i < bits

namespace Denotes

variable {bits : ℕ} {mask rhs : UpdateMask} {s t : Finset ℕ}
variable {i : ℕ}

theorem new (bits : ℕ) : Denotes bits (UpdateMask.new bits) ∅ where
  bits_eq := rfl
  length_blocks := List.length_replicate
  length_blocksMask := List.length_replicate
  testBit_blocks i := by
    rw [testBit, UpdateMask.new, block_replicate]
    simp
  testBit_blocksMask b := by
    rw [testBit, UpdateMask.new, block_replicate, block_replicate]
    simp
  lt_of_mem i hi := by simp at hi

theorem resetAll (h : Denotes bits mask s) : Denotes bits mask.resetAll ∅ where
  bits_eq := h.bits_eq
  length_blocks := List.length_replicate.trans h.length_blocks
  length_blocksMask := List.length_replicate.trans h.length_blocksMask
  testBit_blocks i := by
    rw [testBit, UpdateMask.resetAll, block_replicate]
    simp
  testBit_blocksMask b := by
    rw [testBit, UpdateMask.resetAll, block_replicate, block_replicate]
    simp
  lt_of_mem i hi := by simp at hi

/-- Where the blocks hold the set, rebuilding the second level gives its mask. -/
theorem rebuild (hbits : mask.bits = bits) (hblocks : mask.blocks.length = divCeil bits 32)
    (hblocksMask : mask.blocksMask.length = divCeil (divCeil bits 32) 32)
    (hbit : ∀ i, testBit mask.blocks i = decide (i ∈ s)) (hlt : ∀ i ∈ s, i < bits) :
    ∃ mask', mask.rebuildBlocksMask = .ok mask' ∧ Denotes bits mask' s := by
  have hlength : mask.blocks.length ≤ mask.blocksMask.length * 32 := by
    rw [hblocks, hblocksMask]
    unfold divCeil
    omega
  obtain ⟨blocksMask, hrun, hlength', hmask⟩ := rebuildBlocksMask_eq hlength
  exact ⟨_, hrun, hbits, hblocks, hlength'.trans hblocksMask, hbit, hmask, hlt⟩

/-- The same after the bits past the size are cleared. -/
theorem maskAndRebuild (hbits : mask.bits = bits)
    (hblocks : mask.blocks.length = divCeil bits 32)
    (hblocksMask : mask.blocksMask.length = divCeil (divCeil bits 32) 32)
    (hbit : ∀ i < bits, testBit mask.blocks i = decide (i ∈ s)) (hlt : ∀ i ∈ s, i < bits) :
    ∃ mask', mask.maskUnusedTailBits.rebuildBlocksMask = .ok mask' ∧ Denotes bits mask' s := by
  subst hbits
  refine rebuild (bits_maskUnusedTailBits mask) ((length_maskUnusedTailBits mask).trans hblocks)
    (by rw [blocksMask_maskUnusedTailBits, hblocksMask]) (fun i => ?_) hlt
  rw [testBit_maskUnusedTailBits hblocks]
  by_cases hi : i < mask.bits
  · simp [hi, hbit i hi]
  · have hmem : i ∉ s := fun hmem => hi (hlt i hmem)
    simp [hi, hmem]

theorem setAll (h : Denotes bits mask s) :
    ∃ mask', mask.setAll = .ok mask' ∧ Denotes bits mask' (Finset.range bits) := by
  refine maskAndRebuild h.bits_eq (List.length_replicate.trans h.length_blocks)
    h.length_blocksMask (fun i hi => ?_) (fun i => Finset.mem_range.mp)
  have hblock : i / 32 < mask.blocks.length := h.length_blocks ▸ blockIndex_lt hi
  have hmod : i % 32 < 32 := Nat.mod_lt i (by decide)
  rw [testBit, block_replicate, if_pos hblock, BitVec.getLsbD_allOnes]
  simp [hmod, hi]

theorem fromBlocks (bits : ℕ) (input : List (BitVec 32)) :
    ∃ mask, UpdateMask.fromBlocks bits input = .ok mask ∧
      Denotes bits mask {index ∈ Finset.range bits | testBit input index} := by
  refine maskAndRebuild rfl (length_zipUpdate.trans List.length_replicate)
    List.length_replicate (fun i hi => ?_) (by simp +contextual)
  have hblock : i / 32 < divCeil bits 32 := blockIndex_lt hi
  change testBit (zipUpdate _ (List.replicate (divCeil bits 32) 0) input) i = _
  rw [testBit_overwrite_zero]
  simp [hblock, hi]

theorem blockIndex_lt_length (h : Denotes bits mask s) (hi : i < bits) :
    blockIndex i < mask.blocks.length ∧ blockIndex (blockIndex i) < mask.blocksMask.length := by
  rw [h.length_blocks, h.length_blocksMask]
  exact ⟨blockIndex_lt hi, blockIndex_lt (blockIndex_lt hi)⟩

theorem set (h : Denotes bits mask s) (hi : i < bits) :
    ∃ mask', mask.set i = .ok mask' ∧ Denotes bits mask' (insert i s) := by
  obtain ⟨hblock, hblockMask⟩ := h.blockIndex_lt_length hi
  rw [set_eq (h.bits_eq.symm ▸ hi) hblock hblockMask]
  have hbit : ∀ j, testBit (mask.blocks.modify (blockIndex i) (· ||| blockFlag i)) j =
      decide (j ∈ insert i s) := by
    intro j
    rw [testBit_or_blockFlag hblock, h.testBit_blocks, ← Bool.decide_or, decide_eq_decide]
    exact Finset.mem_insert.symm
  refine ⟨_, rfl, h.bits_eq, (List.length_modify _ _ _).trans h.length_blocks,
    (List.length_modify _ _ _).trans h.length_blocksMask, hbit, fun b => ?_, fun j hj => ?_⟩
  · refine (testBit_or_blockFlag hblockMask b).trans ?_
    dsimp only
    rw [h.testBit_blocksMask]
    by_cases hb : b = blockIndex i
    · have hne : block (mask.blocks.modify (blockIndex i) (· ||| blockFlag i)) b ≠ 0 := by
        intro hzero
        have hset := (block_eq_zero_iff (by decide) _ b).mp hzero i hb.symm
        rw [hbit i] at hset
        simp at hset
      rw [decide_eq_true hb, decide_eq_true hne, Bool.true_or]
    · rw [block_modify hblock, if_neg hb, decide_eq_false hb, Bool.false_or]
  · rcases Finset.mem_insert.mp hj with rfl | hj
    · exact hi
    · exact h.lt_of_mem j hj

theorem reset (h : Denotes bits mask s) (hi : i < bits) :
    ∃ mask', mask.reset i = .ok mask' ∧ Denotes bits mask' (s.erase i) := by
  obtain ⟨hblock, hblockMask⟩ := h.blockIndex_lt_length hi
  rw [reset_eq (h.bits_eq.symm ▸ hi) hblock hblockMask]
  refine ⟨_, rfl, h.bits_eq, (List.length_modify _ _ _).trans h.length_blocks, ?_, fun j => ?_,
    fun b => ?_, fun j hj => h.lt_of_mem j (Finset.mem_of_mem_erase hj)⟩
  · dsimp only
    split_ifs
    · exact (List.length_modify _ _ _).trans h.length_blocksMask
    · exact h.length_blocksMask
  · dsimp only
    rw [testBit_and_not_blockFlag hblock, h.testBit_blocks, ← Bool.decide_and, decide_eq_decide]
    exact Finset.mem_erase.symm
  · dsimp only
    by_cases hb : b = blockIndex i
    · subst hb
      split_ifs with hzero
      · rw [testBit_and_not_blockFlag hblockMask, hzero]
        simp
      · -- what is left of the block was there before
        have hne : block mask.blocks (blockIndex i) ≠ 0 := by
          intro hblockZero
          rw [block_modify hblock, if_pos rfl, hblockZero] at hzero
          simp at hzero
        rw [h.testBit_blocksMask, decide_eq_true hne, decide_eq_true hzero]
    · rw [block_modify hblock _ b, if_neg hb, ← h.testBit_blocksMask]
      split_ifs
      · rw [testBit_and_not_blockFlag hblockMask, decide_eq_true hb, Bool.true_and]
      · rfl

theorem bitAndAssign (h : Denotes bits mask s) (hrhs : Denotes bits rhs t) :
    ∃ mask', mask.bitAndAssign rhs = .ok mask' ∧ Denotes bits mask' (s ∩ t) := by
  rw [UpdateMask.bitAndAssign, assertThat_of (h.bits_eq.trans hrhs.bits_eq.symm)]
  refine rebuild h.bits_eq (length_zipUpdate.trans h.length_blocks) h.length_blocksMask
    (fun i => ?_) fun i hi => h.lt_of_mem i (Finset.mem_inter.mp hi).1
  rw [testBit_and (h.length_blocks.trans hrhs.length_blocks.symm), h.testBit_blocks,
    hrhs.testBit_blocks, ← Bool.decide_and, decide_eq_decide]
  exact Finset.mem_inter.symm

theorem bitOrAssign (h : Denotes bits mask s) (hrhs : Denotes bits rhs t) :
    ∃ mask', mask.bitOrAssign rhs = .ok mask' ∧ Denotes bits mask' (s ∪ t) := by
  rw [UpdateMask.bitOrAssign, assertThat_of (h.bits_eq.trans hrhs.bits_eq.symm)]
  refine maskAndRebuild h.bits_eq (length_zipUpdate.trans h.length_blocks) h.length_blocksMask
    (fun i _ => ?_) fun i hi => (Finset.mem_union.mp hi).elim (h.lt_of_mem i) (hrhs.lt_of_mem i)
  rw [testBit_or (h.length_blocks.trans hrhs.length_blocks.symm), h.testBit_blocks,
    hrhs.testBit_blocks, ← Bool.decide_or, decide_eq_decide]
  exact Finset.mem_union.symm

theorem isSet_eq (h : Denotes bits mask s) (hi : i < bits) :
    mask.isSet i = .ok (decide (i ∈ s)) := by
  simp only [isSet, assertThat_of (h.bits_eq.symm ▸ hi),
    checkedGet_eq_block (h.blockIndex_lt_length hi).1]
  change Except.ok (decide (block mask.blocks (blockIndex i) &&& blockFlag i ≠ 0)) = _
  rw [← h.testBit_blocks]
  exact congrArg Except.ok (Bool.eq_iff_iff.mpr
    (decide_eq_true_iff.trans (and_flag_ne_zero_iff (by decide) _ i)))

theorem isAnySet_eq (h : Denotes bits mask s) : mask.isAnySet = decide s.Nonempty := by
  have hw : 0 < 32 := by decide
  rw [Bool.eq_iff_iff, isAnySet, any_ne_zero_iff hw, decide_eq_true_iff]
  constructor
  · rintro ⟨b, hb⟩
    rw [h.testBit_blocksMask, decide_eq_true_iff, block_ne_zero_iff hw] at hb
    obtain ⟨i, -, hi⟩ := hb
    exact ⟨i, by simpa [h.testBit_blocks] using hi⟩
  · rintro ⟨i, hi⟩
    refine ⟨i / 32, ?_⟩
    rw [h.testBit_blocksMask, decide_eq_true_iff, block_ne_zero_iff hw]
    exact ⟨i, rfl, by simpa [h.testBit_blocks] using hi⟩

end Denotes

/-! ## Every way to build a mask -/

namespace MaskBuild

variable {build : MaskBuild}

theorem eval_of_inBounds (h : build.InBounds) :
    ∃ mask, build.eval = .ok mask ∧ Denotes build.bits mask build.members := by
  induction build with
  | new bits => exact ⟨_, rfl, Denotes.new bits⟩
  | fromBlocks bits input => exact Denotes.fromBlocks bits input
  | allBits bits => exact (Denotes.new bits).setAll
  | set build index ih =>
    obtain ⟨mask, heval, hmask⟩ := ih h.1
    obtain ⟨mask', hset, hmask'⟩ := hmask.set h.2
    exact ⟨mask', bind_eq_ok_iff.mpr ⟨mask, heval, hset⟩, hmask'⟩
  | reset build index ih =>
    obtain ⟨mask, heval, hmask⟩ := ih h.1
    obtain ⟨mask', hreset, hmask'⟩ := hmask.reset h.2
    exact ⟨mask', bind_eq_ok_iff.mpr ⟨mask, heval, hreset⟩, hmask'⟩
  | setAll build ih =>
    obtain ⟨mask, heval, hmask⟩ := ih h
    obtain ⟨mask', hset, hmask'⟩ := hmask.setAll
    exact ⟨mask', bind_eq_ok_iff.mpr ⟨mask, heval, hset⟩, hmask'⟩
  | resetAll build ih =>
    obtain ⟨mask, heval, hmask⟩ := ih h
    exact ⟨mask.resetAll, bind_eq_ok_iff.mpr ⟨mask, heval, rfl⟩, hmask.resetAll⟩
  | andAssign build rhs ih ihRhs =>
    obtain ⟨mask, heval, hmask⟩ := ih h.1
    obtain ⟨right, hevalRhs, hright⟩ := ihRhs h.2.1
    obtain ⟨mask', hand, hmask'⟩ := hmask.bitAndAssign (h.2.2 ▸ hright)
    exact ⟨mask', bind_eq_ok_iff.mpr ⟨mask, heval, bind_eq_ok_iff.mpr ⟨right, hevalRhs, hand⟩⟩,
      hmask'⟩
  | orAssign build rhs ih ihRhs =>
    obtain ⟨mask, heval, hmask⟩ := ih h.1
    obtain ⟨right, hevalRhs, hright⟩ := ihRhs h.2.1
    obtain ⟨mask', hor, hmask'⟩ := hmask.bitOrAssign (h.2.2 ▸ hright)
    exact ⟨mask', bind_eq_ok_iff.mpr ⟨mask, heval, bind_eq_ok_iff.mpr ⟨right, hevalRhs, hor⟩⟩,
      hmask'⟩

theorem denotes_of_eval (hbounds : build.InBounds) (h : build.eval = .ok mask) :
    Denotes build.bits mask build.members := by
  obtain ⟨mask', heval, hmask⟩ := eval_of_inBounds hbounds
  obtain rfl := Except.ok.inj (heval.symm.trans h)
  exact hmask

/-- An index past the size, and operands of two sizes, stop the run. -/
theorem inBounds_of_eval (h : build.eval = .ok mask) : build.InBounds := by
  induction build generalizing mask with
  | new bits => trivial
  | fromBlocks bits input => trivial
  | allBits bits => trivial
  | set build index ih =>
    obtain ⟨before, heval, hset⟩ := bind_eq_ok_iff.mp h
    have hbits := (denotes_of_eval (ih heval) heval).bits_eq
    obtain ⟨_, hassert, -⟩ := bind_eq_ok_iff.mp hset
    exact ⟨ih heval, hbits ▸ assertThat_eq_ok_iff.mp hassert⟩
  | reset build index ih =>
    obtain ⟨before, heval, hreset⟩ := bind_eq_ok_iff.mp h
    have hbits := (denotes_of_eval (ih heval) heval).bits_eq
    obtain ⟨_, hassert, -⟩ := bind_eq_ok_iff.mp hreset
    exact ⟨ih heval, hbits ▸ assertThat_eq_ok_iff.mp hassert⟩
  | setAll build ih =>
    obtain ⟨before, heval, -⟩ := bind_eq_ok_iff.mp h
    exact ih heval
  | resetAll build ih =>
    obtain ⟨before, heval, -⟩ := bind_eq_ok_iff.mp h
    exact ih heval
  | andAssign build rhs ih ihRhs | orAssign build rhs ih ihRhs =>
    obtain ⟨left, heval, h⟩ := bind_eq_ok_iff.mp h
    obtain ⟨right, hevalRhs, h⟩ := bind_eq_ok_iff.mp h
    obtain ⟨_, hassert, -⟩ := bind_eq_ok_iff.mp h
    have hleft := (denotes_of_eval (ih heval) heval).bits_eq
    have hright := (denotes_of_eval (ihRhs hevalRhs) hevalRhs).bits_eq
    exact ⟨ih heval, ihRhs hevalRhs,
      hleft.symm.trans ((assertThat_eq_ok_iff.mp hassert).trans hright)⟩

/-- A mask built by any calls is the set that the calls make of their numbers, and the calls
go through if their indexes are below the size and their operands have the same one. -/
theorem update_mask_is_set (build : MaskBuild) :
    ((∃ mask, build.eval = .ok mask) ↔ build.InBounds) ∧
      ∀ mask, build.eval = .ok mask →
        mask.bits = build.bits ∧
        (∀ b, testBit mask.blocksMask b = decide (block mask.blocks b ≠ 0)) ∧
        (∀ i, mask.bits ≤ i → testBit mask.blocks i = false) ∧
        (∀ b, mask.blockCount ≤ b → testBit mask.blocksMask b = false) ∧
        (∀ i < mask.bits, mask.isSet i = .ok (decide (i ∈ build.members))) ∧
        (mask.isAnySet = decide build.members.Nonempty) := by
  constructor
  · refine ⟨fun ⟨mask, heval⟩ => inBounds_of_eval heval, fun h => ?_⟩
    obtain ⟨mask, heval, -⟩ := eval_of_inBounds h
    exact ⟨mask, heval⟩
  · intro mask heval
    have h := denotes_of_eval (inBounds_of_eval heval) heval
    refine ⟨h.bits_eq, h.testBit_blocksMask, fun i hi => ?_, fun b hb => ?_,
      fun i hi => h.isSet_eq (h.bits_eq ▸ hi), h.isAnySet_eq⟩
    · rw [h.testBit_blocks]
      exact decide_eq_false fun hmem => Nat.not_lt_of_le hi (h.bits_eq ▸ h.lt_of_mem i hmem)
    · rw [h.testBit_blocksMask, block_of_length_le hb]
      rfl

/-- The one bit of the second block is taken out again. -/
theorem update_mask_is_set_two_blocks : ∃ mask, (reset (allBits 33) 32).eval = .ok mask ∧
    mask.isSet 31 = .ok true ∧ mask.isSet 32 = .ok false ∧ testBit mask.blocksMask 1 = false := by
  have heval : (reset (allBits 33) 32).eval =
      .ok { bits := 33, blocks := [0xFFFFFFFF, 0], blocksMask := [1] } := by decide +kernel
  obtain ⟨hbits, hmask, -, -, hset, -⟩ := (update_mask_is_set (reset (allBits 33) 32)).2 _ heval
  exact ⟨_, heval, (hset 31 (by decide)).trans (by decide), (hset 32 (by decide)).trans (by decide),
    (hmask 1).trans (by decide)⟩

end MaskBuild

end RustyCore.Entities
