import RustyCore.Verification.Player.ItemStorage

/-! # A full inventory is no false alarm

The passes of a request that names no position look at every usable slot, at a stack when they
merge and at a free slot when they fill. What gives up has used all of them. -/

namespace RustyCore.Player

/-- A slot of the backpack below its unlocked end. -/
def BackpackSlot (player : PlayerStorage) (pos : ItemPos) : Prop :=
  pos.bag = inventorySlotBag0 ∧ inventorySlotItemStart ≤ pos.slot ∧
    pos.slot < inventoryEnd player

/-- A plain bag takes every item; a specialized one takes what has its family. -/
def FamilyAccepts (proto bagProto : ItemStorageTemplate) : Prop :=
  itemCanGoIntoBag proto bagProto = true ∧
    (bagProto.classId = .container ∧ bagProto.subclassId = plainContainer ∨ proto.bagFamily ≠ 0)

/-- A slot of an equipped bag whose family accepts the item. A bag does not go into itself, and
child items go into no bag. -/
def BagSlot (player : PlayerStorage) (args : CanStoreItemArgs) (proto : ItemStorageTemplate)
    (pos : ItemPos) : Prop :=
  inventorySlotBagStart ≤ pos.bag ∧ pos.bag < inventorySlotBagEnd ∧
    ∃ storage bagProto, player.bagAt pos.bag = some storage ∧ pos.slot < storage.bagSize ∧
      bagTemplateByPos args.bagTemplates pos.bag = some bagProto ∧ FamilyAccepts proto bagProto ∧
      ∀ source, args.sourceItem = some source →
        source.guid ≠ storage.bagGuid ∧ source.isChild = false

/-- The new destinations use a position up to its stack size, or it holds an item that takes
nothing of the stack; an item that does not stack takes nothing. -/
def Exhausted (args : CanStoreItemArgs) (proto : ItemStorageTemplate)
    (dest dest' : List ItemPosCount) (pos : ItemPos) : Prop :=
  (∃ position ∈ dest', position.pos = pos ∧
    (position ∈ dest ∨ position.count + stackCount args pos = proto.maxStackSize)) ∨
  ∃ item, itemAt args pos = some item ∧ (proto.maxStackSize = 1 ∨
    item.canBeMergedPartlyWith proto.entry proto.maxStackSize ≠ .ok)

variable {player : PlayerStorage} {args : CanStoreItemArgs} {proto : ItemStorageTemplate}
  {dest dest' : List ItemPosCount} {total noSimilarCount : ℕ}

/-! ## The searched positions -/

theorem searchSlotStart_le : searchSlotStart args proto ≤ inventorySlotItemStart := by
  unfold searchSlotStart
  split <;> decide

theorem mem_inventoryRegion {pos : ItemPos} {slotBegin : ℕ} (h : BackpackSlot player pos)
    (named : args.bag = nullBag) (notBag : args.sourceIsNotEmptyBag = false)
    (le : slotBegin ≤ inventorySlotItemStart) :
    pos ∈ inventoryRegion args slotBegin (inventoryEnd player) (itemAt args pos).isSome := by
  obtain ⟨top, above, below⟩ := h
  refine ⟨by simp [notBag], top, le.trans above, below, ?_, ?_, rfl⟩
  · rw [named]
    exact fun same => absurd same.1 (by decide)
  · simp only [inventorySlotItemStart, reagentBagSlotStart] at above ⊢
    omega

theorem bagCheck_of_accepts {bag : ℕ} {storage : PlayerBagStorage}
    {bagProto : ItemStorageTemplate} {nonSpecialized : Bool} (notNamed : bag ≠ args.bag)
    (stored : player.bagAt bag = some storage) (notBag : args.sourceIsNotEmptyBag = false)
    (source : ∀ source, args.sourceItem = some source →
      source.guid ≠ storage.bagGuid ∧ source.isChild = false)
    (fits : itemCanGoIntoBag proto bagProto = true)
    (kind : nonSpecialized =
      (bagProto.classId == .container && bagProto.subclassId == plainContainer)) :
    bagCheck player proto args.sourceItem args.sourceIsNotEmptyBag bag nonSpecialized args.bag
      (some bagProto) = .ok storage := by
  have notSelf : (args.sourceItem.any fun source => source.guid == storage.bagGuid) = false := by
    cases moved : args.sourceItem with
    | none => rfl
    | some item => simpa using (source item moved).1
  have notChild : args.sourceItem.any Item.isChild = false := by
    cases moved : args.sourceItem with
    | none => rfl
    | some item => exact (source item moved).2
  simp [bagCheck, notNamed, stored, notSelf, notBag, notChild, kind, fits]

/-- A slot of a usable bag is searched in one of the two kinds of passes. -/
theorem mem_bagsRegion {pos : ItemPos} (h : BagSlot player args proto pos)
    (named : args.bag = nullBag) (unnamed : args.slot = nullSlot)
    (notBag : args.sourceIsNotEmptyBag = false) :
    pos ∈ bagsRegion player args proto (itemAt args pos).isSome true ∨
      proto.bagFamily ≠ 0 ∧ pos ∈ bagsRegion player args proto (itemAt args pos).isSome false := by
  obtain ⟨above, below, storage, bagProto, stored, inside, template, ⟨fits, family⟩, source⟩ := h
  have notNamed : pos.bag ≠ args.bag := by
    rw [named]
    simp only [inventorySlotBagStart, nullBag] at above ⊢
    omega
  have notNull : pos.slot ≠ args.slot := by
    have byte := storage.isByte
    rw [unnamed]
    simp only [nullSlot]
    omega
  have searched {nonSpecialized : Bool} (kind : nonSpecialized =
      (bagProto.classId == .container && bagProto.subclassId == plainContainer)) :
      pos ∈ bagsRegion player args proto (itemAt args pos).isSome nonSpecialized := by
    refine ⟨pos.bag, mem_slotRange.mpr ⟨above, below⟩, rfl, notNull, rfl, storage, ?_, inside⟩
    rw [template]
    exact bagCheck_of_accepts notNamed stored notBag source fits kind
  cases kind : bagProto.classId == .container && bagProto.subclassId == plainContainer with
  | true => exact .inl (searched kind.symm)
  | false =>
    refine .inr ⟨family.resolve_left fun plain => ?_, searched kind.symm⟩
    simp [plain.1, plain.2] at kind

theorem mem_searched {pos : ItemPos}
    (usable : BackpackSlot player pos ∨ BagSlot player args proto pos)
    (named : args.bag = nullBag) (unnamed : args.slot = nullSlot)
    (notBag : args.sourceIsNotEmptyBag = false) :
    pos ∈ searched player args proto ∨
      (itemAt args pos).isSome = true ∧ proto.maxStackSize = 1 := by
  by_cases single : (itemAt args pos).isSome = true ∧ proto.maxStackSize = 1
  · exact .inr single
  refine .inl ?_
  rcases usable with backpack | bag
  · have region (slotBegin : ℕ) (le : slotBegin ≤ inventorySlotItemStart) :=
      mem_inventoryRegion backpack named notBag le
    cases held : (itemAt args pos).isSome with
    | true =>
      rw [held] at region
      exact .inl ⟨fun one => single ⟨held, one⟩, .inl (region _ le_rfl)⟩
    | false =>
      rw [held] at region
      exact .inr (.inr (.inl (region _ searchSlotStart_le)))
  · have region := mem_bagsRegion bag named unnamed notBag
    cases held : (itemAt args pos).isSome with
    | true =>
      rw [held] at region
      exact .inl ⟨fun one => single ⟨held, one⟩, .inr region.symm⟩
    | false =>
      rw [held] at region
      rcases region with plain | special
      · exact .inr (.inr (.inr plain))
      · exact .inr (.inl special)

/-! ## The answer -/

/-- A usable position that is searched and not covered up cannot be left. -/
theorem GivesUp.exhausted {outcome : CanStoreItemOutcome} {s : Placement} {pos : ItemPos}
    (h : GivesUp player args proto noSimilarCount dest total outcome s)
    (usable : BackpackSlot player pos ∨ BagSlot player args proto pos)
    (named : args.bag = nullBag) (unnamed : args.slot = nullSlot) :
    Exhausted args proto dest s.dest pos := by
  have notNamed : ¬IsSwapped args pos := by
    rintro ⟨_, rfl⟩
    rcases usable with backpack | bag
    · exact absurd (named.symm.trans backpack.1) (by decide)
    · exact absurd (named ▸ bag.1 : inventorySlotBagStart ≤ nullBag) (by decide)
  rcases mem_searched usable named unnamed h.notBag with searched | ⟨held, one⟩
  · obtain ⟨left, covered⟩ := h.covers pos searched
    rcases covered with covered | ⟨item, held, refused⟩
    · obtain ⟨position, mem, rfl⟩ := List.mem_map.mp covered
      refine .inl ⟨position, mem, rfl, (h.placed.usesUp left position mem).imp_right fun used => ?_⟩
      exact used.resolve_right notNamed
    · exact .inr ⟨item, held, .inr refused⟩
  · obtain ⟨item, held⟩ := Option.isSome_iff_exists.mp held
    exact .inr ⟨item, held, .inl one⟩

/-- Only a request that runs through all its passes answers that the inventory is full. -/
def NotFull : StoreExit → Placement → Prop
  | .outcome outcome, _ => outcome.result ≠ .invFull
  | .underflow, _ => True

theorem storePasses_full (count : ℕ) :
    Finishes (storePasses player args proto noSimilarCount) ⟨dest, count⟩
      (fun outcome s => ∃ total, GivesUp player args proto noSimilarCount dest total outcome s)
      NotFull := by
  have placed : Placed args proto dest _ ⟨dest, count⟩ :=
    ⟨List.prefix_rfl, rfl, id, fun _ => .inl, fun _ _ => .inl⟩
  refine (storePasses_finishes placed).mono (fun outcome s post => ⟨_, post⟩) ?_
  intro exit s answered
  cases exit with
  | underflow => trivial
  | outcome outcome => exact answered.2.1

theorem canStoreItemM_full :
    Finishes (canStoreItemM player args) ⟨dest, args.count⟩
      (fun outcome s => outcome.result = .invFull → ∃ proto noSimilarCount total,
        args.proto = some proto ∧ GivesUp player args proto noSimilarCount dest total outcome s)
      NotFull := by
  unfold canStoreItemM
  cases hproto : args.proto with
  | none =>
    refine Finishes.pure fun full => ?_
    simp only [canStoreItemError] at full
    split at full <;> cases full
  | some proto =>
    have passes (noSimilarCount count : ℕ) :
        Finishes (storePasses player args proto noSimilarCount) ⟨dest, count⟩
          (fun outcome s => outcome.result = .invFull → ∃ proto' noSimilarCount total,
            some proto = some proto' ∧
              GivesUp player args proto' noSimilarCount dest total outcome s) NotFull := by
      refine (storePasses_full count).mono (fun outcome s post _ => ?_) fun _ _ => id
      obtain ⟨total, givesUp⟩ := post
      exact ⟨proto, noSimilarCount, total, rfl, givesUp⟩
    dsimp only
    split
    · exact Finishes.pure fun full => by simp [canStoreItemError] at full
    split
    · exact Finishes.pure fun full => by simp [canStoreItemError] at full
    unfold storeWithinLimits
    dsimp only
    split
    · exact passes 0 args.count
    split
    · exact Finishes.pure fun full => absurd full similarItemsOutcome_ne_invFull
    have limited (x y : ℕ) :
        Finishes (checkedSub x y) ⟨dest, args.count⟩ (fun _ s => s = ⟨dest, args.count⟩)
          NotFull := by
      unfold checkedSub
      split
      · exact Finishes.pure rfl
      · exact Finishes.throw trivial
    refine Finishes.bind (limited _ _) ?_
    rintro count _ rfl
    exact Finishes.modify_bind (passes _ count)

end RustyCore.Player
