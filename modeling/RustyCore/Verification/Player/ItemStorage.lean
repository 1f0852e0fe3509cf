import RustyCore.Verification.Player.ItemPasses

/-! # Item storage conserves the stack

The statements of a request are put together from passes. Each of them keeps what is placed
and what is to be placed in balance, ends the request with the right count, and otherwise
leaves its region covered. -/

namespace RustyCore.Player

variable (args : CanStoreItemArgs) (proto : ItemStorageTemplate) (noSimilarCount : ℕ)

/-- The count that an answer reports is the one that was not placed. A non-empty bag that may
not go into a bag is refused without a count. -/
def Accounts (outcome : CanStoreItemOutcome) (count : ℕ) : Prop :=
  (outcome.noSpaceCount = some (count + noSimilarCount) ∧ outcome.result ≠ .ok) ∨
    (outcome = ⟨.ok, none⟩ ∧ count + noSimilarCount = 0) ∨ outcome = ⟨.bagInBag, none⟩

/-- A statement ends the request with an answer, never in a subtraction below zero. -/
def Answered (dest : List ItemPosCount) (total : ℕ) : StoreExit → Placement → Prop
  | .outcome outcome, s =>
    Placed args proto dest total s ∧ outcome.result ≠ .invFull ∧
      Accounts noSimilarCount outcome s.count
  | .underflow, _ => False

/-- What a statement leaves when the request goes on. -/
structure StatementPost (dest : List ItemPosCount) (total : ℕ) (region : Set ItemPos)
    (s s' : Placement) : Prop where
  placed : Placed args proto dest total s'
  grows : s.dest <+: s'.dest
  left : s.count ≠ 0 → s'.count ≠ 0
  covers : ∀ pos ∈ region, s'.count ≠ 0 ∧ Covered args proto s'.dest pos

def Fills (dest : List ItemPosCount) (total : ℕ) (statement : StoreM Unit)
    (region : Set ItemPos) : Prop :=
  ∀ s, Placed args proto dest total s →
    Finishes statement s (fun _ => StatementPost args proto dest total region s)
      (Answered args proto noSimilarCount dest total)

variable {args proto noSimilarCount} {dest : List ItemPosCount} {total : ℕ}
  {statement statement' : StoreM Unit} {pass : StoreM InventoryResult}
  {region region' : Set ItemPos}

/-! ## Statements put together -/

theorem StatementPost.trans {s s' s'' : Placement}
    (h : StatementPost args proto dest total region s s')
    (h' : StatementPost args proto dest total region' s' s'') :
    StatementPost args proto dest total (region ∪ region') s s'' where
  placed := h'.placed
  grows := h.grows.trans h'.grows
  left := h'.left ∘ h.left
  covers pos mem := mem.elim
    (fun mem => ⟨h'.left (h.covers pos mem).1, (h.covers pos mem).2.mono h'.grows⟩)
    (h'.covers pos)

theorem Fills.seq (h : Fills args proto noSimilarCount dest total statement region)
    (h' : Fills args proto noSimilarCount dest total statement' region') :
    Fills args proto noSimilarCount dest total (do statement; statement') (region ∪ region') := by
  intro s hs
  refine Finishes.bind (h s hs) fun _ s' post => ?_
  exact (h' s' post.placed).mono (fun _ s'' post' => post.trans post') fun _ _ => id

theorem Fills.mono (h : Fills args proto noSimilarCount dest total statement region)
    (sub : region' ⊆ region) : Fills args proto noSimilarCount dest total statement region' :=
  fun s hs => (h s hs).mono
    (fun _ _ post => { post with covers := fun pos mem => post.covers pos (sub mem) })
    fun _ _ => id

theorem Fills.nothing : Fills args proto noSimilarCount dest total (pure ()) ∅ :=
  fun _ hs => Finishes.pure ⟨hs, List.prefix_rfl, id, by simp⟩

theorem Fills.when {condition : Prop} [Decidable condition]
    (h : Fills args proto noSimilarCount dest total statement region) :
    Fills args proto noSimilarCount dest total (storeWhen condition statement)
      {pos | condition ∧ pos ∈ region} := by
  unfold storeWhen
  split
  case isTrue holds => exact h.mono fun pos mem => mem.2
  case isFalse fails => exact Fills.nothing.mono fun pos mem => absurd mem.1 fails

theorem Fills.forM {l : List ℕ} {body : ℕ → StoreM Unit} {regions : ℕ → Set ItemPos}
    (h : ∀ i ∈ l, Fills args proto noSimilarCount dest total (body i) (regions i)) :
    Fills args proto noSimilarCount dest total (l.forM body) {pos | ∃ i ∈ l, pos ∈ regions i} := by
  induction l with
  | nil => exact Fills.nothing.mono (by simp)
  | cons i l ih =>
    have first := h i (by simp)
    have rest := ih fun j mem => h j (List.mem_cons_of_mem i mem)
    refine (first.seq rest).mono ?_
    rintro pos ⟨j, mem, hpos⟩
    rcases List.mem_cons.mp mem with rfl | mem
    · exact .inl hpos
    · exact .inr ⟨j, mem, hpos⟩

theorem returnIfPlaced_finishes {s : Placement} (h : Placed args proto dest total s)
    {post : Unit → Placement → Prop} (goesOn : s.count ≠ 0 → post () s) :
    Finishes (returnIfPlaced noSimilarCount) s post
      (Answered args proto noSimilarCount dest total) := by
  refine Finishes.get_bind ?_
  unfold canStoreItemCountZero
  by_cases placed : s.count = 0
  · rw [if_pos placed]
    by_cases similar : noSimilarCount = 0
    · rw [if_pos similar]
      exact Finishes.throw ⟨h, by decide, .inr (.inl ⟨rfl, by omega⟩)⟩
    · rw [if_neg similar]
      exact Finishes.throw ⟨h, by simp [canStoreItemError], .inl ⟨rfl, by simp [canStoreItemError]⟩⟩
  · rw [if_neg placed]
    exact Finishes.pure (goesOn placed)

theorem Fills.orReturn (h : PassCovers args proto dest total pass region) :
    Fills args proto noSimilarCount dest total (storeOrReturn noSimilarCount pass) region := by
  intro s hs
  refine Finishes.bind ((h s hs).mono (fun _ _ => id) fun _ _ => False.elim) ?_
  intro result s' post
  split
  case isTrue refused =>
    refine Finishes.get_bind (Finishes.throw ⟨post.placed, post.notFull, .inl ⟨rfl, refused⟩⟩)
  case isFalse _ =>
    refine returnIfPlaced_finishes post.placed fun left => ?_
    exact ⟨post.placed, post.grows, fun _ => left, fun pos mem =>
      ⟨left, (post.covers pos mem).2 left⟩⟩

/-- A pass whose refusal is skipped: then its region is empty. -/
theorem Fills.orContinue (h : PassCovers args proto dest total pass region) :
    Fills args proto noSimilarCount dest total (storeOrContinue noSimilarCount pass) region := by
  intro s hs
  refine Finishes.bind ((h s hs).mono (fun _ _ => id) fun _ _ => False.elim) ?_
  intro result s' post
  split
  case isTrue refused =>
    obtain rfl := post.refused refused
    exact Finishes.pure ⟨hs, List.prefix_rfl, id, fun pos mem =>
      absurd (post.covers pos mem).1 refused⟩
  case isFalse _ =>
    refine returnIfPlaced_finishes post.placed fun left => ?_
    exact ⟨post.placed, post.grows, fun _ => left, fun pos mem =>
      ⟨left, (post.covers pos mem).2 left⟩⟩

/-! ## The statements of a request -/

variable {player : PlayerStorage}

/-- The slots of the equipped bags that a pass looks at. -/
def bagsRegion (player : PlayerStorage) (args : CanStoreItemArgs) (proto : ItemStorageTemplate)
    (merge nonSpecialized : Bool) : Set ItemPos :=
  {pos | ∃ bag ∈ slotRange inventorySlotBagStart inventorySlotBagEnd,
    pos ∈ bagRegion player args proto bag merge nonSpecialized args.bag}

theorem storeInInventory_fills (slotBegin slotEnd : ℕ) (merge : Bool) :
    Fills args proto noSimilarCount dest total
      (storeInInventory args proto noSimilarCount slotBegin slotEnd merge)
      (inventoryRegion args slotBegin slotEnd merge) :=
  .orReturn (canStoreItemInInventorySlots_covers slotBegin slotEnd merge)

theorem storeInBags_fills (merge nonSpecialized : Bool) :
    Fills args proto noSimilarCount dest total
      (storeInBags player args proto noSimilarCount merge nonSpecialized)
      (bagsRegion player args proto merge nonSpecialized) :=
  .forM fun bag _ => .orContinue (canStoreItemInBag_covers bag merge nonSpecialized args.bag)

theorem storeInNamedSlot_fills :
    Fills args proto noSimilarCount dest total
      (storeInNamedSlot player args proto noSimilarCount) ∅ :=
  (Fills.when (.orReturn canStoreItemInSpecificSlot_covers)).mono (Set.empty_subset _)

theorem storeInNamedBag_fills (merge : Bool) :
    Fills args proto noSimilarCount dest total
      (storeOrReturn noSimilarCount
        (storeOrElse (storeInNamedBag player args proto merge false)
          (storeInNamedBag player args proto merge true))) ∅ :=
  .orReturn (PassCovers.orElse (canStoreItemInBag_covers args.bag merge false nullBag)
    (canStoreItemInBag_covers args.bag merge true nullBag))

theorem mergeInNamedBag_fills :
    Fills args proto noSimilarCount dest total
      (mergeInNamedBag player args proto noSimilarCount) ∅ := by
  refine Fills.mono (Fills.when (?_ : Fills _ _ _ _ _ _ ∅)) (Set.empty_subset _)
  split
  · exact ((storeInInventory_fills _ _ true).seq (storeInInventory_fills _ _ true)).mono
      (Set.empty_subset _)
  · exact storeInNamedBag_fills true

theorem fillNamedBag_fills :
    Fills args proto noSimilarCount dest total
      (fillNamedBag player args proto noSimilarCount) ∅ := by
  refine Fills.mono (Fills.when (?_ : Fills _ _ _ _ _ _ ∅)) (Set.empty_subset _)
  split
  · exact Fills.mono (Fills.seq (Fills.when (storeInInventory_fills _ _ false))
      (Fills.seq (Fills.when (storeInInventory_fills _ _ false))
        (storeInInventory_fills _ _ false))) (Set.empty_subset _)
  · exact storeInNamedBag_fills false

theorem mergeAnywhere_fills :
    Fills args proto noSimilarCount dest total (mergeAnywhere player args proto noSimilarCount)
      {pos | proto.maxStackSize ≠ 1 ∧
        (pos ∈ inventoryRegion args inventorySlotItemStart (inventoryEnd player) true ∨
          (proto.bagFamily ≠ 0 ∧ pos ∈ bagsRegion player args proto true false) ∨
          pos ∈ bagsRegion player args proto true true)} := by
  refine Fills.mono (Fills.when (Fills.seq (storeInInventory_fills _ _ true)
    (Fills.seq (storeInInventory_fills _ _ true)
      (Fills.seq (Fills.when (storeInBags_fills true false)) (storeInBags_fills true true))))) ?_
  rintro pos ⟨stackable, covered⟩
  exact ⟨stackable, .inr covered⟩

theorem fillSpecialBags_fills :
    Fills args proto noSimilarCount dest total (fillSpecialBags player args proto noSimilarCount)
      {pos | proto.bagFamily ≠ 0 ∧ pos ∈ bagsRegion player args proto false false} := by
  refine Fills.mono (Fills.when (Fills.seq (Fills.when (storeInInventory_fills _ _ false))
    (storeInBags_fills false false))) ?_
  rintro pos ⟨family, covered⟩
  exact ⟨family, .inr covered⟩

theorem fillAnywhere_fills :
    Fills args proto noSimilarCount dest total (fillAnywhere player args proto noSimilarCount)
      {pos | pos ∈ inventoryRegion args (searchSlotStart args proto) (inventoryEnd player) false ∨
        pos ∈ bagsRegion player args proto false true} := by
  refine Fills.mono (Fills.seq (Fills.when (storeInInventory_fills _ _ false))
    ((storeInInventory_fills _ _ false).seq (storeInBags_fills false true))) ?_
  exact fun pos covered => .inr covered

/-- The positions that a request without a named position has looked at when it gives up. -/
def searched (player : PlayerStorage) (args : CanStoreItemArgs) (proto : ItemStorageTemplate) :
    Set ItemPos :=
  {pos | (proto.maxStackSize ≠ 1 ∧
      (pos ∈ inventoryRegion args inventorySlotItemStart (inventoryEnd player) true ∨
        (proto.bagFamily ≠ 0 ∧ pos ∈ bagsRegion player args proto true false) ∨
        pos ∈ bagsRegion player args proto true true)) ∨
    (proto.bagFamily ≠ 0 ∧ pos ∈ bagsRegion player args proto false false) ∨
    pos ∈ inventoryRegion args (searchSlotStart args proto) (inventoryEnd player) false ∨
    pos ∈ bagsRegion player args proto false true}

/-- The answer of a request that runs through all its passes. -/
structure GivesUp (player : PlayerStorage) (args : CanStoreItemArgs) (proto : ItemStorageTemplate)
    (noSimilarCount : ℕ) (dest : List ItemPosCount) (total : ℕ) (outcome : CanStoreItemOutcome)
    (s : Placement) : Prop where
  placed : Placed args proto dest total s
  accounts : Accounts noSimilarCount outcome s.count
  notBag : args.sourceIsNotEmptyBag = false
  covers : ∀ pos ∈ searched player args proto, s.count ≠ 0 ∧ Covered args proto s.dest pos

theorem storePasses_finishes {s : Placement} (h : Placed args proto dest total s) :
    Finishes (storePasses player args proto noSimilarCount) s
      (GivesUp player args proto noSimilarCount dest total)
      (Answered args proto noSimilarCount dest total) := by
  unfold storePasses
  refine Finishes.bind (storeInNamedSlot_fills s h) fun _ s₁ post₁ => ?_
  refine Finishes.bind (mergeInNamedBag_fills s₁ post₁.placed) fun _ s₂ post₂ => ?_
  refine Finishes.bind (fillNamedBag_fills s₂ post₂.placed) fun _ s₃ post₃ => ?_
  refine Finishes.bind (mergeAnywhere_fills s₃ post₃.placed) fun _ s₄ post₄ => ?_
  refine Finishes.bind (fillSpecialBags_fills s₄ post₄.placed) fun _ s₅ post₅ => ?_
  unfold storeWhen
  split
  case isTrue _ => exact Finishes.throw ⟨post₅.placed, by decide, .inr (.inr rfl)⟩
  case isFalse notBag =>
    rw [pure_bind]
    refine Finishes.bind (fillAnywhere_fills s₅ post₅.placed) fun _ s₆ post₆ => ?_
    refine Finishes.get_bind (Finishes.pure ⟨post₆.placed, .inl ⟨rfl, by simp [canStoreItemError]⟩,
      by simpa using notBag, ?_⟩)
    have post := post₄.trans (post₅.trans post₆)
    exact post.covers

/-! ## Item limits -/

/-- The player does not hold more of the item, or of its limit category, than allowed. -/
structure WithinLimits (args : CanStoreItemArgs) (proto : ItemStorageTemplate) : Prop where
  maxCount : 0 < proto.maxCount →
    itemCountByEntry proto.entry true args.sourceItem args.storedItems ≤ proto.maxCount.toNat
  limitCategory : ∀ limitCategory, args.limitCategory = some limitCategory →
    limitCategory.flags = itemLimitCategoryModeHave →
      itemCountWithLimitCategory proto.itemLimitCategory args.sourceItem args.storedItems ≤
        limitCategory.quantity

theorem saturatingAdd_sub_le {held count limit : ℕ} (le : held ≤ limit) :
    saturatingAdd 32 held count - limit ≤ count := by
  unfold saturatingAdd
  omega

/-- Within the limits, the part of the count that is over them is a part of it. -/
theorem similarItemsOutcome_le (hproto : args.proto = some proto)
    (within : WithinLimits args proto) :
    (similarItemsOutcome args proto).noSpaceCount.getD 0 ≤ args.count := by
  unfold similarItemsOutcome canTakeMoreSimilarItems
  rw [hproto]
  dsimp only
  split
  · exact Nat.zero_le _
  split
  · exact Nat.zero_le _
  split
  case isTrue exceeds => exact saturatingAdd_sub_le (within.maxCount exceeds.1)
  split
  · split
    case h_1 => exact le_rfl
    case h_2 limitCategory hlimit =>
      split
      case isTrue exceeds => exact saturatingAdd_sub_le (within.limitCategory _ hlimit exceeds.1)
      case isFalse _ => exact Nat.zero_le _
  · exact Nat.zero_le _

theorem similarItemsOutcome_ne_invFull : (similarItemsOutcome args proto).result ≠ .invFull := by
  unfold similarItemsOutcome canTakeMoreSimilarItems
  repeat' split
  all_goals simp [canTakeMoreSimilarOk]

/-! ## Conservation -/

/-- The destinations are distinct positions with enough space, and together with the count
that is reported as without space they make up the requested count. -/
structure Conserves (args : CanStoreItemArgs) (outcome : CanStoreItemOutcome)
    (dest : List ItemPosCount) : Prop where
  distinct : (dest.map ItemPosCount.pos).Nodup
  fits : ∀ position ∈ dest, ∃ proto, args.proto = some proto ∧ Fits args proto position
  le : (dest.map ItemPosCount.count).sum ≤ args.count
  conserves : outcome ≠ ⟨.bagInBag, none⟩ →
    (dest.map ItemPosCount.count).sum + outcome.noSpaceCount.getD 0 = args.count
  ok : outcome.result = .ok → (dest.map ItemPosCount.count).sum = args.count

theorem conserves_nil {result : InventoryResult} (refused : result ≠ .ok) :
    Conserves args (canStoreItemError result args.count 0) [] where
  distinct := List.nodup_nil
  fits := by simp
  le := by simp
  conserves _ := by simp [canStoreItemError]
  ok accepted := absurd accepted refused

theorem Placed.conserves_of_accounts {s : Placement} {outcome : CanStoreItemOutcome}
    (h : Placed args proto [] total s) (hproto : args.proto = some proto)
    (accounts : Accounts noSimilarCount outcome s.count)
    (limited : total + noSimilarCount = args.count) : Conserves args outcome s.dest := by
  have sum := h.conserves
  refine ⟨h.distinct List.nodup_nil, fun position mem => ?_, by omega, fun other => ?_, ?_⟩
  · exact ⟨proto, hproto, (h.fits position mem).resolve_left (by simp)⟩
  · rcases accounts with ⟨reported, _⟩ | ⟨rfl, none⟩ | rfl
    · rw [reported, Option.getD_some]
      omega
    · simp only [Option.getD_none]
      omega
    · exact absurd rfl other
  · intro accepted
    rcases accounts with ⟨_, refused⟩ | ⟨_, none⟩ | rfl
    · exact absurd accepted refused
    · omega
    · exact absurd accepted (by decide)

theorem placed_nil (count : ℕ) : Placed args proto [] count ⟨[], count⟩ :=
  ⟨List.prefix_rfl, by simp, id, by simp, by simp⟩

/-- How an answer is given: by a return in the middle or at the end. -/
def ConservesExit (args : CanStoreItemArgs) : StoreExit → Placement → Prop
  | .outcome outcome, s => Conserves args outcome s.dest
  | .underflow, _ => False

theorem storePasses_conserves (hproto : args.proto = some proto)
    (limited : total + noSimilarCount = args.count) :
    Finishes (storePasses player args proto noSimilarCount) ⟨[], total⟩
      (fun outcome s => Conserves args outcome s.dest) (ConservesExit args) := by
  refine (storePasses_finishes (placed_nil total)).mono (fun outcome s post => ?_) ?_
  · exact post.placed.conserves_of_accounts hproto post.accounts limited
  · intro exit s answered
    cases exit with
    | underflow => exact answered
    | outcome outcome =>
      exact answered.1.conserves_of_accounts hproto answered.2.2 limited

theorem canStoreItemM_conserves
    (within : ∀ proto, args.proto = some proto → WithinLimits args proto) :
    Finishes (canStoreItemM player args) ⟨[], args.count⟩
      (fun outcome s => Conserves args outcome s.dest) (ConservesExit args) := by
  unfold canStoreItemM
  cases hproto : args.proto with
  | none =>
    refine Finishes.pure (conserves_nil ?_)
    split <;> decide
  | some proto =>
    dsimp only
    split
    · exact Finishes.pure (conserves_nil (by decide))
    split
    · exact Finishes.pure (conserves_nil (by decide))
    have le := similarItemsOutcome_le hproto (within proto hproto)
    unfold storeWithinLimits
    dsimp only
    split
    case isTrue _ => exact storePasses_conserves hproto rfl
    case isFalse limited =>
      split
      case isTrue whole =>
        rw [← whole]
        exact Finishes.pure (conserves_nil limited)
      case isFalse _ =>
        refine checkedSub_bind le (Finishes.modify_bind ?_)
        exact storePasses_conserves hproto (Nat.sub_add_cancel le)

/-- A request within the item limits never subtracts below zero, and conserves the stack. -/
theorem canStoreItem_conserves (player : PlayerStorage) (args : CanStoreItemArgs)
    (within : ∀ proto, args.proto = some proto → WithinLimits args proto) :
    ∃ outcome dest, canStoreItem player [] args = some (outcome, dest) ∧
      Conserves args outcome dest := by
  have conserves : Finishes (canStoreItemM player args) ⟨[], args.count⟩ _ _ :=
    canStoreItemM_conserves within
  unfold Finishes at conserves
  unfold canStoreItem
  split at conserves
  case h_1 outcome s hrun =>
    rw [hrun]
    exact ⟨outcome, s.dest, rfl, conserves⟩
  case h_2 exit s hrun =>
    rw [hrun]
    cases exit with
    | underflow => exact absurd conserves id
    | outcome outcome => exact ⟨outcome, s.dest, rfl, conserves⟩

/-! ## Requests of a player with a pouch -/

/-- A plain item that stacks up to twenty. -/
def clothTemplate : ItemStorageTemplate where
  entry := 2589
  classId := .tradeGoods
  subclassId := 5
  bonding := .none
  bagFamily := 0
  maxStackSize := 20
  maxCount := 0
  itemLimitCategory := 0
  containerSlots := 0
  isCraftingReagent := false
  flags := 0

/-- A plain bag of four slots. -/
def pouchTemplate : ItemStorageTemplate where
  entry := 4496
  classId := .container
  subclassId := plainContainer
  bonding := .none
  bagFamily := 0
  maxStackSize := 1
  maxCount := 0
  itemLimitCategory := 0
  containerSlots := 4
  isCraftingReagent := false
  flags := 0

/-- A stack of cloth. -/
def cloth (counter count : ℕ) : Item where
  guid := ⟨0, .ofNat 64 counter⟩
  entry := 2589
  count := count
  ownerGuid := .empty
  dynamicFlags := 0
  lootGenerated := false
  inTrade := false

/-- A player without a backpack, who has one pouch. -/
def pouchPlayer : PlayerStorage where
  guid := .empty
  bags bag := if bag = inventorySlotBagStart then some ⟨⟨0, 1⟩, 4, by decide⟩ else none
  numBackpackSlots := 0

def pouchArgs (count : ℕ) (sourceItem : Option Item) (slotItems : List ItemSlotRef) :
    CanStoreItemArgs where
  bag := nullBag
  slot := nullSlot
  count := count
  proto := some clothTemplate
  sourceItem := sourceItem
  sourceIsNotEmptyBag := false
  sourceBopTradeAllowedForPlayer := false
  swap := false
  limitCategory := none
  slotItems := slotItems
  storedItems := []
  bagTemplates := [⟨inventorySlotBagStart, pouchTemplate⟩]

/-- Twenty-five pieces go on a stack of three and into a free slot. -/
theorem canStoreItem_conserves_pouch :
    let args := pouchArgs 25 none [⟨inventorySlotBagStart, 2, cloth 1 3⟩]
    canStoreItem pouchPlayer [] args = some (⟨.ok, none⟩,
        [⟨⟨inventorySlotBagStart, 2⟩, 17⟩, ⟨⟨inventorySlotBagStart, 0⟩, 8⟩]) ∧
      ∃ outcome dest, canStoreItem pouchPlayer [] args = some (outcome, dest) ∧
        Conserves args outcome dest := by
  refine ⟨by decide, canStoreItem_conserves pouchPlayer _ fun proto hproto => ?_⟩
  obtain rfl := Option.some.inj hproto
  exact ⟨fun limited => absurd limited (by decide), fun _ limited => by cases limited⟩

/-- A bag with something in it is refused without a count; and a player who holds ten of an item
of which five are allowed ends in a subtraction below zero. -/
theorem canStoreItem_not_conserves :
    let bag : Item := { cloth 1 1 with entry := 4496 }
    let bagArgs := { pouchArgs 1 (some bag) [] with
      proto := some pouchTemplate
      sourceIsNotEmptyBag := true }
    let uniqueArgs := { pouchArgs 1 none [] with
      proto := some { clothTemplate with maxCount := 5 }
      storedItems := [⟨inventorySlotBag0, inventorySlotItemStart, cloth 1 10, none⟩] }
    (∃ outcome dest, canStoreItem pouchPlayer [] bagArgs = some (outcome, dest) ∧
      (dest.map ItemPosCount.count).sum + outcome.noSpaceCount.getD 0 ≠ bagArgs.count) ∧
      canStoreItem pouchPlayer [] uniqueArgs = none :=
  ⟨⟨⟨.bagInBag, none⟩, [], by decide, by decide⟩, by decide⟩

end RustyCore.Player
