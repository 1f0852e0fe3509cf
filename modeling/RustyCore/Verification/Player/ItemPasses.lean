import RustyCore.Library.Fallible
import RustyCore.Model.Player.ItemStorage

/-! # What a storage pass keeps

Every pass conserves the stack: what it places it takes off the count. A pass that leaves
something to place has covered the slots it looked at. -/

namespace RustyCore.Player

variable (args : CanStoreItemArgs) (proto : ItemStorageTemplate)
variable {exit : StoreExit → Placement → Prop} {pos : ItemPos} {bag : ℕ}

/-- The item in a position that is not the moved one. -/
def itemAt (pos : ItemPos) : Option Item :=
  existingItem args.sourceItem (itemRefByPos args.slotItems pos.bag pos.slot)

/-- The size of the stack in a position. -/
def stackCount (pos : ItemPos) : ℕ := ((itemAt args pos).map Item.count).getD 0

/-- The named position, when its item is to be swapped. -/
def IsSwapped (pos : ItemPos) : Prop := args.swap = true ∧ pos = makeItemPos args.bag args.slot

/-- A destination fits on the stack in its position. -/
def Fits (position : ItemPosCount) : Prop :=
  position.count ≤ proto.maxStackSize ∧
    (position.count + stackCount args position.pos ≤ proto.maxStackSize ∨
      IsSwapped args position.pos)

def UsesUp (position : ItemPosCount) : Prop :=
  position.count + stackCount args position.pos = proto.maxStackSize ∨ IsSwapped args position.pos

/-- A state of a request: the placed counts and the one to place make up the total, and while
there is something to place the new destinations are used up. -/
structure Placed (dest : List ItemPosCount) (total : ℕ) (s : Placement) : Prop where
  keeps : dest <+: s.dest
  conserves : (s.dest.map ItemPosCount.count).sum + s.count = total
  distinct : (dest.map ItemPosCount.pos).Nodup → (s.dest.map ItemPosCount.pos).Nodup
  fits : ∀ position ∈ s.dest, position ∈ dest ∨ Fits args proto position
  usesUp : s.count ≠ 0 → ∀ position ∈ s.dest, position ∈ dest ∨ UsesUp args proto position

/-- A position is a destination, or its stack takes nothing. -/
def Covered (dest : List ItemPosCount) (pos : ItemPos) : Prop :=
  pos ∈ dest.map ItemPosCount.pos ∨
    ∃ item, itemAt args pos = some item ∧
      item.canBeMergedPartlyWith proto.entry proto.maxStackSize ≠ .ok

/-- What a pass leaves: when it accepts and something is left to place, the positions of its
region are covered, and when it refuses nothing has changed. -/
structure PassPost (dest : List ItemPosCount) (total : ℕ) (region : Set ItemPos) (s : Placement)
    (result : InventoryResult) (s' : Placement) : Prop where
  placed : Placed args proto dest total s'
  grows : s.dest <+: s'.dest
  notFull : result ≠ .invFull
  refused : result ≠ .ok → s' = s
  covers : ∀ pos ∈ region, result = .ok ∧ (s'.count ≠ 0 → Covered args proto s'.dest pos)

/-- A pass never fails. -/
def PassCovers (dest : List ItemPosCount) (total : ℕ) (pass : StoreM InventoryResult)
    (region : Set ItemPos) : Prop :=
  ∀ s, Placed args proto dest total s →
    Finishes pass s (PassPost args proto dest total region s) fun _ _ => False

variable {args proto} {dest : List ItemPosCount} {total : ℕ} {s : Placement}

theorem Covered.mono {dest dest' : List ItemPosCount} (h : Covered args proto dest pos)
    (grows : dest <+: dest') : Covered args proto dest' pos :=
  h.imp_left fun mem => List.map_subset _ grows.subset mem

/-! ## One destination -/

theorem checkedSub_bind {α : Type} {x y : ℕ} (le : y ≤ x) {f : ℕ → StoreM α}
    {post : α → Placement → Prop} (h : Finishes (f (x - y)) s post exit) :
    Finishes (checkedSub x y >>= f) s post exit := by
  rw [checkedSub, if_pos le, pure_bind]
  exact h

theorem isContainedIn_iff {position : ItemPosCount} {positions : List ItemPosCount} :
    position.isContainedIn positions = true ↔ position.pos ∈ positions.map ItemPosCount.pos := by
  simp [ItemPosCount.isContainedIn, List.any_eq_true, List.mem_map]

/-- A new destination of a size that fits takes its count off what is to be placed. -/
theorem Placed.push (h : Placed args proto dest total s) {needSpace : ℕ}
    (fits : Fits args proto ⟨pos, needSpace⟩) (usesUp : UsesUp args proto ⟨pos, needSpace⟩)
    (fresh : pos ∉ s.dest.map ItemPosCount.pos) :
    Placed args proto dest total
      ⟨s.dest ++ [⟨pos, min needSpace s.count⟩], s.count - min needSpace s.count⟩ where
  keeps := h.keeps.trans (List.prefix_append _ _)
  conserves := by
    have total := h.conserves
    simp only [List.map_append, List.map_cons, List.map_nil, List.sum_append, List.sum_singleton]
    omega
  distinct nodup := by
    rw [List.map_append, List.nodup_append']
    exact ⟨h.distinct nodup, by simp, by simpa using fresh⟩
  fits position mem := by
    rcases List.mem_append.mp mem with mem | mem
    · exact h.fits position mem
    · obtain rfl := List.mem_singleton.mp mem
      refine .inr ⟨(Nat.min_le_left _ _).trans fits.1, fits.2.imp_left fun le => ?_⟩
      exact (Nat.add_le_add_right (Nat.min_le_left _ _) _).trans le
  usesUp left position mem := by
    rcases List.mem_append.mp mem with mem | mem
    · exact h.usesUp (by dsimp only at left; omega) position mem
    · obtain rfl := List.mem_singleton.mp mem
      have whole : min needSpace s.count = needSpace := by
        dsimp only at left
        omega
      rw [whole]
      exact .inr usesUp

theorem pushPosition_finishes (h : Placed args proto dest total s) {needSpace : ℕ}
    (fits : Fits args proto ⟨pos, needSpace⟩) (usesUp : UsesUp args proto ⟨pos, needSpace⟩) :
    Finishes (pushPosition pos needSpace) s
      (fun _ s' => Placed args proto dest total s' ∧ s.dest <+: s'.dest ∧
        pos ∈ s'.dest.map ItemPosCount.pos) exit := by
  refine Finishes.get_bind ?_
  dsimp only
  split
  case isTrue contained =>
    exact Finishes.pure ⟨h, List.prefix_rfl, isContainedIn_iff.mp contained⟩
  case isFalse fresh =>
    rw [isContainedIn_iff] at fresh
    refine checkedSub_bind (Nat.min_le_right _ _) (Finishes.set_bind (Finishes.pure ?_))
    exact ⟨h.push fits usesUp fresh, List.prefix_append _ _, by simp⟩

theorem count_lt_of_mergeable {item : Item} {entry maxStackSize : ℕ}
    (mergeable : item.canBeMergedPartlyWith entry maxStackSize = .ok) :
    item.count < maxStackSize := by
  unfold Item.canBeMergedPartlyWith at mergeable
  split_ifs at mergeable
  omega

/-! ## The slots of a bag -/

theorem needSpaceFor_finishes (pos : ItemPos) :
    Finishes (needSpaceFor proto (itemAt args pos)) s
      (fun needSpace s' => s' = s ∧ match needSpace with
        | none => ∀ dest, Covered args proto dest pos
        | some needSpace => needSpace + stackCount args pos = proto.maxStackSize) exit := by
  cases found : itemAt args pos with
  | none => exact Finishes.pure ⟨rfl, by simp [stackCount, found]⟩
  | some item =>
    rw [needSpaceFor]
    split
    case isTrue refused =>
      exact Finishes.pure ⟨rfl, fun dest => .inr ⟨item, found, refused⟩⟩
    case isFalse mergeable =>
      have lt := count_lt_of_mergeable (Decidable.not_not.mp mergeable)
      rw [map_eq_pure_bind]
      refine checkedSub_bind lt.le (Finishes.pure ⟨rfl, ?_⟩)
      simp only [stackCount, found, Option.map_some, Option.getD_some]
      omega

/-- The slots that a pass looks at are covered. -/
def SlotsCovered (args : CanStoreItemArgs) (proto : ItemStorageTemplate) (bag : ℕ) (merge : Bool)
    (skip : ℕ → Bool) (slots : List ℕ) (dest : List ItemPosCount) : Prop :=
  ∀ slot ∈ slots, skip slot = false → (itemAt args (makeItemPos bag slot)).isSome = merge →
    Covered args proto dest (makeItemPos bag slot)

theorem storeInSlots_finishes (bag : ℕ) (merge : Bool) (skip : ℕ → Bool) (slots : List ℕ)
    (h : Placed args proto dest total s) :
    Finishes (storeInSlots proto args.sourceItem bag merge skip args.slotItems slots) s
      (fun result s' => result = .ok ∧ Placed args proto dest total s' ∧ s.dest <+: s'.dest ∧
        (s'.count ≠ 0 → SlotsCovered args proto bag merge skip slots s'.dest)) exit := by
  induction slots generalizing s with
  | nil => exact Finishes.pure ⟨rfl, h, List.prefix_rfl, by simp [SlotsCovered]⟩
  | cons slot slots ih =>
    -- the rest of the loop, once the first slot is settled
    have rest {s' : Placement} (h' : Placed args proto dest total s') (grows : s.dest <+: s'.dest)
        (settled : skip slot = false → (itemAt args (makeItemPos bag slot)).isSome = merge →
          Covered args proto s'.dest (makeItemPos bag slot)) :
        Finishes (storeInSlots proto args.sourceItem bag merge skip args.slotItems slots) s'
          (fun result s'' => result = .ok ∧ Placed args proto dest total s'' ∧
            s.dest <+: s''.dest ∧ (s''.count ≠ 0 →
              SlotsCovered args proto bag merge skip (slot :: slots) s''.dest)) exit := by
      refine (ih h').mono (fun result s'' post => ?_) fun _ _ => id
      obtain ⟨ok, placed, grows', covered⟩ := post
      refine ⟨ok, placed, grows.trans grows', fun left other hother unskipped same => ?_⟩
      rcases List.mem_cons.mp hother with rfl | hother
      · exact (settled unskipped same).mono grows'
      · exact covered left other hother unskipped same
    rw [storeInSlots]
    split
    case isTrue skipped => exact rest h List.prefix_rfl fun unskipped => by simp_all
    case isFalse unskipped =>
      dsimp only
      split
      case isTrue other => exact rest h List.prefix_rfl fun _ same => absurd same other
      case isFalse same =>
        refine Finishes.bind (needSpaceFor_finishes (makeItemPos bag slot)) ?_
        rintro needSpace s' ⟨rfl, space⟩
        cases needSpace with
        | none => exact rest h List.prefix_rfl fun _ _ => space s'.dest
        | some needSpace =>
          have fits : Fits args proto ⟨makeItemPos bag slot, needSpace⟩ :=
            ⟨by dsimp only at space ⊢; omega, .inl space.le⟩
          refine Finishes.bind (pushPosition_finishes h fits (.inl space)) ?_
          rintro pushed s'' ⟨placed, grows, mem⟩
          refine Finishes.get_bind ?_
          split
          case isTrue done => exact Finishes.pure ⟨rfl, placed, grows, (absurd done.2 ·)⟩
          case isFalse _ => exact rest placed grows fun _ _ => .inl mem

/-! ## Passes -/

/-- The top-level slots that a pass looks at. -/
def inventoryRegion (args : CanStoreItemArgs) (slotBegin slotEnd : ℕ) (merge : Bool) :
    Set ItemPos :=
  {pos | (args.sourceItem.isSome && args.sourceIsNotEmptyBag) = false ∧
    pos.bag = inventorySlotBag0 ∧ slotBegin ≤ pos.slot ∧ pos.slot < slotEnd ∧
    ¬(args.bag = inventorySlotBag0 ∧ pos.slot = args.slot) ∧ pos.slot ≠ reagentBagSlotStart ∧
    (itemAt args pos).isSome = merge}

theorem canStoreItemInInventorySlots_covers (slotBegin slotEnd : ℕ) (merge : Bool) :
    PassCovers args proto dest total
      (canStoreItemInInventorySlots proto args.sourceItem args.sourceIsNotEmptyBag slotBegin
        slotEnd merge args.bag args.slot args.slotItems)
      (inventoryRegion args slotBegin slotEnd merge) := by
  intro s h
  unfold canStoreItemInInventorySlots
  split
  case isTrue refused =>
    exact Finishes.pure ⟨h, List.prefix_rfl, by decide, fun _ => rfl,
      fun pos mem => absurd refused (by simp [mem.1])⟩
  case isFalse _ =>
    refine (storeInSlots_finishes _ merge _ _ h).mono (fun result s' post => ?_) fun _ _ => id
    obtain ⟨rfl, placed, grows, covered⟩ := post
    refine ⟨placed, grows, by decide, fun other => absurd rfl other, ?_⟩
    rintro ⟨bag, slot⟩ ⟨_, top, above, below, unnamed, notReagent, same⟩
    obtain rfl : bag = inventorySlotBag0 := top
    refine ⟨rfl, fun left => covered left slot (mem_slotRange.mpr ⟨above, below⟩) ?_ same⟩
    simpa [notReagent] using unnamed

/-- The slots of a bag that passes its checks. -/
def bagRegion (player : PlayerStorage) (args : CanStoreItemArgs) (proto : ItemStorageTemplate)
    (bag : ℕ) (merge nonSpecialized : Bool) (skipBag : ℕ) : Set ItemPos :=
  {pos | pos.bag = bag ∧ pos.slot ≠ args.slot ∧ (itemAt args pos).isSome = merge ∧
    ∃ storage, bagCheck player proto args.sourceItem args.sourceIsNotEmptyBag bag nonSpecialized
      skipBag (bagTemplateByPos args.bagTemplates bag) = .ok storage ∧
        pos.slot < storage.bagSize}

variable {player : PlayerStorage}

theorem bagCheck_ne_invFull {nonSpecialized : Bool} {skipBag : ℕ}
    {bagProto : Option ItemStorageTemplate} {result : InventoryResult}
    (refused : bagCheck player proto args.sourceItem args.sourceIsNotEmptyBag bag nonSpecialized
      skipBag bagProto = .error result) :
    result ≠ .invFull ∧ result ≠ .ok := by
  unfold bagCheck at refused
  dsimp only at refused
  repeat' split at refused
  all_goals cases refused
  all_goals decide

theorem canStoreItemInBag_covers (bag : ℕ) (merge nonSpecialized : Bool) (skipBag : ℕ) :
    PassCovers args proto dest total
      (canStoreItemInBag player proto args.sourceItem args.sourceIsNotEmptyBag bag merge
        nonSpecialized skipBag args.slot (bagTemplateByPos args.bagTemplates bag) args.slotItems)
      (bagRegion player args proto bag merge nonSpecialized skipBag) := by
  intro s h
  unfold canStoreItemInBag
  split
  case h_1 result refused =>
    refine Finishes.pure ⟨h, List.prefix_rfl, (bagCheck_ne_invFull refused).1, fun _ => rfl, ?_⟩
    rintro pos ⟨rfl, _, _, storage, accepted, _⟩
    exact absurd (refused.symm.trans accepted) (by simp)
  case h_2 storage accepted =>
    refine (storeInSlots_finishes bag merge _ _ h).mono (fun result s' post => ?_) fun _ _ => id
    obtain ⟨rfl, placed, grows, covered⟩ := post
    refine ⟨placed, grows, by decide, fun other => absurd rfl other, fun pos mem => ⟨rfl, ?_⟩⟩
    obtain ⟨rfl, unnamed, same, storage', accepted', inside⟩ := mem
    obtain rfl := Except.ok.inj (accepted.symm.trans accepted')
    intro left
    exact covered left pos.slot (mem_slotRange.mpr ⟨Nat.zero_le _, inside⟩) (by simpa using unnamed)
      same

theorem specificSlotSourceCheck_ne_invFull {sourceItem : Option Item} {sourceIsNotEmptyBag : Bool}
    {slot : ℕ} : specificSlotSourceCheck sourceItem sourceIsNotEmptyBag bag slot ≠ .invFull := by
  unfold specificSlotSourceCheck
  repeat' split
  all_goals decide

theorem specificSlotCheck_ne_invFull {slot : ℕ} {bagProto : Option ItemStorageTemplate} :
    specificSlotCheck player proto bag slot bagProto ≠ .invFull := by
  unfold specificSlotCheck
  repeat' split
  all_goals decide

theorem canBeMergedPartlyWith_ne_invFull {item : Item} {entry maxStackSize : ℕ} :
    item.canBeMergedPartlyWith entry maxStackSize ≠ .invFull := by
  unfold Item.canBeMergedPartlyWith
  repeat' split
  all_goals decide

theorem canStoreItemInSpecificSlot_covers :
    PassCovers args proto dest total
      (canStoreItemInSpecificSlot player proto args.sourceItem args.sourceIsNotEmptyBag args.bag
        args.slot args.swap (itemRefByPos args.slotItems args.bag args.slot)
        (bagTemplateByPos args.bagTemplates args.bag)) ∅ := by
  intro s h
  have refuse {result : InventoryResult} (notFull : result ≠ .invFull) :
      Finishes (pure result : StoreM InventoryResult) s
        (PassPost args proto dest total ∅ s) fun _ _ => False :=
    Finishes.pure ⟨h, List.prefix_rfl, notFull, fun _ => rfl, by simp⟩
  have push {needSpace : ℕ} (le : needSpace ≤ proto.maxStackSize)
      (usesUp : UsesUp args proto ⟨makeItemPos args.bag args.slot, needSpace⟩) :
      Finishes (do
          let _ ← pushPosition (makeItemPos args.bag args.slot) needSpace
          pure .ok : StoreM InventoryResult) s
        (PassPost args proto dest total ∅ s) fun _ _ => False := by
    refine Finishes.bind (pushPosition_finishes h ⟨le, usesUp.imp_left Eq.le⟩ usesUp) ?_
    rintro pushed s' ⟨placed, grows, _⟩
    exact Finishes.pure ⟨placed, grows, by decide, fun other => absurd rfl other, by simp⟩
  unfold canStoreItemInSpecificSlot
  dsimp only
  split
  case isTrue _ => exact refuse specificSlotSourceCheck_ne_invFull
  case isFalse _ =>
    split
    case h_1 existing held notSwapped =>
      split
      case isTrue _ => exact refuse canBeMergedPartlyWith_ne_invFull
      case isFalse mergeable =>
        have lt := count_lt_of_mergeable (Decidable.not_not.mp mergeable)
        have stack : stackCount args (makeItemPos args.bag args.slot) = existing.count :=
          congrArg (fun item => (Option.map Item.count item).getD 0) held
        refine checkedSub_bind lt.le (push (Nat.sub_le _ _) (.inl ?_))
        dsimp only
        omega
    case h_2 free =>
      split
      case isTrue _ => exact refuse specificSlotCheck_ne_invFull
      case isFalse _ =>
        refine push le_rfl ?_
        cases swapped : args.swap with
        | true => exact .inr ⟨swapped, rfl⟩
        | false =>
          have empty : itemAt args (makeItemPos args.bag args.slot) = none :=
            Option.eq_none_iff_forall_ne_some.mpr fun item held => free item held swapped
          exact .inl (by simp [stackCount, empty])

theorem PassCovers.orElse {pass pass' : StoreM InventoryResult} {region region' : Set ItemPos}
    (h : PassCovers args proto dest total pass region)
    (h' : PassCovers args proto dest total pass' region') :
    PassCovers args proto dest total (storeOrElse pass pass') ∅ := by
  intro s hs
  refine Finishes.bind (h s hs) ?_
  intro result s' post
  split
  case isTrue other =>
    obtain rfl := post.refused other
    exact (h' s' hs).mono (fun result' s'' post' => { post' with covers := by simp }) fun _ _ => id
  case isFalse _ => exact Finishes.pure { post with covers := by simp }

end RustyCore.Player
