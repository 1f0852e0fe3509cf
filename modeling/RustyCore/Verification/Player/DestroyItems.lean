import RustyCore.Model.Player.Items

/-! # A plan takes exactly what is owed

The scan is a fold over one list of positions, no position twice. What the fold has taken so
far is the sum of its actions, and as long as more is owed nothing visited was left behind. -/

namespace RustyCore.Player

variable {inventorySlotCount bag : ℕ} {visit : ScanVisit} {pos : ItemPos}
  {itemRef : DestroyItemCountItemRef}

/-! ## The order of the scan -/

/-- A position that the scan looks at, and whether a whole stack there has to be taken off. -/
structure ScanVisit where
  pos : ItemPos
  requireUnequip : Bool
deriving DecidableEq

def slotVisits (bag : ℕ) (requireUnequip : Bool) (slots : List ℕ) : List ScanVisit :=
  slots.map fun slot => ⟨⟨bag, slot⟩, requireUnequip⟩

def bagVisits (bags : List ℕ) : List ScanVisit :=
  bags.flatMap fun bag => slotVisits bag false (slotRange 0 maxBagSize)

def scanOrder (inventorySlotCount : ℕ) : List ScanVisit :=
  slotVisits inventorySlotBag0 false (slotRange inventorySlotItemStart
      (saturatingAdd 8 inventorySlotItemStart inventorySlotCount)) ++
    slotVisits inventorySlotBag0 false (slotRange keyringSlotStart keyringSlotEnd) ++
    bagVisits (slotRange inventorySlotBagStart inventorySlotBagEnd) ++
    slotVisits inventorySlotBag0 true (slotRange equipmentSlotHead inventorySlotBagEnd) ++
    slotVisits inventorySlotBag0 false (slotRange bankSlotItemStart bankSlotItemEnd) ++
    bagVisits (slotRange bankSlotBagStart bankSlotBagEnd) ++
    slotVisits inventorySlotBag0 true (slotRange bankSlotBagStart bankSlotBagEnd) ++
    slotVisits inventorySlotBag0 false (slotRange childEquipmentSlotStart childEquipmentSlotEnd)

/-- The top-level slots whose whole stacks have to be taken off: equipment and bags. -/
def RequiresUnequip (pos : ItemPos) : Prop :=
  pos.bag = inventorySlotBag0 ∧
    (pos.slot < inventorySlotBagEnd ∨ bankSlotBagStart ≤ pos.slot ∧ pos.slot < bankSlotBagEnd)

/-- The positions of the scanned regions. -/
def Scanned (inventorySlotCount : ℕ) (pos : ItemPos) : Prop :=
  (pos.bag = inventorySlotBag0 ∧
    (inventorySlotItemStart ≤ pos.slot ∧ pos.slot < inventorySlotItemStart + inventorySlotCount ∨
      keyringSlotStart ≤ pos.slot ∧ pos.slot < keyringSlotEnd ∨
      pos.slot < inventorySlotBagEnd ∨
      bankSlotItemStart ≤ pos.slot ∧ pos.slot < bankSlotBagEnd ∨
      childEquipmentSlotStart ≤ pos.slot ∧ pos.slot < childEquipmentSlotEnd)) ∨
  ((inventorySlotBagStart ≤ pos.bag ∧ pos.bag < inventorySlotBagEnd ∨
      bankSlotBagStart ≤ pos.bag ∧ pos.bag < bankSlotBagEnd) ∧ pos.slot < maxBagSize)

instance : DecidablePred RequiresUnequip := fun _ => inferInstanceAs (Decidable (_ ∧ _))

theorem mem_slotVisits {requireUnequip : Bool} {slots : List ℕ} :
    visit ∈ slotVisits bag requireUnequip slots ↔
      visit.pos.bag = bag ∧ visit.pos.slot ∈ slots ∧ visit.requireUnequip = requireUnequip := by
  obtain ⟨⟨bag', slot'⟩, requireUnequip'⟩ := visit
  simp only [slotVisits, List.mem_map, ScanVisit.mk.injEq, ItemPos.mk.injEq]
  constructor
  · rintro ⟨slot, hslot, ⟨rfl, rfl⟩, rfl⟩
    exact ⟨rfl, hslot, rfl⟩
  · rintro ⟨rfl, hslot, rfl⟩
    exact ⟨slot', hslot, ⟨rfl, rfl⟩, rfl⟩

theorem mem_bagVisits {bags : List ℕ} :
    visit ∈ bagVisits bags ↔
      visit.pos.bag ∈ bags ∧ visit.pos.slot < maxBagSize ∧ visit.requireUnequip = false := by
  simp only [bagVisits, List.mem_flatMap, mem_slotVisits, mem_slotRange]
  constructor
  · rintro ⟨bag, hbag, rfl, hslot, hrequire⟩
    exact ⟨hbag, hslot.2, hrequire⟩
  · rintro ⟨hbag, hslot, hrequire⟩
    exact ⟨_, hbag, rfl, ⟨Nat.zero_le _, hslot⟩, hrequire⟩

theorem saturatingAdd_slots (few : inventorySlotCount ≤ 24) :
    saturatingAdd 8 inventorySlotItemStart inventorySlotCount = 35 + inventorySlotCount := by
  rw [saturatingAdd, inventorySlotItemStart]
  omega

theorem mem_slotVisits_pos {requireUnequip : Bool} {start stop : ℕ} :
    pos ∈ (slotVisits bag requireUnequip (slotRange start stop)).map ScanVisit.pos ↔
      pos.bag = bag ∧ start ≤ pos.slot ∧ pos.slot < stop := by
  simp only [List.mem_map, mem_slotVisits, mem_slotRange]
  constructor
  · rintro ⟨visit, ⟨hbag, hslot, _⟩, rfl⟩
    exact ⟨hbag, hslot⟩
  · rintro ⟨hbag, hslot⟩
    exact ⟨⟨pos, requireUnequip⟩, ⟨hbag, hslot, rfl⟩, rfl⟩

theorem mem_bagVisits_pos {start stop : ℕ} :
    pos ∈ (bagVisits (slotRange start stop)).map ScanVisit.pos ↔
      start ≤ pos.bag ∧ pos.bag < stop ∧ pos.slot < maxBagSize := by
  simp only [List.mem_map, mem_bagVisits, mem_slotRange]
  constructor
  · rintro ⟨visit, ⟨hbag, hslot, _⟩, rfl⟩
    exact ⟨hbag.1, hbag.2, hslot⟩
  · rintro ⟨hstart, hstop, hslot⟩
    exact ⟨⟨pos, false⟩, ⟨⟨hstart, hstop⟩, hslot, rfl⟩, rfl⟩

theorem mem_scanOrder_pos (few : inventorySlotCount ≤ 24) (h : Scanned inventorySlotCount pos) :
    pos ∈ (scanOrder inventorySlotCount).map ScanVisit.pos := by
  simp only [scanOrder, List.map_append, List.mem_append, mem_slotVisits_pos, mem_bagVisits_pos,
    saturatingAdd_slots few]
  simp only [Scanned, inventorySlotBag0, inventorySlotItemStart, keyringSlotStart, keyringSlotEnd,
    inventorySlotBagStart, inventorySlotBagEnd, bankSlotItemStart, bankSlotItemEnd,
    bankSlotBagStart, bankSlotBagEnd, childEquipmentSlotStart, childEquipmentSlotEnd, maxBagSize,
    equipmentSlotHead] at h ⊢
  rcases h with ⟨top, backpack | keyring | worn | bank | child⟩ | ⟨carried | banked, inside⟩
  all_goals grind

theorem requiresUnequip_of_mem (h : visit ∈ scanOrder inventorySlotCount)
    (whole : visit.requireUnequip = true) : RequiresUnequip visit.pos := by
  simp only [scanOrder, List.mem_append, mem_slotVisits, mem_bagVisits, mem_slotRange, whole,
    and_false, false_or, or_false, and_true, Bool.true_eq_false] at h
  rcases h with h | h
  · exact ⟨h.1, .inl h.2.2⟩
  · exact ⟨h.1, .inr h.2⟩

theorem slotVisits_nodup (bag : ℕ) (requireUnequip : Bool) (start stop : ℕ) :
    ((slotVisits bag requireUnequip (slotRange start stop)).map ScanVisit.pos).Nodup := by
  rw [slotVisits, List.map_map]
  refine List.Nodup.map (fun slot slot' same => ?_) List.nodup_range'
  simpa using same

theorem bagVisits_nodup (start stop : ℕ) :
    ((bagVisits (slotRange start stop)).map ScanVisit.pos).Nodup := by
  rw [bagVisits, List.map_flatMap, List.nodup_flatMap]
  refine ⟨fun bag _ => slotVisits_nodup bag false 0 maxBagSize, ?_⟩
  refine List.Pairwise.imp (fun {bag bag'} ne => ?_) List.nodup_range'
  intro pos hpos hpos'
  exact ne ((mem_slotVisits_pos.mp hpos).1.symm.trans (mem_slotVisits_pos.mp hpos').1)

theorem scanOrder_nodup (few : inventorySlotCount ≤ 24) :
    ((scanOrder inventorySlotCount).map ScanVisit.pos).Nodup := by
  simp only [scanOrder, List.map_append, List.nodup_append', slotVisits_nodup, bagVisits_nodup,
    true_and, List.disjoint_left, List.mem_append, mem_slotVisits_pos,
    mem_bagVisits_pos, saturatingAdd_slots few]
  simp only [inventorySlotBag0, inventorySlotItemStart, keyringSlotStart, keyringSlotEnd,
    inventorySlotBagStart, inventorySlotBagEnd, bankSlotItemStart, bankSlotItemEnd,
    bankSlotBagStart, bankSlotBagEnd, childEquipmentSlotStart, childEquipmentSlotEnd, maxBagSize,
    equipmentSlotHead]
  refine ⟨⟨⟨⟨⟨⟨?_, ?_⟩, ?_⟩, ?_⟩, ?_⟩, ?_⟩, ?_⟩ <;> intro pos seen next <;> grind

/-! ## The scan as a fold -/

section

variable (items : List DestroyItemCountItemRef) (itemEntry count : ℕ) (unequipCheck : Bool)

/-- What the scan does at one position. -/
def scanVisit (plan : DestroyItemCountPlan) (visit : ScanVisit) : DestroyItemCountPlan :=
  match destroyItemCountItemByPos items visit.pos.bag visit.pos.slot with
  | none => plan
  | some itemRef =>
    destroyItemCountConsiderItem plan itemRef itemEntry count visit.requireUnequip unequipCheck

def scanAll (plan : DestroyItemCountPlan) (visits : List ScanVisit) : DestroyItemCountPlan :=
  visits.foldl (scanVisit items itemEntry count unequipCheck) plan

variable {items itemEntry count unequipCheck} {plan : DestroyItemCountPlan}

theorem considerItem_of_enough (enough : count ≤ plan.removedCount)
    (itemRef : DestroyItemCountItemRef) (requireUnequip : Bool) :
    destroyItemCountConsiderItem plan itemRef itemEntry count requireUnequip unequipCheck =
      plan := by
  rw [destroyItemCountConsiderItem, if_pos (.inl enough)]

/-- A finished plan is not changed by the rest of a scan; the early returns skip only that. -/
theorem scanAll_of_enough (enough : count ≤ plan.removedCount) (visits : List ScanVisit) :
    scanAll items itemEntry count unequipCheck plan visits = plan := by
  induction visits with
  | nil => rfl
  | cons visit visits ih =>
    have same : scanVisit items itemEntry count unequipCheck plan visit = plan := by
      unfold scanVisit
      split
      · rfl
      · exact considerItem_of_enough enough _ _
    rw [scanAll, List.foldl_cons, same]
    exact ih

theorem scanAll_append (plan : DestroyItemCountPlan) (visits visits' : List ScanVisit) :
    scanAll items itemEntry count unequipCheck plan (visits ++ visits') =
      scanAll items itemEntry count unequipCheck
        (scanAll items itemEntry count unequipCheck plan visits) visits' :=
  List.foldl_append

theorem scanSlots_eq (bag : ℕ) (requireUnequip : Bool) (plan : DestroyItemCountPlan)
    (slots : List ℕ) :
    (destroyItemCountScanSlots items itemEntry count bag requireUnequip unequipCheck plan
      slots).1 =
        scanAll items itemEntry count unequipCheck plan (slotVisits bag requireUnequip slots) ∧
    ((destroyItemCountScanSlots items itemEntry count bag requireUnequip unequipCheck plan
      slots).2 = true → count ≤ (scanAll items itemEntry count unequipCheck plan
        (slotVisits bag requireUnequip slots)).removedCount) := by
  induction slots generalizing plan with
  | nil => exact ⟨rfl, by simp [destroyItemCountScanSlots]⟩
  | cons slot slots ih =>
    rw [destroyItemCountScanSlots, slotVisits, List.map_cons, scanAll, List.foldl_cons,
      scanVisit]
    cases destroyItemCountItemByPos items bag slot with
    | none => exact ih plan
    | some itemRef =>
      dsimp only
      split
      case isTrue enough =>
        have same : scanAll items itemEntry count unequipCheck _
            (slotVisits bag requireUnequip slots) = _ := scanAll_of_enough enough _
        refine ⟨same.symm, fun _ => enough.trans_eq ?_⟩
        exact congrArg DestroyItemCountPlan.removedCount same.symm
      case isFalse _ => exact ih _

theorem considerItem_false (plan : DestroyItemCountPlan) (itemRef : DestroyItemCountItemRef) :
    destroyItemCountConsiderItem plan itemRef itemEntry count false false =
      destroyItemCountConsiderItem plan itemRef itemEntry count false unequipCheck := by
  simp [destroyItemCountConsiderItem]

/-- Where no stack has to be taken off, the unequip check does not matter. -/
theorem scanAll_slotVisits_false (plan : DestroyItemCountPlan) (bag : ℕ) (slots : List ℕ) :
    scanAll items itemEntry count false plan (slotVisits bag false slots) =
      scanAll items itemEntry count unequipCheck plan (slotVisits bag false slots) := by
  induction slots generalizing plan with
  | nil => rfl
  | cons slot slots ih =>
    have same : scanVisit items itemEntry count false plan ⟨⟨bag, slot⟩, false⟩ =
        scanVisit items itemEntry count unequipCheck plan ⟨⟨bag, slot⟩, false⟩ := by
      unfold scanVisit
      split
      · rfl
      · exact considerItem_false plan _
    rw [slotVisits, List.map_cons, scanAll, scanAll, List.foldl_cons, List.foldl_cons, same]
    exact ih _

theorem scanBags_eq (plan : DestroyItemCountPlan) (bags : List ℕ) :
    destroyItemCountScanBags items itemEntry count plan bags =
      scanAll items itemEntry count unequipCheck plan (bagVisits bags) := by
  induction bags generalizing plan with
  | nil => rfl
  | cons bag bags ih =>
    obtain ⟨hplan, henough⟩ := @scanSlots_eq items itemEntry count false bag false plan
      (slotRange 0 maxBagSize)
    have unchecked := @scanAll_slotVisits_false items itemEntry count unequipCheck plan bag
      (slotRange 0 maxBagSize)
    rw [bagVisits, List.flatMap_cons, scanAll_append, destroyItemCountScanBags]
    rw [unchecked] at hplan henough
    split
    case h_1 reached hscan =>
      rw [hscan] at hplan henough
      rw [← hplan]
      exact (scanAll_of_enough ((henough rfl).trans_eq (congrArg _ hplan.symm)) _).symm
    case h_2 reached hscan =>
      rw [hscan] at hplan
      rw [← hplan]
      exact ih _

theorem check_eq_scanAll {visits : List ScanVisit} {rest : DestroyItemCountPlan}
    (h : rest = scanAll items itemEntry count unequipCheck plan visits) :
    (if count ≤ plan.removedCount then plan else rest) =
      scanAll items itemEntry count unequipCheck plan visits := by
  split
  case isTrue enough => exact (scanAll_of_enough enough visits).symm
  case isFalse _ => exact h

theorem destroyItemCountByEntryPlan_eq (inventorySlotCount : ℕ) :
    destroyItemCountByEntryPlan itemEntry count unequipCheck inventorySlotCount items =
      scanAll items itemEntry count unequipCheck ⟨0, []⟩ (scanOrder inventorySlotCount) := by
  have htop (plan : DestroyItemCountPlan) (start stop : ℕ) (requireUnequip : Bool) :
      destroyItemCountScanTopLevelRange items itemEntry count plan start stop requireUnequip
        unequipCheck = scanAll items itemEntry count unequipCheck plan
          (slotVisits inventorySlotBag0 requireUnequip (slotRange start stop)) :=
    (scanSlots_eq _ _ _ _).1
  have hbags (plan : DestroyItemCountPlan) (start stop : ℕ) :
      destroyItemCountScanBagRanges items itemEntry count plan start stop =
        scanAll items itemEntry count unequipCheck plan (bagVisits (slotRange start stop)) :=
    scanBags_eq _ _
  unfold destroyItemCountByEntryPlan
  simp only [htop, hbags, scanOrder, List.append_assoc]
  split
  case isTrue none =>
    subst none
    exact (scanAll_of_enough (Nat.zero_le _) _).symm
  case isFalse some =>
    rw [scanAll_append]
    iterate 6
      refine check_eq_scanAll ?_
      rw [scanAll_append]
    exact check_eq_scanAll rfl

/-! ## What the fold has taken -/

variable (items itemEntry count unequipCheck)

/-- An action takes from the item at its position, which has the entry and is not in trade. -/
structure TakesFrom (action : DestroyItemCountAction) (itemRef : DestroyItemCountItemRef) :
    Prop where
  pos : (⟨action.bag, action.slot⟩ : ItemPos) = ⟨itemRef.bag, itemRef.slot⟩
  entry : itemRef.item.entry = itemEntry
  notInTrade : itemRef.item.inTrade = false
  split : action.removedCount + action.remainingCount = itemRef.item.count

/-- The plan after the visited positions. -/
structure Taken (visited : List ScanVisit) (plan : DestroyItemCountPlan) : Prop where
  sum : plan.removedCount = (plan.actions.map DestroyItemCountAction.removedCount).sum
  le : plan.removedCount ≤ count
  pos_mem : ∀ action ∈ plan.actions,
    (⟨action.bag, action.slot⟩ : ItemPos) ∈ visited.map ScanVisit.pos
  distinct : (plan.actions.map fun action => (⟨action.bag, action.slot⟩ : ItemPos)).Nodup
  takes : ∀ action ∈ plan.actions, ∃ itemRef ∈ items, TakesFrom itemEntry action itemRef
  exhausted : plan.removedCount < count → ∀ visit ∈ visited, ∀ itemRef,
    destroyItemCountItemByPos items visit.pos.bag visit.pos.slot = some itemRef →
    itemRef.item.entry = itemEntry → itemRef.item.inTrade = false →
      (∃ action ∈ plan.actions, TakesFrom itemEntry action itemRef ∧ action.remainingCount = 0) ∨
      visit.requireUnequip = true ∧ unequipCheck = true ∧ itemRef.canUnequipResult ≠ .ok

variable {items itemEntry count unequipCheck}

theorem itemByPos_spec {slot : ℕ}
    (found : destroyItemCountItemByPos items bag slot = some itemRef) :
    itemRef ∈ items ∧ itemRef.bag = bag ∧ itemRef.slot = slot := by
  have matched := List.find?_some found
  simp only [Bool.and_eq_true, beq_iff_eq] at matched
  exact ⟨List.mem_of_find?_eq_some found, matched⟩

variable {visited : List ScanVisit} {visit : ScanVisit}

theorem Taken.skip (h : Taken items itemEntry count unequipCheck visited plan)
    (nothing : ∀ itemRef,
      destroyItemCountItemByPos items visit.pos.bag visit.pos.slot = some itemRef →
      itemRef.item.entry = itemEntry → itemRef.item.inTrade = false →
        count ≤ plan.removedCount ∨
        visit.requireUnequip = true ∧ unequipCheck = true ∧ itemRef.canUnequipResult ≠ .ok) :
    Taken items itemEntry count unequipCheck (visited ++ [visit]) plan where
  sum := h.sum
  le := h.le
  pos_mem action haction := by
    rw [List.map_append]
    exact List.mem_append_left _ (h.pos_mem action haction)
  distinct := h.distinct
  takes := h.takes
  exhausted owed visit' hvisit' itemRef found entry notInTrade := by
    rcases List.mem_append.mp hvisit' with hvisit' | hvisit'
    · exact h.exhausted owed visit' hvisit' itemRef found entry notInTrade
    · obtain rfl := List.mem_singleton.mp hvisit'
      rcases nothing itemRef found entry notInTrade with enough | refused
      · exact absurd enough (by omega)
      · exact .inr refused

/-- A visit that takes from the item there: a whole stack, or all that is still owed. -/
theorem Taken.take (h : Taken items itemEntry count unequipCheck visited plan)
    (fresh : visit.pos ∉ visited.map ScanVisit.pos)
    (found : destroyItemCountItemByPos items visit.pos.bag visit.pos.slot = some itemRef)
    {action : DestroyItemCountAction} (takes : TakesFrom itemEntry action itemRef)
    (enough : plan.removedCount + action.removedCount ≤ count)
    (whole : plan.removedCount + action.removedCount < count → action.remainingCount = 0) :
    Taken items itemEntry count unequipCheck (visited ++ [visit])
      ⟨plan.removedCount + action.removedCount, plan.actions ++ [action]⟩ := by
  obtain ⟨mem, hbag, hslot⟩ := itemByPos_spec found
  have hpos : (⟨action.bag, action.slot⟩ : ItemPos) = visit.pos := by
    rw [takes.pos, hbag, hslot]
  refine ⟨?_, enough, ?_, ?_, ?_, ?_⟩
  · simp [h.sum]
  · intro action' haction'
    rw [List.map_append]
    rcases List.mem_append.mp haction' with haction' | haction'
    · exact List.mem_append_left _ (h.pos_mem action' haction')
    · obtain rfl := List.mem_singleton.mp haction'
      exact List.mem_append_right _ (by simp [hpos])
  · rw [List.map_append, List.nodup_append']
    refine ⟨h.distinct, by simp, ?_⟩
    intro pos hpos' hlast
    obtain ⟨action', haction', rfl⟩ := List.mem_map.mp hpos'
    have same := (List.mem_singleton.mp hlast).trans hpos
    exact fresh (same ▸ h.pos_mem action' haction')
  · intro action' haction'
    rcases List.mem_append.mp haction' with haction' | haction'
    · exact h.takes action' haction'
    · obtain rfl := List.mem_singleton.mp haction'
      exact ⟨itemRef, mem, takes⟩
  · intro owed visit' hvisit' itemRef' found' entry' notInTrade'
    rcases List.mem_append.mp hvisit' with hvisit' | hvisit'
    · refine (h.exhausted (by dsimp only at owed; omega) visit' hvisit' itemRef' found' entry'
        notInTrade').imp_left ?_
      rintro ⟨action', haction', done⟩
      exact ⟨action', List.mem_append_left _ haction', done⟩
    · obtain rfl := List.mem_singleton.mp hvisit'
      obtain rfl := Option.some.inj (found.symm.trans found')
      exact .inl ⟨action, by simp, takes, whole owed⟩

theorem Taken.step (h : Taken items itemEntry count unequipCheck visited plan)
    (fresh : visit.pos ∉ visited.map ScanVisit.pos) :
    Taken items itemEntry count unequipCheck (visited ++ [visit])
      (scanVisit items itemEntry count unequipCheck plan visit) := by
  unfold scanVisit
  cases found : destroyItemCountItemByPos items visit.pos.bag visit.pos.slot with
  | none => exact h.skip fun itemRef found' => by simp [found] at found'
  | some itemRef =>
    dsimp only
    unfold destroyItemCountConsiderItem
    dsimp only
    split
    case isTrue skipped =>
      refine h.skip fun itemRef' found' entry' notInTrade' => .inl ?_
      obtain rfl := Option.some.inj (found.symm.trans found')
      simpa [entry', notInTrade'] using skipped
    case isFalse wanted =>
      simp only [not_or, Decidable.not_not, Nat.not_le, Bool.not_eq_true, ne_eq] at wanted
      obtain ⟨owed, entry, notInTrade⟩ := wanted
      split
      case isTrue fits =>
        split
        case isTrue refused =>
          refine h.skip fun itemRef' found' _ _ => .inr ?_
          obtain rfl := Option.some.inj (found.symm.trans found')
          simpa [and_assoc] using refused
        case isFalse _ =>
          have takes : TakesFrom itemEntry ⟨itemRef.bag, itemRef.slot, itemRef.item.count, 0,
              true⟩ itemRef := ⟨rfl, entry, notInTrade, rfl⟩
          exact h.take fresh found takes (by dsimp only; omega) fun _ => rfl
      case isFalse larger =>
        have split : plan.removedCount + (count - plan.removedCount) = count := by omega
        have takes : TakesFrom itemEntry ⟨itemRef.bag, itemRef.slot, count - plan.removedCount,
            itemRef.item.count - (count - plan.removedCount), false⟩ itemRef :=
          ⟨rfl, entry, notInTrade, by dsimp only; omega⟩
        have taken := h.take fresh found takes split.le (by dsimp only; omega)
        rwa [split] at taken

theorem Taken.scan {visits : List ScanVisit}
    (h : Taken items itemEntry count unequipCheck visited plan)
    (fresh : ((visited ++ visits).map ScanVisit.pos).Nodup) :
    Taken items itemEntry count unequipCheck (visited ++ visits)
      (scanAll items itemEntry count unequipCheck plan visits) := by
  induction visits generalizing visited plan with
  | nil =>
    rw [List.append_nil]
    exact h
  | cons visit visits ih =>
    rw [List.append_cons] at fresh ⊢
    refine ih (h.step ?_) fresh
    rw [List.map_append, List.map_append, List.append_assoc, List.nodup_append'] at fresh
    exact fun seen => fresh.2.2 seen (by simp)

end

/-! ## The whole plan -/

def DistinctPositions (items : List DestroyItemCountItemRef) : Prop :=
  (items.map fun itemRef => (⟨itemRef.bag, itemRef.slot⟩ : ItemPos)).Nodup

instance (items : List DestroyItemCountItemRef) : Decidable (DistinctPositions items) :=
  inferInstanceAs (Decidable (List.Nodup _))

theorem itemByPos_of_mem {items : List DestroyItemCountItemRef} (h : DistinctPositions items)
    (mem : itemRef ∈ items) :
    destroyItemCountItemByPos items itemRef.bag itemRef.slot = some itemRef := by
  cases found : destroyItemCountItemByPos items itemRef.bag itemRef.slot with
  | none => simpa using List.find?_eq_none.mp found itemRef mem
  | some other =>
    obtain ⟨mem', hbag, hslot⟩ := itemByPos_spec found
    exact congrArg some (List.inj_on_of_nodup_map h mem' mem (by rw [hbag, hslot]))

theorem destroyItemCountByEntryPlan_exact (items : List DestroyItemCountItemRef)
    (itemEntry count : ℕ) (unequipCheck : Bool) (inventorySlotCount : ℕ)
    (few : inventorySlotCount ≤ 24) (positions : DistinctPositions items) :
    let plan := destroyItemCountByEntryPlan itemEntry count unequipCheck inventorySlotCount items
    plan.removedCount = (plan.actions.map DestroyItemCountAction.removedCount).sum ∧
    plan.removedCount ≤ count ∧
    (plan.actions.map fun action => (⟨action.bag, action.slot⟩ : ItemPos)).Nodup ∧
    (∀ action ∈ plan.actions, ∃ itemRef ∈ items, TakesFrom itemEntry action itemRef) ∧
    (plan.removedCount < count → ∀ itemRef ∈ items,
      Scanned inventorySlotCount ⟨itemRef.bag, itemRef.slot⟩ →
      itemRef.item.entry = itemEntry → itemRef.item.inTrade = false →
        (∃ action ∈ plan.actions, TakesFrom itemEntry action itemRef ∧
          action.removedCount = itemRef.item.count ∧ action.remainingCount = 0) ∨
        unequipCheck = true ∧ RequiresUnequip ⟨itemRef.bag, itemRef.slot⟩ ∧
          itemRef.canUnequipResult ≠ .ok) := by
  have start : Taken items itemEntry count unequipCheck [] ⟨0, []⟩ :=
    ⟨rfl, Nat.zero_le _, by simp, by simp, by simp, by simp⟩
  have taken := start.scan (scanOrder_nodup few)
  rw [List.nil_append] at taken
  intro plan
  have hplan : plan = scanAll items itemEntry count unequipCheck ⟨0, []⟩
      (scanOrder inventorySlotCount) := destroyItemCountByEntryPlan_eq inventorySlotCount
  rw [hplan]
  refine ⟨taken.sum, taken.le, taken.distinct, taken.takes, ?_⟩
  intro owed itemRef mem scanned entry notInTrade
  obtain ⟨visit, hvisit, hpos⟩ := List.mem_map.mp (mem_scanOrder_pos few scanned)
  have found := itemByPos_of_mem positions mem
  rw [show itemRef.bag = visit.pos.bag by rw [hpos], show itemRef.slot = visit.pos.slot by
    rw [hpos]] at found
  rcases taken.exhausted owed visit hvisit itemRef found entry notInTrade with
    ⟨action, haction, takes, whole⟩ | ⟨whole, check, refused⟩
  · have split := takes.split
    exact .inl ⟨action, haction, takes, by omega, whole⟩
  · exact .inr ⟨check, hpos ▸ requiresUnequip_of_mem hvisit whole, refused⟩

/-- Seven of an entry, from a stack of five in the backpack and one of four in a bag. -/
theorem destroyItemCountByEntryPlan_exact_stacks :
    let stack (counter count : ℕ) : Item :=
      ⟨⟨0, .ofNat 64 counter⟩, 2589, count, .empty, 0, false, false⟩
    let items : List DestroyItemCountItemRef :=
      [⟨inventorySlotBag0, 35, stack 1 5, .ok⟩, ⟨inventorySlotBagStart, 2, stack 2 4, .ok⟩]
    DistinctPositions items ∧
      (destroyItemCountByEntryPlan 2589 7 true 16 items).removedCount ≤ 7 :=
  ⟨by decide, (destroyItemCountByEntryPlan_exact _ 2589 7 true 16 (by decide) (by decide)).2.1⟩

end RustyCore.Player
