import Mathlib.Data.List.Range
import RustyCore.Library.Run
import RustyCore.Model.Player.Items

/-! # The buyback keeps the twelve newest sales

The parallel arrays stand for one table of sales by slot. An add takes an empty slot, and
only when there is none the slot with the smallest time. -/

namespace RustyCore.Player

/-- What one buyback slot stands for. -/
structure BuybackEntry where
  guid : ObjectGuid
  price : ℕ
  timestamp : ℤ
deriving DecidableEq

namespace BuybackState

/-- The item, guid, price and time of a slot are all set for one entry or all clear. -/
def Holds (s : BuybackState) (slot : ℕ) : Option BuybackEntry → Prop
  | some entry =>
    s.items slot = some entry.guid ∧ s.invSlots slot = entry.guid ∧
      s.buybackPrice (slot - buybackSlotStart) = entry.price ∧
      s.buybackTimestamp (slot - buybackSlotStart) = entry.timestamp ∧ 0 ≤ entry.timestamp
  | none =>
    s.items slot = none ∧ s.invSlots slot = .empty ∧
      s.buybackPrice (slot - buybackSlotStart) = 0 ∧
      s.buybackTimestamp (slot - buybackSlotStart) = 0

/-- The arrays stand for the entries, and the cursor is a buyback slot. -/
structure Represents (s : BuybackState) (entries : ℕ → Option BuybackEntry) : Prop where
  cursor : isBuybackSlot s.currentBuybackSlot = true
  holds : ∀ slot, isBuybackSlot slot = true → s.Holds slot (entries slot)

theorem default_represents : default.Represents fun _ => none where
  cursor := rfl
  holds _ _ := ⟨rfl, rfl, rfl, rfl⟩

end BuybackState

/-- The slot that an add may take: an empty one, or with all twelve occupied one that holds a
smallest time. -/
def TakesSlot (entries : ℕ → Option BuybackEntry) (slot : ℕ) : Prop :=
  isBuybackSlot slot = true ∧
    (entries slot = none ∨
      (∀ other, isBuybackSlot other = true → (entries other).isSome) ∧
        ∀ oldest other entry, entries slot = some oldest → isBuybackSlot other = true →
          entries other = some entry → oldest.timestamp ≤ entry.timestamp)

/-- What the operations do to the table of sales. -/
inductive BuybackStep (entries : ℕ → Option BuybackEntry) :
    BuybackOp → (ℕ → Option BuybackEntry) → Prop
  | add {guid : ObjectGuid} {price : ℕ} {timestamp : ℤ} {slot : ℕ}
      (takes : TakesSlot entries slot) :
      BuybackStep entries (.add guid price timestamp)
        (Function.update entries slot (some ⟨guid, price, timestamp⟩))
  | addObject {item : SoldItem} {sellPrice : Option ℕ} {gameTime loginTime : ℤ}
      {overwrittenItem : Option ObjectGuid} {slot : ℕ} (takes : TakesSlot entries slot) :
      BuybackStep entries (.addObject item sellPrice gameTime loginTime overwrittenItem)
        (Function.update entries slot (some ⟨item.guid,
          ((sellPrice.map fun price => price * item.count % 2 ^ 32).getD 0),
          BuybackState.objectTimestamp gameTime loginTime⟩))
  | refused {item : SoldItem} {sellPrice : Option ℕ} {gameTime loginTime : ℤ}
      {overwrittenItem : ObjectGuid} {slot : ℕ} {entry : BuybackEntry}
      (takes : TakesSlot entries slot) (stored : entries slot = some entry)
      (other : entry.guid ≠ overwrittenItem) :
      BuybackStep entries (.addObject item sellPrice gameTime loginTime (some overwrittenItem))
        entries
  | remove {slot : ℕ} (inside : isBuybackSlot slot = true) :
      BuybackStep entries (.remove slot) (Function.update entries slot none)
  | removeOutside {slot : ℕ} (outside : isBuybackSlot slot = false) :
      BuybackStep entries (.remove slot) entries

/-- The times of the adds are not negative; an object's time is an unsigned word. -/
def BuybackOp.Timed : BuybackOp → Prop
  | .add _ _ timestamp => 0 ≤ timestamp
  | .addObject .. => True
  | .remove _ => True

theorem isBuybackSlot_iff {slot : ℕ} : isBuybackSlot slot = true ↔ 94 ≤ slot ∧ slot < 106 := by
  simp only [isBuybackSlot, Bool.and_eq_true, decide_eq_true_eq]
  rfl

namespace BuybackState

variable {s : BuybackState} {entries : ℕ → Option BuybackEntry}
variable {slot : ℕ} {entry : Option BuybackEntry}
variable {item overwrittenItem : Option ObjectGuid} {guid : ObjectGuid}

/-! ## One slot written -/

theorem objectTimestamp_nonneg (gameTime loginTime : ℤ) :
    0 ≤ objectTimestamp gameTime loginTime :=
  Int.emod_nonneg _ (by decide)

theorem Holds.isSome_iff (h : s.Holds slot entry) : (s.items slot).isSome = entry.isSome := by
  cases entry with
  | none => rw [h.1]; rfl
  | some entry => rw [h.1]; rfl

theorem Holds.moveCursor {cursor : ℕ} (h : s.Holds slot entry) :
    BuybackState.Holds { s with currentBuybackSlot := cursor } slot entry := by
  cases entry with
  | none => exact h
  | some entry => exact h

theorem Holds.setSlot_of_ne {other : ℕ} {price : ℕ} {timestamp : ℤ} (h : s.Holds other entry)
    (ne : other ≠ slot) (hslot : isBuybackSlot slot = true) (hother : isBuybackSlot other = true) :
    (s.setSlot slot item guid price timestamp).Holds other entry := by
  rw [isBuybackSlot_iff] at hslot hother
  have index_ne : other - buybackSlotStart ≠ slot - buybackSlotStart := by
    unfold buybackSlotStart
    omega
  cases entry with
  | none =>
    simpa [Holds, setSlot, setInvSlot, setBuybackPrice, setBuybackTimestamp,
      Function.update_of_ne ne, Function.update_of_ne index_ne] using h
  | some entry =>
    simpa [Holds, setSlot, setInvSlot, setBuybackPrice, setBuybackTimestamp,
      Function.update_of_ne ne, Function.update_of_ne index_ne] using h

theorem setSlot_holds (s : BuybackState) (slot : ℕ) (entry : BuybackEntry)
    (timed : 0 ≤ entry.timestamp) :
    (s.setSlot slot (some entry.guid) entry.guid entry.price entry.timestamp).Holds slot
      (some entry) := by
  simpa [Holds, setSlot, setInvSlot, setBuybackPrice, setBuybackTimestamp] using timed

theorem setSlot_clear (s : BuybackState) (slot : ℕ) :
    (s.setSlot slot none .empty 0 0).Holds slot none := by
  simp [Holds, setSlot, setInvSlot, setBuybackPrice, setBuybackTimestamp]

theorem Represents.setSlot (h : s.Represents entries) (hslot : isBuybackSlot slot = true)
    {price : ℕ} {timestamp : ℤ}
    (written : (s.setSlot slot item guid price timestamp).Holds slot entry) :
    (s.setSlot slot item guid price timestamp).Represents
      (Function.update entries slot entry) := by
  refine ⟨h.cursor, fun other hother => ?_⟩
  rcases eq_or_ne other slot with rfl | ne
  · rw [Function.update_self]
    exact written
  · rw [Function.update_of_ne ne]
    exact (h.holds other hother).setSlot_of_ne ne hslot hother

theorem Represents.moveCursor {cursor : ℕ} (h : s.Represents entries)
    (hcursor : isBuybackSlot cursor = true) :
    BuybackState.Represents { s with currentBuybackSlot := cursor } entries :=
  ⟨hcursor, fun slot hslot => (h.holds slot hslot).moveCursor⟩

theorem Represents.advance (h : s.Represents entries) :
    s.advanceBuybackSlot.Represents entries := by
  unfold advanceBuybackSlot
  split
  case isTrue before =>
    have inside := isBuybackSlot_iff.mp h.cursor
    refine h.moveCursor (isBuybackSlot_iff.mpr ?_)
    unfold buybackSlotEnd at before
    omega
  case isFalse => exact h

/-! ## Removal -/

theorem removeItem_of_outside (outside : isBuybackSlot slot = false) :
    (s.removeItemFromBuybackSlot slot).1 = s := by
  simp [removeItemFromBuybackSlot, outside]

theorem removeItemObject_cases (inside : isBuybackSlot slot = true) (item : Option ObjectGuid) :
    s.removeItemFromBuybackSlotObject slot item = .ok (s.removeItemFromBuybackSlot slot) ∨
      ∃ expected actual, s.items slot = some expected ∧ item = some actual ∧ expected ≠ actual ∧
        s.removeItemFromBuybackSlotObject slot item = .error ⟨slot, expected, actual⟩ := by
  unfold removeItemFromBuybackSlotObject
  cases stored : s.items slot with
  | none => simp [inside]
  | some expected =>
    cases item with
    | none => simp [inside]
    | some actual =>
      by_cases same : expected = actual
      · simp [inside, same]
      · simp [inside, same]

theorem Represents.removeItem (h : s.Represents entries) (inside : isBuybackSlot slot = true) :
    (s.removeItemFromBuybackSlot slot).1.Represents (Function.update entries slot none) := by
  have cleared := h.setSlot inside (s.setSlot_clear slot)
  simp only [removeItemFromBuybackSlot, inside, Bool.true_eq_false, if_false]
  split
  · exact cleared.moveCursor inside
  · exact cleared

/-! ## The slot of an add -/

theorem isBuybackSlot_of_mem_candidates (h : slot ∈ buybackCandidates) :
    isBuybackSlot slot = true := by
  simp only [buybackCandidates, buybackSlotStart, buybackSlotEnd, List.mem_map,
    List.mem_range] at h
  rw [isBuybackSlot_iff]
  omega

theorem mem_candidates (h : isBuybackSlot slot = true) (ne : slot ≠ buybackSlotStart) :
    slot ∈ buybackCandidates := by
  rw [isBuybackSlot_iff] at h
  simp only [buybackSlotStart] at ne
  simp only [buybackCandidates, buybackSlotStart, buybackSlotEnd, List.mem_map, List.mem_range]
  exact ⟨slot - 95, by omega, by omega⟩

/-- The scan returns an empty candidate, or every candidate is occupied and it returns one of
the smallest times seen. -/
theorem findOldestSlot_spec (s : BuybackState) (candidates : List ℕ) :
    ∀ oldest : ℕ,
      let chosen := s.findOldestSlot oldest (s.buybackTimestamp (oldest - buybackSlotStart))
        candidates
      (chosen ∈ candidates ∧ s.items chosen = none) ∨
        (∀ candidate ∈ candidates, (s.items candidate).isSome) ∧
          (chosen = oldest ∨ chosen ∈ candidates ∧
            s.buybackTimestamp (chosen - buybackSlotStart) <
              s.buybackTimestamp (oldest - buybackSlotStart)) ∧
          ∀ seen ∈ oldest :: candidates,
            s.buybackTimestamp (chosen - buybackSlotStart) ≤
              s.buybackTimestamp (seen - buybackSlotStart) := by
  induction candidates with
  | nil => simp [findOldestSlot]
  | cons candidate rest ih =>
    intro oldest
    simp only [findOldestSlot]
    cases stored : s.items candidate with
    | none => exact .inl ⟨by simp, by simpa using stored⟩
    | some guid =>
      simp only [Option.isNone_some, Bool.false_eq_true, if_false]
      split
      case isTrue earlier =>
        refine (ih candidate).imp (fun found => ⟨by simp [found.1], found.2⟩) ?_
        rintro ⟨occupied, chosen, smallest⟩
        have below := smallest candidate (by simp)
        have chosen_mem := chosen.elim (fun same => by simp [same]) (fun found =>
          List.mem_cons_of_mem candidate found.1)
        refine ⟨by simpa [stored] using occupied,
          .inr ⟨chosen_mem, below.trans_lt earlier⟩, ?_⟩
        intro seen hseen
        rcases List.mem_cons.mp hseen with rfl | hseen
        · exact (below.trans_lt earlier).le
        · exact smallest seen hseen
      case isFalse later =>
        refine (ih oldest).imp (fun found => ⟨by simp [found.1], found.2⟩) ?_
        rintro ⟨occupied, chosen, smallest⟩
        refine ⟨by simpa [stored] using occupied,
          chosen.imp id (fun found => ⟨by simp [found.1], found.2⟩), ?_⟩
        intro seen hseen
        have below := smallest oldest (by simp)
        rcases List.mem_cons.mp hseen with rfl | hseen
        · exact below
        rcases List.mem_cons.mp hseen with rfl | hseen
        · exact below.trans (not_lt.mp later)
        · exact smallest seen (by simp [hseen])

theorem Represents.timestamp_of_some (h : s.Represents entries)
    (inside : isBuybackSlot slot = true) {entry : BuybackEntry}
    (stored : entries slot = some entry) :
    s.buybackTimestamp (slot - buybackSlotStart) = entry.timestamp ∧ 0 ≤ entry.timestamp := by
  have holds := h.holds slot inside
  rw [stored] at holds
  exact holds.2.2.2

theorem Represents.timestamp_of_none (h : s.Represents entries)
    (inside : isBuybackSlot slot = true) (empty : entries slot = none) :
    s.buybackTimestamp (slot - buybackSlotStart) = 0 := by
  have holds := h.holds slot inside
  rw [empty] at holds
  exact holds.2.2.2

theorem Represents.timestamp_nonneg (h : s.Represents entries)
    (inside : isBuybackSlot slot = true) : 0 ≤ s.buybackTimestamp (slot - buybackSlotStart) := by
  cases stored : entries slot with
  | none => exact (h.timestamp_of_none inside stored).ge
  | some entry =>
    have timed := h.timestamp_of_some inside stored
    exact timed.1 ▸ timed.2

theorem Represents.isSome_eq (h : s.Represents entries) (inside : isBuybackSlot slot = true) :
    (s.items slot).isSome = (entries slot).isSome :=
  (h.holds slot inside).isSome_iff

/-- The scan does not look at the first slot. When that one is empty its time is zero, and no
occupied slot has a smaller one. -/
theorem Represents.takes_chooseBuybackSlot (h : s.Represents entries) :
    TakesSlot entries s.chooseBuybackSlot := by
  unfold BuybackState.chooseBuybackSlot
  split
  case isFalse empty =>
    rw [h.isSome_eq h.cursor, Option.not_isSome_iff_eq_none] at empty
    exact ⟨h.cursor, .inl empty⟩
  case isTrue _ =>
    have scan := s.findOldestSlot_spec buybackCandidates buybackSlotStart
    simp only [Nat.sub_self] at scan
    revert scan
    generalize s.findOldestSlot buybackSlotStart (s.buybackTimestamp 0) buybackCandidates = chosen
    rintro (⟨found, empty⟩ | ⟨occupied, which, smallest⟩)
    · have inside := isBuybackSlot_of_mem_candidates found
      have cleared := h.isSome_eq inside
      exact ⟨inside, .inl (by simpa [empty] using cleared.symm)⟩
    have first : isBuybackSlot buybackSlotStart = true := rfl
    have inside : isBuybackSlot chosen = true :=
      which.elim (fun same => same ▸ first) fun found => isBuybackSlot_of_mem_candidates found.1
    refine ⟨inside, ?_⟩
    cases stored : entries buybackSlotStart with
    | none =>
      -- a smaller time than that of the empty first slot would be negative
      have zero : s.buybackTimestamp 0 = 0 := h.timestamp_of_none first stored
      rcases which with rfl | ⟨_, below⟩
      · exact .inl stored
      · exact absurd (below.trans_eq zero) (h.timestamp_nonneg inside).not_gt
    | some entry =>
      refine .inr ⟨fun other hother => ?_, fun oldest other entry' hchosen hother hentry => ?_⟩
      · rcases eq_or_ne other buybackSlotStart with rfl | ne
        · rw [stored]; rfl
        · rw [← h.isSome_eq hother]
          exact occupied other (mem_candidates hother ne)
      · have seen : other ∈ buybackSlotStart :: buybackCandidates := by
          rcases eq_or_ne other buybackSlotStart with rfl | ne
          · simp
          · exact List.mem_cons_of_mem _ (mem_candidates hother ne)
        have least := smallest other seen
        rwa [(h.timestamp_of_some inside hchosen).1, (h.timestamp_of_some hother hentry).1]
          at least

/-! ## Adds and whole runs -/

theorem Represents.addAt (h : s.Represents entries) (inside : isBuybackSlot slot = true)
    (entry : BuybackEntry) (timed : 0 ≤ entry.timestamp) :
    (((s.removeItemFromBuybackSlot slot).1.setSlot slot (some entry.guid) entry.guid entry.price
      entry.timestamp).advanceBuybackSlot).Represents
        (Function.update entries slot (some entry)) := by
  have written := (h.removeItem inside).setSlot inside (setSlot_holds _ slot entry timed)
  rw [Function.update_idem] at written
  exact written.advance

/-- The price of an object is that of its template for the whole stack. -/
theorem addItemObject_of_ok {item : SoldItem} {sellPrice : Option ℕ} {gameTime loginTime : ℤ}
    (removed : s.removeItemFromBuybackSlotObject s.chooseBuybackSlot overwrittenItem =
      .ok (s.removeItemFromBuybackSlot s.chooseBuybackSlot)) :
    s.step (.addObject item sellPrice gameTime loginTime overwrittenItem) =
      ((s.removeItemFromBuybackSlot s.chooseBuybackSlot).1.setSlot s.chooseBuybackSlot
        (some item.guid) item.guid
        ((sellPrice.map fun price => price * item.count % 2 ^ 32).getD 0)
        (objectTimestamp gameTime loginTime)).advanceBuybackSlot := by
  unfold BuybackState.step addItemObjectToBuybackSlot
  dsimp only
  rw [removed]
  cases sellPrice with
  | none => rfl
  | some price => rfl

theorem addItemObject_of_error {item : SoldItem} {sellPrice : Option ℕ} {gameTime loginTime : ℤ}
    {error : MismatchedItemGuid}
    (refused : s.removeItemFromBuybackSlotObject s.chooseBuybackSlot overwrittenItem =
      .error error) :
    s.step (.addObject item sellPrice gameTime loginTime overwrittenItem) = s := by
  unfold BuybackState.step addItemObjectToBuybackSlot
  dsimp only
  rw [refused]
  rfl

theorem Represents.step (h : s.Represents entries) (op : BuybackOp) (timed : op.Timed) :
    ∃ entries', BuybackStep entries op entries' ∧ (s.step op).Represents entries' := by
  have takes := h.takes_chooseBuybackSlot
  cases op with
  | add guid price timestamp =>
    exact ⟨_, .add takes, h.addAt takes.1 ⟨guid, price, timestamp⟩ timed⟩
  | addObject item sellPrice gameTime loginTime overwrittenItem =>
    rcases removeItemObject_cases takes.1 overwrittenItem with
      removed | ⟨expected, actual, stored, rfl, ne, refused⟩
    · refine ⟨_, .addObject takes, ?_⟩
      rw [addItemObject_of_ok removed]
      exact h.addAt takes.1 ⟨item.guid, _, _⟩ (objectTimestamp_nonneg gameTime loginTime)
    · have holds := h.holds _ takes.1
      rw [addItemObject_of_error refused]
      cases entry : entries s.chooseBuybackSlot with
      | none =>
        rw [entry] at holds
        exact absurd (holds.1.symm.trans stored) (by simp)
      | some old =>
        rw [entry] at holds
        have same : old.guid = expected := Option.some.inj (holds.1.symm.trans stored)
        exact ⟨entries, .refused takes entry (same ▸ ne), h⟩
  | remove slot =>
    cases inside : isBuybackSlot slot with
    | true => exact ⟨_, .remove inside, h.removeItem inside⟩
    | false =>
      refine ⟨_, .removeOutside inside, ?_⟩
      rw [BuybackState.step, removeItem_of_outside inside]
      exact h

/-- Every run of adds and removals is a run on one table of sales, of which the arrays show
each slot in full. -/
theorem buyback_run (h : s.Represents entries) {ops : List BuybackOp}
    (timed : ∀ op ∈ ops, op.Timed) :
    ∃ entries', RelRun BuybackStep entries ops entries' ∧
      (run BuybackState.step s ops).Represents entries' :=
  run_refines BuybackState.Represents (fun _ _ op hs hop => hs.step op hop) h
    (EachStep.of_forall (fun op hop _ => timed op hop) s)

/-- Thirteen sales: the oldest of the first twelve gives way to the last. -/
theorem buyback_run_thirteen :
    ∃ entries', RelRun BuybackStep (fun _ => none)
        ((List.range 13).map fun i => .add ⟨0, .ofNat 64 i⟩ i (i + 7)) entries' ∧
      (run BuybackState.step .default
        ((List.range 13).map fun i => .add ⟨0, .ofNat 64 i⟩ i (i + 7))).Represents entries' :=
  buyback_run default_represents (by
    intro op hop
    obtain ⟨i, _, rfl⟩ := List.mem_map.mp hop
    exact Int.add_nonneg (Int.natCast_nonneg i) (by decide))

end BuybackState

end RustyCore.Player
