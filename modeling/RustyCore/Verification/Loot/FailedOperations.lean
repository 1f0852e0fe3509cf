import RustyCore.Verification.Loot.Effects
import RustyCore.Verification.Loot.Looted

/-! # Prepared pools and failed operations

Preparing a pool admits the looters and counts the claims again from zero. The count
is a saturating sum over the items, so it is one clamp of the true sum. -/

namespace RustyCore.Loot

variable {item : ItemView} {m : ℕ}

/-! ## Admission -/

theorem core_admitLooter (player : ObjectGuid) (entry : LootEntry) :
    (admitLooter player entry).core = (entry.lootListId, entry.view.allowFor player) := by
  unfold admitLooter LootEntry.addAllowedLooterLikeCpp LootEntry.core LootEntry.view ItemView.allowFor
  split_ifs <;> rfl

/-- The second loop only sets flags and counts. -/
theorem cores_foldl_allowEntry (player : ObjectGuid) (ids : List ℕ) (items : List LootEntry)
    (acc : AllowAcc) :
    (items.foldl (allowEntry player ids) acc).items.map LootEntry.core =
      acc.items.map LootEntry.core ++ items.map LootEntry.core := by
  induction items generalizing acc with
  | nil => simp
  | cons entry items ih =>
    have hentry : (allowEntry player ids acc entry).items.map LootEntry.core =
        acc.items.map LootEntry.core ++ [entry.core] := by
      unfold allowEntry
      split_ifs <;> simp [LootEntry.core, LootEntry.view]
    rw [List.foldl_cons, ih, hentry]
    simp

theorem cores_markLootAllowed (loot : CreatureLoot) (player : ObjectGuid) :
    (markLootAllowedForPlayerLikeCpp loot player).items.map LootEntry.core =
      (loot.items.map LootEntry.core).map (fun item => (item.1, item.2.allowFor player)) := by
  simp only [markLootAllowedForPlayerLikeCpp, cores_foldl_allowEntry, List.map_nil,
    List.nil_append, List.map_map]
  exact List.map_congr_left fun entry _ => core_admitLooter player entry

theorem cores_foldl_markLootAllowed (loot : CreatureLoot) (looters : List ObjectGuid) :
    (looters.foldl markLootAllowedForPlayerLikeCpp loot).items.map LootEntry.core =
      (loot.items.map LootEntry.core).map
        (fun item => (item.1, looters.foldl ItemView.allowFor item.2)) := by
  induction looters generalizing loot with
  | nil => simp
  | cons player looters ih =>
    rw [List.foldl_cons, ih, cores_markLootAllowed, List.map_map]
    rfl

theorem coins_foldl_markLootAllowed (loot : CreatureLoot) (looters : List ObjectGuid) :
    (looters.foldl markLootAllowedForPlayerLikeCpp loot).coins = loot.coins := by
  induction looters generalizing loot with
  | nil => rfl
  | cons player looters ih => rw [List.foldl_cons, ih]; rfl

namespace ItemView

/-- Nobody has looted the item yet. -/
def Untouched (item : ItemView) : Prop := item.taken = false ∧ item.ffaLootedBy = []

theorem Untouched.allowFor (h : item.Untouched) (player : ObjectGuid) :
    (item.allowFor player).Untouched := by
  unfold ItemView.allowFor
  split_ifs
  · exact h
  · exact h
  · exact h

theorem Untouched.foldl_allowFor (h : item.Untouched) (looters : List ObjectGuid) :
    (looters.foldl ItemView.allowFor item).Untouched := by
  induction looters generalizing item with
  | nil => exact h
  | cons player looters ih => exact ih (h.allowFor player)

@[simp] theorem allowFor_freeforall (item : ItemView) (player : ObjectGuid) :
    (item.allowFor player).freeforall = item.freeforall := by
  unfold allowFor
  split_ifs <;> rfl

@[simp] theorem foldl_allowFor_freeforall (item : ItemView) (looters : List ObjectGuid) :
    (looters.foldl ItemView.allowFor item).freeforall = item.freeforall := by
  induction looters generalizing item with
  | nil => rfl
  | cons player looters ih => rw [List.foldl_cons, ih, allowFor_freeforall]

end ItemView

/-! ## Counting -/

/-- One saturating step after a clamped sum clamps the longer sum. -/
theorem saturatingAdd_min (m n : ℕ) : saturatingAdd 8 (min 255 m) n = min 255 (m + n) := by
  unfold saturatingAdd
  omega

theorem foldl_rebuildLooter (entry : LootEntry) (hentry : entry.ffaLootedBy = [])
    (looters : List ObjectGuid) (acc : RebuildAcc) (hacc : acc.unlootedCount = min 255 m) :
    (looters.foldl (rebuildLooter entry) acc).items = acc.items ∧
      (looters.foldl (rebuildLooter entry) acc).unlootedCount = min 255 (m + looters.length) := by
  induction looters generalizing acc m with
  | nil => exact ⟨rfl, hacc⟩
  | cons looter looters ih =>
    have hstep : (rebuildLooter entry acc looter).unlootedCount = min 255 (m + 1) := by
      simp [rebuildLooter, hentry, hacc, saturatingAdd_min]
    obtain ⟨hitems, hcount⟩ := ih (rebuildLooter entry acc looter) hstep
    refine ⟨hitems, hcount.trans ?_⟩
    rw [List.length_cons]
    congr 1
    omega

theorem rebuildEntry_spec (acc : RebuildAcc) {entry : LootEntry} (h : entry.view.Untouched)
    (hacc : acc.unlootedCount = min 255 m) :
    (rebuildEntry acc entry).items.map LootEntry.core =
        acc.items.map LootEntry.core ++ [entry.core] ∧
      (rebuildEntry acc entry).unlootedCount = min 255 (m + entry.view.counted) := by
  have htaken : entry.taken = false := h.1
  unfold rebuildEntry ItemView.counted
  by_cases hffa : entry.flags.freeforall = true
  · obtain ⟨hitems, hcount⟩ := foldl_rebuildLooter entry h.2 entry.allowedLooters acc hacc
    simp [hffa, hitems, hcount, LootEntry.core, LootEntry.view]
  · by_cases hnil : entry.allowedLooters.isEmpty = true
    · simp [hffa, hnil, hacc, LootEntry.core, LootEntry.view]
    · simp [hffa, hnil, htaken, hacc, saturatingAdd_min, LootEntry.core, LootEntry.view]

theorem foldl_rebuildEntry (items : List LootEntry) (h : ∀ entry ∈ items, entry.view.Untouched)
    (acc : RebuildAcc) (hacc : acc.unlootedCount = min 255 m) :
    (items.foldl rebuildEntry acc).items.map LootEntry.core =
        acc.items.map LootEntry.core ++ items.map LootEntry.core ∧
      (items.foldl rebuildEntry acc).unlootedCount =
        min 255 (m + (items.map (fun entry => entry.view.counted)).sum) := by
  induction items generalizing acc m with
  | nil => simpa using hacc
  | cons entry items ih =>
    obtain ⟨hitems, hcount⟩ := rebuildEntry_spec acc (h entry (by simp)) hacc
    obtain ⟨htail, htotal⟩ := ih (fun e he => h e (by simp [he])) (rebuildEntry acc entry) hcount
    constructor
    · rw [List.foldl_cons, htail, hitems]
      simp
    · rw [List.foldl_cons, htotal, List.map_cons, List.sum_cons, Nat.add_assoc]

def admitted (loot : CreatureLoot) (looters : List ObjectGuid) : List (ℕ × ItemView) :=
  loot.items.map fun entry => (entry.lootListId, looters.foldl ItemView.allowFor entry.view)

/-- A prepared pool has its looters admitted and its count clamped once. -/
theorem tally_prepare (loot : CreatureLoot) (looters : List ObjectGuid)
    (h : ∀ entry ∈ loot.items, entry.view.Untouched) :
    (prepareRepresentedSharedCreatureLootGenerationLikeCpp loot looters).tally =
      { coins := loot.coins
        count := min 255 ((admitted loot looters).map (fun item => item.2.counted)).sum
        items := admitted loot looters } := by
  let marked := looters.foldl markLootAllowedForPlayerLikeCpp loot
  have hcores : marked.items.map LootEntry.core = admitted loot looters :=
    (cores_foldl_markLootAllowed loot looters).trans (List.map_map ..)
  have huntouched : ∀ entry ∈ marked.items, entry.view.Untouched := by
    intro entry hentry
    have hmem : entry.core ∈ admitted loot looters := hcores ▸ List.mem_map_of_mem hentry
    obtain ⟨before, hbefore, heq⟩ := List.mem_map.mp hmem
    have hview : looters.foldl ItemView.allowFor before.view = entry.view := congrArg Prod.snd heq
    exact hview ▸ (h before hbefore).foldl_allowFor looters
  obtain ⟨hitems, hcount⟩ := foldl_rebuildEntry marked.items huntouched
    { items := [], playerFfaItems := [], unlootedCount := 0 } (show 0 = min 255 0 from rfl)
  have hsum : marked.items.map (fun entry => entry.view.counted) =
      (admitted loot looters).map (fun item => item.2.counted) := by
    rw [← hcores, List.map_map]
    rfl
  unfold CreatureLoot.tally
  rw [Tally.mk.injEq]
  refine ⟨coins_foldl_markLootAllowed loot looters, ?_, ?_⟩
  · rw [← hsum, ← Nat.zero_add (List.sum _)]
    exact hcount
  · rw [← hcores]
    exact hitems

/-! ## Who is admitted -/

namespace ItemView

variable {looters : List ObjectGuid}

theorem foldl_allowFor_of_freeforall (hffa : item.freeforall = true) (hnodup : looters.Nodup)
    (hreal : ∀ looter ∈ looters, looter.isEmpty = false) :
    (looters.foldl ItemView.allowFor item).allowedLooters =
      item.allowedLooters ++ looters.filter (fun looter => !item.allowedLooters.contains looter) := by
  induction looters generalizing item with
  | nil => simp
  | cons player looters ih =>
    have hplayer : player ∉ looters := (List.nodup_cons.mp hnodup).1
    rw [List.foldl_cons, ih (by simpa using hffa) (List.nodup_cons.mp hnodup).2
      (fun looter h => hreal looter (by simp [h]))]
    by_cases hmem : player ∈ item.allowedLooters
    · simp [allowFor, hffa, hmem]
    · have hfilter : ∀ looter ∈ looters, looter ≠ player := fun looter h heq =>
        hplayer (heq ▸ h)
      simp only [allowFor, hffa, hreal player (by simp), List.contains_eq_mem, hmem, Bool.or_true,
        decide_false, Bool.not_false, Bool.and_true, if_true, List.filter_cons, List.append_assoc,
        List.singleton_append]
      congr 2
      refine List.filter_congr fun looter h => ?_
      simp [hfilter looter h]

theorem foldl_allowFor_of_not_freeforall (hffa : item.freeforall = false)
    (hreal : ∀ looter ∈ looters, looter.isEmpty = false) :
    (looters.foldl ItemView.allowFor item).allowedLooters =
      if item.allowedLooters.isEmpty then looters.take 1 else item.allowedLooters := by
  have hkeep : ∀ (l : List ObjectGuid) (i : ItemView), i.freeforall = false →
      i.allowedLooters ≠ [] → (l.foldl ItemView.allowFor i).allowedLooters = i.allowedLooters := by
    intro l
    induction l with
    | nil => exact fun _ _ _ => rfl
    | cons player l ih =>
      intro i hi hne
      have hsame : i.allowFor player = i := by simp [allowFor, hi, hne]
      rw [List.foldl_cons, hsame]
      exact ih i hi hne
  by_cases hnil : item.allowedLooters = []
  · cases looters with
    | nil => simp [hnil]
    | cons player looters =>
      have hfirst : (item.allowFor player).allowedLooters = [player] := by
        simp [allowFor, hnil, hreal player (by simp)]
      rw [List.foldl_cons, hkeep looters _ (by simpa using hffa) (by simp [hfirst]), hfirst]
      simp [hnil]
  · rw [hkeep looters item hffa hnil]
    simp [hnil]

end ItemView

end RustyCore.Loot

/-! ## Failed operations

Opening a view and awarding a finished roll write to a pool before they know whether
they succeed. When they do not, they search the pool again and take the writes back;
what is left is the state that was found under the lock. -/

namespace RustyCore.Loot

variable {state : AuthorityState} {loot : CreatureLoot}
variable {scope : OwnedLootScope} {error : LootClaimError}

/-- The same state, field by field. The personal pools are a hash map without an
order, so they are compared player by player. -/
structure SameState (state state' : AuthorityState) : Prop where
  fields : state' = { state with personal := state'.personal }
  personal : ∀ player, state'.personal.lookup player = state.personal.lookup player

theorem SameState.refl (state : AuthorityState) : SameState state state := ⟨rfl, fun _ => rfl⟩

/-- States that agree on every pool and on everything aside from the pools. -/
theorem SameState.of_pools {state' : AuthorityState} (haside : SamePoolsAside state state')
    (hpools : ∀ scope, lootForScope state' scope = lootForScope state scope) :
    SameState state state' := by
  have hshared : state'.shared = state.shared := hpools .shared
  refine ⟨?_, fun player => hpools (.personal player)⟩
  unfold SamePoolsAside at haside
  rw [hshared] at haside
  exact haside

theorem sameState_setLootForScope (h : lootForScope state scope = some loot) :
    SameState state (setLootForScope state scope loot) := by
  refine .of_pools (samePoolsAside_setLootForScope state scope loot) fun scope' => ?_
  rw [lootForScope_setLootForScope]
  split_ifs with hscope
  · rw [hscope, h]
  · rfl

theorem sameState_putBack (h : lootForScope state scope = some loot) (edited : CreatureLoot) :
    SameState state (setLootForScope (setLootForScope state scope edited) scope loot) := by
  refine .of_pools ((samePoolsAside_setLootForScope state scope edited).trans
    (samePoolsAside_setLootForScope _ scope loot)) fun scope' => ?_
  rw [lootForScope_setLootForScope, lootForScope_setLootForScope]
  split_ifs with hscope
  · rw [hscope, h]
  · rfl

/-! ## Opening a view -/

theorem filter_append_self {viewers : List ObjectGuid} {player : ObjectGuid}
    (h : player ∉ viewers) :
    (viewers ++ [player]).filter (fun viewer => viewer != player) = viewers := by
  rw [List.filter_append, List.filter_eq_self.mpr]
  · simp
  · intro viewer hviewer
    simpa using ne_of_mem_of_not_mem hviewer h

theorem tryOpenView_error {R : Type} (state : AuthorityState) (player : ObjectGuid)
    (observe : OwnedLootSnapshot → LootViewerOpenOutcome → Option R)
    (h : (tryOpenViewWithSnapshotLikeCpp state player observe).1 = .error error) :
    SameState state (tryOpenViewWithSnapshotLikeCpp state player observe).2 := by
  unfold tryOpenViewWithSnapshotLikeCpp at h ⊢
  split
  · exact .refl state
  rename_i hactive
  rw [if_neg hactive] at h
  cases hscope : selectedScopeLikeCpp state player with
  | none => exact .refl state
  | some scope =>
  cases hepoch : scopeEpoch state scope with
  | none => simpa only [hepoch] using SameState.refl state
  | some generation =>
  cases hloot : lootForScope state scope with
  | none => simpa only [hepoch, hloot] using SameState.refl state
  | some loot =>
  simp only [hscope, hepoch, hloot] at h ⊢
  split at h
  · cases h
  -- The pool that is put back is the pool that was opened.
  have hback : ∀ restored : CreatureLoot, restored = loot →
      SameState state (setLootForScope state scope restored) := by
    intro restored hrestored
    exact hrestored ▸ sameState_setLootForScope hloot
  apply hback
  by_cases hviewer : player ∈ loot.playersLooting
  · simp [hviewer]
  · simp [hviewer, filter_append_self hviewer]

/-! ## Awarding a finished roll -/

theorem setItemRoll_putBack {lootListId : ℕ} {previous : LootEntry}
    (h : loot.itemLikeCpp lootListId = some previous) (blocked underThreshold : Bool)
    (winner : ObjectGuid) :
    setItemRoll (setItemRoll loot lootListId blocked underThreshold winner) lootListId
      previous.flags.blocked previous.flags.underThreshold previous.rollWinner = loot := by
  simp only [setItemRoll]
  rw [modifyFirst_modifyFirst]
  · rw [modifyFirst_eq_self h rfl]
  · exact fun entry hentry => hentry

theorem reserveItemOnce_unacquired (state : AuthorityState) (player : ObjectGuid)
    (lootListId : ℕ) (mode : LootItemClaimMode) (expected : Option ℕ)
    (h : ∀ generation token key payload,
      (reserveItemOnce state player lootListId mode expected).1 ≠
        .acquired generation token key payload) :
    (reserveItemOnce state player lootListId mode expected).2 = state := by
  have hspec := reserveItemOnce_spec state player lootListId mode expected
  generalize reserveItemOnce state player lootListId mode expected = attempt at h hspec
  cases hspec with
  | acquired => exact absurd rfl (h _ _ _ _)
  | wait => rfl
  | rejected => rfl

theorem reserveMoneyOnce_unacquired (state : AuthorityState) (player : ObjectGuid)
    (expected : Option ℕ)
    (h : ∀ generation token key payload,
      (reserveMoneyOnce state player expected).1 ≠ .acquired generation token key payload) :
    (reserveMoneyOnce state player expected).2 = state := by
  have hspec := reserveMoneyOnce_spec state player expected
  generalize reserveMoneyOnce state player expected = attempt at h hspec
  cases hspec with
  | acquired => exact absurd rfl (h _ _ _ _)
  | wait => rfl
  | rejected => rfl

theorem finishItemRollAndReserveAward_error (state : AuthorityState) (scopePlayer : ObjectGuid)
    (expectedGeneration lootListId : ℕ) (winner : ObjectGuid)
    (h : (finishItemRollAndReserveAwardLikeCpp state scopePlayer expectedGeneration lootListId
      winner).1 = .error error) :
    SameState state (finishItemRollAndReserveAwardLikeCpp state scopePlayer expectedGeneration
      lootListId winner).2 := by
  unfold finishItemRollAndReserveAwardLikeCpp at h ⊢
  split
  · exact .refl state
  rename_i hactive
  rw [if_neg hactive] at h
  cases hscope : selectedScopeLikeCpp state scopePlayer with
  | none => exact .refl state
  | some scope =>
  simp only [hscope] at h ⊢
  split
  · exact .refl state
  rename_i hwinner
  rw [if_neg hwinner] at h
  split
  · exact .refl state
  rename_i hepoch
  rw [if_neg hepoch] at h
  cases hloot : lootForScope state scope with
  | none => exact .refl state
  | some loot =>
  simp only [hloot] at h ⊢
  cases hitem : loot.itemLikeCpp lootListId with
  | none => exact .refl state
  | some previous =>
  simp only [hitem] at h ⊢
  have hspec := reserveItemOnce_spec
    (setLootForScope state scope (setItemRoll loot lootListId false false winner)) winner
    lootListId .award (some expectedGeneration)
  generalize reserveItemOnce _ winner lootListId .award _ = attempt at h hspec
  have hundo := sameState_putBack hloot (setItemRoll loot lootListId false false winner)
  cases hspec with
  | acquired => cases h
  | wait =>
    simp only [lootForScope_setLootForScope, if_true, setItemRoll_putBack hitem]
    exact hundo
  | rejected =>
    simp only [lootForScope_setLootForScope, if_true, setItemRoll_putBack hitem]
    exact hundo

/-- An operation on an authority that is refused leaves the state it found. -/
theorem failed_loot_operations_leave_no_trace (state : AuthorityState) :
    (∀ (scopePlayer : ObjectGuid) (expectedGeneration lootListId : ℕ) (winner : ObjectGuid)
        (error : LootClaimError),
      (finishItemRollAndReserveAwardLikeCpp state scopePlayer expectedGeneration lootListId
        winner).1 = .error error →
      SameState state (finishItemRollAndReserveAwardLikeCpp state scopePlayer expectedGeneration
        lootListId winner).2) ∧
    (∀ (R : Type) (player : ObjectGuid)
        (observe : OwnedLootSnapshot → LootViewerOpenOutcome → Option R) (error : LootClaimError),
      (tryOpenViewWithSnapshotLikeCpp state player observe).1 = .error error →
      SameState state (tryOpenViewWithSnapshotLikeCpp state player observe).2) ∧
    (∀ (player : ObjectGuid) (lootListId : ℕ) (mode : LootItemClaimMode) (expected : Option ℕ),
      ((reserveItemOnce state player lootListId mode expected).1 = .wait ∨
        ∃ error, (reserveItemOnce state player lootListId mode expected).1 = .rejected error) →
      (reserveItemOnce state player lootListId mode expected).2 = state) ∧
    (∀ (player : ObjectGuid) (expected : Option ℕ),
      ((reserveMoneyOnce state player expected).1 = .wait ∨
        ∃ error, (reserveMoneyOnce state player expected).1 = .rejected error) →
      (reserveMoneyOnce state player expected).2 = state) := by
  refine ⟨fun scopePlayer generation id winner error h => ?_, fun R player observe error h => ?_,
    fun player id mode expected h => ?_, fun player expected h => ?_⟩
  · exact finishItemRollAndReserveAward_error state scopePlayer generation id winner h
  · exact tryOpenView_error state player observe h
  · refine reserveItemOnce_unacquired state player id mode expected
      fun generation token key payload hacquired => ?_
    rw [hacquired] at h
    rcases h with h | ⟨error, h⟩ <;> cases h
  · refine reserveMoneyOnce_unacquired state player expected
      fun generation token key payload hacquired => ?_
    rw [hacquired] at h
    rcases h with h | ⟨error, h⟩ <;> cases h

/-- One taken item in a shared pool that nobody has opened yet. -/
def takenItem : AuthorityState :=
  (replaceLikeCpp .default
    (some {
      lootGuid := ⟨1, 0⟩, coins := 0, unlootedCount := 0, lootType := 1, dungeonEncounterId := 0,
      lootMethod := 0, lootMaster := .empty, roundRobinPlayer := .empty, playerFfaItems := [],
      playersLooting := [], allowedLooters := [⟨2, 0⟩], lootedByPlayer := false
      items := [{
        lootListId := 0, itemId := 25, quantity := 1, randomPropertiesId := 0,
        randomPropertiesSeed := 0, itemContext := 0, flags := { blocked := true },
        allowedLooters := [⟨2, 0⟩], rollWinner := .empty, ffaLootedBy := [], taken := true }] })
    ∅).2

theorem failed_loot_operations_leave_no_trace_taken :
    SameState takenItem (finishItemRollAndReserveAwardLikeCpp takenItem ⟨2, 0⟩ 1 0 ⟨2, 0⟩).2 ∧
    SameState takenItem (tryOpenViewWithSnapshotLikeCpp takenItem ⟨2, 0⟩
      fun _ _ => (none : Option Unit)).2 ∧
    (reserveItemOnce takenItem ⟨2, 0⟩ 0 .direct none).2 = takenItem ∧
    (reserveMoneyOnce takenItem ⟨3, 0⟩ none).2 = takenItem :=
  ⟨(failed_loot_operations_leave_no_trace takenItem).1 ⟨2, 0⟩ 1 0 ⟨2, 0⟩ .itemAlreadyLooted
      (rfl),
    (failed_loot_operations_leave_no_trace takenItem).2.1 Unit ⟨2, 0⟩ _ .responseEnqueueFailed
      (rfl),
    (failed_loot_operations_leave_no_trace takenItem).2.2.1 ⟨2, 0⟩ 0 .direct none
      (.inr ⟨.itemAlreadyLooted, rfl⟩),
    (failed_loot_operations_leave_no_trace takenItem).2.2.2 ⟨3, 0⟩ none
      (.inr ⟨.playerNotAllowed, rfl⟩)⟩

end RustyCore.Loot
