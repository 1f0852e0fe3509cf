import RustyCore.Library.DictSum
import RustyCore.Verification.Player.ReputationSteps

/-! # Rank counters

The counters of a reputation manager against its faction states. Factions with a friendship are
not counted by rank; paragon and renown factions are counted by the standing that they were
loaded with, since a change of their standing does not move the counters. -/

namespace RustyCore.Player

open ReputationMgr

variable {catalogs : ReputationCatalogs} {id : ℕ} {player : RaceAndClass}

/-! ## What is counted -/

/-- Whether a change of the standing of a faction changes its rank: no paragon or renown one. -/
def FactionEntry.isRanked (catalogs : ReputationCatalogs) (entry : FactionEntry) : Bool :=
  (catalogs.paragonReputation entry.id).isNone && decide (entry.renownCurrencyId ≤ 0)

/-- The rank that a faction state is counted with, if it is; `standingOf` gives the standing that
is counted for a faction, a list id and the current standing. -/
def countedRank (catalogs : ReputationCatalogs) (player : RaceAndClass)
    (standingOf : FactionEntry → ℕ → ℤ → ℤ) (faction : FactionState) : Option ReputationRank :=
  (catalogs.factionStore.get faction.factionId).bind fun entry =>
    if entry.friendshipRepId = 0 then
      some (reputationToRank catalogs entry (baseReputation entry player +
        standingOf entry faction.reputationListId faction.standing))
    else none

def currentStanding : FactionEntry → ℕ → ℤ → ℤ := fun _ _ standing => standing

/-- Paragon and renown factions are counted by their standing in `loaded`. -/
def standingSince (catalogs : ReputationCatalogs) (loaded : ReputationMgr) :
    FactionEntry → ℕ → ℤ → ℤ := fun entry repListId standing =>
  if entry.isRanked catalogs then standing
  else ((loaded.factions.get repListId).map FactionState.standing).getD 0

/-- Whether the rank is there, and at least the bound. -/
def reaches (bound : ReputationRank) (rank : Option ReputationRank) : Bool :=
  rank.any fun rank => bound.asU8 ≤ rank.asU8

def isShown (faction : FactionState) : Bool := faction.flags.contains .visible

structure CountersExact (rankOf : FactionState → Option ReputationRank) (mgr : ReputationMgr) :
    Prop where
  visible : mgr.rankCounters.visible = mgr.factions.values.countP isShown
  honored : mgr.rankCounters.honored =
    mgr.factions.values.countP fun faction => reaches .honored (rankOf faction)
  revered : mgr.rankCounters.revered =
    mgr.factions.values.countP fun faction => reaches .revered (rankOf faction)
  exalted : mgr.rankCounters.exalted =
    mgr.factions.values.countP fun faction => reaches .exalted (rankOf faction)

/-- The reputation indexes are 16-bit numbers, and no two factions that can have reputation have
the same one. -/
structure DistinctIndexes (store : FactionStore) : Prop where
  i16 : ∀ id entry, store.get id = some entry →
    -32768 ≤ entry.reputationIndex ∧ entry.reputationIndex < 32768
  distinct : ∀ id id' entry entry', store.get id = some entry → store.get id' = some entry' →
    entry.canHaveReputation = true → entry'.canHaveReputation = true →
    entry.reputationIndex = entry'.reputationIndex → entry = entry'

theorem DistinctIndexes.eq_of_repListId {store : FactionStore} (h : DistinctIndexes store)
    {id' : ℕ} {entry entry' : FactionEntry} (hentry : store.get id = some entry)
    (hentry' : store.get id' = some entry') (hcan : entry.canHaveReputation = true)
    (hsame : entry.repListId = entry'.repListId) : entry = entry' := by
  have hrange := h.i16 id entry hentry
  have hrange' := h.i16 id' entry' hentry'
  have hnonneg := of_decide_eq_true hcan
  simp only [FactionEntry.repListId] at hsame
  have hindex : entry.reputationIndex = entry'.reputationIndex := by omega
  have hcan' : entry'.canHaveReputation = true := by
    rw [FactionEntry.canHaveReputation, ← hindex]
    exact hcan
  exact h.distinct id id' entry entry' hentry hentry' hcan hcan' hindex

/-- At most 255 states, each of a faction of the catalogs at its index, with exact counters. -/
structure Counted (catalogs : ReputationCatalogs) (rankOf : FactionState → Option ReputationRank)
    (mgr : ReputationMgr) : Prop where
  ofCatalog : ∀ id faction, mgr.factions.get id = some faction →
    ∃ entry, catalogs.factionStore.get faction.factionId = some entry ∧
      entry.canHaveReputation = true ∧ entry.repListId = id
  few : mgr.factions.values.length ≤ 255
  exact : CountersExact rankOf mgr

/-- The counted rank does not depend on the flags of a state. -/
def IgnoresFlags (rankOf : FactionState → Option ReputationRank) : Prop :=
  ∀ faction faction' : FactionState, faction'.factionId = faction.factionId →
    faction'.reputationListId = faction.reputationListId → faction'.standing = faction.standing →
    rankOf faction' = rankOf faction

theorem ignoresFlags_countedRank (catalogs : ReputationCatalogs) (player : RaceAndClass)
    (standingOf : FactionEntry → ℕ → ℤ → ℤ) :
    IgnoresFlags (countedRank catalogs player standingOf) := by
  intro faction faction' hid hkey hstanding
  simp only [countedRank, hid, hkey, hstanding]

theorem countedRank_of_get {entry : FactionEntry} {faction : FactionState}
    (hentry : catalogs.factionStore.get faction.factionId = some entry) (player : RaceAndClass)
    (standingOf : FactionEntry → ℕ → ℤ → ℤ) :
    countedRank catalogs player standingOf faction =
      if entry.friendshipRepId = 0 then
        some (reputationToRank catalogs entry (baseReputation entry player +
          standingOf entry faction.reputationListId faction.standing))
      else none := by
  rw [countedRank, hentry, Option.bind_some]

/-! ## Counting -/

section Counting

variable {factions : KeyedMap FactionState.reputationListId} (p : FactionState → Bool)
variable {new : FactionState}

theorem countP_insert {old : FactionState} (hold : factions.get new.reputationListId = some old) :
    (factions.insert new).values.countP p + (if p old then 1 else 0) =
      (if p new then 1 else 0) + factions.values.countP p := by
  have hinsert := Dict.countP_values_insert p factions.dict new.reputationListId new
  rw [show factions.dict.lookup new.reputationListId = some old from hold] at hinsert
  exact hinsert

theorem countP_insert_new (hnew : factions.get new.reputationListId = none) :
    (factions.insert new).values.countP p =
      (if p new then 1 else 0) + factions.values.countP p := by
  have hinsert := Dict.countP_values_insert p factions.dict new.reputationListId new
  rw [show factions.dict.lookup new.reputationListId = none from hnew] at hinsert
  exact hinsert

theorem le_countP {faction : FactionState} (hget : factions.get id = some faction) :
    (if p faction then 1 else 0) ≤ factions.values.countP p := by
  split
  · exact List.countP_pos_iff.mpr ⟨faction, Dict.mem_values_iff.mpr ⟨id, hget⟩, ‹_›⟩
  · exact Nat.zero_le _

theorem length_insert {old : FactionState} (hold : factions.get new.reputationListId = some old) :
    (factions.insert new).values.length = factions.values.length := by
  have hcount := countP_insert (fun _ => true) hold
  simp only [List.countP_true, if_true] at hcount
  omega

end Counting

def adjustReached (up : Bool) (bound : ReputationRank) (rank : Option ReputationRank)
    (counter : ℕ) : ℕ :=
  if reaches bound rank then adjustCounter up counter else counter

theorem adjustReached_move {bound : ReputationRank} {old new : Option ReputationRank}
    {count count' : ℕ}
    (hcount : count' + (if reaches bound old then 1 else 0) =
      (if reaches bound new then 1 else 0) + count)
    (hold : (if reaches bound old then 1 else 0) ≤ count) (hfew : count' ≤ 255) :
    adjustReached true bound new (adjustReached false bound old count) = count' := by
  simp only [adjustReached, adjustCounter, if_true, Bool.false_eq_true, if_false]
  split_ifs at hcount hold ⊢ <;> omega

theorem countRank_eq (up : Bool) (rank : ReputationRank) (counters : ReputationRankCounters) :
    countRank up rank counters =
      { counters with
        honored := adjustReached up .honored (some rank) counters.honored
        revered := adjustReached up .revered (some rank) counters.revered
        exalted := adjustReached up .exalted (some rank) counters.exalted } := by
  simp [countRank, adjustReached, reaches]

theorem contains_visible_or (flags flag : ReputationFlags) (hflag : flag &&& .visible = 0) :
    (flags ||| flag).contains .visible = flags.contains .visible := by
  have hand : (flags ||| flag) &&& ReputationFlags.visible = flags &&& ReputationFlags.visible := by
    rw [BitVec.and_or_distrib_right, hflag]
    exact BitVec.or_zero
  rw [ReputationFlags.contains, ReputationFlags.contains, hand]

theorem contains_visible_or_visible (flags : ReputationFlags) :
    (flags ||| .visible).contains .visible = true := by
  have hand : (flags ||| ReputationFlags.visible) &&& ReputationFlags.visible =
      ReputationFlags.visible := by
    ext i
    rw [BitVec.getElem_and, BitVec.getElem_or]
    cases ReputationFlags.visible[i] <;> simp
  rw [ReputationFlags.contains, hand, beq_self_eq_true]

theorem contains_visible_remove (flags flag : ReputationFlags)
    (hflag : ~~~flag &&& .all &&& .visible = .visible) :
    (flags.remove flag).contains .visible = flags.contains .visible := by
  rw [ReputationFlags.contains, ReputationFlags.contains, ReputationFlags.remove,
    BitVec.and_assoc, hflag]

/-! ## One state changes -/

namespace Counted

variable {catalogs : ReputationCatalogs} {rankOf : FactionState → Option ReputationRank}
  {mgr : ReputationMgr}
variable {new old faction : FactionState}

theorem congr {mgr' : ReputationMgr} (h : Counted catalogs rankOf mgr)
    (hfactions : mgr'.factions = mgr.factions) (hcounters : mgr'.rankCounters = mgr.rankCounters) :
    Counted catalogs rankOf mgr' := by
  refine ⟨?_, ?_, ?_, ?_, ?_, ?_⟩
  · rw [hfactions]
    exact h.ofCatalog
  · rw [hfactions]
    exact h.few
  · rw [hfactions, hcounters]
    exact h.exact.visible
  · rw [hfactions, hcounters]
    exact h.exact.honored
  · rw [hfactions, hcounters]
    exact h.exact.revered
  · rw [hfactions, hcounters]
    exact h.exact.exalted

/-- A state of the same faction takes the place of another one; the counters follow. -/
theorem replace (h : Counted catalogs rankOf mgr)
    (hold : mgr.factions.get new.reputationListId = some old)
    (hid : new.factionId = old.factionId) {counters : ReputationRankCounters}
    (hvisible : counters.visible + (if isShown old then 1 else 0) =
      (if isShown new then 1 else 0) + mgr.rankCounters.visible)
    (hhonored : counters.honored = adjustReached true .honored (rankOf new)
      (adjustReached false .honored (rankOf old) mgr.rankCounters.honored))
    (hrevered : counters.revered = adjustReached true .revered (rankOf new)
      (adjustReached false .revered (rankOf old) mgr.rankCounters.revered))
    (hexalted : counters.exalted = adjustReached true .exalted (rankOf new)
      (adjustReached false .exalted (rankOf old) mgr.rankCounters.exalted)) :
    Counted catalogs rankOf
      { mgr with factions := mgr.factions.insert new, rankCounters := counters } := by
  have hfew : (mgr.factions.insert new).values.length ≤ 255 :=
    (length_insert hold).trans_le h.few
  have hrank (bound : ReputationRank) :
      adjustReached true bound (rankOf new) (adjustReached false bound (rankOf old)
        (mgr.factions.values.countP fun faction => reaches bound (rankOf faction))) =
      (mgr.factions.insert new).values.countP fun faction => reaches bound (rankOf faction) :=
    adjustReached_move (countP_insert (fun faction => reaches bound (rankOf faction)) hold)
      (le_countP (fun faction => reaches bound (rankOf faction)) hold)
      (List.countP_le_length.trans hfew)
  refine ⟨fun id faction hget => ?_, hfew, ?_, ?_, ?_, ?_⟩
  · simp only [KeyedMap.get_insert] at hget
    split at hget
    · rename_i hkey
      cases hget
      rw [hid, hkey]
      exact h.ofCatalog _ old hold
    · exact h.ofCatalog id faction hget
  · have hcount := countP_insert isShown hold
    have := h.exact.visible
    simp only
    omega
  · rw [← hrank .honored, ← h.exact.honored]
    exact hhonored
  · rw [← hrank .revered, ← h.exact.revered]
    exact hrevered
  · rw [← hrank .exalted, ← h.exact.exalted]
    exact hexalted

/-- A new state of a faction is counted as one whose rank was hostile. -/
theorem add (h : Counted catalogs rankOf mgr)
    (hnew : mgr.factions.get new.reputationListId = none)
    (hcatalog : ∃ entry, catalogs.factionStore.get new.factionId = some entry ∧
      entry.canHaveReputation = true ∧ entry.repListId = new.reputationListId)
    (hroom : mgr.factions.values.length < 255) {counters : ReputationRankCounters}
    (hvisible : counters.visible = (if isShown new then 1 else 0) + mgr.rankCounters.visible)
    (hhonored : counters.honored =
      adjustReached true .honored (rankOf new) mgr.rankCounters.honored)
    (hrevered : counters.revered =
      adjustReached true .revered (rankOf new) mgr.rankCounters.revered)
    (hexalted : counters.exalted =
      adjustReached true .exalted (rankOf new) mgr.rankCounters.exalted) :
    Counted catalogs rankOf
      { mgr with factions := mgr.factions.insert new, rankCounters := counters } := by
  have hlength : (mgr.factions.insert new).values.length = 1 + mgr.factions.values.length := by
    simpa using countP_insert_new (fun _ => true) hnew
  have hrank (bound : ReputationRank) :
      adjustReached true bound (rankOf new)
        (mgr.factions.values.countP fun faction => reaches bound (rankOf faction)) =
      (mgr.factions.insert new).values.countP fun faction => reaches bound (rankOf faction) := by
    have hcount := countP_insert_new (fun faction => reaches bound (rankOf faction)) hnew
    have hle : (mgr.factions.values.countP fun faction => reaches bound (rankOf faction)) ≤
        mgr.factions.values.length := List.countP_le_length
    simp only [adjustReached, adjustCounter, if_true]
    split_ifs at hcount ⊢ <;> omega
  refine ⟨fun id faction hget => ?_, by simp only; omega, ?_, ?_, ?_, ?_⟩
  · simp only [KeyedMap.get_insert] at hget
    split at hget
    · rename_i hkey
      cases hget
      rw [hkey]
      exact hcatalog
    · exact h.ofCatalog id faction hget
  · rw [hvisible, h.exact.visible]
    exact (countP_insert_new isShown hnew).symm
  · rw [← hrank .honored, ← h.exact.honored]
    exact hhonored
  · rw [← hrank .revered, ← h.exact.revered]
    exact hrevered
  · rw [← hrank .exalted, ← h.exact.exalted]
    exact hexalted

theorem recount (h : Counted catalogs rankOf mgr) (hget : mgr.factions.get id = some faction)
    (bound : ReputationRank) :
    adjustReached true bound (rankOf faction) (adjustReached false bound (rankOf faction)
        (mgr.factions.values.countP fun faction => reaches bound (rankOf faction))) =
      mgr.factions.values.countP fun faction => reaches bound (rankOf faction) :=
  adjustReached_move (Nat.add_comm _ _)
    (le_countP (fun faction => reaches bound (rankOf faction)) hget)
    (List.countP_le_length.trans h.few)

theorem replace_shown (h : Counted catalogs rankOf mgr)
    (hold : mgr.factions.get new.reputationListId = some old)
    (hid : new.factionId = old.factionId) (hrank : rankOf new = rankOf old) {visible : ℕ}
    (hvisible : visible + (if isShown old then 1 else 0) =
      (if isShown new then 1 else 0) + mgr.rankCounters.visible) :
    Counted catalogs rankOf
      { mgr with
        factions := mgr.factions.insert new
        rankCounters := { mgr.rankCounters with visible := visible } } := by
  refine h.replace hold hid hvisible ?_ ?_ ?_
  · rw [hrank, h.exact.honored]
    exact (h.recount hold .honored).symm
  · rw [hrank, h.exact.revered]
    exact (h.recount hold .revered).symm
  · rw [hrank, h.exact.exalted]
    exact (h.recount hold .exalted).symm

theorem replace_same (h : Counted catalogs rankOf mgr)
    (hold : mgr.factions.get new.reputationListId = some old)
    (hid : new.factionId = old.factionId) (hshown : isShown new = isShown old)
    (hrank : rankOf new = rankOf old) :
    Counted catalogs rankOf { mgr with factions := mgr.factions.insert new } := by
  refine h.replace_shown hold hid hrank ?_
  rw [hshown, Nat.add_comm]

/-! ## Flags -/

section Flags

variable (hflags : IgnoresFlags rankOf)
include hflags

theorem withFlags (h : Counted catalogs rankOf mgr) {repListId : ℕ}
    (hget : mgr.factions.get repListId = some faction) {flags : ReputationFlags}
    (hshown : flags.contains .visible = faction.flags.contains .visible) :
    Counted catalogs rankOf (mgr.withFlags faction flags) := by
  have hkey : faction.reputationListId = repListId := KeyedMap.key_of_get hget
  subst hkey
  exact h.replace_same hget rfl hshown (hflags faction _ rfl rfl rfl)

theorem setInactive (h : Counted catalogs rankOf mgr) (repListId : ℕ) (inactive : Bool) :
    Counted catalogs rankOf (mgr.setInactive repListId inactive) := by
  rw [ReputationMgr.setInactive]
  cases hget : mgr.factions.get repListId with
  | none => exact h
  | some faction =>
    simp only
    split
    · exact h
    · split
      · exact h
      · refine h.withFlags hflags hget ?_
        cases inactive with
        | true => exact contains_visible_or _ _ (by decide)
        | false => exact contains_visible_remove _ _ (by decide)

theorem setAtWar (h : Counted catalogs rankOf mgr) (repListId : ℕ) (atWar : Bool)
    (entry : FactionEntry) (player : RaceAndClass) :
    Counted catalogs rankOf (mgr.setAtWar catalogs repListId atWar entry player) := by
  rw [ReputationMgr.setAtWar]
  cases hget : mgr.factions.get repListId with
  | none => exact h
  | some faction =>
    simp only
    split
    · exact h
    · split
      · exact h
      · split
        · exact h
        · refine h.withFlags hflags hget ?_
          cases atWar with
          | true => exact contains_visible_or _ _ (by decide)
          | false => exact contains_visible_remove _ _ (by decide)

theorem setVisible (h : Counted catalogs rankOf mgr) (repListId : ℕ) :
    Counted catalogs rankOf (mgr.setVisible catalogs repListId) := by
  rw [ReputationMgr.setVisible]
  cases hget : mgr.factions.get repListId with
  | none => exact h
  | some faction =>
    simp only
    split_ifs with _ _ _ hshown
    · exact h
    · exact h
    · exact h
    · exact h
    · have hkey : faction.reputationListId = repListId := KeyedMap.key_of_get hget
      subst hkey
      have hhidden : isShown faction = false := Bool.eq_false_iff.mpr hshown
      let new : FactionState :=
        { faction with flags := faction.flags ||| .visible, needSend := true, needSave := true }
      have hnew : isShown new = true := contains_visible_or_visible faction.flags
      have hcount : (mgr.factions.insert new).values.countP isShown + _ = _ + _ :=
        countP_insert isShown hget
      have hlength : (mgr.factions.insert new).values.length = _ := length_insert hget
      have hroom := (List.countP_le_length (p := isShown)).trans (hlength.trans_le h.few)
      have hrank : rankOf new = rankOf faction := hflags faction new rfl rfl rfl
      refine @replace_shown _ _ _ new faction h hget rfl hrank _ ?_
      simp only [ReputationMgr.withFlags, hhidden, hnew, Bool.false_eq_true, if_false,
        if_true] at hcount ⊢
      rw [h.exact.visible, adjustCounter, if_pos rfl]
      omega

end Flags

/-! ## Standings -/

theorem moveStanding (h : Counted catalogs rankOf mgr) {repListId : ℕ}
    (hget : mgr.factions.get repListId = some faction) {f : FactionState → FactionState}
    (hid : (f faction).factionId = faction.factionId)
    (hkey : (f faction).reputationListId = faction.reputationListId)
    (hshown : isShown (f faction) = isShown faction) {friendshipRepId : ℕ}
    {old new : ReputationRank}
    (hold : rankOf faction = if friendshipRepId = 0 then some old else none)
    (hnew : rankOf (f faction) = if friendshipRepId = 0 then some new else none) :
    Counted catalogs rankOf
      ((if friendshipRepId = 0 then mgr.updateRankCounters old new else mgr).modifyFaction
        repListId f) := by
  have hplace : mgr.factions.get (f faction).reputationListId = some faction := by
    rw [hkey, KeyedMap.key_of_get hget]
    exact hget
  by_cases hfriend : friendshipRepId = 0
  · rw [if_pos hfriend] at hold hnew ⊢
    rw [modifyFaction, updateRankCounters]
    simp only [hget, countRank_eq]
    rw [← hold, ← hnew]
    refine h.replace hplace hid ?_ rfl rfl rfl
    rw [hshown, Nat.add_comm]
  · rw [if_neg hfriend] at hold hnew ⊢
    rw [modifyFaction]
    simp only [hget]
    exact h.replace_same hplace hid hshown (hnew.trans hold.symm)

theorem keepStanding (h : Counted catalogs rankOf mgr) (repListId : ℕ)
    {f : FactionState → FactionState} (hid : ∀ faction, (f faction).factionId = faction.factionId)
    (hkey : ∀ faction, (f faction).reputationListId = faction.reputationListId)
    (hshown : ∀ faction, isShown (f faction) = isShown faction)
    (hrank : ∀ faction, mgr.factions.get repListId = some faction →
      rankOf (f faction) = rankOf faction) :
    Counted catalogs rankOf (mgr.modifyFaction repListId f) := by
  rw [modifyFaction]
  cases hget : mgr.factions.get repListId with
  | none => exact h
  | some faction =>
    have hplace : mgr.factions.get (f faction).reputationListId = some faction := by
      rw [hkey, KeyedMap.key_of_get hget]
      exact hget
    exact h.replace_same hplace (hid faction) (hshown faction) (hrank faction hget)

end Counted

/-- Every faction that has a state still has one. -/
def KeepsStates (mgr mgr' : ReputationMgr) : Prop :=
  ∀ id, (mgr.factions.get id).isSome → (mgr'.factions.get id).isSome

theorem keepsStates_withFlags (mgr : ReputationMgr) (faction : FactionState)
    (flags : ReputationFlags) : KeepsStates mgr (mgr.withFlags faction flags) := by
  intro id hsome
  simp only [withFlags, KeyedMap.get_insert]
  split
  · rfl
  · exact hsome

theorem keepsStates_setVisible (mgr : ReputationMgr) (catalogs : ReputationCatalogs)
    (repListId : ℕ) : KeepsStates mgr (mgr.setVisible catalogs repListId) := by
  rw [setVisible]
  cases mgr.factions.get repListId with
  | none => exact fun _ hsome => hsome
  | some faction =>
    simp only
    split_ifs
    · exact fun _ hsome => hsome
    · exact fun _ hsome => hsome
    · exact fun _ hsome => hsome
    · exact fun _ hsome => hsome
    · exact keepsStates_withFlags mgr faction _

theorem keepsStates_setInactive (mgr : ReputationMgr) (repListId : ℕ) (inactive : Bool) :
    KeepsStates mgr (mgr.setInactive repListId inactive) := by
  rw [setInactive]
  cases mgr.factions.get repListId with
  | none => exact fun _ hsome => hsome
  | some faction =>
    simp only
    split
    · exact fun _ hsome => hsome
    · split
      · exact fun _ hsome => hsome
      · exact keepsStates_withFlags mgr faction _

theorem keepsStates_setAtWar (mgr : ReputationMgr) (catalogs : ReputationCatalogs)
    (repListId : ℕ) (atWar : Bool) (entry : FactionEntry) (player : RaceAndClass) :
    KeepsStates mgr (mgr.setAtWar catalogs repListId atWar entry player) := by
  rw [setAtWar]
  cases mgr.factions.get repListId with
  | none => exact fun _ hsome => hsome
  | some faction =>
    simp only
    split
    · exact fun _ hsome => hsome
    · split
      · exact fun _ hsome => hsome
      · split
        · exact fun _ hsome => hsome
        · exact keepsStates_withFlags mgr faction _

theorem newStanding_renownChange {options : SetReputationOptions} {entry : FactionEntry}
    (hrenown : entry.renownCurrencyId ≤ 0) (target oldStanding : ℤ) :
    (renownChange catalogs options entry target oldStanding).newStanding =
      target - baseReputation entry options.player := by
  have hnone : ((renownCurrency catalogs entry).filter fun _ => 0 < entry.renownCurrencyId) =
      none := by
    simp [hrenown]
  rw [renownChange, hnone]

section Runs

variable {catalogs : ReputationCatalogs} {options : SetReputationOptions} {loaded : ReputationMgr}
variable {entry : FactionEntry} {mgr : ReputationMgr} {faction : FactionState}

/-- The rank that a faction is counted with, after the standings in `loaded`. -/
abbrev rankSince (catalogs : ReputationCatalogs) (player : RaceAndClass) (loaded : ReputationMgr) :
    FactionState → Option ReputationRank :=
  countedRank catalogs player (standingSince catalogs loaded)

theorem rankSince_of_ranked (hentry : catalogs.factionStore.get faction.factionId = some entry)
    (hranked : entry.isRanked catalogs = true) :
    rankSince catalogs player loaded faction =
      if entry.friendshipRepId = 0 then
        some (reputationToRank catalogs entry (faction.standing + baseReputation entry player))
      else none := by
  rw [rankSince, countedRank_of_get hentry, standingSince, if_pos hranked, Int.add_comm]

theorem rankSince_of_unranked (hentry : catalogs.factionStore.get faction.factionId = some entry)
    (hranked : entry.isRanked catalogs = false) {faction' : FactionState}
    (hid : faction'.factionId = faction.factionId)
    (hkey : faction'.reputationListId = faction.reputationListId) :
    rankSince catalogs player loaded faction' = rankSince catalogs player loaded faction := by
  simp only [rankSince, countedRank, hid, hkey, hentry, Option.bind_some, standingSince, hranked,
    Bool.false_eq_true, if_false]

/-- The state of a faction that is set at war, if its new rank is hostile, stays what it was but
for its flags. -/
theorem exists_setAtWarForHostile (mgr : ReputationMgr) (catalogs : ReputationCatalogs)
    (entry : FactionEntry) (player : RaceAndClass) (hostile : Bool)
    (hget : mgr.factions.get entry.repListId = some faction) :
    ∃ faction', (if hostile then mgr.setAtWar catalogs entry.repListId true entry player
        else mgr).factions.get entry.repListId = some faction' ∧
      faction'.factionId = faction.factionId ∧ faction'.standing = faction.standing := by
  cases hostile with
  | false => exact ⟨faction, hget, rfl, rfl⟩
  | true =>
    have hsome := keepsStates_setAtWar mgr catalogs entry.repListId true entry player _
      (Option.isSome_iff_exists.mpr ⟨faction, hget⟩)
    obtain ⟨faction', hget'⟩ := Option.isSome_iff_exists.mp hsome
    obtain ⟨old, hold, hkept, hstanding⟩ :=
      flagsKept_setAtWar mgr catalogs entry.repListId true entry player _ faction' hget'
    rw [hget] at hold
    cases hold
    exact ⟨faction', hget', hkept.factionId, hstanding⟩

/-- A new standing moves the counters of a ranked faction, and leaves them alone otherwise. -/
theorem Counted.setOneFactionReputation
    (h : Counted catalogs (rankSince catalogs options.player loaded) mgr)
    (hstore : DistinctIndexes catalogs.factionStore)
    (hentry : catalogs.factionStore.get entry.id = some entry) (standing : ℤ) :
    Counted catalogs (rankSince catalogs options.player loaded)
      (mgr.setOneFactionReputation catalogs options entry standing).1 := by
  have hflags := ignoresFlags_countedRank catalogs options.player (standingSince catalogs loaded)
  simp only [ReputationMgr.setOneFactionReputation]
  cases hget : mgr.factions.get entry.repListId with
  | none => exact h
  | some faction =>
    obtain ⟨entry', hentry', hcan, hlist⟩ := h.ofCatalog _ faction hget
    obtain rfl : entry' = entry := hstore.eq_of_repListId hentry' hentry hcan hlist
    simp only
    split
    · exact h.keepStanding _ (fun _ => rfl) (fun _ => rfl) (fun _ => rfl)
        fun faction _ => hflags faction _ rfl rfl rfl
    · refine Counted.setVisible hflags ?_ _
      cases hranked : (catalogs.paragonReputation entry'.id).isNone &&
          decide (entry'.renownCurrencyId ≤ 0) with
      | false =>
        simp only [Bool.false_eq_true, if_false]
        have hstart : Counted catalogs (rankSince catalogs options.player loaded)
            { mgr with sendFactionIncreased := true } := h.congr rfl rfl
        refine hstart.keepStanding _ (fun _ => rfl) (fun _ => rfl) (fun _ => rfl) ?_
        intro faction' hget'
        rw [hget] at hget'
        cases hget'
        exact rankSince_of_unranked hentry' hranked rfl rfl
      | true =>
        simp only [if_true, changeRank]
        -- the counters move between the writes to the flags and to the standing
        generalize hold : faction.standing + baseReputation entry' options.player = old
        generalize targetStanding catalogs options entry' standing old = target
        generalize decide ((reputationToRank catalogs entry' target).asU8 ≤
          ReputationRank.hostile.asU8) = hostile
        obtain ⟨faction', hget', hid', hstanding'⟩ :=
          exists_setAtWarForHostile mgr catalogs entry' options.player hostile hget
        have hatWar : Counted catalogs (rankSince catalogs options.player loaded)
            (if hostile then mgr.setAtWar catalogs entry'.repListId true entry' options.player
            else mgr) := by
          split
          · exact h.setAtWar hflags _ _ _ _
          · exact h
        generalize (if hostile then
          mgr.setAtWar catalogs entry'.repListId true entry' options.player
          else mgr) = mgr' at hget' hatWar
        have hgain (gained : Prop) [Decidable gained] :
            Counted catalogs (rankSince catalogs options.player loaded)
              (if gained then { mgr' with sendFactionIncreased := true } else mgr') ∧
            (if gained then { mgr' with sendFactionIncreased := true } else mgr').factions =
              mgr'.factions := by
          split
          · exact ⟨hatWar.congr rfl rfl, rfl⟩
          · exact ⟨hatWar, rfl⟩
        obtain ⟨hcounted, hsame⟩ := hgain ((reputationToRank catalogs entry' old).asU8 <
          (reputationToRank catalogs entry' target).asU8)
        have hentry'' : catalogs.factionStore.get faction'.factionId = some entry' := by
          rw [hid', hentry']
        refine hcounted.moveStanding (hsame ▸ hget') rfl rfl rfl ?_ ?_
        · rw [rankSince_of_ranked hentry'' hranked, hstanding', hold]
        · have hrenown : entry'.renownCurrencyId ≤ 0 :=
            of_decide_eq_true (Bool.and_eq_true_iff.mp hranked).2
          refine (rankSince_of_ranked ?_ hranked).trans ?_
          · exact hentry''
          · simp only [newStanding_renownChange hrenown, Int.sub_add_cancel]

/-! ## Spillover -/

theorem mem_spillovers {mgr' : ReputationMgr} {template : Option RepSpilloverTemplate}
    {faction : FactionEntry} {standing rep : ℤ} {counts : Bool} {call : SpilloverCall}
    (hmem : call ∈ mgr.spillovers catalogs options template entry standing)
    (hcall : call mgr' = some (faction, rep, counts)) :
    catalogs.factionStore.get faction.id = some faction := by
  have hkeyed {id : ℕ} (hget : catalogs.factionStore.get id = some faction) :
      catalogs.factionStore.get faction.id = some faction := by
    rw [show faction.id = id from KeyedMap.key_of_get hget]
    exact hget
  have hteam {out : Float32} {id : ℕ}
      (hcall : teamSpillover catalogs options entry out id mgr' = some (faction, rep, counts)) :
      catalogs.factionStore.get faction.id = some faction := by
    unfold teamSpillover at hcall
    split at hcall
    · cases hcall
    · rename_i found hfound
      split at hcall
      · cases hcall
      · simp only at hcall
        split at hcall
        · cases hcall
        · split at hcall
          · cases hcall
            exact hkeyed hfound
          · cases hcall
  unfold spillovers at hmem
  split at hmem
  · cases hmem
  · split at hmem
    · obtain ⟨index, _, rfl⟩ := List.mem_map.mp hmem
      simp only [templateSpillover] at hcall
      split_ifs at hcall
      obtain ⟨found, hfound, heq⟩ := Option.map_eq_some_iff.mp hcall
      cases heq
      exact hkeyed hfound
    · unfold teamSpillovers at hmem
      simp only at hmem
      split at hmem
      · split at hmem
        · cases hmem
        · rename_i parent hparent
          split at hmem
          · cases List.mem_singleton.mp hmem
            cases hcall
            exact hkeyed hparent
          · obtain ⟨id, _, rfl⟩ := List.mem_map.mp hmem
            exact hteam hcall
      · obtain ⟨id, _, rfl⟩ := List.mem_map.mp hmem
        exact hteam hcall

theorem get_primaryFactionToModify {standing : ℤ}
    (hentry : catalogs.factionStore.get entry.id = some entry) :
    catalogs.factionStore.get
        (mgr.primaryFactionToModify catalogs options entry standing).id =
      some (mgr.primaryFactionToModify catalogs options entry standing) := by
  unfold primaryFactionToModify
  split
  · cases hparagon : catalogs.factionStore.get entry.paragonFactionId with
    | none => exact hentry
    | some paragon =>
      rw [Option.getD_some, show paragon.id = entry.paragonFactionId from
        KeyedMap.key_of_get hparagon]
      exact hparagon
  · exact hentry

theorem Counted.setReputation
    (h : Counted catalogs (rankSince catalogs options.player loaded) mgr)
    (hstore : DistinctIndexes catalogs.factionStore)
    (hentry : catalogs.factionStore.get entry.id = some entry)
    (template : Option RepSpilloverTemplate) (standing : ℤ) :
    Counted catalogs (rankSince catalogs options.player loaded)
      (mgr.setReputation catalogs options template entry standing).1 := by
  have hcalls : EachStep (applySpillover catalogs options)
      (fun mgr' call => ∀ faction rep counts, call mgr' = some (faction, rep, counts) →
        catalogs.factionStore.get faction.id = some faction) mgr
      (mgr.spillovers catalogs options template entry standing) :=
    EachStep.of_forall (fun call hmem _ _ _ _ hcall => mem_spillovers hmem hcall) mgr
  have hspilled := run_invariant (Counted catalogs (rankSince catalogs options.player loaded))
    (fun mgr call hmgr hgood => by
      rw [applySpillover]
      cases hcall : call mgr with
      | none => exact hmgr
      | some next => exact hmgr.setOneFactionReputation hstore (hgood _ _ _ hcall) _) h hcalls
  rw [fst_setReputation]
  simp only
  split
  · exact hspilled.setOneFactionReputation hstore (get_primaryFactionToModify hentry) standing
  · exact hspilled

end Runs

/-! ## Initialization -/

section Loading

variable {catalogs : ReputationCatalogs} {player : RaceAndClass}
variable {mgr : ReputationMgr} {entry : FactionEntry} {rest : List ℕ}

theorem counted_empty (rankOf : FactionState → Option ReputationRank) :
    Counted catalogs rankOf .empty := by
  refine ⟨fun id faction hget => ?_, Nat.zero_le _, rfl, rfl, rfl, rfl⟩
  cases hget

theorem baseRank_eq (hfriend : entry.friendshipRepId = 0) :
    baseRank catalogs entry player =
      reputationToRank catalogs entry (baseReputation entry player) := by
  simp [baseRank, reputationToRank, hfriend]

theorem initializeFaction_eq (mgr : ReputationMgr) (hcan : entry.canHaveReputation = true) :
    let flags := defaultStateFlags catalogs entry player
    let rank := if entry.friendshipRepId = 0 then some (baseRank catalogs entry player) else none
    initializeFaction catalogs player mgr entry =
      { mgr with
        factions := mgr.factions.insert (.new entry.id entry.repListId flags)
        rankCounters :=
          { visible :=
              if flags.contains .visible then adjustCounter true mgr.rankCounters.visible
              else mgr.rankCounters.visible
            honored := adjustReached true .honored rank mgr.rankCounters.honored
            revered := adjustReached true .revered rank mgr.rankCounters.revered
            exalted := adjustReached true .exalted rank mgr.rankCounters.exalted } } := by
  have hhostile (counters : ReputationRankCounters) : countRank false .hostile counters = counters :=
    rfl
  intro flags rank
  rw [initializeFaction, hcan]
  simp only [Bool.not_true, Bool.false_eq_true, if_false, updateRankCounters, hhostile,
    countRank_eq, rank, flags]
  by_cases hfriend : entry.friendshipRepId = 0
  · by_cases hvisible : (defaultStateFlags catalogs entry player).contains .visible = true
    · simp only [hfriend, hvisible, if_true]
    · simp only [hfriend, hvisible, if_true, if_false, Bool.false_eq_true]
  · by_cases hvisible : (defaultStateFlags catalogs entry player).contains .visible = true
    · simp only [hfriend, hvisible, if_true, if_false]
      rfl
    · simp only [hfriend, hvisible, if_false, Bool.false_eq_true]
      rfl

/-- The factions seeded so far: their states are there, without a standing. -/
structure Seeded (catalogs : ReputationCatalogs) (player : RaceAndClass)
    (seeded : List FactionEntry) (mgr : ReputationMgr) : Prop where
  counted : Counted catalogs (countedRank catalogs player currentStanding) mgr
  length_le : mgr.factions.values.length ≤ seeded.length
  there : ∀ entry ∈ seeded, entry.canHaveReputation = true →
    (mgr.factions.get entry.repListId).isSome
  fromSeeded : ∀ id faction, mgr.factions.get id = some faction →
    faction.standing = 0 ∧ ∃ entry ∈ seeded, entry.canHaveReputation = true ∧ entry.repListId = id

theorem Seeded.initializeFaction {seeded : List FactionEntry}
    (h : Seeded catalogs player seeded mgr) (hstore : DistinctIndexes catalogs.factionStore)
    (hentry : catalogs.factionStore.get entry.id = some entry)
    (hseeded : ∀ entry' ∈ seeded, catalogs.factionStore.get entry'.id = some entry')
    (hnew : entry ∉ seeded) (hroom : seeded.length < 255) :
    Seeded catalogs player (seeded ++ [entry]) (initializeFaction catalogs player mgr entry) := by
  cases hcan : entry.canHaveReputation with
  | false =>
    rw [ReputationMgr.initializeFaction, hcan]
    refine ⟨h.counted, ?_, fun entry' hmem hcan' => ?_, fun id faction hget => ?_⟩
    · rw [List.length_append]
      exact h.length_le.trans (Nat.le_add_right _ _)
    · rcases List.mem_append.mp hmem with hmem | hmem
      · exact h.there entry' hmem hcan'
      · rw [List.mem_singleton.mp hmem, hcan] at hcan'
        cases hcan'
    · obtain ⟨hzero, entry', hmem, hsame⟩ := h.fromSeeded id faction hget
      exact ⟨hzero, entry', List.mem_append_left _ hmem, hsame⟩
  | true =>
    rw [initializeFaction_eq mgr hcan]
    generalize hflags : defaultStateFlags catalogs entry player = flags
    let new : FactionState := .new entry.id entry.repListId flags
    have hnone : mgr.factions.get new.reputationListId = none := by
      by_contra hsome
      obtain ⟨faction, hget⟩ := Option.ne_none_iff_exists'.mp hsome
      obtain ⟨_, entry', hmem, hcan', hlist⟩ := h.fromSeeded _ faction hget
      have heq := hstore.eq_of_repListId (hseeded entry' hmem) hentry hcan' hlist
      exact hnew (heq ▸ hmem)
    have hlength : (mgr.factions.insert new).values.length = 1 + mgr.factions.values.length := by
      simpa using countP_insert_new (fun _ => true) hnone
    have hle := h.length_le
    have hshown := List.countP_le_length (p := isShown) (l := mgr.factions.values)
    have hrank : countedRank catalogs player currentStanding new =
        if entry.friendshipRepId = 0 then some (baseRank catalogs entry player) else none := by
      have hentry' : catalogs.factionStore.get new.factionId = some entry := hentry
      rw [countedRank_of_get hentry']
      split
      · rename_i hfriend
        rw [baseRank_eq hfriend]
        exact congrArg (fun standing => some (reputationToRank catalogs entry standing))
          (Int.add_zero _)
      · rfl
    refine ⟨h.counted.add hnone ⟨entry, hentry, hcan, rfl⟩ (by omega) ?_ ?_ ?_ ?_,
      ?_, fun entry' hmem hcan' => ?_, fun id faction hget => ?_⟩
    · have hvisible : isShown new = flags.contains .visible := rfl
      simp only [hvisible, h.counted.exact.visible, adjustCounter, if_true]
      split <;> omega
    · rw [hrank]
    · rw [hrank]
    · rw [hrank]
    · simp only [List.length_append, List.length_singleton]
      exact hlength.trans_le (by omega)
    · simp only [KeyedMap.get_insert]
      split
      · rfl
      · rename_i hkey
        rcases List.mem_append.mp hmem with hmem | hmem
        · exact h.there entry' hmem hcan'
        · rw [List.mem_singleton.mp hmem] at hkey
          exact absurd rfl hkey
    · simp only [KeyedMap.get_insert] at hget
      split at hget
      · rename_i hkey
        cases hget
        exact ⟨rfl, entry, by simp, hcan, hkey.symm⟩
      · obtain ⟨hzero, entry', hmem, hsame⟩ := h.fromSeeded id faction hget
        exact ⟨hzero, entry', List.mem_append_left _ hmem, hsame⟩

theorem seeded_initializeFactions (hstore : DistinctIndexes catalogs.factionStore)
    (hfew : catalogs.factionStore.values.length < 256) :
    Seeded catalogs player catalogs.factionStore.values (initializeFactions catalogs player) := by
  have hget : ∀ entry ∈ catalogs.factionStore.values,
      catalogs.factionStore.get entry.id = some entry := fun entry hmem =>
    KeyedMap.mem_values.mp hmem
  have hnodup : catalogs.factionStore.values.Nodup := catalogs.factionStore.nodup_keys.of_map _
  have hfold (seeded rest : List FactionEntry) (mgr : ReputationMgr)
      (hsplit : catalogs.factionStore.values = seeded ++ rest)
      (h : Seeded catalogs player seeded mgr) :
      Seeded catalogs player (seeded ++ rest)
        (rest.foldl (ReputationMgr.initializeFaction catalogs player) mgr) := by
    induction rest generalizing seeded mgr with
    | nil =>
      rw [List.append_nil]
      exact h
    | cons entry rest ih =>
      rw [hsplit] at hnodup hget hfew
      have hnew : entry ∉ seeded := fun hmem =>
        (List.nodup_append.mp hnodup).2.2 entry hmem entry List.mem_cons_self rfl
      have hnext := ih (seeded ++ [entry]) (ReputationMgr.initializeFaction catalogs player mgr entry)
        (by rw [hsplit]; simp) (h.initializeFaction hstore (hget entry (by simp))
          (fun entry' hmem => hget entry' (by simp [hmem])) hnew
          (by simp only [List.length_append, List.length_cons] at hfew; omega))
      simpa using hnext
  have hstart : Seeded catalogs player [] .empty :=
    ⟨counted_empty _, Nat.le_refl _, fun _ hmem => (by cases hmem), fun _ _ hget => (by cases hget)⟩
  exact hfold [] _ _ rfl hstart

theorem loadFlags_spec {rankOf : FactionState → Option ReputationRank}
    (hflags : IgnoresFlags rankOf) (h : Counted catalogs rankOf mgr) (entry : FactionEntry)
    (dbFlags : ReputationFlags) (newRank : ReputationRank) :
    Counted catalogs rankOf (loadFlags catalogs player mgr entry dbFlags newRank) ∧
      KeepsStates mgr (loadFlags catalogs player mgr entry dbFlags newRank) := by
  let Good (mgr' : ReputationMgr) : Prop := Counted catalogs rankOf mgr' ∧ KeepsStates mgr mgr'
  have hatWar (mgr' : ReputationMgr) (atWar : Bool) (hgood : Good mgr') :
      Good (mgr'.setAtWar catalogs entry.repListId atWar entry player) :=
    ⟨hgood.1.setAtWar hflags _ _ _ _, fun id hsome =>
      keepsStates_setAtWar mgr' catalogs entry.repListId atWar entry player id (hgood.2 id hsome)⟩
  have hshown : Good
      (if dbFlags.contains .visible then mgr.setVisible catalogs entry.repListId else mgr) := by
    split
    · exact ⟨h.setVisible hflags _, keepsStates_setVisible mgr catalogs entry.repListId⟩
    · exact ⟨h, fun _ hsome => hsome⟩
  have hinactive (mgr' : ReputationMgr) (hgood : Good mgr') : Good
      (if dbFlags.contains .inactive then mgr'.setInactive entry.repListId true else mgr') := by
    split
    · exact ⟨hgood.1.setInactive hflags _ _, fun id hsome =>
        keepsStates_setInactive mgr' entry.repListId true id (hgood.2 id hsome)⟩
    · exact hgood
  have hwar (mgr' : ReputationMgr) (hgood : Good mgr') : Good
      (if dbFlags.contains .atWar then mgr'.setAtWar catalogs entry.repListId true entry player
      else if mgr'.isVisible entry.repListId then
        mgr'.setAtWar catalogs entry.repListId false entry player
      else mgr') := by
    split
    · exact hatWar mgr' true hgood
    · split
      · exact hatWar mgr' false hgood
      · exact hgood
  have hhostile (mgr' : ReputationMgr) (hgood : Good mgr') : Good
      (if newRank.asU8 ≤ ReputationRank.hostile.asU8 then
        mgr'.setAtWar catalogs entry.repListId true entry player else mgr') := by
    split
    · exact hatWar mgr' true hgood
    · exact hgood
  exact hhostile _ (hwar _ (hinactive _ hshown))

/-- While the rows of a load are read: every faction has a state, and those without a row so far
are still without a standing. -/
structure Loading (catalogs : ReputationCatalogs) (player : RaceAndClass) (rest : List ℕ)
    (mgr : ReputationMgr) : Prop where
  counted : Counted catalogs (countedRank catalogs player currentStanding) mgr
  there : ∀ id entry, catalogs.factionStore.get id = some entry →
    entry.canHaveReputation = true → (mgr.factions.get entry.repListId).isSome
  untouched : ∀ id faction, mgr.factions.get id = some faction → faction.factionId ∈ rest →
    faction.standing = 0

theorem Loading.place (h : Loading catalogs player (entry.id :: rest) mgr)
    (hstore : DistinctIndexes catalogs.factionStore)
    (hentry : catalogs.factionStore.get entry.id = some entry)
    (hcan : entry.canHaveReputation = true) (hnew : entry.id ∉ rest) (standing : ℤ) :
    Loading catalogs player rest
      ((if entry.friendshipRepId = 0 then
          mgr.updateRankCounters
            (reputationToRank catalogs entry (baseReputation entry player))
            (reputationToRank catalogs entry (baseReputation entry player + standing))
        else mgr).modifyFaction entry.repListId
          fun faction => { faction with standing := standing }) := by
  obtain ⟨faction, hget⟩ := Option.isSome_iff_exists.mp (h.there _ entry hentry hcan)
  have hfaction : catalogs.factionStore.get faction.factionId = some entry := by
    obtain ⟨entry', hentry', hcan', hlist⟩ := h.counted.ofCatalog _ faction hget
    rw [hentry', hstore.eq_of_repListId hentry' hentry hcan' hlist]
  have hid : entry.id = faction.factionId := KeyedMap.key_of_get hfaction
  have hzero : faction.standing = 0 :=
    h.untouched _ faction hget (hid ▸ List.mem_cons_self)
  let placed : FactionState := { faction with standing := standing }
  have hplaced : catalogs.factionStore.get placed.factionId = some entry := hfaction
  have hold : countedRank catalogs player currentStanding faction =
      if entry.friendshipRepId = 0 then
        some (reputationToRank catalogs entry (baseReputation entry player))
      else none := by
    rw [countedRank_of_get hfaction]
    simp only [currentStanding, hzero, Int.add_zero]
  have hcounted := h.counted.moveStanding (f := fun faction => { faction with standing := standing })
    hget rfl rfl rfl hold (countedRank_of_get hplaced player currentStanding)
  have hsame : (if entry.friendshipRepId = 0 then
      mgr.updateRankCounters (reputationToRank catalogs entry (baseReputation entry player))
        (reputationToRank catalogs entry (baseReputation entry player + standing))
      else mgr).factions = mgr.factions := by
    split <;> rfl
  have hgetPlaced (mgr : ReputationMgr) := get_modifyFaction mgr entry.repListId
    (fun faction => { faction with standing := standing }) fun _ => rfl
  refine ⟨hcounted, fun id entry' hentry' hcan' => ?_, fun id after hafter hmem => ?_⟩
  · rw [hgetPlaced, hsame, hget]
    split
    · rfl
    · exact h.there id entry' hentry' hcan'
  · rw [hgetPlaced, hsame, hget] at hafter
    split at hafter
    · cases hafter
      exact absurd (hid ▸ hmem) hnew
    · exact h.untouched id after hafter (List.mem_cons_of_mem _ hmem)

theorem Loading.loadFlags (h : Loading catalogs player rest mgr) (entry : FactionEntry)
    (dbFlags : ReputationFlags) (newRank : ReputationRank) :
    Loading catalogs player rest (loadFlags catalogs player mgr entry dbFlags newRank) := by
  obtain ⟨hcounted, hkept⟩ := @loadFlags_spec catalogs player _ _
    (ignoresFlags_countedRank catalogs player currentStanding) h.counted entry dbFlags newRank
  refine ⟨hcounted, fun id entry' hentry' hcan' => hkept _ (h.there id entry' hentry' hcan'), ?_⟩
  intro id after hafter hmem
  obtain ⟨old, hold, hsame, hstanding⟩ :=
    flagsKept_loadFlags catalogs player mgr entry dbFlags newRank id after hafter
  rw [hstanding]
  exact h.untouched id old hold (hsame.factionId ▸ hmem)

theorem Loading.settle (h : Loading catalogs player rest mgr) (repListId : ℕ)
    (dbFlags : ReputationFlags) :
    Loading catalogs player rest (mgr.modifyFaction repListId fun faction =>
      if faction.flags = dbFlags then faction.cleared else faction) := by
  generalize hsettle : (fun faction : FactionState =>
    if faction.flags = dbFlags then faction.cleared else faction) = settle
  have hsame (faction : FactionState) : (settle faction).factionId = faction.factionId ∧
      (settle faction).reputationListId = faction.reputationListId ∧
      (settle faction).standing = faction.standing ∧
      (settle faction).flags = faction.flags := by
    rw [← hsettle]
    dsimp only
    split <;> exact ⟨rfl, rfl, rfl, rfl⟩
  have hgetSettled := get_modifyFaction mgr repListId settle fun faction => (hsame faction).2.1
  refine ⟨h.counted.keepStanding _ (fun faction => (hsame faction).1)
    (fun faction => (hsame faction).2.1) (fun faction => ?_) (fun faction _ => ?_),
    fun id entry hentry hcan => ?_, fun id after hafter hmem => ?_⟩
  · rw [isShown, (hsame faction).2.2.2, isShown]
  · exact ignoresFlags_countedRank catalogs player currentStanding faction _ (hsame faction).1
      (hsame faction).2.1 (hsame faction).2.2.1
  · have hthere := h.there id entry hentry hcan
    rw [hgetSettled]
    split
    · rename_i hid
      rw [Option.isSome_map, ← hid]
      exact hthere
    · exact hthere
  · rw [hgetSettled] at hafter
    split at hafter
    · obtain ⟨faction, hget, rfl⟩ := Option.map_eq_some_iff.mp hafter
      rw [(hsame faction).1] at hmem
      rw [(hsame faction).2.2.1]
      exact h.untouched _ faction hget hmem
    · exact h.untouched id after hafter hmem

theorem Loading.loadRow {row : CharacterReputationRow}
    (h : Loading catalogs player (row.factionId :: rest) mgr)
    (hstore : DistinctIndexes catalogs.factionStore) (hnew : row.factionId ∉ rest) :
    Loading catalogs player rest (loadRow catalogs player mgr row) := by
  cases hrow : rowFaction catalogs row with
  | none =>
    have hskip : ReputationMgr.loadRow catalogs player mgr row = mgr := by
      simp only [ReputationMgr.loadRow, hrow]
    rw [hskip]
    exact ⟨h.counted, h.there, fun id faction hget hmem =>
      h.untouched id faction hget (List.mem_cons_of_mem _ hmem)⟩
  | some entry =>
    obtain ⟨hentry, hcan⟩ := Option.filter_eq_some_iff.mp hrow
    have hid : entry.id = row.factionId := KeyedMap.key_of_get hentry
    rw [← hid] at h hentry hnew
    simp only [ReputationMgr.loadRow, hrow]
    exact ((h.place hstore hentry hcan hnew row.standing).loadFlags entry _ _).settle _ _

/-- After a load, the standings that are counted are the current ones. -/
theorem Counted.since (h : Counted catalogs (countedRank catalogs player currentStanding) mgr) :
    Counted catalogs (rankSince catalogs player mgr) mgr := by
  have hrank : ∀ faction ∈ mgr.factions.values,
      rankSince catalogs player mgr faction = countedRank catalogs player currentStanding faction := by
    intro faction hmem
    have hget := KeyedMap.mem_values.mp hmem
    simp only [rankSince, countedRank, standingSince, currentStanding, hget, Option.map_some,
      Option.getD_some, ite_self]
  have hcount (bound : ReputationRank) :
      (mgr.factions.values.countP fun faction =>
        reaches bound (countedRank catalogs player currentStanding faction)) =
      mgr.factions.values.countP fun faction =>
        reaches bound (rankSince catalogs player mgr faction) :=
    List.countP_congr fun faction hmem => by rw [hrank faction hmem]
  exact ⟨h.ofCatalog, h.few, h.exact.visible, h.exact.honored.trans (hcount .honored),
    h.exact.revered.trans (hcount .revered), h.exact.exalted.trans (hcount .exalted)⟩

theorem counted_initializeFactions (hstore : DistinctIndexes catalogs.factionStore)
    (hfew : catalogs.factionStore.values.length < 256) :
    Counted catalogs (rankSince catalogs player (initializeFactions catalogs player))
      (initializeFactions catalogs player) :=
  (seeded_initializeFactions hstore hfew).counted.since

theorem counted_loadFromDb (hstore : DistinctIndexes catalogs.factionStore)
    (hfew : catalogs.factionStore.values.length < 256) {rows : List CharacterReputationRow}
    (hrows : (rows.map CharacterReputationRow.factionId).Nodup) :
    Counted catalogs (rankSince catalogs player (loadFromDb catalogs rows player))
      (loadFromDb catalogs rows player) := by
  have hfold (rows : List CharacterReputationRow) (mgr : ReputationMgr)
      (hrows : (rows.map CharacterReputationRow.factionId).Nodup)
      (h : Loading catalogs player (rows.map CharacterReputationRow.factionId) mgr) :
      Loading catalogs player [] (rows.foldl (ReputationMgr.loadRow catalogs player) mgr) := by
    induction rows generalizing mgr with
    | nil => exact h
    | cons row rows ih =>
      rw [List.map_cons, List.nodup_cons] at hrows
      exact ih _ hrows.2 (h.loadRow hstore hrows.1)
  have hseeded : Seeded catalogs player _ _ := seeded_initializeFactions hstore hfew
  have hstart : Loading catalogs player (rows.map CharacterReputationRow.factionId)
      (initializeFactions catalogs player) := by
    refine ⟨hseeded.counted, fun id entry hentry hcan => ?_, fun id faction hget _ =>
      (hseeded.fromSeeded id faction hget).1⟩
    refine hseeded.there entry (KeyedMap.mem_values.mpr ?_) hcan
    rw [show entry.id = id from KeyedMap.key_of_get hentry]
    exact hentry
  exact (hfold rows _ hrows hstart).counted.since

end Loading

/-! ## Histories -/

inductive RankOp where
  | seed
  | loadFromDb (rows : List CharacterReputationRow)
  | setReputation (options : SetReputationOptions) (template : Option RepSpilloverTemplate)
      (entry : FactionEntry) (standing : ℤ)

/-- A manager, and what it was when it was last initialized or loaded. -/
structure RankHistory where
  mgr : ReputationMgr
  loaded : ReputationMgr

def RankHistory.start : RankHistory := ⟨.empty, .empty⟩

namespace RankOp

/-- The operations of one player, of whom the options have the race and class. -/
def apply (catalogs : ReputationCatalogs) (player : RaceAndClass) (h : RankHistory) :
    RankOp → RankHistory
  | seed =>
    let mgr := initializeFactions catalogs player
    ⟨mgr, mgr⟩
  | loadFromDb rows =>
    let mgr := ReputationMgr.loadFromDb catalogs rows player
    ⟨mgr, mgr⟩
  | setReputation options template entry standing =>
    { h with
      mgr := (h.mgr.setReputation catalogs { options with player := player } template entry
        standing).1 }

/-- A load has one row for each faction, and a change is of a faction of the catalogs. -/
def Valid (catalogs : ReputationCatalogs) : RankOp → Prop
  | seed => True
  | loadFromDb rows => (rows.map CharacterReputationRow.factionId).Nodup
  | setReputation _ _ entry _ => catalogs.factionStore.get entry.id = some entry

end RankOp

theorem countedHistory_apply (hstore : DistinctIndexes catalogs.factionStore)
    (hfew : catalogs.factionStore.values.length < 256) (h : RankHistory) (op : RankOp)
    (hcounted : Counted catalogs (rankSince catalogs player h.loaded) h.mgr)
    (hvalid : op.Valid catalogs) :
    Counted catalogs (rankSince catalogs player (op.apply catalogs player h).loaded)
      (op.apply catalogs player h).mgr := by
  cases op with
  | seed => exact counted_initializeFactions hstore hfew
  | loadFromDb rows => exact counted_loadFromDb hstore hfew hvalid
  | setReputation options template entry standing =>
    exact @Counted.setReputation catalogs { options with player := player } _ _ _ hcounted hstore
      hvalid template standing

def HistoryCounted (catalogs : ReputationCatalogs) (player : RaceAndClass) (h : RankHistory) :
    Prop :=
  Counted catalogs (rankSince catalogs player h.loaded) h.mgr

theorem historyCounted_run (hstore : DistinctIndexes catalogs.factionStore)
    (hfew : catalogs.factionStore.values.length < 256) {ops : List RankOp}
    (hops : ∀ op ∈ ops, op.Valid catalogs) :
    HistoryCounted catalogs player (run (RankOp.apply catalogs player) .start ops) := by
  have hvalid : EachStep (RankOp.apply catalogs player) (fun _ op => op.Valid catalogs) .start ops :=
    EachStep.of_forall (fun op hop _ => hops op hop) _
  have hstart : HistoryCounted catalogs player .start := counted_empty _
  exact run_invariant (HistoryCounted catalogs player)
    (fun h op => countedHistory_apply hstore hfew h op) hstart hvalid

/-- A counted rank that is taken from the counters and put back leaves them as they are. -/
theorem Counted.countRank_again {rankOf : FactionState → Option ReputationRank}
    {mgr : ReputationMgr} (h : Counted catalogs rankOf mgr) {faction : FactionState}
    {rank : ReputationRank} (hget : mgr.factions.get id = some faction)
    (hrank : rankOf faction = some rank) :
    countRank true rank (countRank false rank mgr.rankCounters) = mgr.rankCounters := by
  have hhonored := h.recount hget .honored
  have hrevered := h.recount hget .revered
  have hexalted := h.recount hget .exalted
  rw [hrank, ← h.exact.honored] at hhonored
  rw [hrank, ← h.exact.revered] at hrevered
  rw [hrank, ← h.exact.exalted] at hexalted
  simp only [countRank_eq, hhonored, hrevered, hexalted]

/-- After every history of a player the visible counter counts the visible factions, and the rank
counters count the factions without a friendship that have reached the rank, with the current
standing if they are neither paragon nor renown factions, and else with the standing they were
last loaded with. A rank that is taken from the counters and put back leaves them as they are:
no counter runs below zero or over its width. -/
theorem rank_counters_exact (catalogs : ReputationCatalogs) (player : RaceAndClass)
    (hstore : DistinctIndexes catalogs.factionStore)
    (hfew : catalogs.factionStore.values.length < 256) (ops : List RankOp)
    (hops : ∀ op ∈ ops, op.Valid catalogs) :
    let h := run (RankOp.apply catalogs player) .start ops
    CountersExact (rankSince catalogs player h.loaded) h.mgr ∧
      ∀ id faction rank, h.mgr.factions.get id = some faction →
        rankSince catalogs player h.loaded faction = some rank →
        countRank true rank (countRank false rank h.mgr.rankCounters) = h.mgr.rankCounters :=
  have hcounted := historyCounted_run hstore hfew hops
  ⟨hcounted.exact, fun _ _ _ hget hrank => hcounted.countRank_again hget hrank⟩

/-! ### A plain, a befriended and a paragon faction -/

/-- A visible faction for the first race and class. -/
def visibleFaction (friendshipRepId : ℕ) (base : ℤ) : FactionEntry where
  id := 72
  reputationRaceMask := fun _ => 1
  reputationIndex := 19
  parentFactionId := 0
  friendshipRepId := friendshipRepId
  paragonFactionId := 0
  renownCurrencyId := 0
  reputationClassMask := fun _ => 0
  reputationFlags := fun _ => ReputationFlags.visible
  reputationBase := fun _ => base
  reputationMax := fun _ => 42000
  parentFactionMod := fun _ => 0
  parentFactionCap := fun _ => 0

def oneFaction (entry : FactionEntry) (paragon : Option ParagonReputationEntry) :
    ReputationCatalogs where
  factionStore := KeyedMap.empty.insert entry
  friendshipRepReactionStore := none
  paragonReputationStore := paragon.map fun paragon => KeyedMap.empty.insert paragon
  currencyTypesStore := none

/-- A change to a given standing, without spillover. -/
def toStanding : SetReputationOptions where
  incremental := false
  spilloverOnly := false
  noSpillover := true
  reputationGainRate := 1
  paragonRewardQuestStatusNone := false
  renownCurrentLevel := 0
  renownCurrencyIncreasedCapQuantity := 0
  player := ⟨1, 1⟩

theorem distinctIndexes_oneFaction (friendshipRepId : ℕ) (base : ℤ)
    (paragon : Option ParagonReputationEntry) :
    DistinctIndexes (oneFaction (visibleFaction friendshipRepId base) paragon).factionStore := by
  have honly : ∀ id entry,
      (oneFaction (visibleFaction friendshipRepId base) paragon).factionStore.get id = some entry →
      entry = visibleFaction friendshipRepId base := by
    intro id entry hget
    simp only [oneFaction, KeyedMap.get_insert, KeyedMap.get_empty] at hget
    split at hget
    · exact (Option.some.inj hget).symm
    · cases hget
  constructor
  · intro id entry hget
    rw [honly id entry hget]
    change -32768 ≤ (19 : ℤ) ∧ (19 : ℤ) < 32768
    decide
  · intro id id' entry entry' hget hget' _ _ _
    rw [honly id entry hget, honly id' entry' hget']

/-- A plain faction is loaded at zero and raised to honored. -/
theorem rank_counters_exact_sample :
    let h := run (RankOp.apply (oneFaction (visibleFaction 0 0) none) ⟨1, 1⟩) .start
      [.loadFromDb [⟨72, 0, 0x0001⟩], .setReputation toStanding none (visibleFaction 0 0) 10000]
    CountersExact (rankSince (oneFaction (visibleFaction 0 0) none) ⟨1, 1⟩ h.loaded) h.mgr ∧
      h.mgr.rankCounters = ⟨1, 1, 0, 0⟩ := by
  refine ⟨(rank_counters_exact (oneFaction (visibleFaction 0 0) none) ⟨1, 1⟩
    (distinctIndexes_oneFaction 0 0 none) (by decide) _ ?_).1, by decide⟩
  intro op hop
  rcases List.mem_cons.mp hop with rfl | hop
  · exact List.nodup_singleton _
  · cases List.mem_singleton.mp hop
    rfl

/-- The rank by base and current standing, of every faction. -/
def currentRank (catalogs : ReputationCatalogs) (player : RaceAndClass) (faction : FactionState) :
    Option ReputationRank :=
  (catalogs.factionStore.get faction.factionId).map fun entry =>
    reputationToRank catalogs entry (baseReputation entry player + faction.standing)

/-- A befriended faction that is honored from the start is not counted, and neither is a paragon
faction that is raised to honored. -/
theorem honored_not_counted :
    ¬ CountersExact (currentRank (oneFaction (visibleFaction 1 10000) none) ⟨1, 1⟩)
      (run (RankOp.apply (oneFaction (visibleFaction 1 10000) none) ⟨1, 1⟩) .start
        [.seed]).mgr ∧
    ¬ CountersExact (currentRank (oneFaction (visibleFaction 0 0) (some ⟨1, 72, 10000, 5⟩)) ⟨1, 1⟩)
      (run (RankOp.apply (oneFaction (visibleFaction 0 0) (some ⟨1, 72, 10000, 5⟩)) ⟨1, 1⟩) .start
        [.seed, .setReputation toStanding none (visibleFaction 0 0) 10000]).mgr := by
  constructor
  · intro h
    exact absurd h.honored (by decide)
  · intro h
    exact absurd h.honored (by decide)

end RustyCore.Player
