import RustyCore.Verification.Player.ReputationSteps

/-! # No reputation change is dropped from the save

Histories of loads, changes and saves, with the pair of standing and flags that the database
was last known to have for each faction. -/

namespace RustyCore.Player

open ReputationMgr

variable {h : ReputationHistory} {mgr : ReputationMgr} {id : ℕ} {faction : FactionState}
  {entry : FactionEntry}

/-! ## Histories -/

abbrev DurablePairs := ℕ → Option (ℤ × ReputationFlags)

structure ReputationHistory where
  mgr : ReputationMgr
  /-- The pair last loaded or last acknowledged as saved, by reputation list id. -/
  durable : DurablePairs
  /-- The captured states, while their save is not acknowledged. -/
  inFlight : Option (KeyedMap FactionState.reputationListId)

/-- A manager at the start, whose states count as loaded. -/
def ReputationHistory.start (mgr : ReputationMgr) : ReputationHistory :=
  ⟨mgr, fun id => (mgr.factions.get id).map FactionState.pair, none⟩

inductive ReputationOp where
  | loadFromDb (catalogs : ReputationCatalogs) (rows : List CharacterReputationRow)
      (player : RaceAndClass)
  | setReputation (catalogs : ReputationCatalogs) (options : SetReputationOptions)
      (template : Option RepSpilloverTemplate) (entry : FactionEntry) (standing : ℤ)
  | setOneFactionReputation (catalogs : ReputationCatalogs) (options : SetReputationOptions)
      (entry : FactionEntry) (standing : ℤ)
  | setAtWar (catalogs : ReputationCatalogs) (repListId : ℕ) (atWar : Bool) (entry : FactionEntry)
      (player : RaceAndClass)
  | setInactive (repListId : ℕ) (inactive : Bool)
  | capture
  | acknowledge
  | abandon

/-- The pair of a row, for the faction that it is about. -/
def loadPair (catalogs : ReputationCatalogs) (durable : DurablePairs)
    (row : CharacterReputationRow) : DurablePairs :=
  match rowFaction catalogs row with
  | none => durable
  | some entry =>
    Function.update durable entry.repListId
      (some (row.standing, ReputationFlags.fromBitsTruncate row.flags))

def savedPairs (durable : DurablePairs) (saved : KeyedMap FactionState.reputationListId) :
    DurablePairs := fun id =>
  match saved.get id with
  | none => durable id
  | some row => if row.needSave then some row.pair else durable id

def reputationStep (h : ReputationHistory) : ReputationOp → ReputationHistory
  | .loadFromDb catalogs rows player =>
    { h with
      mgr := ReputationMgr.loadFromDb catalogs rows player
      durable := rows.foldl (loadPair catalogs) fun _ => none }
  | .setReputation catalogs options template entry standing =>
    { h with mgr := (h.mgr.setReputation catalogs options template entry standing).1 }
  | .setOneFactionReputation catalogs options entry standing =>
    { h with mgr := (h.mgr.setOneFactionReputation catalogs options entry standing).1 }
  | .setAtWar catalogs repListId atWar entry player =>
    { h with mgr := h.mgr.setAtWar catalogs repListId atWar entry player }
  | .setInactive repListId inactive => { h with mgr := h.mgr.setInactive repListId inactive }
  | .capture => { h with inFlight := some (h.inFlight.getD h.mgr.factions) }
  | .acknowledge =>
    match h.inFlight with
    | none => h
    | some saved =>
      ⟨h.mgr.acknowledgeSavedProjection saved.values, savedPairs h.durable saved, none⟩
  | .abandon => { h with inFlight := none }

/-- A state that differs from what the database is known to have is to be saved. -/
def NeedsSave (h : ReputationHistory) : Prop :=
  ∀ id faction, h.mgr.factions.get id = some faction → h.durable id ≠ some faction.pair →
    faction.needSave = true

/-! ## The condition -/

/-- The pair of the state is the durable one, and also the one that is being saved. -/
def Settled (h : ReputationHistory) (id : ℕ) (faction : FactionState) : Prop :=
  h.durable id = some faction.pair ∧
    ∀ saved row, h.inFlight = some saved → saved.get id = some row → row.needSave = true →
      row.pair = faction.pair

/-- The early return for a maxed renown faction does not meet unsaved changes. -/
def SafeGain (h : ReputationHistory) (catalogs : ReputationCatalogs)
    (options : SetReputationOptions) (mgr : ReputationMgr) (entry : FactionEntry) (standing : ℤ) :
    Prop :=
  renownMaxed catalogs options entry standing = true →
    ∀ faction, mgr.factions.get entry.repListId = some faction → faction.needSave = true →
      Settled h entry.repListId faction

def SafeSpillover (h : ReputationHistory) (catalogs : ReputationCatalogs)
    (options : SetReputationOptions) (mgr : ReputationMgr) (call : SpilloverCall) : Prop :=
  ∀ faction rep counts, call mgr = some (faction, rep, counts) →
    SafeGain h catalogs options mgr faction rep

/-- No gain of a maxed renown faction meets unsaved changes, and a load has one row for each
reputation list id and happens while no save is in flight. -/
def NothingDropped (h : ReputationHistory) : ReputationOp → Prop
  | .loadFromDb catalogs rows _ =>
    h.inFlight = none ∧
      (rows.filterMap fun row => (rowFaction catalogs row).map FactionEntry.repListId).Nodup
  | .setReputation catalogs options template entry standing =>
    let calls := h.mgr.spillovers catalogs options template entry standing
    let mgr := run (applySpillover catalogs options) h.mgr calls
    EachStep (applySpillover catalogs options) (SafeSpillover h catalogs options) h.mgr calls ∧
      (options.spilloverOnly = false →
        SafeGain h catalogs options mgr
          (mgr.primaryFactionToModify catalogs options entry standing) standing)
  | .setOneFactionReputation catalogs options entry standing =>
    SafeGain h catalogs options h.mgr entry standing
  | .setAtWar _ _ _ _ _ => True
  | .setInactive _ _ => True
  | .capture => True
  | .acknowledge => True
  | .abandon => True

/-! ## The invariant -/

/-- A state against the durable pair and the captured state. -/
structure Noted (h : ReputationHistory) (id : ℕ) (faction : FactionState) : Prop where
  needsSave : h.durable id ≠ some faction.pair → faction.needSave = true
  factionId : ∀ saved row, h.inFlight = some saved → saved.get id = some row →
    row.needSave = true → faction.factionId = row.factionId
  saving : ∀ saved row, h.inFlight = some saved → saved.get id = some row →
    row.needSave = true → faction.needSave = true ∨ faction.pair = row.pair

/-- Every state of the manager is noted. -/
def AllNoted (h : ReputationHistory) (mgr : ReputationMgr) : Prop :=
  ∀ id faction, mgr.factions.get id = some faction → Noted h id faction

theorem Noted.kept {before after : FactionState} (hnoted : Noted h id before)
    (hkept : StateKept before after) : Noted h id after := by
  rcases hkept.noted with hneed | ⟨hpair, hsame⟩
  · exact ⟨fun _ => hneed,
      fun saved row hfl hrow hdirty =>
        hkept.factionId.trans (hnoted.factionId saved row hfl hrow hdirty),
      fun _ _ _ _ _ => .inl hneed⟩
  · refine ⟨?_, ?_, ?_⟩
    · rw [hpair, hsame]
      exact hnoted.needsSave
    · rw [hkept.factionId]
      exact hnoted.factionId
    · rw [hpair, hsame]
      exact hnoted.saving

theorem AllNoted.kept {mgr' : ReputationMgr} (hall : AllNoted h mgr) (hkept : Kept mgr mgr') :
    AllNoted h mgr' := by
  intro id faction hget
  obtain ⟨old, hold, hstate⟩ := hkept id faction hget
  exact (hall id old hold).kept hstate

theorem Noted.cleared (hnoted : Noted h id faction)
    (hsettled : faction.needSave = true → Settled h id faction) : Noted h id faction.cleared := by
  cases hneed : faction.needSave with
  | false =>
    refine ⟨fun hdiffers => ?_, hnoted.factionId, fun saved row hfl hrow hdirty => ?_⟩
    · have hneeds := hnoted.needsSave hdiffers
      rw [hneed] at hneeds
      cases hneeds
    · rcases hnoted.saving saved row hfl hrow hdirty with hneeds | hpair
      · rw [hneed] at hneeds
        cases hneeds
      · exact .inr hpair
  | true =>
    obtain ⟨hdurable, hsaving⟩ := hsettled hneed
    exact ⟨fun hdiffers => absurd hdurable hdiffers, hnoted.factionId,
      fun saved row hfl hrow hdirty => .inr (hsaving saved row hfl hrow hdirty).symm⟩

/-- While no save is in flight, only the durable pair matters. -/
theorem Noted.of_quiet (hquiet : h.inFlight = none)
    (hneeds : h.durable id ≠ some faction.pair → faction.needSave = true) : Noted h id faction := by
  refine ⟨hneeds, ?_, ?_⟩ <;>
  · intro saved row hsaved
    rw [hquiet] at hsaved
    cases hsaved

/-! ## Changes of standing -/

section Standing

variable {h : ReputationHistory} {catalogs : ReputationCatalogs} {options : SetReputationOptions}

theorem AllNoted.setOneFactionReputation (hall : AllNoted h mgr) {standing : ℤ}
    (hsafe : SafeGain h catalogs options mgr entry standing) :
    AllNoted h (mgr.setOneFactionReputation catalogs options entry standing).1 := by
  cases hmaxed : renownMaxed catalogs options entry standing with
  | false => exact hall.kept (kept_setOneFactionReputation mgr hmaxed)
  | true =>
    simp only [ReputationMgr.setOneFactionReputation]
    cases hget : mgr.factions.get entry.repListId with
    | none => exact hall
    | some faction =>
      simp only [hmaxed, if_true]
      intro id after hafter
      rw [get_modifyFaction mgr entry.repListId FactionState.cleared fun _ => rfl] at hafter
      split at hafter
      · rename_i hid
        rw [hget] at hafter
        cases hafter
        subst hid
        exact (hall _ faction hget).cleared (hsafe hmaxed faction hget)
      · exact hall id after hafter

theorem AllNoted.applySpillover (mgr : ReputationMgr) (call : SpilloverCall)
    (hall : AllNoted h mgr) (hsafe : SafeSpillover h catalogs options mgr call) :
    AllNoted h (applySpillover catalogs options mgr call) := by
  rw [ReputationMgr.applySpillover]
  cases hcall : call mgr with
  | none => exact hall
  | some next =>
    obtain ⟨faction, rep, counts⟩ := next
    exact hall.setOneFactionReputation (hsafe faction rep counts hcall)

theorem AllNoted.setReputation (hall : AllNoted h mgr) {template : Option RepSpilloverTemplate}
    {standing : ℤ}
    (hspillovers : EachStep (ReputationMgr.applySpillover catalogs options)
      (SafeSpillover h catalogs options) mgr
      (mgr.spillovers catalogs options template entry standing))
    (hprimary : options.spilloverOnly = false →
      SafeGain h catalogs options
        (run (ReputationMgr.applySpillover catalogs options) mgr
          (mgr.spillovers catalogs options template entry standing))
        ((run (ReputationMgr.applySpillover catalogs options) mgr
          (mgr.spillovers catalogs options template entry standing)).primaryFactionToModify
            catalogs options entry standing) standing) :
    AllNoted h (mgr.setReputation catalogs options template entry standing).1 := by
  have hspilled := run_invariant (AllNoted h) AllNoted.applySpillover hall hspillovers
  rw [fst_setReputation]
  simp only
  split
  · rename_i hboth
    exact hspilled.setOneFactionReputation (hprimary hboth.2)
  · exact hspilled

end Standing

/-! ## Loading -/

theorem needSave_initializeFactions (catalogs : ReputationCatalogs) (player : RaceAndClass) :
    ∀ id faction, (initializeFactions catalogs player).factions.get id = some faction →
      faction.needSave = true := by
  rw [initializeFactions]
  generalize catalogs.factionStore.values = entries
  have hempty : ∀ id faction, ReputationMgr.empty.factions.get id = some faction →
      faction.needSave = true := by
    intro id faction hget
    cases hget
  generalize ReputationMgr.empty = mgr at hempty
  induction entries generalizing mgr with
  | nil => exact hempty
  | cons entry entries ih =>
    refine ih _ fun id faction hget => ?_
    rw [initializeFaction] at hget
    split at hget
    · exact hempty id faction hget
    · simp only [KeyedMap.get_insert] at hget
      split at hget
      · cases hget
        rfl
      · refine hempty id faction ?_
        split_ifs at hget <;> exact hget

/-- A state that is still flagged from its seeding takes over a row. -/
theorem loadRow_spec (catalogs : ReputationCatalogs) (player : RaceAndClass) (mgr : ReputationMgr)
    {row : CharacterReputationRow} (hrow : rowFaction catalogs row = some entry)
    (hfresh : ∀ faction, mgr.factions.get entry.repListId = some faction → faction.needSave = true)
    (hget : (loadRow catalogs player mgr row).factions.get id = some faction) :
    (id = entry.repListId ∧ (faction.needSave = true ∨
      faction.pair = (row.standing, ReputationFlags.fromBitsTruncate row.flags))) ∨
    (id ≠ entry.repListId ∧ ∃ old, mgr.factions.get id = some old ∧ StateKept old faction) := by
  simp only [loadRow, hrow] at hget
  generalize hcounted : (if entry.friendshipRepId = 0 then mgr.updateRankCounters
    (reputationToRank catalogs entry (baseReputation entry player))
    (reputationToRank catalogs entry (baseReputation entry player + row.standing)) else mgr) =
    counted at hget
  have hsame : counted.factions = mgr.factions := by
    rw [← hcounted]
    split <;> rfl
  have hstanding := get_modifyFaction counted entry.repListId
    (fun faction => { faction with standing := row.standing }) fun _ => rfl
  have hflags := flagsKept_loadFlags catalogs player
    (counted.modifyFaction entry.repListId fun faction => { faction with standing := row.standing })
    entry (ReputationFlags.fromBitsTruncate row.flags)
    (reputationToRank catalogs entry (baseReputation entry player + row.standing))
  rw [get_modifyFaction _ _ (fun faction : FactionState =>
    if faction.flags = ReputationFlags.fromBitsTruncate row.flags then faction.cleared
    else faction) (by intro faction; split <;> rfl)] at hget
  split at hget
  · rename_i hid
    refine .inl ⟨hid, ?_⟩
    obtain ⟨flagged, hflagged, rfl⟩ := Option.map_eq_some_iff.mp hget
    obtain ⟨placed, hplaced, hkept, hsameStanding⟩ := hflags _ flagged hflagged
    rw [hstanding, if_pos rfl, hsame] at hplaced
    obtain ⟨old, hold, rfl⟩ := Option.map_eq_some_iff.mp hplaced
    have hneed : flagged.needSave = true := by
      rcases hkept.noted with hneed | ⟨_, hunchanged⟩
      · exact hneed
      · exact hunchanged.trans (hfresh old hold)
    split
    · rename_i hdbFlags
      exact .inr (Prod.ext hsameStanding hdbFlags)
    · exact .inl hneed
  · rename_i hid
    refine .inr ⟨hid, ?_⟩
    obtain ⟨old, hold, hkept, _⟩ := hflags id faction hget
    rw [hstanding, if_neg hid, hsame] at hold
    exact ⟨old, hold, hkept⟩

/-- While the rows of a load are read: the factions without a row so far are still flagged. -/
structure LoadedSoFar (h : ReputationHistory) (mgr : ReputationMgr) (rest : List ℕ) : Prop where
  allNoted : AllNoted h mgr
  fresh : ∀ id ∈ rest, ∀ faction, mgr.factions.get id = some faction → faction.needSave = true

theorem LoadedSoFar.foldl (catalogs : ReputationCatalogs) (player : RaceAndClass)
    (rows : List CharacterReputationRow) {durable : DurablePairs}
    (hload : LoadedSoFar ⟨mgr, durable, none⟩ mgr
      (rows.filterMap fun row => (rowFaction catalogs row).map FactionEntry.repListId))
    (hnodup : (rows.filterMap fun row =>
      (rowFaction catalogs row).map FactionEntry.repListId).Nodup) :
    AllNoted ⟨rows.foldl (loadRow catalogs player) mgr, rows.foldl (loadPair catalogs) durable, none⟩
      (rows.foldl (loadRow catalogs player) mgr) := by
  induction rows generalizing mgr durable with
  | nil => exact hload.allNoted
  | cons row rows ih =>
    cases hrow : rowFaction catalogs row with
    | none =>
      simp only [List.filterMap_cons, hrow, Option.map_none] at hload hnodup
      have hskip : loadRow catalogs player mgr row = mgr := by
        simp only [loadRow, hrow]
      have hskipPair : loadPair catalogs durable row = durable := by
        simp only [loadPair, hrow]
      rw [List.foldl_cons, List.foldl_cons, hskip, hskipPair]
      exact ih hload hnodup
    | some entry =>
      simp only [List.filterMap_cons, hrow, Option.map_some, List.nodup_cons] at hload hnodup
      rw [List.foldl_cons, List.foldl_cons]
      have hfresh := hload.fresh entry.repListId List.mem_cons_self
      have hpair : loadPair catalogs durable row = Function.update durable entry.repListId
          (some (row.standing, ReputationFlags.fromBitsTruncate row.flags)) := by
        simp only [loadPair, hrow]
      refine ih ⟨?_, ?_⟩ hnodup.2
      · intro id faction hget
        refine .of_quiet rfl fun hdiffers => ?_
        rcases loadRow_spec catalogs player mgr hrow hfresh hget with
          ⟨hid, hneed | hloaded⟩ | ⟨hid, old, hold, hkept⟩
        · exact hneed
        · refine absurd ?_ hdiffers
          simp only [hpair, hid, Function.update_self, hloaded]
        · simp only [hpair, Function.update_of_ne hid] at hdiffers
          exact ((hload.allNoted id old hold).kept hkept).needsSave hdiffers
      · intro id hid faction hget
        rcases loadRow_spec catalogs player mgr hrow hfresh hget with
          ⟨heq, _⟩ | ⟨_, old, hold, hkept⟩
        · exact absurd (heq ▸ hid) hnodup.1
        · have hneed := hload.fresh id (List.mem_cons_of_mem _ hid) old hold
          rcases hkept.noted with hnew | ⟨_, hsame⟩
          · exact hnew
          · exact hsame.trans hneed

theorem allNoted_loadFromDb (catalogs : ReputationCatalogs) {rows : List CharacterReputationRow}
    (player : RaceAndClass) (hnodup : (rows.filterMap fun row =>
      (rowFaction catalogs row).map FactionEntry.repListId).Nodup) :
    AllNoted ⟨ReputationMgr.loadFromDb catalogs rows player,
        rows.foldl (loadPair catalogs) fun _ => none, none⟩
      (ReputationMgr.loadFromDb catalogs rows player) := by
  have hseeded := needSave_initializeFactions catalogs player
  refine LoadedSoFar.foldl catalogs player rows ⟨?_, fun id _ => hseeded id⟩ hnodup
  intro id faction hget
  exact .of_quiet rfl fun _ => hseeded id faction hget

/-! ## Acknowledgement -/

theorem get_acknowledgeSavedProjection (mgr : ReputationMgr) (saved : List FactionState) (id : ℕ) :
    (mgr.acknowledgeSavedProjection saved).factions.get id =
      (mgr.factions.get id).map fun current =>
        if saved.any (acknowledges · current) then { current with needSave := false }
        else current := by
  let settled : Option FactionState → Option FactionState → Option FactionState :=
    fun current kept => current.elim kept fun current =>
      if saved.any (acknowledges · current) then some { current with needSave := false } else kept
  have hpoint : ∀ (factions : KeyedMap FactionState.reputationListId) (current : FactionState)
      (k : ℕ),
      (if saved.any (acknowledges · current) then factions.insert { current with needSave := false }
        else factions).get k =
      if k = current.reputationListId then
        settled (some current) (factions.get current.reputationListId)
      else factions.get k := by
    intro factions current k
    simp only [settled, Option.elim_some]
    by_cases hsaved : saved.any (acknowledges · current)
    · rw [if_pos hsaved, if_pos hsaved, KeyedMap.get_insert]
    · rw [if_neg hsaved, if_neg hsaved]
      split
      · rename_i hk
        rw [hk]
      · rfl
  rw [acknowledgeSavedProjection]
  rw [KeyedMap.get_foldl_values hpoint (fun _ => rfl)]
  cases mgr.factions.get id with
  | none => rfl
  | some current =>
    simp only [settled, Option.elim_some, Option.map_some]
    split <;> rfl

/-- After the acknowledgement, every state is noted against what was saved. -/
theorem AllNoted.acknowledged (hall : AllNoted h h.mgr)
    {saved : KeyedMap FactionState.reputationListId} (hsaved : h.inFlight = some saved) :
    AllNoted ⟨h.mgr.acknowledgeSavedProjection saved.values, savedPairs h.durable saved, none⟩
      (h.mgr.acknowledgeSavedProjection saved.values) := by
  intro id faction hget
  refine .of_quiet rfl fun hdiffers => ?_
  rw [get_acknowledgeSavedProjection] at hget
  obtain ⟨current, hcurrent, rfl⟩ := Option.map_eq_some_iff.mp hget
  have hnoted := hall id current hcurrent
  have hid : current.reputationListId = id := KeyedMap.key_of_get hcurrent
  split at hdiffers
  · -- the state was saved as it is
    rename_i hany
    obtain ⟨row, hrow, hacknowledges⟩ := List.any_eq_true.mp hany
    simp only [acknowledges, Bool.and_eq_true, beq_iff_eq] at hacknowledges
    obtain ⟨⟨⟨⟨hdirty, -⟩, hlist⟩, hstanding⟩, hflags⟩ := hacknowledges
    have hrowGet : saved.get id = some row := by
      rw [← hid, ← hlist]
      exact KeyedMap.mem_values.mp hrow
    refine absurd ?_ hdiffers
    simp only [savedPairs, hrowGet, hdirty, if_true, FactionState.pair, hstanding, hflags]
  · rename_i hnone
    rw [if_neg hnone]
    cases hrow : saved.get id with
    | none =>
      simp only [savedPairs, hrow] at hdiffers
      exact hnoted.needsSave hdiffers
    | some row =>
      cases hdirty : row.needSave with
      | false =>
        simp only [savedPairs, hrow, hdirty, Bool.false_eq_true, if_false] at hdiffers
        exact hnoted.needsSave hdiffers
      | true =>
        rcases hnoted.saving saved row hsaved hrow hdirty with hneed | hpair
        · exact hneed
        · -- the state equals the saved row, so it was acknowledged
          have hlist : row.reputationListId = id := KeyedMap.key_of_get hrow
          refine absurd (List.any_eq_true.mpr ⟨row, KeyedMap.mem_values.mpr ?_, ?_⟩) hnone
          · rw [hlist]
            exact hrow
          · simp only [FactionState.pair, Prod.mk.injEq] at hpair
            simp only [acknowledges, Bool.and_eq_true, beq_iff_eq]
            exact ⟨⟨⟨⟨hdirty, (hnoted.factionId saved row hsaved hrow hdirty).symm⟩,
              hlist.trans hid.symm⟩, hpair.1.symm⟩, hpair.2.symm⟩

/-! ## The result -/

/-- The managers of a history are noted against its own record. -/
abbrev HistoryNoted (h : ReputationHistory) : Prop := AllNoted h h.mgr

/-- Only the record matters, not the manager that a history holds. -/
theorem AllNoted.of_record {h' : ReputationHistory} (hall : AllNoted h mgr)
    (hdurable : h'.durable = h.durable) (hinFlight : h'.inFlight = h.inFlight) :
    AllNoted h' mgr := by
  intro id faction hget
  obtain ⟨hneeds, hfaction, hsaving⟩ := hall id faction hget
  exact ⟨by rw [hdurable]; exact hneeds, by rw [hinFlight]; exact hfaction,
    by rw [hinFlight]; exact hsaving⟩

theorem HistoryNoted.capture (hall : HistoryNoted h) :
    HistoryNoted { h with inFlight := some (h.inFlight.getD h.mgr.factions) } := by
  intro id faction hget
  have hnoted := hall id faction hget
  cases hfl : h.inFlight with
  | some saved =>
    refine ⟨hnoted.needsSave, ?_, ?_⟩
    · intro saved' row hsaved'
      cases hsaved'
      exact hnoted.factionId saved row hfl
    · intro saved' row hsaved'
      cases hsaved'
      exact hnoted.saving saved row hfl
  | none =>
    refine ⟨hnoted.needsSave, ?_, ?_⟩ <;>
    · intro saved' row hsaved' hrow _
      cases hsaved'
      have hsame : row = faction := Option.some.inj (hrow.symm.trans hget)
      subst hsame
      first | rfl | exact .inr rfl

theorem HistoryNoted.step (h : ReputationHistory) (op : ReputationOp) (hall : HistoryNoted h)
    (hop : NothingDropped h op) : HistoryNoted (reputationStep h op) := by
  cases op with
  | loadFromDb catalogs rows player =>
    exact (allNoted_loadFromDb catalogs player hop.2).of_record rfl hop.1
  | setReputation catalogs options template entry standing =>
    exact (AllNoted.setReputation hall hop.1 hop.2).of_record rfl rfl
  | setOneFactionReputation catalogs options entry standing =>
    exact (AllNoted.setOneFactionReputation hall hop).of_record rfl rfl
  | setAtWar catalogs repListId atWar entry player =>
    exact (AllNoted.kept hall
      (flagsKept_setAtWar h.mgr catalogs repListId atWar entry player).kept).of_record rfl rfl
  | setInactive repListId inactive =>
    exact (AllNoted.kept hall
      (flagsKept_setInactive h.mgr repListId inactive).kept).of_record rfl rfl
  | capture => exact hall.capture
  | acknowledge =>
    simp only [reputationStep]
    cases hsaved : h.inFlight with
    | none => exact hall
    | some saved => exact AllNoted.acknowledged hall hsaved
  | abandon => exact fun id faction hget => .of_quiet rfl (hall id faction hget).needsSave

theorem HistoryNoted.start (mgr : ReputationMgr) : HistoryNoted (.start mgr) := by
  intro id faction hget
  refine .of_quiet rfl fun hdiffers => absurd ?_ hdiffers
  have hsame : (ReputationHistory.start mgr).mgr.factions.get id = some faction := hget
  simp only [ReputationHistory.start] at hsame ⊢
  rw [hsame]
  rfl

/-- Faction 94 of list id 23, for the first race: visible, and with standings up to 2500. -/
def faction94 (renownCurrencyId : ℤ) : FactionEntry where
  id := 94
  reputationRaceMask := fun _ => 1
  reputationIndex := 23
  parentFactionId := 0
  friendshipRepId := 0
  paragonFactionId := 0
  renownCurrencyId := renownCurrencyId
  reputationClassMask := fun _ => 0
  reputationFlags := fun _ => ReputationFlags.visible
  reputationBase := fun _ => 0
  reputationMax := fun _ => 2500
  parentFactionMod := fun _ => 0
  parentFactionCap := fun _ => 0

/-- Catalogs of this faction, and of currency 79 with three levels. -/
def catalogs94 (renownCurrencyId : ℤ) : ReputationCatalogs where
  factionStore := KeyedMap.empty.insert (faction94 renownCurrencyId)
  friendshipRepReactionStore := none
  paragonReputationStore := none
  currencyTypesStore := some (KeyedMap.empty.insert ⟨79, 3, false⟩)

/-- A change to a given standing, at renown level 3 and without spillover. -/
def exactly : SetReputationOptions where
  incremental := false
  spilloverOnly := false
  noSpillover := true
  reputationGainRate := 1
  paragonRewardQuestStatusNone := true
  renownCurrentLevel := 3
  renownCurrencyIncreasedCapQuantity := 0
  player := ⟨1, 1⟩

end RustyCore.Player
