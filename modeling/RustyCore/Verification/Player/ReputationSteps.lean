import RustyCore.Library.Run
import RustyCore.Model.Player.Reputation

/-! # What the reputation operations do to the faction states

Every operation either leaves the durable part of a state and its `need_save` flag alone, or
sets the flag; the two exceptions are the early return of a maxed renown faction and the end
of the load of a row. -/

namespace RustyCore.Player

/-- The durable part of a faction state. -/
def FactionState.pair (faction : FactionState) : ℤ × ReputationFlags :=
  (faction.standing, faction.flags)

namespace ReputationMgr

variable {mgr mgr' : ReputationMgr}

/-- The state of a faction after a change that forgets nothing. -/
structure StateKept (before after : FactionState) : Prop where
  factionId : after.factionId = before.factionId
  noted : after.needSave = true ∨ (after.pair = before.pair ∧ after.needSave = before.needSave)

theorem StateKept.refl (faction : FactionState) : StateKept faction faction :=
  ⟨rfl, .inr ⟨rfl, rfl⟩⟩

theorem StateKept.trans {f₁ f₂ f₃ : FactionState} (h : StateKept f₁ f₂) (h' : StateKept f₂ f₃) :
    StateKept f₁ f₃ := by
  refine ⟨h'.factionId.trans h.factionId, ?_⟩
  rcases h'.noted with hneed | ⟨hpair, hsame⟩
  · exact .inl hneed
  · rcases h.noted with hneed | ⟨hpair', hsame'⟩
    · exact .inl (hsame.trans hneed)
    · exact .inr ⟨hpair.trans hpair', hsame.trans hsame'⟩

def Related (R : FactionState → FactionState → Prop) (before after : ReputationMgr) : Prop :=
  ∀ id faction, after.factions.get id = some faction →
    ∃ old, before.factions.get id = some old ∧ R old faction

/-- A change of the managers that forgets nothing. -/
abbrev Kept := Related StateKept

/-- The same, with the standings as they were. -/
abbrev FlagsKept := Related fun before after =>
  StateKept before after ∧ after.standing = before.standing

section Related

variable {R : FactionState → FactionState → Prop} {mgr₁ mgr₂ mgr₃ : ReputationMgr}

theorem Related.of_factions_eq (hrefl : ∀ faction, R faction faction)
    (h : mgr₂.factions = mgr₁.factions) : Related R mgr₁ mgr₂ := by
  intro id faction hget
  rw [h] at hget
  exact ⟨faction, hget, hrefl faction⟩

theorem Related.trans (htrans : ∀ f₁ f₂ f₃, R f₁ f₂ → R f₂ f₃ → R f₁ f₃)
    (h : Related R mgr₁ mgr₂) (h' : Related R mgr₂ mgr₃) : Related R mgr₁ mgr₃ := by
  intro id faction hget
  obtain ⟨middle, hmiddle, hlater⟩ := h' id faction hget
  obtain ⟨old, hold, hearlier⟩ := h id middle hmiddle
  exact ⟨old, hold, htrans old middle faction hearlier hlater⟩

end Related

theorem Kept.of_factions_eq (h : mgr'.factions = mgr.factions) :
    Kept mgr mgr' := Related.of_factions_eq StateKept.refl h

theorem Kept.trans {mgr₁ mgr₂ mgr₃ : ReputationMgr} (h : Kept mgr₁ mgr₂) (h' : Kept mgr₂ mgr₃) :
    Kept mgr₁ mgr₃ := Related.trans (fun _ _ _ => StateKept.trans) h h'

theorem FlagsKept.of_factions_eq (h : mgr'.factions = mgr.factions) :
    FlagsKept mgr mgr' := Related.of_factions_eq (fun faction => ⟨StateKept.refl faction, rfl⟩) h

theorem FlagsKept.refl (mgr : ReputationMgr) : FlagsKept mgr mgr := .of_factions_eq rfl

theorem FlagsKept.trans {mgr₁ mgr₂ mgr₃ : ReputationMgr} (h : FlagsKept mgr₁ mgr₂)
    (h' : FlagsKept mgr₂ mgr₃) : FlagsKept mgr₁ mgr₃ :=
  Related.trans (fun _ _ _ hr hr' => ⟨hr.1.trans hr'.1, hr'.2.trans hr.2⟩) h h'

theorem FlagsKept.kept (h : FlagsKept mgr mgr') : Kept mgr mgr' := by
  intro id faction hget
  obtain ⟨old, hold, hkept, _⟩ := h id faction hget
  exact ⟨old, hold, hkept⟩

/-! ## Flags -/

theorem get_modifyFaction (mgr : ReputationMgr) (repListId : ℕ) (f : FactionState → FactionState)
    (hf : ∀ faction, (f faction).reputationListId = faction.reputationListId) (id : ℕ) :
    (mgr.modifyFaction repListId f).factions.get id =
      if id = repListId then (mgr.factions.get repListId).map f else mgr.factions.get id := by
  rw [modifyFaction]
  cases hget : mgr.factions.get repListId with
  | none =>
    by_cases hid : id = repListId
    · rw [if_pos hid, hid, hget]
      rfl
    · rw [if_neg hid]
  | some faction =>
    have hkey : (f faction).reputationListId = repListId :=
      (hf faction).trans (KeyedMap.key_of_get hget)
    simp only [KeyedMap.get_insert, hkey, Option.map_some]

theorem flagsKept_withFlags {repListId : ℕ} {faction : FactionState}
    (hget : mgr.factions.get repListId = some faction) (flags : ReputationFlags) :
    FlagsKept mgr (mgr.withFlags faction flags) := by
  intro id after hafter
  simp only [withFlags, KeyedMap.get_insert] at hafter
  split at hafter
  · rename_i hid
    cases hafter
    have hkey : faction.reputationListId = repListId := KeyedMap.key_of_get hget
    exact ⟨faction, by rw [hid, hkey, hget], ⟨rfl, .inl rfl⟩, rfl⟩
  · exact ⟨after, hafter, .refl after, rfl⟩

theorem flagsKept_setVisible (mgr : ReputationMgr) (catalogs : ReputationCatalogs)
    (repListId : ℕ) : FlagsKept mgr (mgr.setVisible catalogs repListId) := by
  rw [setVisible]
  cases hget : mgr.factions.get repListId with
  | none => exact .refl mgr
  | some faction =>
    simp only
    split_ifs
    · exact .refl mgr
    · exact .refl mgr
    · exact .refl mgr
    · exact .refl mgr
    · exact (flagsKept_withFlags hget _).trans (.of_factions_eq rfl)

theorem flagsKept_setInactive (mgr : ReputationMgr) (repListId : ℕ) (inactive : Bool) :
    FlagsKept mgr (mgr.setInactive repListId inactive) := by
  rw [setInactive]
  cases hget : mgr.factions.get repListId with
  | none => exact .refl mgr
  | some faction =>
    simp only
    split
    · exact .refl mgr
    · split
      · exact .refl mgr
      · exact flagsKept_withFlags hget _

theorem flagsKept_setAtWar (mgr : ReputationMgr) (catalogs : ReputationCatalogs) (repListId : ℕ)
    (atWar : Bool) (entry : FactionEntry) (player : RaceAndClass) :
    FlagsKept mgr (mgr.setAtWar catalogs repListId atWar entry player) := by
  rw [setAtWar]
  cases hget : mgr.factions.get repListId with
  | none => exact .refl mgr
  | some faction =>
    simp only
    split
    · exact .refl mgr
    · split
      · exact .refl mgr
      · split
        · exact .refl mgr
        · exact flagsKept_withFlags hget _

/-! ## Standings -/

theorem flagsKept_changeRank (mgr : ReputationMgr) (catalogs : ReputationCatalogs)
    (entry : FactionEntry) (player : RaceAndClass) (oldStanding target : ℤ) :
    FlagsKept mgr (mgr.changeRank catalogs entry player oldStanding target).1 := by
  have hatWar : FlagsKept mgr
      (if decide ((reputationToRank catalogs entry target).asU8 ≤ ReputationRank.hostile.asU8) then
        mgr.setAtWar catalogs entry.repListId true entry player else mgr) := by
    split
    · exact flagsKept_setAtWar mgr catalogs entry.repListId true entry player
    · exact .refl mgr
  refine hatWar.trans (.of_factions_eq ?_)
  simp only [changeRank]
  split_ifs <;> rfl

theorem kept_modifyFaction (mgr : ReputationMgr) (repListId : ℕ) {f : FactionState → FactionState}
    (hf : ∀ faction, (f faction).reputationListId = faction.reputationListId)
    (hkept : ∀ faction, StateKept faction (f faction)) :
    Kept mgr (mgr.modifyFaction repListId f) := by
  intro id faction hget
  rw [get_modifyFaction mgr repListId f hf] at hget
  split at hget
  · rename_i hid
    obtain ⟨old, hold, rfl⟩ := Option.map_eq_some_iff.mp hget
    exact ⟨old, by rw [hid, hold], hkept old⟩
  · exact ⟨faction, hget, .refl faction⟩

/-- Apart from the early return, a new standing is noted. -/
theorem kept_setOneFactionReputation (mgr : ReputationMgr) {catalogs : ReputationCatalogs}
    {options : SetReputationOptions} {entry : FactionEntry} {standing : ℤ}
    (hmaxed : renownMaxed catalogs options entry standing = false) :
    Kept mgr (mgr.setOneFactionReputation catalogs options entry standing).1 := by
  simp only [setOneFactionReputation]
  cases hget : mgr.factions.get entry.repListId with
  | none => exact .of_factions_eq rfl
  | some faction =>
    simp only [hmaxed, Bool.false_eq_true, if_false]
    have hranked : Kept mgr
        (if (catalogs.paragonReputation entry.id).isNone && decide (entry.renownCurrencyId ≤ 0) then
          (mgr.changeRank catalogs entry options.player
            (faction.standing + baseReputation entry options.player)
            (targetStanding catalogs options entry standing
              (faction.standing + baseReputation entry options.player))).1
        else { mgr with sendFactionIncreased := true }) := by
      split
      · exact (flagsKept_changeRank mgr catalogs entry options.player _ _).kept
      · exact .of_factions_eq rfl
    refine (hranked.trans (kept_modifyFaction _ entry.repListId ?_ ?_)).trans
      (flagsKept_setVisible _ catalogs entry.repListId).kept
    · exact fun _ => rfl
    · exact fun _ => ⟨rfl, .inl rfl⟩

/-! ## Loading -/

theorem flagsKept_loadFlags (catalogs : ReputationCatalogs) (player : RaceAndClass)
    (mgr : ReputationMgr) (entry : FactionEntry) (dbFlags : ReputationFlags)
    (newRank : ReputationRank) :
    FlagsKept mgr (loadFlags catalogs player mgr entry dbFlags newRank) := by
  simp only [loadFlags]
  have hvisible : ∀ mgr : ReputationMgr, FlagsKept mgr
      (if dbFlags.contains .visible then mgr.setVisible catalogs entry.repListId else mgr) := by
    intro mgr
    split
    · exact flagsKept_setVisible mgr catalogs entry.repListId
    · exact .refl mgr
  have hinactive : ∀ mgr : ReputationMgr, FlagsKept mgr
      (if dbFlags.contains .inactive then mgr.setInactive entry.repListId true else mgr) := by
    intro mgr
    split
    · exact flagsKept_setInactive mgr entry.repListId true
    · exact .refl mgr
  have hatWar : ∀ mgr : ReputationMgr, FlagsKept mgr
      (if dbFlags.contains .atWar then mgr.setAtWar catalogs entry.repListId true entry player
      else if mgr.isVisible entry.repListId then
        mgr.setAtWar catalogs entry.repListId false entry player
      else mgr) := by
    intro mgr
    split
    · exact flagsKept_setAtWar mgr catalogs entry.repListId true entry player
    · split
      · exact flagsKept_setAtWar mgr catalogs entry.repListId false entry player
      · exact .refl mgr
  have hhostile : ∀ mgr : ReputationMgr, FlagsKept mgr
      (if newRank.asU8 ≤ ReputationRank.hostile.asU8 then
        mgr.setAtWar catalogs entry.repListId true entry player else mgr) := by
    intro mgr
    split
    · exact flagsKept_setAtWar mgr catalogs entry.repListId true entry player
    · exact .refl mgr
  exact ((hvisible mgr).trans (hinactive _)).trans ((hatWar _).trans (hhostile _))

/-! ## Spillover -/

theorem fst_foldl_runSpillover (catalogs : ReputationCatalogs) (options : SetReputationOptions)
    (calls : List SpilloverCall)
    (so_far : ReputationMgr × SetReputationOutcome) :
    (calls.foldl (runSpillover catalogs options) so_far).1 =
      run (ReputationMgr.applySpillover catalogs options) so_far.1 calls := by
  induction calls generalizing so_far with
  | nil => rfl
  | cons call calls ih =>
    rw [List.foldl_cons, run_cons, ih]
    congr 1
    simp only [runSpillover, ReputationMgr.applySpillover]
    cases call so_far.1 <;> rfl

theorem fst_setReputation (mgr : ReputationMgr) (catalogs : ReputationCatalogs)
    (options : SetReputationOptions) (template : Option RepSpilloverTemplate)
    (entry : FactionEntry) (standing : ℤ) :
    (mgr.setReputation catalogs options template entry standing).1 =
      let spilled := run (ReputationMgr.applySpillover catalogs options) mgr
        (mgr.spillovers catalogs options template entry standing)
      let primary := spilled.primaryFactionToModify catalogs options entry standing
      if (spilled.factions.get primary.repListId).isSome ∧ options.spilloverOnly = false then
        (spilled.setOneFactionReputation catalogs options primary standing).1
      else spilled := by
  simp only [ReputationMgr.setReputation, fst_foldl_runSpillover]
  split
  · rename_i hsome
    cases hspillover : options.spilloverOnly with
    | true => simp only [hsome, Bool.true_eq_false, and_false, if_true, if_false]
    | false => simp only [hsome, Bool.false_eq_true, and_self, if_true, if_false]
  · rename_i hnone
    rw [if_neg fun hboth => hnone hboth.1]

end ReputationMgr

end RustyCore.Player
