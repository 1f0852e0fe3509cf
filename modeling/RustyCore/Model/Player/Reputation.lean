import RustyCore.Model.Player.ReputationCatalog

/-! # Reputation manager

The faction states of a player with their `need_save` flags, the operations that change
them, and the acknowledgement of a save. -/

namespace RustyCore.Player

structure FactionState where
  factionId : ℕ
  reputationListId : ℕ
  standing : ℤ
  visualStandingIncrease : ℤ
  flags : ReputationFlags
  needSend : Bool
  needSave : Bool
deriving DecidableEq

/-- A faction is seeded at zero standing and marked for the client and the database. -/
def FactionState.new (factionId reputationListId : ℕ) (flags : ReputationFlags) : FactionState :=
  ⟨factionId, reputationListId, 0, 0, flags, true, true⟩

/-- Neither to be sent nor to be saved. -/
def FactionState.cleared (faction : FactionState) : FactionState :=
  { faction with needSend := false, needSave := false }

structure ReputationRankCounters where
  visible : ℕ
  honored : ℕ
  revered : ℕ
  exalted : ℕ
deriving DecidableEq

/-- Saturating addition of 1 and -1 on bytes. -/
def adjustCounter (up : Bool) (counter : ℕ) : ℕ :=
  if up then min (counter + 1) 255 else counter - 1

structure ReputationMgr where
  factions : KeyedMap FactionState.reputationListId
  rankCounters : ReputationRankCounters
  sendFactionIncreased : Bool

structure SetReputationOptions where
  incremental : Bool
  spilloverOnly : Bool
  noSpillover : Bool
  reputationGainRate : Float32
  paragonRewardQuestStatusNone : Bool
  renownCurrentLevel : ℤ
  renownCurrencyIncreasedCapQuantity : ℕ
  player : RaceAndClass

structure ReputationMutationOutcome where
  applied : Bool
  reputationChange : ℤ
  oldRank : Option ReputationRank
  newRank : Option ReputationRank
  setAtWarForHostile : Bool
  becameVisible : Bool
  paragonRewardQuestIdToAdd : Option ℤ
  renownCurrencyDelta : Option (ℕ × ℤ)

def ReputationMutationOutcome.notApplied : ReputationMutationOutcome :=
  ⟨false, 0, none, none, false, false, none, none⟩

structure SetReputationOutcome where
  applied : Bool
  scriptReputationChangeEvent : Option (ℕ × ℤ × Bool)
  spilloverMutations : List (ℕ × ReputationMutationOutcome)
  primaryMutation : Option (ℕ × ReputationMutationOutcome)
  sendStateRepListId : Option ℕ

structure CharacterReputationRow where
  factionId : ℕ
  standing : ℤ
  flags : BitVec 16

namespace ReputationMgr

def empty : ReputationMgr := ⟨KeyedMap.empty, ⟨0, 0, 0, 0⟩, false⟩

/-! ## Flags and counters -/

/-- Change the state of one faction, if it is there. -/
def modifyFaction (mgr : ReputationMgr) (repListId : ℕ) (f : FactionState → FactionState) :
    ReputationMgr :=
  match mgr.factions.get repListId with
  | none => mgr
  | some faction => { mgr with factions := mgr.factions.insert (f faction) }

/-- The state with other flags, to be sent and saved. -/
def withFlags (mgr : ReputationMgr) (faction : FactionState) (flags : ReputationFlags) :
    ReputationMgr :=
  { mgr with
    factions := mgr.factions.insert
      { faction with flags := flags, needSend := true, needSave := true } }

def setVisible (mgr : ReputationMgr) (catalogs : ReputationCatalogs) (repListId : ℕ) :
    ReputationMgr :=
  match mgr.factions.get repListId with
  | none => mgr
  | some faction =>
    if faction.flags.contains .hidden then mgr
    else if faction.flags.contains .header && !faction.flags.contains .headerShowsBar then mgr
    else if (catalogs.paragonReputation faction.factionId).isSome then mgr
    else if faction.flags.contains .visible then mgr
    else
      let shown := mgr.withFlags faction (faction.flags ||| .visible)
      { shown with
        rankCounters :=
          { shown.rankCounters with visible := adjustCounter true shown.rankCounters.visible } }

def setInactive (mgr : ReputationMgr) (repListId : ℕ) (inactive : Bool) : ReputationMgr :=
  match mgr.factions.get repListId with
  | none => mgr
  | some faction =>
    if faction.flags.intersects (.hidden ||| .header) || !faction.flags.contains .visible then mgr
    else if faction.flags.contains .inactive = inactive then mgr
    else
      mgr.withFlags faction
        (if inactive then faction.flags ||| .inactive else faction.flags.remove .inactive)

def setAtWar (mgr : ReputationMgr) (catalogs : ReputationCatalogs) (repListId : ℕ) (atWar : Bool)
    (entry : FactionEntry) (player : RaceAndClass) : ReputationMgr :=
  match mgr.factions.get repListId with
  | none => mgr
  | some faction =>
    let rank := reputationToRank catalogs entry (baseReputation entry player + faction.standing)
    if faction.flags.intersects (.hidden ||| .header) then mgr
    else if atWar && faction.flags.contains .peaceful &&
        decide (ReputationRank.hated.asU8 < rank.asU8) then mgr
    else if faction.flags.contains .atWar = atWar then mgr
    else
      mgr.withFlags faction
        (if atWar then faction.flags ||| .atWar else faction.flags.remove .atWar)

/-- Count a rank, or stop counting it, among those at least honored, revered and exalted. -/
def countRank (up : Bool) (rank : ReputationRank) (counters : ReputationRankCounters) :
    ReputationRankCounters :=
  let adjust (bound : ReputationRank) (counter : ℕ) : ℕ :=
    if bound.asU8 ≤ rank.asU8 then adjustCounter up counter else counter
  { counters with
    honored := adjust .honored counters.honored
    revered := adjust .revered counters.revered
    exalted := adjust .exalted counters.exalted }

def updateRankCounters (mgr : ReputationMgr) (oldRank newRank : ReputationRank) : ReputationMgr :=
  { mgr with rankCounters := countRank true newRank (countRank false oldRank mgr.rankCounters) }

/-! ## Standings -/

/-- `(standing as f32 * rate + 0.5).floor() as i32` -/
def scaledGain (standing : ℤ) (rate : Float32) : ℤ :=
  (Float32.ofInt standing * rate + 0.5).floor.toInt32.toInt

/-- A positive gain of a renown faction that has reached its last level. -/
def renownMaxed (catalogs : ReputationCatalogs) (options : SetReputationOptions)
    (entry : FactionEntry) (standing : ℤ) : Bool :=
  0 < entry.renownCurrencyId && 0 < standing &&
    decide (renownMaxLevel catalogs entry options.renownCurrencyIncreasedCapQuantity ≤
      options.renownCurrentLevel)

/-- The standing to reach: the gain on top of the old standing, within the bounds. -/
def targetStanding (catalogs : ReputationCatalogs) (options : SetReputationOptions)
    (entry : FactionEntry) (standing oldStanding : ℤ) : ℤ :=
  let target :=
    if options.incremental || decide (0 < entry.renownCurrencyId) then
      scaledGain standing options.reputationGainRate + oldStanding
    else standing
  let max := maxReputation catalogs entry oldStanding options.paragonRewardQuestStatusNone
    options.renownCurrencyIncreasedCapQuantity options.player
  Max.max (minReputation catalogs entry) (min target max)

/-- The new standing, the change and the renown levels of a renown faction. -/
structure RenownChange where
  newStanding : ℤ
  reputationChange : ℤ
  visualStandingIncrease : Option ℤ
  renownCurrencyDelta : Option (ℕ × ℤ)

def renownChange (catalogs : ReputationCatalogs) (options : SetReputationOptions)
    (entry : FactionEntry) (target oldStanding : ℤ) : RenownChange :=
  let newStanding := target - baseReputation entry options.player
  let reputationChange := target - oldStanding
  match (renownCurrency catalogs entry).filter fun _ => 0 < entry.renownCurrencyId with
  | none => ⟨newStanding, reputationChange, none, none⟩
  | some currency =>
    let threshold := renownLevelThreshold entry options.player
    let maxLevel := renownMaxLevel catalogs entry options.renownCurrencyIncreasedCapQuantity
    if 0 < threshold then
      let total := options.renownCurrentLevel * threshold + newStanding
      let newLevel := total.tdiv threshold
      let full := decide (maxLevel ≤ newLevel)
      let change := if full then reputationChange + (maxLevel * threshold - total) else reputationChange
      { newStanding := if full then 0 else total.tmod threshold
        reputationChange := change
        visualStandingIncrease := some change
        renownCurrencyDelta :=
          if options.renownCurrentLevel ≠ newLevel then
            some (currency.id, newLevel - options.renownCurrentLevel)
          else none }
    else ⟨newStanding, reputationChange, none, none⟩

/-- The rank part of a change that is neither paragon nor renown: the ranks, and whether the
faction turned hostile. -/
def changeRank (mgr : ReputationMgr) (catalogs : ReputationCatalogs) (entry : FactionEntry)
    (player : RaceAndClass) (oldStanding target : ℤ) :
    ReputationMgr × ReputationRank × ReputationRank × Bool :=
  let old := reputationToRank catalogs entry oldStanding
  let new := reputationToRank catalogs entry target
  let hostile := decide (new.asU8 ≤ ReputationRank.hostile.asU8)
  let mgr := if hostile then mgr.setAtWar catalogs entry.repListId true entry player else mgr
  let mgr := if old.asU8 < new.asU8 then { mgr with sendFactionIncreased := true } else mgr
  let mgr := if entry.friendshipRepId = 0 then mgr.updateRankCounters old new else mgr
  (mgr, old, new, hostile)

/-- Whether the flags of a faction have `VISIBLE`. -/
def isVisible (mgr : ReputationMgr) (repListId : ℕ) : Bool :=
  (mgr.factions.get repListId).any fun faction => faction.flags.contains .visible

def setOneFactionReputation (mgr : ReputationMgr) (catalogs : ReputationCatalogs)
    (options : SetReputationOptions) (entry : FactionEntry) (standing : ℤ) :
    ReputationMgr × ReputationMutationOutcome :=
  let repListId := entry.repListId
  match mgr.factions.get repListId with
  | none => (mgr, .notApplied)
  | some faction =>
    if renownMaxed catalogs options entry standing then
      (mgr.modifyFaction repListId FactionState.cleared, .notApplied)
    else
      let oldStanding := faction.standing + baseReputation entry options.player
      let target := targetStanding catalogs options entry standing oldStanding
      let paragon := catalogs.paragonReputation entry.id
      let ranked := paragon.isNone && decide (entry.renownCurrencyId ≤ 0)
      let (changed, old, new, hostile) :=
        mgr.changeRank catalogs entry options.player oldStanding target
      let mgr := if ranked then changed else { mgr with sendFactionIncreased := true }
      let renown := renownChange catalogs options entry target oldStanding
      let mgr :=
        mgr.modifyFaction repListId fun faction =>
          { faction with
            visualStandingIncrease :=
              renown.visualStandingIncrease.getD faction.visualStandingIncrease
            standing := renown.newStanding
            needSend := true
            needSave := true }
      let wasVisible := mgr.isVisible repListId
      let mgr := mgr.setVisible catalogs repListId
      (mgr,
        { applied := true
          reputationChange := renown.reputationChange
          oldRank := if ranked then some old else none
          newRank := if ranked then some new else none
          setAtWarForHostile := ranked && hostile
          becameVisible := !wasVisible && mgr.isVisible repListId
          paragonRewardQuestIdToAdd :=
            ((paragon.filter fun entry => 0 < entry.levelThreshold).filter fun entry =>
              oldStanding.tdiv entry.levelThreshold ≠ target.tdiv entry.levelThreshold).map
              ParagonReputationEntry.questId
          renownCurrencyDelta := renown.renownCurrencyDelta })

/-! ## Spillover -/

/-- A call of `set_one_faction_reputation`, if the manager calls for it, and whether its
application counts as one of the whole operation. -/
abbrev SpilloverCall := ReputationMgr → Option (FactionEntry × ℤ × Bool)

def getReputationRankByFactionId (mgr : ReputationMgr) (catalogs : ReputationCatalogs)
    (factionId : ℕ) (player : RaceAndClass) : ReputationRank :=
  match catalogs.factionStore.get factionId with
  | none => .neutral
  | some faction =>
    let standing := ((mgr.factions.get faction.repListId).map FactionState.standing).getD 0 +
      baseReputation faction player
    reputationToRank catalogs faction standing

/-- The slots of a spillover template. -/
def templateSpillover (catalogs : ReputationCatalogs) (options : SetReputationOptions)
    (template : RepSpilloverTemplate) (standing : ℤ) (index : Fin 5) : SpilloverCall := fun mgr =>
  let factionId := template.faction index
  if factionId = 0 then none
  else
    let cap := (ReputationRank.fromU8 (template.factionRank index)).getD .exalted
    if (mgr.getReputationRankByFactionId catalogs factionId options.player).asU8 ≤ cap.asU8 then
      (catalogs.factionStore.get factionId).map fun faction =>
        (faction, (Float32.ofInt standing * template.factionRate index).toInt32.toInt, true)
    else none

def teamSpillover (catalogs : ReputationCatalogs) (options : SetReputationOptions)
    (entry : FactionEntry) (spilloverRepOut : Float32) (factionId : ℕ) : SpilloverCall := fun mgr =>
  match catalogs.factionStore.get factionId with
  | none => none
  | some faction =>
    if faction.id = entry.id then none
    else
      let cap := (ReputationRank.fromU8 (faction.parentFactionCap 0)).getD .exalted
      if cap.asU8 < (mgr.getReputationRankByFactionId catalogs faction.id options.player).asU8 then
        none
      else
        let rep := (spilloverRepOut * faction.parentFactionMod 0).toInt32.toInt
        if rep ≠ 0 ∨ options.incremental = false then some (faction, rep, true) else none

/-- The calls without a template: the parent, or else the team of the faction or of the
parent. -/
def teamSpillovers (mgr : ReputationMgr) (catalogs : ReputationCatalogs)
    (options : SetReputationOptions) (entry : FactionEntry) (standing : ℤ) : List SpilloverCall :=
  let out := Float32.ofInt standing
  let team := catalogs.factionStore.factionTeamList entry.id
  if team.isEmpty && entry.parentFactionId != 0 && entry.parentFactionMod 1 != 0 then
    let out := out * entry.parentFactionMod 1
    match catalogs.factionStore.get entry.parentFactionId with
    | none => []
    | some parent =>
      if (mgr.factions.get parent.repListId).any (·.flags.contains .headerShowsBar) then
        [fun _ => some (parent, out.toInt32.toInt, false)]
      else
        (catalogs.factionStore.factionTeamList entry.parentFactionId).map
          (teamSpillover catalogs options entry out)
  else team.map (teamSpillover catalogs options entry out)

def spillovers (mgr : ReputationMgr) (catalogs : ReputationCatalogs)
    (options : SetReputationOptions) (template : Option RepSpilloverTemplate)
    (entry : FactionEntry) (standing : ℤ) : List SpilloverCall :=
  if options.noSpillover then []
  else
    match template with
    | some template =>
      (List.finRange 5).map (templateSpillover catalogs options template standing)
    | none => mgr.teamSpillovers catalogs options entry standing

def canGainParagonReputationForFaction (mgr : ReputationMgr) (catalogs : ReputationCatalogs)
    (options : SetReputationOptions) (entry : FactionEntry) : Bool :=
  if (catalogs.factionStore.get entry.paragonFactionId).isNone then false
  else
    let rank := (mgr.factions.get entry.repListId).map fun faction =>
      reputationToRank catalogs.withoutFriendships entry
        (baseReputation entry options.player + faction.standing)
    if rank ≠ some .exalted ∧ options.renownCurrentLevel <
        renownMaxLevel catalogs entry options.renownCurrencyIncreasedCapQuantity then false
    else (catalogs.paragonReputation entry.paragonFactionId).isSome

/-- The faction that the change itself goes to: the faction or its paragon faction. -/
def primaryFactionToModify (mgr : ReputationMgr) (catalogs : ReputationCatalogs)
    (options : SetReputationOptions) (entry : FactionEntry) (standing : ℤ) : FactionEntry :=
  if options.incremental && decide (0 < standing) &&
      mgr.canGainParagonReputationForFaction catalogs options entry then
    (catalogs.factionStore.get entry.paragonFactionId).getD entry
  else entry

/-- The manager after one spillover. -/
def applySpillover (catalogs : ReputationCatalogs) (options : SetReputationOptions)
    (mgr : ReputationMgr) (call : SpilloverCall) : ReputationMgr :=
  match call mgr with
  | none => mgr
  | some (faction, rep, _) => (mgr.setOneFactionReputation catalogs options faction rep).1

def runSpillover (catalogs : ReputationCatalogs) (options : SetReputationOptions)
    (so_far : ReputationMgr × SetReputationOutcome) (call : SpilloverCall) :
    ReputationMgr × SetReputationOutcome :=
  match call so_far.1 with
  | none => so_far
  | some (faction, rep, counts) =>
    let (mgr, mutation) := so_far.1.setOneFactionReputation catalogs options faction rep
    (mgr,
      { so_far.2 with
        applied := so_far.2.applied || (counts && mutation.applied)
        spilloverMutations := so_far.2.spilloverMutations ++ [(faction.id, mutation)] })

def setReputation (mgr : ReputationMgr) (catalogs : ReputationCatalogs)
    (options : SetReputationOptions) (template : Option RepSpilloverTemplate)
    (entry : FactionEntry) (standing : ℤ) : ReputationMgr × SetReputationOutcome :=
  let started : SetReputationOutcome :=
    ⟨false, some (entry.id, standing, options.incremental), [], none, none⟩
  let (mgr, outcome) :=
    (mgr.spillovers catalogs options template entry standing).foldl (runSpillover catalogs options)
      (mgr, started)
  let primary := mgr.primaryFactionToModify catalogs options entry standing
  if (mgr.factions.get primary.repListId).isSome then
    let outcome := { outcome with sendStateRepListId := some primary.repListId }
    if options.spilloverOnly then (mgr, outcome)
    else
      let (mgr, mutation) := mgr.setOneFactionReputation catalogs options primary standing
      (mgr,
        { outcome with
          applied := outcome.applied || mutation.applied
          primaryMutation := some (primary.id, mutation) })
  else (mgr, outcome)

/-! ## Loading -/

def initializeFaction (catalogs : ReputationCatalogs) (player : RaceAndClass) (mgr : ReputationMgr)
    (entry : FactionEntry) : ReputationMgr :=
  if !entry.canHaveReputation then mgr
  else
    let flags := defaultStateFlags catalogs entry player
    let mgr :=
      if flags.contains .visible then
        { mgr with
          rankCounters :=
            { mgr.rankCounters with visible := adjustCounter true mgr.rankCounters.visible } }
      else mgr
    let mgr :=
      if entry.friendshipRepId = 0 then
        mgr.updateRankCounters .hostile (baseRank catalogs entry player)
      else mgr
    { mgr with factions := mgr.factions.insert (.new entry.id entry.repListId flags) }

/-- `initialize`: every faction that can have reputation is seeded. -/
def initializeFactions (catalogs : ReputationCatalogs) (player : RaceAndClass) : ReputationMgr :=
  catalogs.factionStore.values.foldl (initializeFaction catalogs player) empty

/-- The faction that a row is about. -/
def rowFaction (catalogs : ReputationCatalogs) (row : CharacterReputationRow) :
    Option FactionEntry :=
  (catalogs.factionStore.get row.factionId).filter FactionEntry.canHaveReputation

/-- The flags of a row, set one by one as far as the rules allow. -/
def loadFlags (catalogs : ReputationCatalogs) (player : RaceAndClass) (mgr : ReputationMgr)
    (entry : FactionEntry) (dbFlags : ReputationFlags) (newRank : ReputationRank) :
    ReputationMgr :=
  let repListId := entry.repListId
  let mgr := if dbFlags.contains .visible then mgr.setVisible catalogs repListId else mgr
  let mgr := if dbFlags.contains .inactive then mgr.setInactive repListId true else mgr
  let mgr :=
    if dbFlags.contains .atWar then mgr.setAtWar catalogs repListId true entry player
    else if mgr.isVisible repListId then mgr.setAtWar catalogs repListId false entry player
    else mgr
  if newRank.asU8 ≤ ReputationRank.hostile.asU8 then
    mgr.setAtWar catalogs repListId true entry player
  else mgr

def loadRow (catalogs : ReputationCatalogs) (player : RaceAndClass) (mgr : ReputationMgr)
    (row : CharacterReputationRow) : ReputationMgr :=
  match rowFaction catalogs row with
  | none => mgr
  | some entry =>
    let base := baseReputation entry player
    let oldRank := reputationToRank catalogs entry base
    let newRank := reputationToRank catalogs entry (base + row.standing)
    let mgr := if entry.friendshipRepId = 0 then mgr.updateRankCounters oldRank newRank else mgr
    let mgr := mgr.modifyFaction entry.repListId fun faction =>
      { faction with standing := row.standing }
    let dbFlags := ReputationFlags.fromBitsTruncate row.flags
    (loadFlags catalogs player mgr entry dbFlags newRank).modifyFaction entry.repListId
      fun faction => if faction.flags = dbFlags then faction.cleared else faction

def loadFromDb (catalogs : ReputationCatalogs) (rows : List CharacterReputationRow)
    (player : RaceAndClass) : ReputationMgr :=
  rows.foldl (loadRow catalogs player) (initializeFactions catalogs player)

/-! ## Acknowledgement -/

def acknowledges (row current : FactionState) : Bool :=
  row.needSave && row.factionId == current.factionId &&
    row.reputationListId == current.reputationListId && row.standing == current.standing &&
    row.flags == current.flags

/-- The reputation part of `acknowledge_saved_projection`: a current state that was saved as
it is need not be saved again. -/
def acknowledgeSavedProjection (mgr : ReputationMgr) (saved : List FactionState) : ReputationMgr :=
  { mgr with
    factions := mgr.factions.values.foldl (fun factions current =>
      if saved.any (acknowledges · current) then factions.insert { current with needSave := false }
      else factions) mgr.factions }

end ReputationMgr

end RustyCore.Player
