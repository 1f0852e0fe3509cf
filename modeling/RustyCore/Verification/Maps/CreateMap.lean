import RustyCore.Model.Maps.CreateMap

/-! # Finding and creating a map agree

The instance that a player would enter is the one whose map is created, and a map is only
created where there is none. -/

namespace RustyCore.Maps

namespace CreateMapDecision

def key? : CreateMapDecision → Option MapKey
  | existing key _ _ => some key
  | create key _ _ _ => some key
  | reject _ => none

def sideEffects : CreateMapDecision → List CreateMapSideEffect
  | existing _ _ sideEffects => sideEffects
  | create _ _ _ sideEffects => sideEffects
  | reject sideEffects => sideEffects

end CreateMapDecision

variable {Position Data : Type} {maps : InstanceMaps Position Data} {request : CreateMapRequest}
  {entry : CreateMapEntryContext} {player : CreateMapPlayerContext}

namespace InstanceMaps

variable {context : CreateMapDifficultyContext} {instanceId difficulty : ℕ}

/-- A decision is right about which maps there are: it goes on in an existing one and, where it
has `looked`, creates a missing one. -/
structure Settles (maps : InstanceMaps Position Data) (looked : Prop)
    (decision : CreateMapDecision) : Prop where
  existing : ∀ key difficulty sideEffects,
    decision = .existing key difficulty sideEffects → (maps.manager.findMap key).isSome
  create : ∀ key difficulty kind sideEffects,
    decision = .create key difficulty kind sideEffects → looked → maps.manager.findMap key = none

variable {looked : Prop}

theorem settles_reject (sideEffects : List CreateMapSideEffect) :
    maps.Settles looked (.reject sideEffects) :=
  ⟨by simp, by simp⟩

theorem settles_existing {key : MapKey} (found : (maps.manager.findMap key).isSome = true)
    (difficulty : ℕ) (sideEffects : List CreateMapSideEffect) :
    maps.Settles looked (.existing key difficulty sideEffects) := by
  refine ⟨fun key' _ _ same => ?_, by simp⟩
  obtain ⟨rfl, _⟩ := CreateMapDecision.existing.inj same
  exact found

theorem settles_create {key : MapKey} (missing : ¬(maps.manager.findMap key).isSome = true)
    (difficulty : ℕ) (kind : ManagedMapKind) (sideEffects : List CreateMapSideEffect) :
    maps.Settles looked (.create key difficulty kind sideEffects) := by
  refine ⟨by simp, fun key' _ _ _ same _ => ?_⟩
  obtain ⟨rfl, _⟩ := CreateMapDecision.create.inj same
  exact Option.not_isSome_iff_eq_none.mp missing

/-! ## Dungeons -/

theorem enterDungeon_settles (difficulty : ℕ) (context : CreateMapDifficultyContext)
    (instanceId : ℕ) (sideEffects : List CreateMapSideEffect) :
    maps.Settles looked
      (maps.enterDungeon entry player difficulty context instanceId sideEffects) := by
  unfold enterDungeon
  dsimp only
  split
  case isTrue found => exact settles_existing found ..
  case isFalse missing => exact settles_create missing ..

theorem enterDungeon_key? (difficulty : ℕ) (context : CreateMapDifficultyContext)
    (instanceId : ℕ) (sideEffects : List CreateMapSideEffect) :
    (maps.enterDungeon entry player difficulty context instanceId sideEffects).key? =
      some ⟨entry.mapId, instanceId⟩ := by
  unfold enterDungeon
  dsimp only
  split <;> rfl

theorem mem_enterDungeon_sideEffects {newId : ℕ} {sideEffects : List CreateMapSideEffect}
    (mem : .setInstanceLockInstanceId newId ∈
      (maps.enterDungeon entry player difficulty context instanceId sideEffects).sideEffects) :
    .setInstanceLockInstanceId newId ∈ sideEffects := by
  unfold enterDungeon at mem
  dsimp only at mem
  split at mem
  · exact mem
  · rcases List.mem_append.mp mem with mem | mem
    · exact mem
    · split at mem <;> simp at mem

theorem checkDungeonLock_settles (difficulty : ℕ) (context : CreateMapDifficultyContext)
    (instanceId : ℕ) (sideEffects : List CreateMapSideEffect) :
    (maps.checkDungeonLock request entry player difficulty context instanceId sideEffects).2.Settles
      looked (maps.checkDungeonLock request entry player difficulty context instanceId sideEffects).1 := by
  unfold checkDungeonLock
  split
  · split
    · exact settles_reject _
    · exact enterDungeon_settles ..
  · exact enterDungeon_settles ..

theorem createDungeonDecision_settles :
    (maps.createDungeonDecision request entry player).2.Settles looked
      (maps.createDungeonDecision request entry player).1 := by
  unfold createDungeonDecision
  dsimp only
  split
  · exact settles_reject _
  split
  · exact checkDungeonLock_settles ..
  split
  · exact settles_reject _
  · exact checkDungeonLock_settles ..

theorem checkDungeonLock_findMap (difficulty : ℕ) (context : CreateMapDifficultyContext)
    (instanceId : ℕ) (sideEffects : List CreateMapSideEffect) (key : MapKey) :
    (maps.checkDungeonLock request entry player difficulty context instanceId
      sideEffects).2.manager.findMap key = maps.manager.findMap key := by
  unfold checkDungeonLock
  split
  · split
    case h_1 maps' none =>
      obtain rfl : maps.generateInstanceId.2 = maps' := congrArg Prod.snd none
      rfl
    case h_2 generated maps' some =>
      obtain rfl : maps.generateInstanceId.2 = maps' := congrArg Prod.snd some
      rfl
  · rfl

theorem orGenerated_findMap (instanceId : ℕ) (key : MapKey) :
    (maps.orGenerated instanceId).2.manager.findMap key = maps.manager.findMap key := by
  unfold orGenerated
  split <;> rfl

theorem createDungeonDecision_findMap (key : MapKey) :
    (maps.createDungeonDecision request entry player).2.manager.findMap key =
      maps.manager.findMap key := by
  unfold createDungeonDecision
  dsimp only
  split
  · rfl
  split
  · exact checkDungeonLock_findMap ..
  split
  case h_1 maps' none =>
    obtain rfl : (maps.orGenerated _).2 = maps' := congrArg Prod.snd none
    exact orGenerated_findMap _ key
  case h_2 generated maps' some =>
    obtain rfl : (maps.orGenerated _).2 = maps' := congrArg Prod.snd some
    rw [checkDungeonLock_findMap]
    exact orGenerated_findMap _ key

theorem createMapDecision_findMap (key : MapKey) :
    (maps.createMapDecisionLikeCpp request).2.manager.findMap key =
      maps.manager.findMap key := by
  unfold createMapDecisionLikeCpp
  dsimp only
  repeat' split
  all_goals first | exact createDungeonDecision_findMap key | rfl

/-- Only a garrison is created without a look at the maps there are. -/
theorem createMapDecision_settles :
    (maps.createMapDecisionLikeCpp request).2.Settles
      (∀ entry, request.entry = some entry → entry.kind ≠ .garrison)
      (maps.createMapDecisionLikeCpp request).1 := by
  unfold createMapDecisionLikeCpp
  cases request.player with
  | none => exact settles_reject _
  | some player =>
    cases hentry : request.entry with
    | none => exact settles_reject _
    | some entry =>
      dsimp only
      split
      case h_1 _ =>
        split
        · exact settles_reject _
        split
        case isTrue found => exact settles_existing found ..
        case isFalse missing =>
          split
          · exact settles_reject _
          · exact settles_create missing ..
      case h_2 _ => exact createDungeonDecision_settles
      case h_3 garrison =>
        exact ⟨by simp, fun _ _ _ _ _ looked => absurd garrison (looked entry rfl)⟩
      case h_4 _ =>
        split
        case isTrue found => exact settles_existing found ..
        case isFalse missing => exact settles_create missing ..

/-! ## Agreement -/

/-- Where the found instance is the one of the decision, no id is handed out. -/
structure Agrees (maps : InstanceMaps Position Data) (request : CreateMapRequest)
    (instanceId : ℕ) : Prop where
  enters : ∃ entry, request.entry = some entry ∧
    ((maps.createMapDecisionLikeCpp request).1.key? = some ⟨entry.mapId, instanceId⟩ ∨
      entry.kind = .battlegroundOrArena ∧
        (∃ player, request.player = some player ∧ player.hasBattleground = false) ∧
        ∃ sideEffects, (maps.createMapDecisionLikeCpp request).1 = .reject sideEffects)
  unchanged : (maps.createMapDecisionLikeCpp request).2 = maps
  keepsLock : ∀ newId, .setInstanceLockInstanceId newId ∉
    (maps.createMapDecisionLikeCpp request).1.sideEffects

/-- A dungeon whose lock is not another's is entered under the id it has. -/
theorem checkDungeonLock_of_ownLock {sideEffects : List CreateMapSideEffect}
    (ownLock : hasForeignLock context request.activeInstanceLock
      (maps.existingInstance request entry.mapId instanceId) = false) :
    maps.checkDungeonLock request entry player difficulty context instanceId sideEffects =
      (maps.enterDungeon entry player difficulty context instanceId sideEffects, maps) := by
  rw [checkDungeonLock, ownLock]
  rfl

theorem agrees_of_enterDungeon (hentry : request.entry = some entry)
    (h : maps.createMapDecisionLikeCpp request =
      (maps.enterDungeon entry player difficulty context instanceId [], maps)) :
    maps.Agrees request instanceId where
  enters := ⟨entry, hentry, .inl (h ▸ enterDungeon_key? difficulty context instanceId [])⟩
  unchanged := h ▸ rfl
  keepsLock newId mem := by
    rw [h] at mem
    exact absurd (mem_enterDungeon_sideEffects mem) (by simp)

theorem agrees_of_settled {decision : CreateMapDecision} (hentry : request.entry = some entry)
    (h : maps.createMapDecisionLikeCpp request = (decision, maps))
    (key : decision.key? = some ⟨entry.mapId, instanceId⟩) (quiet : decision.sideEffects = []) :
    maps.Agrees request instanceId where
  enters := ⟨entry, hentry, .inl (h ▸ key)⟩
  unchanged := h ▸ rfl
  keepsLock newId := by simp [h, quiet]

theorem findBattleground_agrees (hplayer : request.player = some player)
    (hentry : request.entry = some entry) (kind : entry.kind = .battlegroundOrArena)
    (found : player.battlegroundId ≠ 0) : maps.Agrees request player.battlegroundId := by
  have decided : maps.createMapDecisionLikeCpp request =
      (if (maps.findMap entry.mapId player.battlegroundId).isSome then
          .existing ⟨entry.mapId, player.battlegroundId⟩ 0 []
        else if !player.hasBattleground then .reject [.teleportToBattlegroundEntryPoint]
        else .create ⟨entry.mapId, player.battlegroundId⟩ 0 .battleground [], maps) := by
    simp only [createMapDecisionLikeCpp, hplayer, hentry, kind, found, if_false]
    split
    · rfl
    split <;> rfl
  split at decided
  · exact agrees_of_settled hentry decided rfl rfl
  split at decided
  case isTrue refused =>
    refine ⟨⟨entry, hentry, .inr ⟨kind, ⟨player, hplayer, by simpa using refused⟩, ?_⟩⟩, ?_, ?_⟩
    · exact ⟨_, congrArg Prod.fst decided⟩
    · rw [decided]
    · simp [decided, CreateMapDecision.sideEffects]
  case isFalse _ => exact agrees_of_settled hentry decided rfl rfl

/-- A dungeon that starts from an id of its own checks that id, with nothing done before. -/
theorem createDungeonDecision_of_ne_zero
    (hcontext : request.mapDifficulty entry.mapId player.dungeonDifficulty = some context)
    (ne : dungeonInstanceId request context player ≠ 0) :
    ∃ difficulty, maps.createDungeonDecision request entry player =
      maps.checkDungeonLock request entry player difficulty context
        (dungeonInstanceId request context player) [] := by
  unfold createDungeonDecision
  simp only [hcontext]
  cases hlock : request.activeInstanceLock with
  | some lock =>
    exact ⟨lockedDifficulty entry lock player.dungeonDifficulty, by simp [dungeonInstanceId, hlock]⟩
  | none =>
    have same : dungeonInstanceId request context player =
        unlockedInstanceId context player := by simp [dungeonInstanceId, hlock]
    rw [same] at ne ⊢
    have unscheduled : context.hasResetSchedule = false := by
      cases scheduled : context.hasResetSchedule with
      | false => rfl
      | true => simp [unlockedInstanceId, scheduled] at ne
    exact ⟨player.dungeonDifficulty, by simp [orGenerated, ne, unscheduled]⟩

theorem findDungeon_agrees (hplayer : request.player = some player)
    (hentry : request.entry = some entry) (kind : entry.kind = .dungeon)
    (found : maps.findInstanceIdForPlayerLikeCpp request ≠ 0) :
    maps.Agrees request (maps.findInstanceIdForPlayerLikeCpp request) := by
  have decided : maps.createMapDecisionLikeCpp request =
      maps.createDungeonDecision request entry player := by
    simp only [createMapDecisionLikeCpp, hplayer, hentry, kind]
  simp only [findInstanceIdForPlayerLikeCpp, hplayer, hentry, kind] at found ⊢
  cases hcontext : request.mapDifficulty entry.mapId player.dungeonDifficulty with
  | none => simp [hcontext] at found
  | some context =>
    simp only [hcontext] at found ⊢
    split at found
    case isTrue zero => exact absurd rfl found
    case isFalse ne =>
      rw [if_neg ne]
      split at found
      case isTrue _ => exact absurd rfl found
      case isFalse ownLock =>
        rw [Bool.not_eq_true] at ownLock
        rw [if_neg (by simpa using ownLock)]
        have starts : ∃ difficulty, maps.createDungeonDecision request entry player = _ :=
          createDungeonDecision_of_ne_zero hcontext ne
        obtain ⟨difficulty, start⟩ := starts
        rw [start, checkDungeonLock_of_ownLock ownLock] at decided
        exact agrees_of_enterDungeon hentry decided

theorem findWorld_agrees (hplayer : request.player = some player)
    (hentry : request.entry = some entry) (kind : entry.kind = .world) :
    maps.Agrees request (worldInstanceId entry player) := by
  have decided : maps.createMapDecisionLikeCpp request =
      (if (maps.findMap entry.mapId (worldInstanceId entry player)).isSome then
          .existing ⟨entry.mapId, worldInstanceId entry player⟩ 0 []
        else .create ⟨entry.mapId, worldInstanceId entry player⟩ 0 .world [], maps) := by
    simp only [createMapDecisionLikeCpp, hplayer, hentry, kind]
    split <;> rfl
  split at decided
  · exact agrees_of_settled hentry decided rfl rfl
  · exact agrees_of_settled hentry decided rfl rfl

theorem findInstanceId_agrees (found : maps.findInstanceIdForPlayerLikeCpp request ≠ 0) :
    maps.Agrees request (maps.findInstanceIdForPlayerLikeCpp request) := by
  cases hplayer : request.player with
  | none => exact absurd (by simp [findInstanceIdForPlayerLikeCpp, hplayer]) found
  | some player =>
  cases hentry : request.entry with
  | none => exact absurd (by simp [findInstanceIdForPlayerLikeCpp, hplayer, hentry]) found
  | some entry =>
  cases kind : entry.kind with
  | battlegroundOrArena =>
    simp only [findInstanceIdForPlayerLikeCpp, hplayer, hentry, kind] at found ⊢
    exact findBattleground_agrees hplayer hentry kind found
  | dungeon => exact findDungeon_agrees hplayer hentry kind found
  | garrison =>
    simp only [findInstanceIdForPlayerLikeCpp, hplayer, hentry, kind]
    have decided : maps.createMapDecisionLikeCpp request =
        (.create ⟨entry.mapId, garrisonInstanceId player⟩ 0 .world [], maps) := by
      simp only [createMapDecisionLikeCpp, hplayer, hentry, kind]
    exact agrees_of_settled hentry decided rfl rfl
  | world =>
    simp only [findInstanceIdForPlayerLikeCpp, hplayer, hentry, kind]
    exact findWorld_agrees hplayer hentry kind

/-- The two decisions agree on every state of the manager and every request. -/
theorem createMap_agrees (maps : InstanceMaps Position Data) (request : CreateMapRequest) :
    (maps.findInstanceIdForPlayerLikeCpp request ≠ 0 →
      maps.Agrees request (maps.findInstanceIdForPlayerLikeCpp request)) ∧
    (∀ key difficulty sideEffects,
      (maps.createMapDecisionLikeCpp request).1 = .existing key difficulty sideEffects →
        (maps.manager.findMap key).isSome) ∧
    ∀ key difficulty kind sideEffects,
      (maps.createMapDecisionLikeCpp request).1 = .create key difficulty kind sideEffects →
        (∀ entry, request.entry = some entry → entry.kind ≠ .garrison) →
          maps.manager.findMap key = none := by
  have settles : (maps.createMapDecisionLikeCpp request).2.Settles _ _ :=
    createMapDecision_settles
  refine ⟨findInstanceId_agrees, fun key difficulty sideEffects decided => ?_,
    fun key difficulty kind sideEffects decided looked => ?_⟩
  · rw [← createMapDecision_findMap key]
    exact settles.existing key difficulty sideEffects decided
  · rw [← createMapDecision_findMap key]
    exact settles.create key difficulty kind sideEffects decided looked

end InstanceMaps

end RustyCore.Maps
