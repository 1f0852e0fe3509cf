import RustyCore.Verification.Maps.Runs

/-! # Occupied maps

A tick decides at its beginning which maps it destroys and removes them at its end. In
between a player may enter one of them. -/

namespace RustyCore.Maps

variable {Position Data : Type}
variable {key : MapKey} {map : ManagedMap Position Data}

/-! ## Players on a map -/

/-- What a residence depends on: who the player is and where it is bound. -/
def Player.bound (player : Player Position Data) : ObjectGuid × Option MapKey :=
  (player.guid, player.currentMap)

/-- The phases of a tick neither add, remove nor move a player. -/
structure MapPhases.KeepsPlayers (phases : MapPhases Position Data) : Prop where
  afterSessions : ∀ diffMs entityWorld guid,
    (EntityWorld.getTypedPlayer (phases.afterSessions diffMs entityWorld) guid).map Player.bound =
      (entityWorld.getTypedPlayer guid).map Player.bound
  delayedUpdate : ∀ diffMs entityWorld guid,
    (EntityWorld.getTypedPlayer (phases.delayedUpdate diffMs entityWorld) guid).map Player.bound =
      (entityWorld.getTypedPlayer guid).map Player.bound

namespace EntityWorld

variable (entityWorld : EntityWorld Position Data)

theorem mem_players {entityWorld : EntityWorld Position Data} {guid : ObjectGuid} :
    guid ∈ entityWorld.players ↔ ∃ player, entityWorld.getTypedPlayer guid = some player := by
  simp only [players, List.mem_map, List.mem_filter, getTypedPlayer_eq_some]
  constructor
  · rintro ⟨⟨guid', record⟩, ⟨hmem, hplayer⟩, rfl⟩
    cases record with
    | player player => exact ⟨player, Dict.mem_entries_iff.mp hmem⟩
    | other => cases hplayer
  · rintro ⟨player, hplayer⟩
    exact ⟨⟨guid, .player player⟩, ⟨Dict.mem_entries_iff.mpr hplayer, rfl⟩, rfl⟩

theorem playerCount_eq : entityWorld.playerCount = min entityWorld.players.length (2 ^ 32 - 1) := by
  have hfold : ∀ (guids : List ObjectGuid) (total : ℕ), total ≤ 2 ^ 32 - 1 →
      guids.foldl (fun total _ => saturatingAdd 32 total 1) total =
        min (total + guids.length) (2 ^ 32 - 1) := by
    intro guids
    induction guids with
    | nil =>
      intro total htotal
      simp only [List.foldl_nil, List.length_nil]
      omega
    | cons guid guids ih =>
      intro total htotal
      rw [List.foldl_cons, ih (saturatingAdd 32 total 1) (Nat.min_le_right _ _)]
      simp only [saturatingAdd, List.length_cons]
      omega
  rw [playerCount, hfold _ _ (Nat.zero_le _), Nat.zero_add]

end EntityWorld

theorem ManagedMap.havePlayers_iff :
    map.havePlayers = true ↔ ∃ guid player, map.entityWorld.getTypedPlayer guid = some player := by
  simp only [havePlayers, decide_eq_true_eq, EntityWorld.playerCount_eq,
    ← EntityWorld.mem_players]
  rw [← List.length_pos_iff_exists_mem]
  omega

namespace MapManager

variable {manager manager' : MapManager Position Data} {legacy : ObjectGuid → Prop}

theorem playerAt_eq_none_of_vacant (hmap : manager.maps.lookup key = some map)
    (hvacant : map.havePlayers = false) (guid : ObjectGuid) : manager.playerAt key guid = none := by
  cases hplayer : manager.playerAt key guid with
  | none => rfl
  | some player =>
    obtain ⟨map', hmap', hfound⟩ := playerAt_eq_some.mp hplayer
    obtain rfl := Option.some.inj (hmap.symm.trans hmap')
    rw [ManagedMap.havePlayers_iff.mpr ⟨guid, player, hfound⟩] at hvacant
    cases hvacant

/-- A player on a map of which every player has an owner resides there. -/
theorem OneOwner.resident (h : OneOwner (fun _ => False) manager) {guid : ObjectGuid}
    {player : Player Position Data} (hplayer : manager.playerAt key guid = some player) :
    ∃ row, manager.playerOwners.lookup guid = some row ∧ row.residence = .active key := by
  have hold := h.resides guid
  cases howner : manager.playerOwners.lookup guid with
  | none =>
    have hnone := hold.unowned howner not_false key
    exact absurd (hnone.symm.trans hplayer) nofun
  | some row =>
    cases hresidence : row.residence with
    | detached =>
      have hnone := (hold.detached row howner hresidence).2 key
      exact absurd (hnone.symm.trans hplayer) nofun
    | active key' =>
      obtain ⟨-, found, hfound⟩ := hold.active row key' howner hresidence
      exact ⟨row, rfl, by rw [hresidence, hold.once key key' player found hplayer hfound]⟩

/-- The players stay where they are when the maps change and no player does. -/
theorem OneOwner.keep (h : OneOwner legacy manager)
    (howners : manager'.playerOwners = manager.playerOwners)
    (hdetached : manager'.detachedPlayers = manager.detachedPlayers)
    (hplaced : ∀ key map, manager'.maps.lookup key = some map →
      key = ⟨map.mapId, map.instanceId⟩)
    (hon : ∀ key guid, (manager'.playerAt key guid).map Player.bound =
      (manager.playerAt key guid).map Player.bound) : OneOwner legacy manager' := by
  have hback : ∀ key guid player, manager'.playerAt key guid = some player →
      ∃ old, manager.playerAt key guid = some old ∧ old.bound = player.bound := by
    intro key guid player hplayer
    have hbound := hon key guid
    rw [hplayer] at hbound
    obtain ⟨old, hold, hsame⟩ := Option.map_eq_some_iff.mp hbound.symm
    exact ⟨old, hold, hsame⟩
  have hnone : ∀ key guid, manager.playerAt key guid = none →
      manager'.playerAt key guid = none := by
    intro key guid hnone
    have hbound := hon key guid
    rw [hnone] at hbound
    exact Option.map_eq_none_iff.mp hbound
  refine ⟨hplaced, fun guid => ?_⟩
  have hold := h.resides guid
  rw [howners, hdetached]
  refine ⟨fun key player hplayer => ?_, ?_, hold.stored_guid, hold.owned, ?_, ?_, ?_⟩
  · obtain ⟨old, hplayer', hsame⟩ := hback key guid player hplayer
    obtain ⟨hguid, hmap⟩ := Prod.mk.inj hsame
    rw [← hguid, ← hmap]
    exact hold.keyed key old hplayer'
  · intro key key' player player' hplayer hplayer'
    obtain ⟨old, hold', -⟩ := hback key guid player hplayer
    obtain ⟨other, hother, -⟩ := hback key' guid player' hplayer'
    exact hold.once key key' old other hold' hother
  · intro row hrow hresidence
    obtain ⟨hstored, hoff⟩ := hold.detached row hrow hresidence
    exact ⟨hstored, fun key => hnone key guid (hoff key)⟩
  · intro row key hrow hresidence
    obtain ⟨hstored, player, hplayer⟩ := hold.active row key hrow hresidence
    have hbound := hon key guid
    rw [hplayer] at hbound
    obtain ⟨player', hplayer', -⟩ := Option.map_eq_some_iff.mp hbound
    exact ⟨hstored, player', hplayer'⟩
  · intro hunowned hlegacy key
    exact hnone key guid (hold.unowned hunowned hlegacy key)

end MapManager

/-! ## The phases on a map -/

namespace ManagedMap

variable {phases : MapPhases Position Data}

theorem iterate_updateAfterSessions_bound (hphases : phases.KeepsPlayers) (current n : ℕ)
    (map : ManagedMap Position Data) (guid : ObjectGuid) :
    ((((updateAfterSessions phases · current)^[n] map).entityWorld.getTypedPlayer guid).map
        Player.bound = (map.entityWorld.getTypedPlayer guid).map Player.bound) ∧
      ((updateAfterSessions phases · current)^[n] map).mapId = map.mapId ∧
      ((updateAfterSessions phases · current)^[n] map).instanceId = map.instanceId := by
  induction n with
  | zero => exact ⟨rfl, rfl, rfl⟩
  | succ n ih =>
    rw [Function.iterate_succ_apply']
    exact ⟨(hphases.afterSessions _ _ _).trans ih.1, ih.2⟩

theorem resumed_bound (hphases : phases.KeepsPlayers) (current n : ℕ)
    (map : ManagedMap Position Data) (guid : ObjectGuid) :
    (((map.resumed phases current n).entityWorld.getTypedPlayer guid).map Player.bound =
        (map.entityWorld.getTypedPlayer guid).map Player.bound) ∧
      (map.resumed phases current n).mapId = map.mapId ∧
      (map.resumed phases current n).instanceId = map.instanceId := by
  have hiterate := iterate_updateAfterSessions_bound hphases current n map guid
  exact ⟨(hphases.delayedUpdate _ _ _).trans hiterate.1, hiterate.2⟩

end ManagedMap

/-! ## Steps -/

variable (world : MapWorld Position Data)

/-- Before the awaited plan is resumed, no player resides in a map that it destroys. -/
def SparesResidents (history : MapHistory Position Data) (op : MapOp Position Data) : Prop :=
  ∀ i plan, op = .resumeTick i → history.plans[i]? = some plan →
    history.manager.tickCoordination = .awaitingSessions plan.epoch →
    ∀ guid row key, history.manager.playerOwners.lookup guid = some row →
      row.residence = .active key → history.manager.doomed plan.destroyed key = false

/-- No occupied map is removed, and a resumed tick leaves every player within reach. -/
def KeepsOccupied (history : MapHistory Position Data) (op : MapOp Position Data) : Prop :=
  (∀ key map, history.manager.maps.lookup key = some map → map.havePlayers = true →
    ((history.step world op).manager.maps.lookup key).isSome = true) ∧
  (∀ i handle, op = .resumeTick i → (history.manager.withPlayer handle).isSome = true →
    ((history.step world op).manager.withPlayer handle).isSome = true)

variable {world} {history : MapHistory Position Data}

namespace MapManager

variable {manager manager' : MapManager Position Data}

/-- The maps that a resumed tick leaves, under its condition: none of the doomed is occupied. -/
theorem OneOwner.resumed (hphases : world.phases.KeepsPlayers)
    (h : OneOwner (fun _ => False) manager) {plan : MapTickPlan}
    (hspared : manager.tickCoordination = .awaitingSessions plan.epoch →
      ∀ guid row key, manager.playerOwners.lookup guid = some row →
        row.residence = .active key → manager.doomed plan.destroyed key = false)
    {result : MapTickResume × MapManager Position Data × List (MapTickParticipant × ℕ)}
    (hresult : Resumed world.phases manager plan result) :
    OneOwner (fun _ => False) result.2.1 ∧
      ∀ key guid, (result.2.1.playerAt key guid).map Player.bound =
        (manager.playerAt key guid).map Player.bound := by
  cases hresult with
  | rejected hcoordination => exact ⟨h, fun _ _ => rfl⟩
  | @resumed manager' hcoordination hmaps hincarnations hrest =>
    have hon : ∀ key guid, (manager'.playerAt key guid).map Player.bound =
        (manager.playerAt key guid).map Player.bound := by
      intro key guid
      obtain ⟨n, hn⟩ := hmaps key
      rw [playerAt, hn]
      split_ifs with hdoomed
      · cases hplayer : manager.playerAt key guid with
        | none => rfl
        | some player =>
          obtain ⟨row, hrow, hresidence⟩ := h.resident hplayer
          rw [hspared hcoordination guid row key hrow hresidence] at hdoomed
          cases hdoomed
      · rw [playerAt]
        cases manager.maps.lookup key with
        | none => rfl
        | some map => exact (map.resumed_bound hphases plan.effectiveDiffMs n guid).1
    refine ⟨h.keep (by simp only; rw [hrest]) (by simp only; rw [hrest]) ?_ hon, hon⟩
    intro key map' hmap'
    obtain ⟨n, hn⟩ := hmaps key
    rw [hn] at hmap'
    split_ifs at hmap'
    obtain ⟨map, hmap, rfl⟩ := Option.map_eq_some_iff.mp hmap'
    obtain ⟨-, hmapId, hinstanceId⟩ :=
      map.resumed_bound hphases plan.effectiveDiffMs n ObjectGuid.empty
    rw [hmapId, hinstanceId]
    exact h.placed key map hmap

theorem OneOwner.destroyed (h : OneOwner (fun _ => False) manager)
    {result : Bool × MapManager Position Data} (hresult : Destroyed manager key result) :
    OneOwner (fun _ => False) result.2 := by
  cases hresult with
  | refused => exact h
  | destroyed hmap hvacant =>
    refine h.keep rfl rfl (fun key' map' hmap' => ?_) fun key' guid => ?_
    · rw [Dict.lookup_erase_eq] at hmap'
      split_ifs at hmap'
      exact h.placed key' map' hmap'
    · simp only [playerAt, Dict.lookup_erase_eq]
      split_ifs with hkey
      · rw [hkey]
        have hnone := playerAt_eq_none_of_vacant hmap hvacant guid
        rw [playerAt] at hnone
        rw [hnone]
        rfl
      · rfl

theorem OneOwner.began (h : OneOwner (fun _ => False) manager) {diffMs : ℕ}
    {result : MapTickBegin × MapManager Position Data} (hresult : Began manager diffMs result) :
    OneOwner (fun _ => False) result.2 := by
  cases hresult with
  | busy epoch hepoch => exact h
  | waiting hidle => exact h.keep rfl rfl h.placed fun _ _ => rfl
  | @started plan manager' hidle hpassed hepoch hupdated hdestroyed hmaps hids hrest =>
    refine h.keep (by simp only; rw [hrest]) (by simp only; rw [hrest]) (fun key map' hmap' => ?_)
      fun key guid => ?_
    · rw [hmaps] at hmap'
      obtain ⟨map, hmap, rfl⟩ := Option.map_eq_some_iff.mp hmap'
      rw [ManagedMap.begun_mapId, ManagedMap.begun_instanceId]
      exact h.placed key map hmap
    · simp only [playerAt, hmaps]
      cases manager.maps.lookup key with
      | none => rfl
      | some map =>
        simp only [Option.map_some, Option.bind_some, ManagedMap.begun_entityWorld]

theorem OneOwner.setCanUnload (h : OneOwner (fun _ => False) manager) (key : MapKey)
    (canUnload : Bool) : OneOwner (fun _ => False) { manager with
      maps := manager.maps.modify key fun map => { map with canUnload := canUnload } } := by
  refine h.keep rfl rfl (fun key' map' hmap' => ?_) fun key' guid => ?_
  · rw [Dict.lookup_modify] at hmap'
    split_ifs at hmap' with hkey
    · obtain ⟨map, hmap, rfl⟩ := Option.map_eq_some_iff.mp hmap'
      exact hkey ▸ h.placed key map hmap
    · exact h.placed key' map' hmap'
  · simp only [playerAt, Dict.lookup_modify]
    split_ifs with hkey
    · rw [hkey]
      cases manager.maps.lookup key <;> rfl
    · rfl

end MapManager

theorem oneOwner_step (hphases : world.phases.KeepsPlayers)
    (h : MapManager.OneOwner (fun _ => False) history.manager) {op : MapOp Position Data}
    (hspares : SparesResidents history op) :
    MapManager.OneOwner (fun _ => False) (history.step world op).manager := by
  cases op with
  | owner op =>
    exact h.apply fun player _ howner => (h.resides player.guid).unowned howner not_false
  | destroyMap key => exact h.destroyed (MapManager.destroyed_of_destroy history.manager key)
  | setCanUnload key canUnload => exact h.setCanUnload key canUnload
  | beginTick diffMs =>
    have hbegan := h.began (MapManager.began_of_begin history.manager diffMs)
    simp only [MapHistory.step]
    generalize history.manager.beginTickLikeCpp diffMs = result at hbegan ⊢
    obtain ⟨answer, manager'⟩ := result
    cases answer <;> exact hbegan
  | resumeTick i =>
    simp only [MapHistory.step]
    cases hplan : history.plans[i]? with
    | none => exact h
    | some plan =>
      exact (h.resumed hphases (hspares i plan rfl hplan)
        (MapManager.resumed_of_resume world.phases history.manager plan)).1
  | abandonTick i =>
    simp only [MapHistory.step]
    cases hplan : history.plans[i]? with
    | none => exact h
    | some plan =>
      simp only [MapManager.abandonTickLikeCpp]
      split_ifs
      · exact h
      · exact h.keep rfl rfl h.placed fun _ _ => rfl
  | initInstanceIds maxExistingInstanceId => exact h.keep rfl rfl h.placed fun _ _ => rfl
  | registerInstanceId instanceId => exact h.keep rfl rfl h.placed fun _ _ => rfl
  | generateInstanceId => exact h.keep rfl rfl h.placed fun _ _ => rfl

theorem MapManager.withPlayer_eq (manager : MapManager Position Data) (handle : PlayerHandle) :
    manager.withPlayer handle = (manager.currentPlayerOwner handle).bind fun owner =>
      manager.storedAt owner.residence handle.guid := by
  simp only [MapManager.withPlayer]
  cases manager.currentPlayerOwner handle with
  | none => rfl
  | some owner =>
    cases hresidence : owner.residence with
    | detached => simp only [Option.bind_some, hresidence, MapManager.storedAt]
    | active key =>
      simp only [Option.bind_some, hresidence, MapManager.storedAt, MapManager.playerAt,
        MapManager.findMap]

theorem isSome_step_of_occupied (h : MapManager.OneOwner (fun _ => False) history.manager)
    {op : MapOp Position Data} (hspares : SparesResidents history op)
    (hmap : history.manager.maps.lookup key = some map) (hplayers : map.havePlayers = true) :
    ((history.step world op).manager.maps.lookup key).isSome = true := by
  have hpresent : (history.manager.maps.lookup key).isSome = true := by rw [hmap]; rfl
  cases op with
  | owner op =>
    by_cases hop : ∀ key difficulty kind, op ≠ .createMap key difficulty kind
    · have hsame := MapManager.SameMaps.of_apply world.isValidMapCoord2d history.manager hop
      exact (hsame.isSome key).trans hpresent
    · push Not at hop
      obtain ⟨key', difficulty, kind, rfl⟩ := hop
      have hresult := MapManager.created_of_create history.manager key' difficulty kind
      simp only [MapHistory.step, OwnerOp.apply]
      generalize history.manager.createMapEntry key' difficulty kind = manager' at hresult ⊢
      cases hresult with
      | present hmap' => exact hpresent
      | created hfree =>
        rw [Dict.lookup_insert_eq]
        split_ifs
        · rfl
        · exact hpresent
  | destroyMap key' =>
    have hresult := MapManager.destroyed_of_destroy history.manager key'
    simp only [MapHistory.step]
    generalize history.manager.destroyMap key' = result at hresult ⊢
    cases hresult with
    | refused => exact hpresent
    | destroyed hmap' hvacant =>
      have hkey : key ≠ key' := by
        rintro rfl
        obtain rfl := Option.some.inj (hmap.symm.trans hmap')
        rw [hplayers] at hvacant
        cases hvacant
      rw [Dict.lookup_erase_eq, if_neg hkey]
      exact hpresent
  | setCanUnload key' canUnload =>
    simp only [MapHistory.step, Dict.lookup_modify]
    split_ifs with hkey
    · rw [← hkey, Option.isSome_map]
      exact hpresent
    · exact hpresent
  | beginTick diffMs =>
    have hresult := MapManager.began_of_begin history.manager diffMs
    simp only [MapHistory.step]
    generalize history.manager.beginTickLikeCpp diffMs = result at hresult ⊢
    cases hresult with
    | busy epoch hepoch => exact hpresent
    | waiting hidle => exact hpresent
    | started hidle hpassed hepoch hupdated hdestroyed hmaps hids hrest =>
      simp only [hmaps, Option.isSome_map]
      exact hpresent
  | resumeTick i =>
    simp only [MapHistory.step]
    cases hplan : history.plans[i]? with
    | none => exact hpresent
    | some plan =>
      have hresult := MapManager.resumed_of_resume world.phases history.manager plan
      simp only
      generalize history.manager.resumeTick world.phases plan = result at hresult ⊢
      cases hresult with
      | rejected hcoordination => exact hpresent
      | resumed hcoordination hmaps hincarnations hrest =>
        obtain ⟨guid, player, hplayer⟩ := ManagedMap.havePlayers_iff.mp hplayers
        obtain ⟨row, hrow, hresidence⟩ :=
          h.resident (MapManager.playerAt_eq_some.mpr ⟨map, hmap, hplayer⟩)
        have hspared := hspares i plan rfl hplan hcoordination guid row key hrow hresidence
        obtain ⟨n, hn⟩ := hmaps key
        rw [hn, if_neg (by simp [hspared]), Option.isSome_map]
        exact hpresent
  | abandonTick i =>
    simp only [MapHistory.step]
    cases hplan : history.plans[i]? with
    | none => exact hpresent
    | some plan =>
      simp only [MapManager.abandonTickLikeCpp]
      split_ifs <;> exact hpresent
  | initInstanceIds maxExistingInstanceId => exact hpresent
  | registerInstanceId instanceId => exact hpresent
  | generateInstanceId => exact hpresent

theorem keepsOccupied_step_iff (hphases : world.phases.KeepsPlayers)
    (h : MapManager.OneOwner (fun _ => False) history.manager) (op : MapOp Position Data) :
    KeepsOccupied world history op ↔ SparesResidents history op := by
  constructor
  · rintro ⟨hkeeps, -⟩ i plan rfl hplan hcoordination guid row key hrow hresidence
    obtain ⟨-, player, hplayer⟩ := (h.resides guid).active row key hrow hresidence
    obtain ⟨map, hmap, hfound⟩ := MapManager.playerAt_eq_some.mp hplayer
    have hkept := hkeeps key map hmap (ManagedMap.havePlayers_iff.mpr ⟨guid, player, hfound⟩)
    have hresult := MapManager.resumed_of_resume world.phases history.manager plan
    simp only [MapHistory.step, hplan] at hkept
    generalize history.manager.resumeTick world.phases plan = result at hresult hkept
    cases hresult with
    | rejected hrejected => exact absurd hcoordination hrejected
    | resumed hcoordination hmaps hincarnations hrest =>
      obtain ⟨n, hn⟩ := hmaps key
      rw [hn] at hkept
      split_ifs at hkept with hdoomed
      · cases hkept
      · simpa using hdoomed
  · intro hspares
    refine ⟨fun key map hmap hplayers => isSome_step_of_occupied h hspares hmap hplayers, ?_⟩
    rintro i handle rfl hreadable
    simp only [MapHistory.step]
    cases hplan : history.plans[i]? with
    | none => exact hreadable
    | some plan =>
      have hresult := MapManager.resumed_of_resume world.phases history.manager plan
      obtain ⟨-, hon⟩ := h.resumed hphases (hspares i plan rfl hplan) hresult
      simp only
      generalize history.manager.resumeTick world.phases plan = result at hresult hon ⊢
      cases hresult with
      | rejected hrejected => exact hreadable
      | @resumed manager' hcoordination hmaps hincarnations hrest =>
        have howners : manager'.currentPlayerOwner handle =
            history.manager.currentPlayerOwner handle := by
          simp only [MapManager.currentPlayerOwner]
          rw [hrest]
        rw [MapManager.withPlayer_eq] at hreadable ⊢
        simp only [howners]
        cases howner : history.manager.currentPlayerOwner handle with
        | none => simp [howner] at hreadable
        | some owner =>
          rw [howner, Option.bind_some] at hreadable
          rw [Option.bind_some]
          cases hresidence : owner.residence with
          | detached =>
            rw [hresidence] at hreadable
            simp only [MapManager.storedAt] at hreadable ⊢
            rw [hrest]
            exact hreadable
          | active key =>
            rw [hresidence] at hreadable
            simp only [MapManager.storedAt] at hreadable ⊢
            have hsame := congrArg Option.isSome (hon key handle.guid)
            rw [Option.isSome_map, Option.isSome_map] at hsame
            exact hsame.trans hreadable

theorem oneOwner_new (mapUpdateIntervalMs : ℕ) :
    MapManager.OneOwner (fun _ => False)
      (MapManager.new mapUpdateIntervalMs : MapManager Position Data) where
  placed := nofun
  resides := fun _ => .nowhere rfl rfl fun _ => rfl

/-- No run removes an occupied map or takes a player out of reach, if and only if no tick is
resumed while a player resides in a map that its plan destroys. -/
theorem keepsOccupied_iff (world : MapWorld Position Data) (hphases : world.phases.KeepsPlayers)
    (mapUpdateIntervalMs : ℕ) (ops : List (MapOp Position Data)) :
    EachStep (MapHistory.step world) (KeepsOccupied world) (.new mapUpdateIntervalMs) ops ↔
      EachStep (MapHistory.step world) SparesResidents (.new mapUpdateIntervalMs) ops :=
  EachStep.iff_of_invariant (fun history => MapManager.OneOwner (fun _ => False) history.manager)
    (fun _ op h => keepsOccupied_step_iff hphases h op)
    (fun _ _ h hspares => oneOwner_step hphases h hspares) (oneOwner_new mapUpdateIntervalMs) ops

def traveller : Player Unit Unit where
  guid := .createPlayer 1 7
  inWorld := false
  currentMap := none
  position := ()
  data := ()

/-- A player enters a map between the two halves of the tick that destroys it. -/
def lateOps : List (MapOp Unit Unit) :=
  [.owner (.createMap ⟨571, 0⟩ 0 .world), .setCanUnload ⟨571, 0⟩ true,
    .owner (.installDetached traveller), .beginTick 10,
    .owner (.attach ⟨traveller.guid, 1⟩ ⟨571, 0⟩ ()), .resumeTick 0]

theorem occupied_map_removed :
    ¬EachStep (MapHistory.step stillWorld) (KeepsOccupied stillWorld) (.new 10) lateOps := by
  intro h
  have hreadable := h.2.2.2.2.2.1.2 0 ⟨traveller.guid, 1⟩ rfl (by decide)
  exact absurd hreadable (by decide)

/-- The player enters after the tick, so that the map which it enters is a new one. -/
def timelyOps : List (MapOp Unit Unit) :=
  [.owner (.createMap ⟨571, 0⟩ 0 .world), .setCanUnload ⟨571, 0⟩ true,
    .owner (.installDetached traveller), .beginTick 10, .resumeTick 0,
    .owner (.createMap ⟨571, 0⟩ 0 .world), .owner (.attach ⟨traveller.guid, 1⟩ ⟨571, 0⟩ ())]

theorem keepsOccupied_sample :
    EachStep (MapHistory.step stillWorld) SparesResidents (.new 10) timelyOps ∧
      EachStep (MapHistory.step stillWorld) (KeepsOccupied stillWorld) (.new 10) timelyOps := by
  have hspares : EachStep (MapHistory.step stillWorld) SparesResidents (.new 10) timelyOps := by
    refine ⟨nofun, nofun, nofun, nofun, ?_, nofun, nofun, trivial⟩
    intro i plan hop hplan hcoordination guid row key hrow hresidence
    have hrows : (run (MapHistory.step stillWorld) (.new 10)
        (timelyOps.take 4)).manager.playerOwners =
          .singleton traveller.guid ⟨1, .detached, 0⟩ := rfl
    replace hrow := (congrArg (AList.lookup guid) hrows).symm.trans hrow
    rw [Dict.lookup_singleton_eq] at hrow
    split_ifs at hrow
    obtain rfl := Option.some.inj hrow
    cases hresidence
  exact ⟨hspares, (keepsOccupied_iff stillWorld ⟨fun _ _ _ => rfl, fun _ _ _ => rfl⟩ 10
    timelyOps).mpr hspares⟩

end RustyCore.Maps
