import RustyCore.Library.Run
import RustyCore.Verification.Maps.Residence

/-! # One owner for each player

An owned player has one value: in the table of detached players or in the map of its
residence. Every operation changes what is stored for one player only. -/

namespace RustyCore.Maps

variable {Position Data : Type}
variable {player : Player Position Data}

/-! ## Where a player is -/

/-- The value of the player `guid`, seen from its owner row, the table and the maps. Only a
`legacy` player may be on a map without an owner row. -/
structure Resides (legacy : Prop) (guid : ObjectGuid) (owner : Option PlayerOwnership)
    (stored : Option (Player Position Data)) (on : MapKey → Option (Player Position Data)) :
    Prop where
  keyed : ∀ key player, on key = some player → player.guid = guid ∧ player.currentMap = some key
  once : ∀ key key' player player', on key = some player → on key' = some player' → key = key'
  stored_guid : ∀ player, stored = some player → player.guid = guid
  owned : ∀ player, stored = some player → ∃ row, owner = some row ∧ row.residence = .detached
  detached : ∀ row, owner = some row → row.residence = .detached →
    (∃ player, stored = some player) ∧ ∀ key, on key = none
  active : ∀ row key, owner = some row → row.residence = .active key →
    stored = none ∧ ∃ player, on key = some player
  unowned : owner = none → ¬legacy → ∀ key, on key = none

namespace Resides

variable {legacy : Prop} {guid : ObjectGuid} {owner : Option PlayerOwnership}
  {stored : Option (Player Position Data)} {on : MapKey → Option (Player Position Data)}
variable {row : PlayerOwnership}

theorem inTable (howner : owner = some row) (hresidence : row.residence = .detached)
    (hstored : stored = some player) (hguid : player.guid = guid) (hon : ∀ key, on key = none) :
    Resides legacy guid owner stored on where
  keyed := fun key found hkey => by simp [hon] at hkey
  once := fun key key' found found' hkey => by simp [hon] at hkey
  stored_guid := fun found hfound => by
    obtain rfl := Option.some.inj (hstored.symm.trans hfound)
    exact hguid
  owned := fun found _ => ⟨row, howner, hresidence⟩
  detached := fun _ _ _ => ⟨⟨player, hstored⟩, hon⟩
  active := fun other key hother hactive => by
    obtain rfl := Option.some.inj (howner.symm.trans hother)
    cases hresidence.symm.trans hactive
  unowned := fun hunowned => by simp [howner] at hunowned

theorem onMap {key : MapKey} (player : Player Position Data) (howner : owner = some row)
    (hresidence : row.residence = .active key) (hstored : stored = none)
    (hguid : player.guid = guid) (hbound : player.currentMap = some key)
    (hon : ∀ key', on key' = if key' = key then some player else none) :
    Resides legacy guid owner stored on where
  keyed := fun key' found hkey => by
    rw [hon] at hkey
    split_ifs at hkey with heq
    obtain rfl := Option.some.inj hkey
    exact ⟨hguid, heq ▸ hbound⟩
  once := fun key' key'' found found' hkey hkey' => by
    rw [hon] at hkey hkey'
    split_ifs at hkey hkey' with heq heq'
    exact heq.trans heq'.symm
  stored_guid := fun found hfound => by simp [hstored] at hfound
  owned := fun found hfound => by simp [hstored] at hfound
  detached := fun other hother hdetached => by
    obtain rfl := Option.some.inj (howner.symm.trans hother)
    cases hresidence.symm.trans hdetached
  active := fun other key' hother hactive => by
    obtain rfl := Option.some.inj (howner.symm.trans hother)
    obtain rfl := PlayerResidence.active.inj (hresidence.symm.trans hactive)
    exact ⟨hstored, player, (hon key).trans (if_pos rfl)⟩
  unowned := fun hunowned => by simp [howner] at hunowned

theorem nowhere (howner : owner = none) (hstored : stored = none) (hon : ∀ key, on key = none) :
    Resides legacy guid owner stored on where
  keyed := fun key found hkey => by simp [hon] at hkey
  once := fun key key' found found' hkey => by simp [hon] at hkey
  stored_guid := fun found hfound => by simp [hstored] at hfound
  owned := fun found hfound => by simp [hstored] at hfound
  detached := fun row hrow => by simp [howner] at hrow
  active := fun row key hrow => by simp [howner] at hrow
  unowned := fun _ _ => hon

theorem on_eq (h : Resides legacy guid owner stored on) {key : MapKey} (howner : owner = some row)
    (hresidence : row.residence = .active key) :
    ∃ player, player.guid = guid ∧ player.currentMap = some key ∧
      ∀ key', on key' = if key' = key then some player else none := by
  obtain ⟨-, player, hplayer⟩ := h.active row key howner hresidence
  obtain ⟨hguid, hbound⟩ := h.keyed key player hplayer
  refine ⟨player, hguid, hbound, fun key' => ?_⟩
  by_cases hkey : key' = key
  · rw [if_pos hkey, hkey]
    exact hplayer
  · rw [if_neg hkey]
    cases hother : on key' with
    | none => rfl
    | some other => exact absurd (h.once key' key other player hother hplayer) hkey

end Resides

namespace MapManager

variable (legacy : ObjectGuid → Prop) (manager : MapManager Position Data)
variable {manager' : MapManager Position Data} {key : MapKey} {map : ManagedMap Position Data}

/-- Every player is where its owner row says and nowhere else. -/
structure OneOwner : Prop where
  placed : ∀ key map, manager.maps.lookup key = some map → key = ⟨map.mapId, map.instanceId⟩
  resides : ∀ guid, Resides (legacy guid) guid (manager.playerOwners.lookup guid)
    (manager.detachedPlayers.lookup guid) fun key => manager.playerAt key guid

variable {legacy manager}

theorem playerAt_enter (hmap : manager.maps.lookup key = some map) {guid : ObjectGuid}
    (hmaps : manager'.maps = manager.maps.insert key
      { map with entityWorld := map.entityWorld.insert guid (.player player) })
    (key' : MapKey) (other : ObjectGuid) :
    manager'.playerAt key' other =
      if key' = key ∧ other = guid then some player else manager.playerAt key' other := by
  simp only [playerAt, hmaps, Dict.lookup_insert_eq]
  by_cases hkey : key' = key
  · subst hkey
    simp only [if_true, Option.bind_some, EntityWorld.getTypedPlayer_insert, hmap, true_and]
  · simp [hkey]

theorem playerAt_leave (hmap : manager.maps.lookup key = some map) {guid : ObjectGuid}
    (hmaps : manager'.maps = manager.maps.insert key
      { map with entityWorld := map.entityWorld.erase guid })
    (key' : MapKey) (other : ObjectGuid) :
    manager'.playerAt key' other =
      if key' = key ∧ other = guid then none else manager.playerAt key' other := by
  simp only [playerAt, hmaps, Dict.lookup_insert_eq]
  by_cases hkey : key' = key
  · subst hkey
    simp only [if_true, Option.bind_some, EntityWorld.getTypedPlayer_erase, hmap, true_and]
  · simp [hkey]

theorem currentPlayerOwner_eq_some {handle : PlayerHandle} {owner : PlayerOwnership}
    (h : manager.currentPlayerOwner handle = some owner) :
    manager.playerOwners.lookup handle.guid = some owner ∧ owner.generation = handle.generation := by
  simpa [currentPlayerOwner, Option.filter_eq_some_iff] using h

namespace OneOwner

variable {handle : PlayerHandle} {result : Except PlayerOwnerError Unit × MapManager Position Data}
  {guid : ObjectGuid}

theorem touch (h : OneOwner legacy manager) (guid : ObjectGuid)
    (hplaced : ∀ key map, manager'.maps.lookup key = some map → key = ⟨map.mapId, map.instanceId⟩)
    (hothers : ∀ other, other ≠ guid →
      manager'.playerOwners.lookup other = manager.playerOwners.lookup other ∧
      manager'.detachedPlayers.lookup other = manager.detachedPlayers.lookup other ∧
      ∀ key, manager'.playerAt key other = manager.playerAt key other)
    (hguid : Resides (legacy guid) guid (manager'.playerOwners.lookup guid)
      (manager'.detachedPlayers.lookup guid) fun key => manager'.playerAt key guid) :
    OneOwner legacy manager' := by
  refine ⟨hplaced, fun other => ?_⟩
  by_cases hother : other = guid
  · exact hother ▸ hguid
  · obtain ⟨howner, hstored, hon⟩ := hothers other hother
    simp only [howner, hstored, hon]
    exact h.resides other

theorem placed_insert (h : OneOwner legacy manager) {edited : ManagedMap Position Data}
    (hmap : manager.maps.lookup key = some map) (hmapId : edited.mapId = map.mapId)
    (hinstanceId : edited.instanceId = map.instanceId) (key' : MapKey)
    (map' : ManagedMap Position Data)
    (h' : (AList.insert key edited manager.maps).lookup key' = some map') :
    key' = ⟨map'.mapId, map'.instanceId⟩ := by
  rw [Dict.lookup_insert_eq] at h'
  split_ifs at h' with hkey
  · obtain rfl := Option.some.inj h'
    rw [hkey, hmapId, hinstanceId]
    exact h.placed key map hmap
  · exact h.placed key' map' h'

theorem attached (h : OneOwner legacy manager) {position : Position}
    (hresult : Attached manager handle key position result) : OneOwner legacy result.2 := by
  cases hresult with
  | refused error => exact h
  | @attached owner map player howner hresidence hmap hplayer hfree =>
    have hrow := (currentPlayerOwner_eq_some howner).1
    have hold := h.resides handle.guid
    have hguid := hold.stored_guid _ hplayer
    have hnowhere := (hold.detached _ hrow hresidence).2
    rw [hguid]
    refine h.touch handle.guid (h.placed_insert hmap rfl rfl) (fun other hother => ?_) ?_
    · refine ⟨?_, ?_, fun key' => ?_⟩
      · exact (Dict.lookup_insert_eq _ _ _ _).trans (if_neg hother)
      · exact (Dict.lookup_erase_eq _ _ _).trans (if_neg hother)
      · rw [playerAt_enter hmap rfl, if_neg fun hboth => hother hboth.2]
    · refine .onMap
        { player with
          inWorld := true
          currentMap := some ⟨map.mapId, map.instanceId⟩
          position := position }
        ((Dict.lookup_insert_eq _ _ _ _).trans (if_pos rfl)) rfl
        ((Dict.lookup_erase_eq _ _ _).trans (if_pos rfl)) hguid
        (congrArg some (h.placed key _ hmap).symm) fun key' => ?_
      rw [playerAt_enter hmap rfl, hnowhere]
      simp [hguid]

theorem detached (h : OneOwner legacy manager) (hresult : Detached manager handle result) :
    OneOwner legacy result.2 := by
  cases hresult with
  | refused error => exact h
  | @lost owner key map player howner hresidence hmap hrecord hbound =>
    have hplayer : manager.playerAt key handle.guid = some player :=
      playerAt_eq_some.mpr ⟨map, hmap, EntityWorld.getTypedPlayer_eq_some.mpr hrecord⟩
    have hkeyed := ((h.resides handle.guid).keyed key player hplayer).2
    rw [hbound] at hkeyed
    cases hkeyed
  | @detached owner key map player howner hresidence hmap hrecord hbound =>
    have hrow := (currentPlayerOwner_eq_some howner).1
    obtain ⟨found, hguid, -, hon⟩ := (h.resides handle.guid).on_eq hrow hresidence
    have hplayer : manager.playerAt key handle.guid = some player :=
      playerAt_eq_some.mpr ⟨map, hmap, EntityWorld.getTypedPlayer_eq_some.mpr hrecord⟩
    obtain rfl : found = player := by
      rw [hon, if_pos rfl] at hplayer
      exact Option.some.inj hplayer
    refine h.touch handle.guid (h.placed_insert hmap rfl rfl) (fun other hother => ?_) ?_
    · refine ⟨?_, ?_, fun key' => ?_⟩
      · exact (Dict.lookup_insert_eq _ _ _ _).trans (if_neg hother)
      · exact (Dict.lookup_insert_eq _ _ _ _).trans (if_neg hother)
      · rw [playerAt_leave hmap rfl, if_neg fun hboth => hother hboth.2]
    · refine .inTable ((Dict.lookup_insert_eq _ _ _ _).trans (if_pos rfl)) rfl
        ((Dict.lookup_insert_eq _ _ _ _).trans (if_pos rfl)) hguid fun key' => ?_
      rw [playerAt_leave hmap rfl, hon]
      simp

theorem forget (h : OneOwner legacy manager) {owner : PlayerOwnership}
    (hrow : manager.playerOwners.lookup guid = some owner)
    (hresidence : owner.residence = .detached) :
    OneOwner legacy { manager with
      playerOwners := manager.playerOwners.erase guid
      detachedPlayers := manager.detachedPlayers.erase guid } := by
  refine h.touch guid h.placed (fun other hother => ⟨?_, ?_, fun key => rfl⟩) ?_
  · exact (Dict.lookup_erase_eq _ _ _).trans (if_neg hother)
  · exact (Dict.lookup_erase_eq _ _ _).trans (if_neg hother)
  · exact .nowhere ((Dict.lookup_erase_eq _ _ _).trans (if_pos rfl))
      ((Dict.lookup_erase_eq _ _ _).trans (if_pos rfl))
      ((h.resides guid).detached owner hrow hresidence).2

theorem retired (h : OneOwner legacy manager)
    {result : Option (Player Position Data) × MapManager Position Data}
    (hresult : Retired manager handle result) : OneOwner legacy result.2 := by
  cases hresult with
  | refused => exact h
  | lost hdetached => exact h.detached hdetached
  | fromTable howner hresidence =>
    exact h.forget (currentPlayerOwner_eq_some howner).1 hresidence
  | fromMap hdetached =>
    have hkept := h.detached hdetached
    cases hdetached with
    | detached howner hresidence hmap hrecord hbound =>
      exact hkept.forget ((Dict.lookup_insert_eq _ _ _ _).trans (if_pos rfl)) rfl

theorem relocated (h : OneOwner legacy manager) {position : Position}
    (hresult : Relocated manager handle position result) : OneOwner legacy result.2 := by
  cases hresult with
  | refused error => exact h
  | @relocated owner key map player howner hresidence hmap hrecord =>
    have hrow := (currentPlayerOwner_eq_some howner).1
    have hold := h.resides handle.guid
    obtain ⟨found, hguid, hbound, hon⟩ := hold.on_eq hrow hresidence
    have hplayer : manager.playerAt key handle.guid = some player :=
      playerAt_eq_some.mpr ⟨map, hmap, EntityWorld.getTypedPlayer_eq_some.mpr hrecord⟩
    obtain rfl : found = player := by
      rw [hon, if_pos rfl] at hplayer
      exact Option.some.inj hplayer
    refine h.touch handle.guid (h.placed_insert hmap rfl rfl)
      (fun other hother => ⟨rfl, rfl, fun key' => ?_⟩) ?_
    · rw [playerAt_enter hmap rfl, if_neg fun hboth => hother hboth.2]
    · refine .onMap { found with position := position } hrow hresidence
        (hold.active owner key hrow hresidence).1 hguid hbound fun key' => ?_
      rw [playerAt_enter hmap rfl, hon]
      by_cases hkey : key' = key
      · simp [hkey]
      · simp [hkey]

theorem store (h : OneOwner legacy manager) (hnowhere : ∀ key, manager.playerAt key guid = none)
    (player : Player Position Data) (hguid : player.guid = guid) (generation : ℕ) :
    OneOwner legacy { manager with
      detachedPlayers := manager.detachedPlayers.insert guid player
      playerOwners := manager.playerOwners.insert guid ⟨generation, .detached, 0⟩ } := by
  refine h.touch guid h.placed (fun other hother => ⟨?_, ?_, fun key => rfl⟩) ?_
  · exact (Dict.lookup_insert_eq _ _ _ _).trans (if_neg hother)
  · exact (Dict.lookup_insert_eq _ _ _ _).trans (if_neg hother)
  · exact .inTable ((Dict.lookup_insert_eq _ _ _ _).trans (if_pos rfl)) rfl
      ((Dict.lookup_insert_eq _ _ _ _).trans (if_pos rfl)) hguid hnowhere

theorem recount (h : OneOwner legacy manager) (next : ℕ) :
    OneOwner legacy { manager with nextPlayerGeneration := next } :=
  ⟨h.placed, h.resides⟩

theorem nowhere_of_retired (h : OneOwner legacy manager) {old : Player Position Data}
    (hresult : Retired manager handle (some old, manager')) (key : MapKey) :
    manager'.playerAt key handle.guid = none := by
  generalize hpair : (some old, manager') = pair at hresult
  have hold := h.resides handle.guid
  cases hresult with
  | refused => cases hpair
  | lost hdetached => cases hpair
  | fromTable howner hresidence =>
    obtain rfl := (Prod.mk.inj hpair).2
    exact (hold.detached _ (currentPlayerOwner_eq_some howner).1 hresidence).2 key
  | fromMap hdetached =>
    obtain rfl := (Prod.mk.inj hpair).2
    have hkept := (h.detached hdetached).resides handle.guid
    cases hdetached with
    | detached howner hresidence hmap hrecord hbound =>
      exact (hkept.detached _ ((Dict.lookup_insert_eq _ _ _ _).trans (if_pos rfl)) rfl).2 key

theorem installed (h : OneOwner legacy manager)
    (hadopted : manager.playerOwners.lookup player.guid = none →
      ∀ key, manager.playerAt key player.guid = none)
    {result : Except PlayerOwnerError PlayerHandle × MapManager Position Data}
    (hresult : Installed manager player result) : OneOwner legacy result.2 := by
  cases hresult with
  | refused error => exact h
  | unreplaced next hnext howner hretired => exact (h.recount next).retired hretired
  | fresh hguid hlt howner =>
    exact (h.recount (manager.nextPlayerGeneration + 1)).store (hadopted howner)
      { player with inWorld := false, currentMap := none } rfl manager.nextPlayerGeneration
  | replaced hguid hlt howner hretired =>
    have hkept := (h.recount (manager.nextPlayerGeneration + 1)).retired hretired
    exact hkept.store ((h.recount _).nowhere_of_retired hretired)
      { player with inWorld := false, currentMap := none } rfl manager.nextPlayerGeneration

theorem adopted (h : OneOwner legacy manager)
    {result : Except PlayerOwnerError PlayerHandle × MapManager Position Data}
    (hresult : Adopted manager guid result) : OneOwner legacy result.2 := by
  cases hresult with
  | refused error => exact h
  | @adopted key hguid howner hlt hplayer =>
    have hold := h.resides guid
    obtain ⟨player, hplayer⟩ := Option.isSome_iff_exists.mp hplayer
    obtain ⟨hsame, hbound⟩ := hold.keyed key player hplayer
    have hstored : manager.detachedPlayers.lookup guid = none := by
      cases hfound : manager.detachedPlayers.lookup guid with
      | none => rfl
      | some found =>
        obtain ⟨row, hrow, -⟩ := hold.owned found hfound
        exact absurd (howner.symm.trans hrow) nofun
    refine h.touch guid h.placed (fun other hother => ⟨?_, rfl, fun key => rfl⟩) ?_
    · exact (Dict.lookup_insert_eq _ _ _ _).trans (if_neg hother)
    · refine .onMap player ((Dict.lookup_insert_eq _ _ _ _).trans (if_pos rfl)) rfl
        hstored hsame hbound fun key' => ?_
      split_ifs with hkey
      · exact hkey ▸ hplayer
      · cases hother : manager.playerAt key' guid with
        | none => exact hother
        | some other => exact absurd (hold.once key' key other player hother hplayer) hkey

theorem created (h : OneOwner legacy manager) (key : MapKey) (difficulty : ℕ) (kind : ManagedMapKind) :
    OneOwner legacy (manager.createMapEntry key difficulty kind) := by
  simp only [createMapEntry]
  cases hmap : manager.maps.lookup key with
  | some map => exact h
  | none =>
    refine ⟨fun key' map' h' => ?_, fun guid => ?_⟩
    · rw [Dict.lookup_insert_eq] at h'
      split_ifs at h' with hkey
      · obtain rfl := Option.some.inj h'
        exact hkey
      · exact h.placed key' map' h'
    · have hon : ∀ key', playerAt { manager with
          maps := manager.maps.insert key (.new key.mapId key.instanceId difficulty kind) }
          key' guid = manager.playerAt key' guid := fun key' => by
        rw [playerAt_insert]
        split_ifs with hkey
        · subst hkey
          simp [playerAt, hmap, ManagedMap.new, EntityWorld.getTypedPlayer]
        · rfl
      have hresides := h.resides guid
      simp only [← hon] at hresides
      exact hresides

end OneOwner

end MapManager

end RustyCore.Maps
