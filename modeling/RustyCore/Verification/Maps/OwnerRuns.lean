import RustyCore.Verification.Maps.Handles

/-! # Runs of the player operations

Whatever the order of the operations, a player has one value, where its owner row says,
and only the handle issued last reaches it. -/

namespace RustyCore.Maps

variable {Position Data : Type}
variable {manager : MapManager Position Data} {handle : PlayerHandle}
variable {guid : ObjectGuid} {row : PlayerOwnership}

inductive OwnerOp (Position Data : Type) where
  | createMap (key : MapKey) (difficulty : ℕ) (kind : ManagedMapKind)
  | adoptActive (guid : ObjectGuid)
  | installDetached (player : Player Position Data)
  | attach (handle : PlayerHandle) (key : MapKey) (position : Position)
  | detach (handle : PlayerHandle)
  | relocate (handle : PlayerHandle) (position : Position)
  | retire (handle : PlayerHandle)

/-- What an operation reports, and the manager it leaves behind. -/
structure OwnerOutcome (Position Data : Type) where
  refused : Bool
  issued : Option PlayerHandle
  manager : MapManager Position Data

namespace OwnerOutcome

def ofHandle (result : Except PlayerOwnerError PlayerHandle × MapManager Position Data) :
    OwnerOutcome Position Data :=
  ⟨!result.1.isOk, result.1.toOption, result.2⟩

def ofUnit (result : Except PlayerOwnerError Unit × MapManager Position Data) :
    OwnerOutcome Position Data :=
  ⟨!result.1.isOk, none, result.2⟩

end OwnerOutcome

variable (isValidMapCoord2d : Position → Bool)

def OwnerOp.apply (manager : MapManager Position Data) :
    OwnerOp Position Data → OwnerOutcome Position Data
  | createMap key difficulty kind => ⟨false, none, manager.createMapEntry key difficulty kind⟩
  | adoptActive guid => .ofHandle (manager.adoptActivePlayer guid)
  | installDetached player => .ofHandle (manager.installDetachedPlayer player)
  | attach handle key position =>
    .ofUnit (manager.attachPlayer isValidMapCoord2d handle key position)
  | detach handle => .ofUnit (manager.detachPlayer handle)
  | relocate handle position =>
    .ofUnit (manager.relocatePlayer isValidMapCoord2d handle position)
  | retire handle =>
    let (player, manager) := manager.retirePlayer handle
    ⟨player.isNone, none, manager⟩

/-- A manager and the handles issued so far. -/
structure OwnerHistory (Position Data : Type) where
  manager : MapManager Position Data
  issued : List PlayerHandle

def OwnerHistory.step (history : OwnerHistory Position Data) (op : OwnerOp Position Data) :
    OwnerHistory Position Data :=
  let outcome := op.apply isValidMapCoord2d history.manager
  ⟨outcome.manager, history.issued ++ outcome.issued.toList⟩

/-! ## Starting states -/

namespace MapManager

/-- A manager without owner rows: the players on its maps were put there before handles
existed, each on one map and bound to it. -/
structure Legacy (manager : MapManager Position Data) : Prop where
  unowned : manager.playerOwners = ∅
  undetached : manager.detachedPlayers = ∅
  placed : ∀ key map, manager.maps.lookup key = some map → key = ⟨map.mapId, map.instanceId⟩
  keyed : ∀ key guid player, manager.playerAt key guid = some player →
    player.guid = guid ∧ player.currentMap = some key
  once : ∀ key key' guid player player', manager.playerAt key guid = some player →
    manager.playerAt key' guid = some player' → key = key'

/-- A player that is on a map. -/
def OnMap (manager : MapManager Position Data) (guid : ObjectGuid) : Prop :=
  ∃ key, manager.playerAt key guid ≠ none

theorem Legacy.oneOwner (h : manager.Legacy) :
    OneOwner manager.OnMap manager where
  placed := h.placed
  resides := fun guid =>
    { keyed := fun key player => h.keyed key guid player
      once := fun key key' player player' => h.once key key' guid player player'
      stored_guid := fun player hplayer => by simp [h.undetached] at hplayer
      owned := fun player hplayer => by simp [h.undetached] at hplayer
      detached := fun row hrow => by simp [h.unowned] at hrow
      active := fun row key hrow => by simp [h.unowned] at hrow
      unowned := fun _ hvacant key => by_contra fun hon => hvacant ⟨key, hon⟩ }

/-- The players a place stores: the table, or the map of a key. -/
def storedAt (manager : MapManager Position Data) :
    PlayerResidence → ObjectGuid → Option (Player Position Data)
  | .detached, guid => manager.detachedPlayers.lookup guid
  | .active key, guid => manager.playerAt key guid

end MapManager

/-- A player without an owner is installed only when no map holds it: the world adopts
first, and installs when the player is missing. -/
def AdoptsFirst (history : OwnerHistory Position Data) (op : OwnerOp Position Data) : Prop :=
  ∀ player, op = .installDetached player →
    history.manager.playerOwners.lookup player.guid = none →
    ∀ key, history.manager.playerAt key player.guid = none

/-! ## Steps -/

section

variable {isValidMapCoord2d} {legacy : ObjectGuid → Prop} {history : OwnerHistory Position Data}
  {manager : MapManager Position Data}
variable {op : OwnerOp Position Data}

theorem MapManager.OneOwner.apply (h : MapManager.OneOwner legacy manager)
    (hadopts : ∀ player, op = .installDetached player →
      manager.playerOwners.lookup player.guid = none →
      ∀ key, manager.playerAt key player.guid = none) :
    MapManager.OneOwner legacy (op.apply isValidMapCoord2d manager).manager := by
  cases op with
  | createMap key difficulty kind => exact h.created key difficulty kind
  | adoptActive guid => exact h.adopted (adopted_of_adopt manager guid)
  | installDetached player =>
    exact h.installed (hadopts player rfl) (installed_of_install manager player)
  | attach handle key position =>
    exact h.attached (attached_of_attach isValidMapCoord2d manager handle key position)
  | detach handle => exact h.detached (detached_of_detach manager handle)
  | relocate handle position =>
    exact h.relocated (relocated_of_relocate isValidMapCoord2d manager handle position)
  | retire handle => exact h.retired (retired_of_retire manager handle)

theorem rowsAfter_apply (isValidMapCoord2d : Position → Bool) (manager : MapManager Position Data)
    (op : OwnerOp Position Data) :
    RowsAfter manager (op.apply isValidMapCoord2d manager).issued
      (op.apply isValidMapCoord2d manager).manager := by
  cases op with
  | createMap key difficulty kind => exact .of_created key difficulty kind
  | adoptActive guid => exact .of_adopted (adopted_of_adopt manager guid)
  | installDetached player => exact .of_installed (installed_of_install manager player)
  | attach handle key position =>
    exact .of_attached (attached_of_attach isValidMapCoord2d manager handle key position)
  | detach handle => exact .of_detached (detached_of_detach manager handle)
  | relocate handle position =>
    exact .of_relocated (relocated_of_relocate isValidMapCoord2d manager handle position)
  | retire handle => exact .of_retired (retired_of_retire manager handle)

theorem MapManager.OneOwner.sameButCounted_of_refused (h : MapManager.OneOwner legacy manager)
    (hrefused : (op.apply isValidMapCoord2d manager).refused = true) :
    manager.SameButCounted (op.apply isValidMapCoord2d manager).manager := by
  cases op with
  | createMap key difficulty kind => cases hrefused
  | adoptActive guid =>
    have hresult := adopted_of_adopt manager guid
    simp only [OwnerOp.apply, OwnerOutcome.ofHandle] at hrefused ⊢
    generalize manager.adoptActivePlayer guid = result at hresult hrefused ⊢
    cases hresult with
    | refused error => rfl
    | adopted hguid howner hlt hplayer => cases hrefused
  | installDetached player =>
    have hresult := installed_of_install manager player
    simp only [OwnerOp.apply, OwnerOutcome.ofHandle] at hrefused ⊢
    generalize manager.installDetachedPlayer player = result at hresult hrefused ⊢
    cases hresult with
    | refused error => rfl
    | unreplaced next hnext howner hretired =>
      obtain rfl := (h.recount next).eq_of_retire_none hretired
      rfl
    | fresh hguid hlt howner => cases hrefused
    | replaced hguid hlt howner hretired => cases hrefused
  | attach handle key position =>
    have hresult := attached_of_attach isValidMapCoord2d manager handle key position
    simp only [OwnerOp.apply, OwnerOutcome.ofUnit] at hrefused ⊢
    generalize manager.attachPlayer _ handle key position = result at hresult hrefused ⊢
    cases hresult with
    | refused error => rfl
    | attached howner hresidence hmap hplayer hfree => cases hrefused
  | detach handle =>
    have hresult := detached_of_detach manager handle
    simp only [OwnerOp.apply, OwnerOutcome.ofUnit] at hrefused ⊢
    generalize manager.detachPlayer handle = result at hresult hrefused ⊢
    obtain ⟨outcome, manager'⟩ := result
    cases outcome with
    | error error =>
      obtain rfl := h.eq_of_detach_error hresult
      rfl
    | ok value => cases hrefused
  | relocate handle position =>
    have hresult := relocated_of_relocate isValidMapCoord2d manager handle position
    simp only [OwnerOp.apply, OwnerOutcome.ofUnit] at hrefused ⊢
    generalize manager.relocatePlayer _ handle position = result at hresult hrefused ⊢
    cases hresult with
    | refused error => rfl
    | relocated howner hresidence hmap hrecord => cases hrefused
  | retire handle =>
    have hresult := retired_of_retire manager handle
    simp only [OwnerOp.apply] at hrefused ⊢
    generalize manager.retirePlayer handle = result at hresult hrefused ⊢
    obtain ⟨player, manager'⟩ := result
    cases player with
    | none =>
      obtain rfl := h.eq_of_retire_none hresult
      rfl
    | some player => cases hrefused

/-! ## Issued handles -/

/-- The owner rows are those of the handles issued last, and no generation is issued twice. -/
structure OwnerHistory.Handles (history : OwnerHistory Position Data) : Prop where
  rows : ∀ guid row, history.manager.playerOwners.lookup guid = some row →
    latestIssued history.issued guid = some ⟨guid, row.generation⟩
  below : ∀ handle ∈ history.issued, handle.generation < history.manager.nextPlayerGeneration
  once : (history.issued.map PlayerHandle.generation).Nodup

theorem OwnerHistory.Handles.step {history : OwnerHistory Position Data} (h : history.Handles)
    (op : OwnerOp Position Data) : (history.step isValidMapCoord2d op).Handles := by
  have hrows := rowsAfter_apply isValidMapCoord2d history.manager op
  simp only [OwnerHistory.step]
  generalize op.apply isValidMapCoord2d history.manager = outcome at hrows ⊢
  cases hissued : outcome.issued with
  | none =>
    rw [hissued] at hrows
    refine ⟨fun guid row' hrow' => ?_, fun handle hhandle => ?_, ?_⟩
    · obtain ⟨row, hrow, hsame, -⟩ := hrows.kept guid row' hrow' nofun
      simpa [hsame] using h.rows guid row hrow
    · exact lt_of_lt_of_le (h.below handle (by simpa using hhandle)) hrows.next_le
    · simpa using h.once
  | some handle =>
    rw [hissued] at hrows
    obtain ⟨hgeneration, hlt, hown⟩ := hrows.fresh handle rfl
    simp only [Option.toList_some]
    refine ⟨fun guid row' hrow' => ?_, fun other hother => ?_, ?_⟩
    · rw [latestIssued_concat]
      by_cases hguid : handle.guid = guid
      · rw [if_pos hguid, hown row' (hguid ▸ hrow'), ← hguid]
      · rw [if_neg hguid]
        obtain ⟨row, hrow, hsame, -⟩ := hrows.kept guid row' hrow' fun other hother => by
          obtain rfl := Option.some.inj hother
          exact hguid
        rw [hsame]
        exact h.rows guid row hrow
    · rcases List.mem_append.mp hother with hold | hnew
      · exact (h.below other hold).trans hlt
      · obtain rfl := List.mem_singleton.mp hnew
        simp only
        omega
    · rw [List.map_append]
      refine List.Nodup.append h.once (List.nodup_singleton _) ?_
      intro generation hold hnew
      obtain ⟨other, hother, rfl⟩ := List.mem_map.mp hold
      have hsame : other.generation = handle.generation := by simpa using hnew
      have hbelow := h.below other hother
      omega

theorem OwnerHistory.Handles.of_legacy (h : manager.Legacy) :
    OwnerHistory.Handles ⟨manager, []⟩ where
  rows := fun guid row hrow => by simp [h.unowned] at hrow
  below := nofun
  once := List.nodup_nil

end

/-! ## Residence revisions -/

def RevisedFrom (guid : ObjectGuid) (generation revision : ℕ)
    (history : OwnerHistory Position Data) : Prop :=
  generation < history.manager.nextPlayerGeneration ∧
    ∀ row, history.manager.playerOwners.lookup guid = some row → row.generation = generation →
      revision ≤ row.residenceRevision

theorem RevisedFrom.step {generation revision : ℕ} {history : OwnerHistory Position Data}
    (h : RevisedFrom guid generation revision history) (op : OwnerOp Position Data) :
    RevisedFrom guid generation revision (history.step isValidMapCoord2d op) := by
  have hrows := rowsAfter_apply isValidMapCoord2d history.manager op
  simp only [OwnerHistory.step]
  generalize op.apply isValidMapCoord2d history.manager = outcome at hrows ⊢
  obtain ⟨hlt, hrevised⟩ := h
  refine ⟨lt_of_lt_of_le hlt hrows.next_le, fun row' hrow' hgeneration => ?_⟩
  by_cases hissued : ∀ handle, outcome.issued = some handle → handle.guid ≠ guid
  · obtain ⟨row, hrow, hsame, hle⟩ := hrows.kept guid row' hrow' hissued
    exact (hrevised row hrow (hsame.symm.trans hgeneration)).trans hle
  · push Not at hissued
    obtain ⟨handle, hhandle, rfl⟩ := hissued
    obtain ⟨hfresh, -, hown⟩ := hrows.fresh handle hhandle
    have hsame := hown row' hrow'
    omega

/-! ## Runs -/

/-- What holds between two operations. -/
structure OwnersInvariant (legacy : ObjectGuid → Prop) (history : OwnerHistory Position Data) :
    Prop where
  one : MapManager.OneOwner legacy history.manager
  handles : history.Handles

variable {isValidMapCoord2d}

theorem OwnersInvariant.run {start : MapManager Position Data} (hstart : start.Legacy)
    {ops : List (OwnerOp Position Data)}
    (hops : EachStep (OwnerHistory.step isValidMapCoord2d) AdoptsFirst ⟨start, []⟩ ops) :
    OwnersInvariant start.OnMap
      (RustyCore.run (OwnerHistory.step isValidMapCoord2d) ⟨start, []⟩ ops) :=
  run_invariant (OwnersInvariant start.OnMap)
    (fun _ op h hadopts => ⟨h.one.apply hadopts, h.handles.step op⟩)
    ⟨hstart.oneOwner, .of_legacy hstart⟩ hops

theorem MapManager.OneOwner.stored_once {legacy : ObjectGuid → Prop}
    (h : MapManager.OneOwner legacy manager) (hrow : manager.playerOwners.lookup guid = some row) :
    ∃ player, manager.storedAt row.residence guid = some player ∧ player.guid = guid ∧
      ∀ place slot other, manager.storedAt place slot = some other → other.guid = guid →
        place = row.residence ∧ slot = guid := by
  have hold := h.resides guid
  have hslot : ∀ place slot other, manager.storedAt place slot = some other →
      other.guid = slot := by
    intro place slot other hother
    cases place with
    | detached => exact (h.resides slot).stored_guid other hother
    | active key => exact ((h.resides slot).keyed key other hother).1
  have hfound : ∃ player, manager.storedAt row.residence guid = some player := by
    cases hresidence : row.residence with
    | detached => exact (hold.detached row hrow hresidence).1
    | active key => exact (hold.active row key hrow hresidence).2
  obtain ⟨player, hplayer⟩ := hfound
  refine ⟨player, hplayer, hslot _ _ _ hplayer, fun place slot other hother hguid => ?_⟩
  obtain rfl : slot = guid := (hslot place slot other hother).symm.trans hguid
  refine ⟨?_, rfl⟩
  cases place with
  | detached =>
    obtain ⟨row', hrow', hresidence⟩ := hold.owned other hother
    obtain rfl := Option.some.inj (hrow.symm.trans hrow')
    exact hresidence.symm
  | active key =>
    cases hresidence : row.residence with
    | detached =>
      have hnone := (hold.detached row hrow hresidence).2 key
      exact absurd (hnone.symm.trans hother) nofun
    | active key' =>
      obtain ⟨-, found, hfound⟩ := hold.active row key' hrow hresidence
      rw [hold.once key key' other found hother hfound]

variable (isValidMapCoord2d) in
/-- Every way to reach a player through `handle` is refused. -/
structure MapManager.Refuses (manager : MapManager Position Data) (handle : PlayerHandle) :
    Prop where
  withPlayer : manager.withPlayer handle = none
  withPlayerMut : ∀ write, manager.withPlayerMut handle write = none
  attach : ∀ key position,
    (OwnerOp.apply isValidMapCoord2d manager (.attach handle key position)).refused = true
  detach : (OwnerOp.apply isValidMapCoord2d manager (.detach handle)).refused = true
  relocate : ∀ position,
    (OwnerOp.apply isValidMapCoord2d manager (.relocate handle position)).refused = true
  retire : (OwnerOp.apply isValidMapCoord2d manager (.retire handle)).refused = true

theorem MapManager.refuses_of_stale (h : manager.currentPlayerOwner handle = none) :
    manager.Refuses isValidMapCoord2d handle where
  withPlayer := by simp [MapManager.withPlayer, h]
  withPlayerMut := by simp [MapManager.withPlayerMut, h]
  attach := fun key position => by
    simp only [OwnerOp.apply, OwnerOutcome.ofUnit, MapManager.attachPlayer, h]
    split_ifs <;> rfl
  detach := by simp [OwnerOp.apply, OwnerOutcome.ofUnit, MapManager.detachPlayer, h, Except.isOk,
    Except.toBool]
  relocate := fun position => by
    simp only [OwnerOp.apply, OwnerOutcome.ofUnit, MapManager.relocatePlayer, h]
    split_ifs <;> rfl
  retire := by simp [OwnerOp.apply, MapManager.retirePlayer, h]

theorem OwnerHistory.Handles.stale {history : OwnerHistory Position Data} (h : history.Handles)
    (hlatest : latestIssued history.issued handle.guid ≠ some handle) :
    history.manager.currentPlayerOwner handle = none := by
  cases howner : history.manager.currentPlayerOwner handle with
  | none => rfl
  | some owner =>
    obtain ⟨hrow, hgeneration⟩ := MapManager.currentPlayerOwner_eq_some howner
    have hissued := h.rows handle.guid owner hrow
    rw [hgeneration] at hissued
    exact absurd hissued hlatest

/-- An attach raises the revision of its incarnation above the one before, for good. -/
theorem revision_lt_of_attach {start : OwnerHistory Position Data} (hstart : start.Handles)
    {key : MapKey} {position : Position}
    (hattach : (OwnerOp.apply isValidMapCoord2d start.manager
      (.attach handle key position)).refused = false)
    (later : List (OwnerOp Position Data)) {row' : PlayerOwnership}
    (hrow : start.manager.playerOwners.lookup handle.guid = some row)
    (hrow' : (RustyCore.run (OwnerHistory.step isValidMapCoord2d) start
      (.attach handle key position :: later)).manager.playerOwners.lookup handle.guid = some row')
    (hgeneration : row'.generation = row.generation) :
    row.residenceRevision < row'.residenceRevision := by
  have hbelow : row.generation < start.manager.nextPlayerGeneration :=
    hstart.below _ (mem_of_latestIssued (hstart.rows handle.guid row hrow)).1
  have hraised : RevisedFrom handle.guid row.generation (row.residenceRevision + 1)
      (start.step isValidMapCoord2d (.attach handle key position)) := by
    have hresult := attached_of_attach isValidMapCoord2d start.manager handle key position
    simp only [OwnerHistory.step, OwnerOp.apply, OwnerOutcome.ofUnit] at hattach ⊢
    generalize start.manager.attachPlayer _ handle key position = result at hresult hattach ⊢
    cases hresult with
    | refused error => cases hattach
    | attached howner hresidence hmap hplayer hfree =>
      refine ⟨hbelow, fun found hfound _ => ?_⟩
      obtain rfl := Option.some.inj
        (hrow.symm.trans (MapManager.currentPlayerOwner_eq_some howner).1)
      rw [Dict.lookup_insert_eq, if_pos rfl] at hfound
      obtain rfl := Option.some.inj hfound
      exact le_rfl
  have hkept := run_invariant_of_all
    (RevisedFrom handle.guid row.generation (row.residenceRevision + 1))
    (fun _ op h => RevisedFrom.step isValidMapCoord2d h op) hraised later
  exact hkept.2 row' hrow' hgeneration

/-- A player that was put on its map before handles existed. -/
def legacyPlayer : Player Unit Unit where
  guid := .createPlayer 1 7
  inWorld := true
  currentMap := some ⟨571, 0⟩
  position := ()
  data := ()

def legacyManager : MapManager Unit Unit :=
  { (MapManager.new 10).createMapEntry ⟨571, 0⟩ 0 .world with
    maps := .singleton ⟨571, 0⟩
      { (.new 571 0 0 .world : ManagedMap Unit Unit) with
        entityWorld := .singleton legacyPlayer.guid (.player legacyPlayer) } }

theorem legacy_legacyManager : legacyManager.Legacy := by
  have hon : ∀ key guid player, legacyManager.playerAt key guid = some player →
      key = ⟨571, 0⟩ ∧ guid = legacyPlayer.guid ∧ player = legacyPlayer := by
    intro key guid player hplayer
    obtain ⟨map, hmap, hrecord⟩ := MapManager.playerAt_eq_some.mp hplayer
    simp only [legacyManager, Dict.lookup_singleton_eq] at hmap
    split_ifs at hmap with hkey
    obtain rfl := Option.some.inj hmap
    rw [EntityWorld.getTypedPlayer_eq_some, Dict.lookup_singleton_eq] at hrecord
    split_ifs at hrecord with hguid
    exact ⟨hkey, hguid, (MapObjectRecord.player.inj (Option.some.inj hrecord)).symm⟩
  refine ⟨rfl, rfl, fun key map hmap => ?_, fun key guid player hplayer => ?_, ?_⟩
  · simp only [legacyManager, Dict.lookup_singleton_eq] at hmap
    split_ifs at hmap with hkey
    obtain rfl := Option.some.inj hmap
    exact hkey
  · obtain ⟨rfl, rfl, rfl⟩ := hon key guid player hplayer
    exact ⟨rfl, rfl⟩
  · intro key key' guid player player' hplayer hplayer'
    rw [(hon key guid player hplayer).1, (hon key' guid player' hplayer').1]

/-- The player is adopted, taken off its map and replaced by another value, which is attached. -/
def ownerOps : List (OwnerOp Unit Unit) :=
  [.adoptActive legacyPlayer.guid, .detach ⟨legacyPlayer.guid, 1⟩, .installDetached legacyPlayer,
    .attach ⟨legacyPlayer.guid, 2⟩ ⟨571, 0⟩ ()]

end RustyCore.Maps
