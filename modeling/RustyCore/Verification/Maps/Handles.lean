import RustyCore.Verification.Maps.Owners

/-! # Handles and owner rows

A generation number is given to one handle only. An owner row keeps its generation for as
long as it stands, and its revision never falls. -/

namespace RustyCore.Maps

variable {Position Data : Type}

def latestIssued (issued : List PlayerHandle) (guid : ObjectGuid) : Option PlayerHandle :=
  issued.reverse.find? fun handle => handle.guid = guid

theorem latestIssued_concat (issued : List PlayerHandle) (handle : PlayerHandle)
    (guid : ObjectGuid) :
    latestIssued (issued ++ [handle]) guid =
      if handle.guid = guid then some handle else latestIssued issued guid := by
  simp only [latestIssued, List.reverse_append, List.reverse_singleton, List.singleton_append,
    List.find?_cons]
  by_cases h : handle.guid = guid
  · simp [h]
  · simp [h]

theorem mem_of_latestIssued {issued : List PlayerHandle} {guid : ObjectGuid}
    {handle : PlayerHandle} (h : latestIssued issued guid = some handle) :
    handle ∈ issued ∧ handle.guid = guid :=
  ⟨List.mem_reverse.mp (List.mem_of_find?_eq_some h), by simpa using List.find?_some h⟩

/-! ## What an operation does to the owner rows -/

/-- The rows of `manager'` are those of `manager`, some of them removed or with a higher
revision, and the row of the handle that was issued. -/
structure RowsAfter (manager : MapManager Position Data) (issued : Option PlayerHandle)
    (manager' : MapManager Position Data) : Prop where
  next_le : manager.nextPlayerGeneration ≤ manager'.nextPlayerGeneration
  kept : ∀ guid row', manager'.playerOwners.lookup guid = some row' →
    (∀ handle, issued = some handle → handle.guid ≠ guid) →
    ∃ row, manager.playerOwners.lookup guid = some row ∧ row'.generation = row.generation ∧
      row.residenceRevision ≤ row'.residenceRevision
  fresh : ∀ handle, issued = some handle →
    handle.generation = manager.nextPlayerGeneration ∧
    manager.nextPlayerGeneration < manager'.nextPlayerGeneration ∧
    ∀ row', manager'.playerOwners.lookup handle.guid = some row' →
      row'.generation = handle.generation

namespace RowsAfter

variable {manager manager' : MapManager Position Data}
variable {guid : ObjectGuid} {result : Except PlayerOwnerError Unit × MapManager Position Data}

theorem of_kept (hnext : manager.nextPlayerGeneration ≤ manager'.nextPlayerGeneration)
    (hkept : ∀ guid row', manager'.playerOwners.lookup guid = some row' →
      ∃ row, manager.playerOwners.lookup guid = some row ∧ row'.generation = row.generation ∧
        row.residenceRevision ≤ row'.residenceRevision) : RowsAfter manager none manager' :=
  ⟨hnext, fun guid row' hrow _ => hkept guid row' hrow, nofun⟩

theorem same (hnext : manager'.nextPlayerGeneration = manager.nextPlayerGeneration)
    (hrows : manager'.playerOwners = manager.playerOwners) : RowsAfter manager none manager' :=
  .of_kept hnext.ge fun _ row' hrow => ⟨row', hrows ▸ hrow, rfl, le_rfl⟩

/-- One row kept its generation and its revision did not fall. -/
theorem edit (hnext : manager'.nextPlayerGeneration = manager.nextPlayerGeneration)
    {row edited : PlayerOwnership} (hrow : manager.playerOwners.lookup guid = some row)
    (hrows : manager'.playerOwners = manager.playerOwners.insert guid edited)
    (hgeneration : edited.generation = row.generation)
    (hrevision : row.residenceRevision ≤ edited.residenceRevision) :
    RowsAfter manager none manager' :=
  .of_kept hnext.ge fun guid' row' hrow' => by
    rw [hrows, Dict.lookup_insert_eq] at hrow'
    split_ifs at hrow' with hguid
    · obtain rfl := Option.some.inj hrow'
      exact ⟨row, hguid ▸ hrow, hgeneration, hrevision⟩
    · exact ⟨row', hrow', rfl, le_rfl⟩

theorem remove (hnext : manager'.nextPlayerGeneration = manager.nextPlayerGeneration)
    (guid : ObjectGuid) (hrows : manager'.playerOwners = manager.playerOwners.erase guid) :
    RowsAfter manager none manager' :=
  .of_kept hnext.ge fun guid' row' hrow' => by
    rw [hrows, Dict.lookup_erase_eq] at hrow'
    split_ifs at hrow'
    exact ⟨row', hrow', rfl, le_rfl⟩

theorem trans {manager'' : MapManager Position Data} (h : RowsAfter manager none manager')
    (h' : RowsAfter manager' none manager'') : RowsAfter manager none manager'' :=
  .of_kept (h.next_le.trans h'.next_le) fun guid row'' hrow'' => by
    obtain ⟨row', hrow', hsame', hle'⟩ := h'.kept guid row'' hrow'' nofun
    obtain ⟨row, hrow, hsame, hle⟩ := h.kept guid row' hrow' nofun
    exact ⟨row, hrow, hsame'.trans hsame, hle.trans hle'⟩

theorem issue
    (h : RowsAfter { manager with
      nextPlayerGeneration := manager.nextPlayerGeneration + 1 } none manager')
    {row : PlayerOwnership} (hrow : row.generation = manager.nextPlayerGeneration)
    {manager'' : MapManager Position Data}
    (hnext : manager''.nextPlayerGeneration = manager'.nextPlayerGeneration)
    (hrows : manager''.playerOwners = manager'.playerOwners.insert guid row) :
    RowsAfter manager (some ⟨guid, manager.nextPlayerGeneration⟩) manager'' where
  next_le := by
    have hle := h.next_le
    simp only at hle
    omega
  kept := fun guid' row' hrow' hother => by
    have hguid : guid' ≠ guid := fun heq => hother _ rfl heq.symm
    rw [hrows, Dict.lookup_insert_eq, if_neg hguid] at hrow'
    exact h.kept guid' row' hrow' nofun
  fresh := fun handle hhandle => by
    obtain rfl := Option.some.inj hhandle
    have hle := h.next_le
    simp only at hle
    refine ⟨rfl, by omega, fun row' hrow' => ?_⟩
    rw [hrows, Dict.lookup_insert_eq, if_pos rfl] at hrow'
    obtain rfl := Option.some.inj hrow'
    exact hrow

variable {handle : PlayerHandle}

theorem of_attached {key : MapKey} {position : Position}
    (hresult : Attached manager handle key position result) : RowsAfter manager none result.2 := by
  cases hresult with
  | refused error => exact .same rfl rfl
  | attached howner hresidence hmap hplayer hfree =>
    exact .edit rfl (MapManager.currentPlayerOwner_eq_some howner).1 rfl rfl (Nat.le_succ _)

theorem of_detached (hresult : Detached manager handle result) :
    RowsAfter manager none result.2 := by
  cases hresult with
  | refused error => exact .same rfl rfl
  | lost howner hresidence hmap hrecord hbound => exact .same rfl rfl
  | detached howner hresidence hmap hrecord hbound =>
    exact .edit rfl (MapManager.currentPlayerOwner_eq_some howner).1 rfl rfl le_rfl

theorem of_retired {result : Option (Player Position Data) × MapManager Position Data}
    (hresult : Retired manager handle result) : RowsAfter manager none result.2 := by
  cases hresult with
  | refused => exact .same rfl rfl
  | lost hdetached => exact .of_detached hdetached
  | fromTable howner hresidence => exact .remove rfl handle.guid rfl
  | fromMap hdetached => exact (RowsAfter.of_detached hdetached).trans (.remove rfl handle.guid rfl)

theorem of_relocated {position : Position} (hresult : Relocated manager handle position result) :
    RowsAfter manager none result.2 := by
  cases hresult with
  | refused error => exact .same rfl rfl
  | relocated howner hresidence hmap hrecord => exact .same rfl rfl

theorem of_installed {player : Player Position Data}
    {result : Except PlayerOwnerError PlayerHandle × MapManager Position Data}
    (hresult : Installed manager player result) :
    RowsAfter manager result.1.toOption result.2 := by
  cases hresult with
  | refused error => exact .same rfl rfl
  | @unreplaced previous manager' next hnext howner hretired =>
    have hrows := RowsAfter.of_retired hretired
    exact .of_kept (hnext.trans hrows.next_le) fun guid row' hrow' =>
      hrows.kept guid row' hrow' nofun
  | fresh hguid hlt howner => exact .issue (.same rfl rfl) rfl rfl rfl
  | replaced hguid hlt howner hretired => exact .issue (.of_retired hretired) rfl rfl rfl

theorem of_adopted {result : Except PlayerOwnerError PlayerHandle × MapManager Position Data}
    (hresult : Adopted manager guid result) : RowsAfter manager result.1.toOption result.2 := by
  cases hresult with
  | refused error => exact .same rfl rfl
  | adopted hguid howner hlt hplayer => exact .issue (.same rfl rfl) rfl rfl rfl

theorem of_created (key : MapKey) (difficulty : ℕ) (kind : ManagedMapKind) :
    RowsAfter manager none (manager.createMapEntry key difficulty kind) := by
  simp only [MapManager.createMapEntry]
  cases manager.maps.lookup key with
  | some map => exact .same rfl rfl
  | none => exact .same rfl rfl

end RowsAfter

/-! ## Refused operations -/

namespace MapManager

/-- The manager with some of its generation numbers used up. -/
def SameButCounted (manager manager' : MapManager Position Data) : Prop :=
  manager' = { manager with nextPlayerGeneration := manager'.nextPlayerGeneration }

namespace OneOwner

variable {legacy : ObjectGuid → Prop} {manager manager' : MapManager Position Data}
  {handle : PlayerHandle}

theorem eq_of_detach_error (h : OneOwner legacy manager) {error : PlayerOwnerError}
    (hresult : Detached manager handle (.error error, manager')) : manager' = manager := by
  cases hresult with
  | refused error => rfl
  | @lost owner key map player howner hresidence hmap hrecord hbound =>
    have hplayer : manager.playerAt key handle.guid = some player :=
      playerAt_eq_some.mpr ⟨map, hmap, EntityWorld.getTypedPlayer_eq_some.mpr hrecord⟩
    have hkeyed := ((h.resides handle.guid).keyed key player hplayer).2
    rw [hbound] at hkeyed
    cases hkeyed

theorem eq_of_retire_none (h : OneOwner legacy manager)
    (hresult : Retired manager handle (none, manager')) : manager' = manager := by
  generalize hpair : ((none : Option (Player Position Data)), manager') = pair at hresult
  cases hresult with
  | refused => exact (Prod.mk.inj hpair).2
  | lost hdetached => exact (Prod.mk.inj hpair).2.trans (h.eq_of_detach_error hdetached)
  | fromTable howner hresidence =>
    obtain ⟨player, hplayer⟩ := ((h.resides handle.guid).detached _
      (currentPlayerOwner_eq_some howner).1 hresidence).1
    exact absurd ((Prod.mk.inj hpair).1.trans hplayer) nofun
  | fromMap hdetached =>
    cases hdetached with
    | detached howner hresidence hmap hrecord hbound =>
      have hstored := (Prod.mk.inj hpair).1
      rw [Dict.lookup_insert_eq, if_pos rfl] at hstored
      cases hstored

end OneOwner

end MapManager

end RustyCore.Maps
