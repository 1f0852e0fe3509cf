import RustyCore.Library.Run
import RustyCore.Verification.Player.EquipmentSets

/-! # Histories of equipment-set saves

Saves are captured, committed or rolled back while the client goes on editing the sets. -/

namespace RustyCore.Player

open EquipmentSetUpdateState

variable {c saved : PlayerEquipmentSets} {t : EquipmentTables}

def equipmentSaves : DeferredSave PlayerEquipmentSets EquipmentTables EquipmentEdit where
  edit := EquipmentEdit.apply
  save := fun t c => c.save t
  acknowledge := PlayerEquipmentSets.acknowledgeSavedProjection

abbrev EquipmentState := SaveState PlayerEquipmentSets EquipmentTables

/-- The guid of a created set is fresh and no edit changes the type of a set. -/
def LegalOp (s : EquipmentState) : SaveOp EquipmentEdit → Prop
  | .edit e => e.Legal s.memory s.inFlight
  | .capture => True
  | .commit => True
  | .rollback => True

/-- While nothing is in flight the container agrees with the tables. While a save is, each of
its statements fits the tables, and it leaves the rows of the sets that are not deleted. -/
def InStep (s : EquipmentState) : Prop :=
  match s.inFlight with
  | none => Consistent s.memory s.tables
  | some saved =>
    AllFit EquipmentTables.execute EquipmentTables.Fits s.tables
      (equipmentSavePlan saved.saveRequest) ∧
    ∃ t', saved.save s.tables = some t' ∧ ∀ guid, t'.rows guid = heldRows (saved.set guid)

/-- A captured save finds the row of each changed set under the set's index, and no set that
was captured as deleted is there again, edited and deleted once more, at the commit. -/
def Saveable (s : EquipmentState) : SaveOp EquipmentEdit → Prop
  | .edit _ => True
  | .capture => s.inFlight = none → ∀ guid, RowFound (s.memory.set guid) (s.tables.rows guid)
  | .commit => ∀ saved, s.inFlight = some saved →
      ∀ guid, ¬ DeletedAgain (saved.set guid) (s.memory.set guid)
  | .rollback => True

/-! ## The invariant -/

structure Quiet (c : PlayerEquipmentSets) (t : EquipmentTables) : Prop where
  loaded : c.loaded = true
  consistent : Consistent c t

/-- The captured sets agree with the tables, which they were saved from, and the current sets
have been edited since. -/
structure Saving (t : EquipmentTables) (saved c : PlayerEquipmentSets) : Prop where
  loaded : c.loaded = true
  savedLoaded : saved.loaded = true
  consistent : Consistent saved t
  drift : ∀ guid, saved.set guid = c.set guid ∨ Edited (saved.set guid) (c.set guid)
  found : ∀ guid, RowFound (saved.set guid) (t.rows guid)

theorem Saving.consistent_current (h : Saving t saved c) : Consistent c t := by
  intro guid
  rcases h.drift guid with hsame | hedited
  · rw [← hsame]
    exact h.consistent guid
  · exact (h.consistent guid).edited hedited

theorem Quiet.edit (h : Quiet c t) {e : EquipmentEdit} (he : e.Legal c none) :
    Quiet (e.apply c) t := by
  refine ⟨(loaded_apply c e).trans h.loaded, ?_⟩
  intro guid
  rcases apply_touched he guid with hsame | ⟨hedited, _⟩
  · rw [← hsame]
    exact h.consistent guid
  · exact (h.consistent guid).edited hedited

theorem Saving.edit (h : Saving t saved c) {e : EquipmentEdit} (he : e.Legal c (some saved)) :
    Saving t saved (e.apply c) := by
  refine ⟨(loaded_apply c e).trans h.loaded, h.savedLoaded, h.consistent, ?_, h.found⟩
  intro guid
  rcases apply_touched he guid with hsame | ⟨hedited, hfresh⟩
  · rw [← hsame]
    exact h.drift guid
  · rcases h.drift guid with hsame | hbefore
    · rw [hsame]
      exact .inr hedited
    · exact hbefore.trans hedited fun hnone => hfresh hnone saved rfl

theorem Saving.save (h : Saving t saved c) :
    AllFit EquipmentTables.execute EquipmentTables.Fits t (equipmentSavePlan saved.saveRequest) ∧
    ∃ t', saved.save t = some t' ∧
      ∀ guid, t'.rows guid = writtenAt (saved.set guid) (t.rows guid) := by
  refine save_spec h.savedLoaded fun guid equipmentSet hset => ?_
  have hagrees := h.consistent guid
  rw [hset] at hagrees
  exact hagrees.ready

theorem set_acknowledgeSavedProjection (hc : c.loaded = true) (hsaved : saved.loaded = true)
    (guid : ℕ) :
    (c.acknowledgeSavedProjection saved).set guid = acknowledged (saved.set guid) (c.set guid) := by
  have hgroup : saved.saveRequest.isSome ∧ c.loaded = true := by
    simp [PlayerEquipmentSets.saveRequest, hsaved, hc]
  rw [PlayerEquipmentSets.acknowledgeSavedProjection, if_pos hgroup]
  exact set_acknowledgeSavedSets c saved.sets guid

/-- After the commit the container agrees with the tables, unless a deleted set is back. -/
theorem Saving.consistent_acknowledged_iff {t' : EquipmentTables} (h : Saving t saved c)
    (hrows : ∀ guid, t'.rows guid = writtenAt (saved.set guid) (t.rows guid)) :
    Consistent (c.acknowledgeSavedProjection saved) t' ↔
      ∀ guid, ¬ DeletedAgain (saved.set guid) (c.set guid) := by
  refine forall_congr' fun guid => ?_
  rw [set_acknowledgeSavedProjection h.loaded h.savedLoaded, hrows]
  exact agrees_acknowledged_iff (h.consistent guid) (h.drift guid) (h.found guid)

theorem equipment_rules : equipmentSaves.Rules Quiet Saving
    (fun s op => LegalOp s op ∧ Saveable s op) where
  edit := fun _ _ _ h hop => h.edit hop.1
  editInFlight := fun _ _ _ _ h hop => h.edit hop.1
  capture := fun c t h hop => ⟨h.loaded, h.loaded, h.consistent, fun _ => .inl rfl, hop.2 rfl⟩
  commit := by
    intro c t saved h hop
    obtain ⟨_, t', hsave, hrows⟩ := h.save
    refine ⟨t', hsave, ?_, (h.consistent_acknowledged_iff hrows).mpr (hop.2 saved rfl)⟩
    simp only [equipmentSaves, PlayerEquipmentSets.acknowledgeSavedProjection]
    split
    · exact h.loaded
    · exact h.loaded
  rollback := fun _ _ _ h => ⟨h.loaded, h.consistent_current⟩

abbrev KeptInStep : EquipmentState → Prop := DeferredSave.Kept Quiet Saving

theorem inStep_of_kept (s : EquipmentState) (h : KeptInStep s) : InStep s := by
  obtain ⟨c, t, inFlight⟩ := s
  cases inFlight with
  | none => exact h.consistent
  | some saved =>
    obtain ⟨hfit, t', hsave, hrows⟩ := Saving.save h
    refine ⟨hfit, t', hsave, fun guid => ?_⟩
    rw [hrows]
    exact writtenAt_eq_heldRows (h.consistent guid) (h.found guid)

/-- A step that leaves everything in step has met the condition. -/
theorem saveable_of_inStep (s : EquipmentState) (op : SaveOp EquipmentEdit) (h : KeptInStep s)
    (hstep : InStep (equipmentSaves.step s op)) : Saveable s op := by
  obtain ⟨c, t, inFlight⟩ := s
  cases op with
  | edit e => trivial
  | rollback => trivial
  | capture =>
    rintro hquiet guid
    cases hquiet
    obtain ⟨_, t', hsave, hheld⟩ := hstep
    have hready : ∀ guid equipmentSet, c.set guid = some equipmentSet →
        Ready equipmentSet (t.rows guid) := by
      intro guid equipmentSet hset
      have hagrees := h.consistent guid
      rw [hset] at hagrees
      exact hagrees.ready
    obtain ⟨_, t'', hsave', hrows⟩ := save_spec h.loaded hready
    have hsame : t' = t'' := Option.some.inj (hsave.symm.trans hsave')
    subst hsame
    exact rowFound_of_writtenAt ((hrows guid).symm.trans (hheld guid))
  | commit =>
    rintro saved hsaved
    cases hsaved
    obtain ⟨_, t', hsave, hrows⟩ := Saving.save h
    have hconsistent : InStep ⟨c.acknowledgeSavedProjection saved, t', none⟩ := by
      have hnext : equipmentSaves.step ⟨c, t, some saved⟩ .commit =
          ⟨c.acknowledgeSavedProjection saved, t', none⟩ := by
        simp only [DeferredSave.step, equipmentSaves, hsave]
      rw [← hnext]
      exact hstep
    exact (Saving.consistent_acknowledged_iff h hrows).mp hconsistent

/-! ## The result -/

/-- In a history of saves and edits of a consistent container, the container and the tables are
in step at every moment exactly when each capture finds the rows of the changed sets and no
commit meets a set that was deleted again. -/
theorem equipment_saves_in_step_iff (s : EquipmentState) (hloaded : s.memory.loaded = true)
    (hquiet : s.inFlight = none) (hconsistent : Consistent s.memory s.tables)
    (ops : List (SaveOp EquipmentEdit)) (hlegal : EachStep equipmentSaves.step LegalOp s ops) :
    (∀ ops', ops' <+: ops → InStep (run equipmentSaves.step s ops')) ↔
      EachStep equipmentSaves.step Saveable s ops := by
  have hkept : KeptInStep s := by
    simp only [DeferredSave.Kept, hquiet]
    exact ⟨hloaded, hconsistent⟩
  exact forall_prefixes_iff KeptInStep InStep inStep_of_kept
    (fun s op h hl hg => equipment_rules.step s op h ⟨hl, hg⟩)
    (fun s op h _ => saveable_of_inStep s op h) hkept hlegal

/-- A container with one equipment set, of guid 1, and the row of this set. -/
def oneStoredSet (state : EquipmentSetUpdateState) : EquipmentState :=
  let s : EquipmentSet := { EquipmentSet.ofEquipment 1 0 state with guid := 1 }
  ⟨⟨KeyedMap.empty.insert s, true⟩,
    ⟨AList.insert 1 s.toSave.equipmentColumns ∅, ∅⟩, none⟩

/-- The same set under another name. -/
def renamedSet : EquipmentSet :=
  { EquipmentSet.ofEquipment 1 0 unchanged with guid := 1, setName := "later" }

theorem set_oneStoredSet (state : EquipmentSetUpdateState) {guid : ℕ} (h : guid ≠ 1) :
    (oneStoredSet state).memory.set guid = none ∧
      ∀ setType, (oneStoredSet state).tables.rows guid setType = none := by
  refine ⟨?_, ?_⟩
  · simp only [oneStoredSet, PlayerEquipmentSets.set, KeyedMap.get_insert, if_neg h]
    rfl
  · rintro (_ | _)
    · simp only [oneStoredSet, EquipmentTables.rows, Dict.lookup_insert_eq, if_neg h]
      rfl
    · rfl

theorem consistent_oneStoredSet {state : EquipmentSetUpdateState} (h : state ≠ new) :
    Consistent (oneStoredSet state).memory (oneStoredSet state).tables := by
  intro guid
  by_cases hguid : guid = 1
  · subst hguid
    refine ⟨?_, ?_⟩
    · rintro (_ | _) hne
      · exact absurd rfl hne
      · rfl
    · cases state with
      | new => exact absurd rfl h
      | unchanged => rfl
      | changed => exact Option.some_ne_none _
      | deleted => exact Option.some_ne_none _
  · obtain ⟨hset, hrows⟩ := set_oneStoredSet state hguid
    rw [hset]
    exact hrows

theorem guid_of_set_oneStoredSet {state : EquipmentSetUpdateState} {guid : ℕ} {s : EquipmentSet}
    (h : (oneStoredSet state).memory.set guid = some s) : guid = 1 := by
  by_contra hguid
  rw [(set_oneStoredSet state hguid).1] at h
  cases h

/-- A changed set is renamed and then deleted, while its save is in flight. -/
theorem equipment_saves_in_step_sample :
    InStep (run equipmentSaves.step (oneStoredSet changed)
      [.capture, .edit (.update renamedSet), .edit (.delete 1), .commit]) := by
  have hlegal : EachStep equipmentSaves.step LegalOp (oneStoredSet changed)
      [.capture, .edit (.update renamedSet), .edit (.delete 1), .commit] := by
    refine ⟨trivial, ?_, trivial, trivial, trivial⟩
    intro old hold
    cases hold
    rfl
  refine (equipment_saves_in_step_iff _ rfl rfl (consistent_oneStoredSet (by decide)) _
    hlegal).mpr ⟨?_, trivial, trivial, ?_, trivial⟩ _ List.prefix_rfl
  · intro _ guid s row hs _ hrow
    cases guid_of_set_oneStoredSet hs
    cases hs
    cases hrow
    rfl
  · rintro saved hsaved guid ⟨s, s', hs, _, hdeleted, _⟩
    cases hsaved
    cases guid_of_set_oneStoredSet hs
    cases hs
    cases hdeleted

/-- A deleted set is edited and deleted again while the save that deletes its row is in flight:
the acknowledgement keeps it, though it has no row any more. And a set that is moved to another
index is saved by an `UPDATE` that looks for its row under the new index. -/
theorem equipment_saves_out_of_step :
    (Consistent (oneStoredSet deleted).memory (oneStoredSet deleted).tables ∧
      EachStep equipmentSaves.step LegalOp (oneStoredSet deleted)
        [.capture, .edit (.update renamedSet), .edit (.delete 1), .commit] ∧
      ¬ InStep (run equipmentSaves.step (oneStoredSet deleted)
        [.capture, .edit (.update renamedSet), .edit (.delete 1), .commit])) ∧
    Consistent (oneStoredSet unchanged).memory (oneStoredSet unchanged).tables ∧
      EachStep equipmentSaves.step LegalOp (oneStoredSet unchanged)
        [.edit (.update { renamedSet with setId := 2 }), .capture] ∧
      ¬ InStep (run equipmentSaves.step (oneStoredSet unchanged)
        [.edit (.update { renamedSet with setId := 2 }), .capture]) := by
  refine ⟨⟨consistent_oneStoredSet (by decide), ⟨trivial, ?_, trivial, trivial, trivial⟩, ?_⟩,
    consistent_oneStoredSet (by decide), ⟨?_, trivial, trivial⟩, ?_⟩
  · intro old hold
    cases hold
    rfl
  · intro h
    exact (h 1).2 rfl
  · intro old hold
    cases hold
    rfl
  · rintro ⟨_, t', hsave, hrows⟩
    cases hsave
    have hindex := congrArg (Option.map StoredSet.setIndex) (congrFun (hrows 1) .equipment)
    exact absurd hindex (by decide)

end RustyCore.Player

/-! ## The assignment of equipment sets to specializations

A set is looked up by its index, which a deleted set keeps until its row is deleted. -/

namespace RustyCore.Player

open EquipmentSetUpdateState

variable {c : PlayerEquipmentSets} {setId : ℕ} {s : EquipmentSet}

/-- The client edits the sets, and saves of them are acknowledged. -/
inductive EquipmentSetOp where
  | edit (e : EquipmentEdit)
  | acknowledge (saved : EquipmentSetMap)

def EquipmentSetOp.apply (c : PlayerEquipmentSets) : EquipmentSetOp → PlayerEquipmentSets
  | .edit e => e.apply c
  | .acknowledge saved => c.acknowledgeSavedSets saved

def EquipmentSet.Matches (setId : ℕ) (s : EquipmentSet) : Prop :=
  s.setId = setId ∧ s.setType = .equipment

instance (setId : ℕ) (s : EquipmentSet) : Decidable (s.Matches setId) :=
  inferInstanceAs (Decidable (_ ∧ _))

/-- The assignment leaves the tombstones alone, and changes a set that is not deleted if there
is one with the index. -/
structure Assigned (setId : ℕ) (assignedSpecIndex : ℤ) (c c' : PlayerEquipmentSets) : Prop where
  tombstones : ∀ guid s s', c.set guid = some s → s.state = deleted → c'.set guid = some s' →
    s'.state ≠ changed
  live : (∃ guid s, c.set guid = some s ∧ s.Matches setId ∧ s.state ≠ deleted) →
    ∃ guid s s', c.set guid = some s ∧ s.Matches setId ∧ s.state ≠ deleted ∧
      c'.set guid = some s' ∧ s'.assignedSpecIndex = assignedSpecIndex ∧
      ∀ guid', guid' ≠ guid → c'.set guid' = c.set guid'

def AssignsLiveSet (c : PlayerEquipmentSets) : EquipmentSetOp → Prop
  | .edit (.assign setId assignedSpecIndex) =>
    Assigned setId assignedSpecIndex c (c.assignSetToSpec setId assignedSpecIndex).1
  | _ => True

/-- When a set is assigned, every tombstone with its index comes after a set with this index
that is not deleted. -/
def LiveSetFirst (c : PlayerEquipmentSets) : EquipmentSetOp → Prop
  | .edit (.assign setId _) =>
    ∀ guid s, c.set guid = some s → s.Matches setId → s.state = deleted →
      ∃ guid' < guid, ∃ s', c.set guid' = some s' ∧ s'.Matches setId ∧ s'.state ≠ deleted
  | _ => True

/-! ## The lookup by index -/

theorem not_matches_of_setWithId (h : c.setWithId setId = none) {guid : ℕ}
    (hs : c.set guid = some s) : ¬ s.Matches setId := by
  intro hmatch
  cases hfind : c.sets.dict.findKey id fun _ s =>
      decide (s.setId = setId ∧ s.setType = .equipment) with
  | none =>
    have := Dict.findKey_eq_none_iff.mp hfind guid s hs
    exact (of_decide_eq_false this) hmatch
  | some key =>
    obtain ⟨v, hv, _⟩ := Dict.lookup_of_findKey hfind
    rw [PlayerEquipmentSets.setWithId, hfind] at h
    have hset : c.set key = none := h
    cases hv.symm.trans hset

theorem setWithId_first (h : c.setWithId setId = some s) :
    s.Matches setId ∧ ∀ guid s', c.set guid = some s' → s'.Matches setId → s.guid ≤ guid := by
  obtain ⟨key, hfind, hset⟩ := Option.bind_eq_some_iff.mp h
  have hkey : s.guid = key := c.sets.keyed key s hset
  obtain ⟨v, hv, hp⟩ := Dict.lookup_of_findKey hfind
  have hvs : v = s := Option.some.inj (hv.symm.trans hset)
  rw [hvs] at hp
  refine ⟨of_decide_eq_true hp, fun guid s' hs' hmatch => ?_⟩
  rw [hkey]
  exact Dict.rank_le_of_findKey hfind hs' (decide_eq_true hmatch)

theorem set_assignSetToSpec {assignedSpecIndex : ℤ} (h : c.setWithId setId = some s) (guid : ℕ) :
    (c.assignSetToSpec setId assignedSpecIndex).1.set guid =
      if guid = s.guid then
        some { s with
          assignedSpecIndex := assignedSpecIndex
          state := if s.state = new then new else changed }
      else c.set guid := by
  simp only [PlayerEquipmentSets.assignSetToSpec, h, PlayerEquipmentSets.set,
    KeyedMap.get_insert]

/-! ## Runs -/

theorem assignsLiveSet_iff (c : PlayerEquipmentSets) (op : EquipmentSetOp) :
    AssignsLiveSet c op ↔ LiveSetFirst c op := by
  cases op with
  | acknowledge saved => exact Iff.rfl
  | edit e =>
    cases e with
    | create s => exact Iff.rfl
    | update s => exact Iff.rfl
    | delete guid => exact Iff.rfl
    | assign setId assignedSpecIndex =>
      simp only [AssignsLiveSet, LiveSetFirst]
      cases hfound : c.setWithId setId with
      | none =>
        have hsame : (c.assignSetToSpec setId assignedSpecIndex).1 = c := by
          simp only [PlayerEquipmentSets.assignSetToSpec, hfound]
        rw [hsame]
        refine iff_of_true ⟨fun guid s s' hs hdeleted hs' => ?_, ?_⟩ ?_
        · rw [hs] at hs'
          cases hs'
          rw [hdeleted]
          decide
        · rintro ⟨guid, s, hs, hmatch, _⟩
          exact absurd hmatch (not_matches_of_setWithId hfound hs)
        · intro guid s hs hmatch
          exact absurd hmatch (not_matches_of_setWithId hfound hs)
      | some s =>
        have hset := setWithId_spec hfound
        obtain ⟨hmatch, hfirst⟩ := setWithId_first hfound
        have hafter := @set_assignSetToSpec c setId s assignedSpecIndex hfound
        by_cases hdeleted : s.state = deleted
        · -- The tombstone itself is found, and comes back as a changed set.
          refine iff_of_false (fun h => ?_) (fun h => ?_)
          · refine h.tombstones s.guid s _ hset hdeleted ((hafter s.guid).trans (if_pos rfl)) ?_
            simp [hdeleted]
          · obtain ⟨guid', hlt, s', hs', hmatch', _⟩ := h s.guid s hset hmatch hdeleted
            have := hfirst guid' s' hs' hmatch'
            omega
        · refine iff_of_true ⟨fun guid t t' ht htomb ht' => ?_, fun _ => ?_⟩ ?_
          · rw [hafter] at ht'
            split at ht'
            · rename_i hguid
              rw [hguid, hset] at ht
              cases ht
              exact absurd htomb hdeleted
            · rw [ht] at ht'
              cases ht'
              rw [htomb]
              decide
          · refine ⟨s.guid, s, _, hset, hmatch, hdeleted,
              (hafter s.guid).trans (if_pos rfl), rfl, fun guid' hne => ?_⟩
            rw [hafter, if_neg hne]
          · intro guid t ht hmatch' htomb
            refine ⟨s.guid, lt_of_le_of_ne (hfirst guid t ht hmatch') ?_, s, hset, hmatch,
              hdeleted⟩
            intro hguid
            rw [hguid] at hset
            rw [hset] at ht
            cases ht
            exact hdeleted htomb

/-- In a run, the assignments leave the deleted sets deleted exactly when each of them finds a
set that is not deleted before any tombstone. -/
theorem assignments_keep_tombstones_iff (c : PlayerEquipmentSets) (ops : List EquipmentSetOp) :
    EachStep EquipmentSetOp.apply AssignsLiveSet c ops ↔
      EachStep EquipmentSetOp.apply LiveSetFirst c ops :=
  EachStep.iff_of_invariant (fun _ => True) (fun c op _ => assignsLiveSet_iff c op)
    (fun _ _ _ _ => trivial) trivial ops

/-- A set of index 3 is created, saved and deleted, and then its index is assigned. -/
def revivedSetOps : List EquipmentSetOp :=
  let s : EquipmentSet := { EquipmentSet.ofEquipment 3 (-1) new with guid := 1 }
  [.edit (.create s), .acknowledge (KeyedMap.empty.insert s), .edit (.delete 1),
    .edit (.assign 3 2)]

/-- The set was deleted before the assignment, and is a changed set after it. -/
theorem assignment_revives_tombstone :
    let c : PlayerEquipmentSets := ⟨KeyedMap.empty, true⟩
    ((run EquipmentSetOp.apply c (revivedSetOps.take 3)).set 1).map (·.state) = some deleted ∧
      ((run EquipmentSetOp.apply c revivedSetOps).set 1).map (·.state) = some changed ∧
      ¬ EachStep EquipmentSetOp.apply AssignsLiveSet c revivedSetOps := by
  intro c
  have hbefore : ((run EquipmentSetOp.apply c (revivedSetOps.take 3)).set 1).map (·.state) =
      some deleted := by rfl
  have hafter : ((run EquipmentSetOp.apply c revivedSetOps).set 1).map (·.state) =
      some changed := by rfl
  refine ⟨hbefore, hafter, fun h => ?_⟩
  obtain ⟨s, hs, hdeleted⟩ := Option.map_eq_some_iff.mp hbefore
  obtain ⟨s', hs', hchanged⟩ := Option.map_eq_some_iff.mp hafter
  exact h.2.2.2.1.tombstones 1 s s' hs hdeleted hs' hchanged

end RustyCore.Player
