import RustyCore.Library.Run
import RustyCore.Model.Spawns.SpawnStore

/-! # Spawn groups

The groups of the spawns, the member index and the maps of the templates agree after any
list of rows. A row is either refused, with no effect but on the report, or assigns its
spawn. -/

namespace RustyCore.Spawns

open Pools (SpawnObjectType)

theorem lookup_insertIndexed {ν : Type} [DecidableEq ν] (index : Dict ℕ (Finset ν)) (key k : ℕ)
    (value v : ν) : v ∈ ((insertIndexed index key value).lookup k).getD ∅ ↔
      v ∈ (index.lookup k).getD ∅ ∨ k = key ∧ v = value := by
  rw [insertIndexed, Dict.lookup_insert_eq]
  by_cases hk : k = key
  · subst hk
    simp [or_comm]
  · simp [hk]

def SpawnStore.IsMember (store : SpawnStore) (groupId : ℕ) (member : SpawnGroupMember) : Prop :=
  member ∈ (store.groupMembers groupId).getD ∅

def SpawnStore.IsListed (store : SpawnStore) (mapId groupId : ℕ) : Prop :=
  groupId ∈ (store.spawnGroupIdsByMap mapId).getD ∅

/-- No spawn has a group yet and none lies on the unset map; every template is kept under its
own id, and none under the default one. -/
structure Loaded (store : SpawnStore) (templates : SpawnGroupTemplates) : Prop where
  unassigned : ∀ member spawn, store.spawns.lookup member = some spawn →
    spawn.spawnGroup.groupId = 0
  onMap : ∀ member spawn, store.spawns.lookup member = some spawn →
    spawn.mapId ≠ spawnGroupMapUnset
  noMembers : ∀ groupId member, ¬ store.IsMember groupId member
  keyed : ∀ groupId template, templates.lookup groupId = some template →
    template.groupId = groupId
  noDefault : templates.lookup 0 = none

/-- The spawns, the templates and the indexes agree. `templates₀` are the templates before
the first row. -/
structure Consistent (templates₀ : SpawnGroupTemplates) (state : ApplyState) : Prop where
  onMap : ∀ member spawn, state.store.spawns.lookup member = some spawn →
    spawn.mapId ≠ spawnGroupMapUnset
  keyed : ∀ groupId template, state.templates.lookup groupId = some template →
    template.groupId = groupId
  noDefault : state.templates.lookup 0 = none
  grouped : ∀ member spawn, state.store.spawns.lookup member = some spawn →
    spawn.spawnGroup.groupId ≠ 0 → ∃ template,
      state.templates.lookup spawn.spawnGroup.groupId = some template ∧
      template.mapId ≠ spawnGroupMapUnset ∧
      (template.isSystem = false → spawn.mapId = template.mapId)
  members : ∀ groupId member, state.store.IsMember groupId member ↔ ∃ spawn template,
    state.store.spawns.lookup member = some spawn ∧ spawn.spawnGroup.groupId = groupId ∧
    state.templates.lookup groupId = some template ∧ template.isSystem = false
  listed : ∀ groupId template₀ template, templates₀.lookup groupId = some template₀ →
    template₀.mapId = spawnGroupMapUnset → state.templates.lookup groupId = some template →
    template.mapId ≠ spawnGroupMapUnset → state.store.IsListed template.mapId groupId

theorem Loaded.consistent {store : SpawnStore} {templates : SpawnGroupTemplates}
    (h : Loaded store templates) : Consistent templates ⟨store, templates, .default⟩ := by
  refine ⟨h.onMap, h.keyed, h.noDefault, ?_, ?_, ?_⟩
  · intro member spawn hspawn hgroup
    exact absurd (h.unassigned member spawn hspawn) hgroup
  · intro groupId member
    refine iff_of_false (h.noMembers groupId member) ?_
    rintro ⟨spawn, template, hspawn, rfl, htemplate, -⟩
    rw [h.unassigned member spawn hspawn, h.noDefault] at htemplate
    cases htemplate
  · intro groupId template₀ template h₀ hunset htemplate hset
    rw [h₀] at htemplate
    cases htemplate
    exact absurd hunset hset

namespace Consistent

variable {templates₀ : SpawnGroupTemplates} {state : ApplyState} (h : Consistent templates₀ state)
  {row : SpawnGroupMemberRow} {objectType : SpawnObjectType} {spawn : SpawnData}
  {template : SpawnGroupTemplateData}
include h

theorem setMap {groupId mapId : ℕ}
    (htemplate : state.templates.lookup groupId = some template)
    (hunset : template.mapId = spawnGroupMapUnset) :
    Consistent templates₀ (state.setMap groupId mapId template) := by
  have hlookup : ∀ g, (state.setMap groupId mapId template).templates.lookup g =
      if g = groupId then some { template with mapId := mapId } else state.templates.lookup g :=
    fun g => Dict.lookup_insert_eq _ _ _ _
  refine ⟨h.onMap, ?_, ?_, ?_, ?_, ?_⟩
  · intro g t ht
    rw [hlookup] at ht
    split at ht
    · cases ht
      rw [h.keyed groupId template htemplate]
      exact Eq.symm ‹_›
    · exact h.keyed g t ht
  · rw [hlookup, if_neg, h.noDefault]
    rintro rfl
    rw [h.noDefault] at htemplate
    cases htemplate
  · intro member s hs hgroup
    obtain ⟨t, ht, hset, hsame⟩ := h.grouped member s hs hgroup
    refine ⟨t, ?_, hset, hsame⟩
    rw [hlookup, if_neg, ht]
    rintro rfl
    rw [htemplate] at ht
    cases ht
    exact hset hunset
  · intro g member
    change state.store.IsMember g member ↔ _
    rw [h.members]
    refine exists_congr fun s => ?_
    by_cases hg : g = groupId
    · subst hg
      simp only [hlookup, if_true, htemplate, Option.some.injEq]
      constructor
      · rintro ⟨t, hs, hgroup, rfl, hsystem⟩
        exact ⟨_, hs, hgroup, rfl, hsystem⟩
      · rintro ⟨t, hs, hgroup, rfl, hsystem⟩
        exact ⟨_, hs, hgroup, rfl, hsystem⟩
    · simp only [hlookup, if_neg hg]
      rfl
  · intro g t₀ t h₀ hunset₀ ht hset
    rw [hlookup] at ht
    refine (lookup_insertIndexed _ _ _ _ _).mpr ?_
    split at ht
    · rename_i hg
      cases ht
      exact .inr ⟨rfl, hg⟩
    · exact .inl (h.listed g t₀ t h₀ hunset₀ ht hset)

theorem assign (hspawn : state.store.spawns.lookup (objectType, row.spawnId) = some spawn)
    (hgroup : spawn.spawnGroup.groupId = 0)
    (htemplate : state.templates.lookup row.groupId = some template)
    (hset : template.mapId ≠ spawnGroupMapUnset)
    (hmap : template.isSystem = false → spawn.mapId = template.mapId) :
    Consistent templates₀ (state.assign row objectType spawn template) := by
  have hlookup : ∀ m, (state.assign row objectType spawn template).store.spawns.lookup m =
      if m = (objectType, row.spawnId) then some { spawn with spawnGroup := template }
      else state.store.spawns.lookup m := fun m => Dict.lookup_insert_eq _ _ _ _
  have hkeyed := h.keyed row.groupId template htemplate
  refine ⟨?_, h.keyed, h.noDefault, ?_, ?_, h.listed⟩
  · intro m s hs
    rw [hlookup] at hs
    split at hs
    · cases hs
      exact h.onMap _ spawn hspawn
    · exact h.onMap m s hs
  · intro m s hs hne
    rw [hlookup] at hs
    split at hs
    · cases hs
      refine ⟨template, ?_, hset, hmap⟩
      rw [hkeyed]
      exact htemplate
    · exact h.grouped m s hs hne
  · intro g m
    -- The row's spawn was a member of no group before.
    have hfree : ¬ state.store.IsMember g (objectType, row.spawnId) := by
      rw [h.members]
      rintro ⟨s, t, hs, rfl, ht, -⟩
      rw [hspawn] at hs
      cases hs
      rw [hgroup, h.noDefault] at ht
      cases ht
    have hmember : (state.assign row objectType spawn template).store.IsMember g m ↔
        state.store.IsMember g m ∨
          template.isSystem = false ∧ g = row.groupId ∧ m = (objectType, row.spawnId) := by
      simp only [SpawnStore.IsMember, SpawnStore.groupMembers, ApplyState.assign]
      cases template.isSystem with
      | true => simp
      | false => simpa using lookup_insertIndexed _ _ _ _ _
    rw [hmember]
    by_cases hm : m = (objectType, row.spawnId)
    · subst hm
      simp only [hlookup, if_true, Option.some.injEq]
      constructor
      · rintro (hold | ⟨hsystem, rfl, -⟩)
        · exact absurd hold hfree
        · exact ⟨_, template, rfl, hkeyed, htemplate, hsystem⟩
      · rintro ⟨s, t, rfl, hg, ht, hsystem⟩
        have hsame : g = row.groupId := hg.symm.trans hkeyed
        subst hsame
        change state.templates.lookup row.groupId = some t at ht
        rw [htemplate] at ht
        cases ht
        exact .inr ⟨hsystem, rfl, trivial⟩
    · simp only [hlookup, if_neg hm]
      rw [h.members]
      exact ⟨fun hold => hold.resolve_right fun hnew => hm hnew.2.2, .inl⟩

end Consistent

/-! ## Rows -/

theorem applyRow_cases (state : ApplyState) (row : SpawnGroupMemberRow) :
    (∃ kind existing groupMap spawnMap,
      state.applyRow row = state.reject row kind existing groupMap spawnMap) ∨
    ∃ objectType spawn template,
      state.store.spawns.lookup (objectType, row.spawnId) = some spawn ∧
      spawn.spawnGroup.groupId = 0 ∧ state.templates.lookup row.groupId = some template ∧
      (template.mapId = spawnGroupMapUnset ∧ state.applyRow row =
          (state.setMap row.groupId spawn.mapId template).assign row objectType spawn
            { template with mapId := spawn.mapId } ∨
        template.mapId ≠ spawnGroupMapUnset ∧
          (template.isSystem = false → spawn.mapId = template.mapId) ∧
          state.applyRow row = state.assign row objectType spawn template) := by
  rw [ApplyState.applyRow]
  cases htype : spawnTypeFromRaw row.spawnType with
  | none => exact .inl ⟨_, _, _, _, rfl⟩
  | some objectType =>
    simp only
    cases hspawn : state.store.spawns.lookup (objectType, row.spawnId) with
    | none => exact .inl ⟨_, _, _, _, rfl⟩
    | some spawn =>
      simp only
      by_cases hgroup : spawn.spawnGroup.groupId = 0
      · rw [if_neg (not_not.mpr hgroup)]
        cases htemplate : state.templates.lookup row.groupId with
        | none => exact .inl ⟨_, _, _, _, rfl⟩
        | some template =>
          simp only
          by_cases hunset : template.mapId = spawnGroupMapUnset
          · rw [if_pos hunset]
            exact .inr ⟨objectType, spawn, template, hspawn, hgroup, rfl,
              .inl ⟨hunset, rfl⟩⟩
          · rw [if_neg hunset]
            by_cases hmismatch : template.mapId ≠ spawn.mapId ∧ template.isSystem = false
            · rw [if_pos hmismatch]
              exact .inl ⟨_, _, _, _, rfl⟩
            · rw [if_neg hmismatch]
              refine .inr ⟨objectType, spawn, template, hspawn, hgroup, rfl,
                .inr ⟨hunset, fun hsystem => ?_, rfl⟩⟩
              exact Eq.symm (not_not.mp fun hne => hmismatch ⟨hne, hsystem⟩)
      · rw [if_pos hgroup]
        exact .inl ⟨_, _, _, _, rfl⟩

theorem Consistent.applyRow {templates₀ : SpawnGroupTemplates} {state : ApplyState}
    (h : Consistent templates₀ state) (row : SpawnGroupMemberRow) :
    Consistent templates₀ (state.applyRow row) := by
  obtain ⟨kind, existing, groupMap, spawnMap, heq⟩ |
    ⟨objectType, spawn, template, hspawn, hgroup, htemplate, hcase⟩ := applyRow_cases state row
  · rw [heq]
    exact ⟨h.onMap, h.keyed, h.noDefault, h.grouped, h.members, h.listed⟩
  · rcases hcase with ⟨hunset, heq⟩ | ⟨hset, hmap, heq⟩
    · rw [heq]
      have hspawnMap := h.onMap _ spawn hspawn
      refine (h.setMap htemplate hunset).assign hspawn hgroup ?_ hspawnMap fun _ => rfl
      exact (Dict.lookup_insert_eq _ _ _ _).trans (if_pos rfl)
    · rw [heq]
      exact h.assign hspawn hgroup htemplate hset hmap

theorem length_issues_push (report : SpawnGroupApplyReport) (issue : SpawnGroupApplyIssue) :
    (report.push issue).issues.length = report.issues.length + 1 ∧
      (report.push issue).assigned = report.assigned := by
  rw [SpawnGroupApplyReport.push]
  cases issue.kind <;> simp

/-- The report counts the row, and a row that is not assigned changes nothing else. -/
theorem applyRow_report (state : ApplyState) (row : SpawnGroupMemberRow) :
    (state.applyRow row).report.assigned + (state.applyRow row).report.issues.length =
      state.report.assigned + state.report.issues.length + 1 ∧
    ((state.applyRow row).report.assigned = state.report.assigned →
      (state.applyRow row).store = state.store ∧
      (state.applyRow row).templates = state.templates) := by
  obtain ⟨kind, existing, groupMap, spawnMap, heq⟩ |
    ⟨objectType, spawn, template, -, -, -, hcase⟩ := applyRow_cases state row
  · obtain ⟨hissues, hassigned⟩ := length_issues_push state.report
      ⟨kind, row.groupId, row.spawnType, row.spawnId, existing, groupMap, spawnMap⟩
    rw [heq]
    refine ⟨?_, fun _ => ⟨rfl, rfl⟩⟩
    rw [ApplyState.reject, hissues, hassigned, Nat.add_assoc]
  · have hcounted : (state.applyRow row).report =
        { state.report with assigned := state.report.assigned + 1 } := by
      rcases hcase with ⟨-, heq⟩ | ⟨-, -, heq⟩ <;> rw [heq] <;> rfl
    rw [hcounted]
    exact ⟨Nat.add_right_comm _ _ _, fun hsame => absurd hsame (Nat.succ_ne_self _)⟩

theorem assigned_add_issues (rows : List SpawnGroupMemberRow) (state : ApplyState) :
    (rows.foldl ApplyState.applyRow state).report.assigned +
      (rows.foldl ApplyState.applyRow state).report.issues.length =
    state.report.assigned + state.report.issues.length + rows.length := by
  induction rows generalizing state with
  | nil => rfl
  | cons row rows ih =>
    rw [List.foldl_cons, ih, (applyRow_report state row).1, List.length_cons]
    omega

/-- After all rows each spawn is in at most one group, the members of a group that is no system
group are the spawns that carry its id, they lie on its map, and a map that the pass has
resolved lists the group. A refused row changes nothing, and every row is counted once. -/
theorem spawn_groups_consistent (store : SpawnStore) (templates : SpawnGroupTemplates)
    (hloaded : Loaded store templates) (rows : List SpawnGroupMemberRow) :
    let final := store.applySpawnGroups templates rows
    (∀ member groupId groupId', final.store.IsMember groupId member →
      final.store.IsMember groupId' member → groupId = groupId') ∧
    (∀ groupId template, final.templates.lookup groupId = some template →
      template.isSystem = false → ∀ member, final.store.IsMember groupId member ↔
        ∃ spawn, final.store.spawns.lookup member = some spawn ∧
          spawn.spawnGroup.groupId = groupId) ∧
    (∀ member spawn, final.store.spawns.lookup member = some spawn →
      spawn.spawnGroup.groupId ≠ 0 → ∃ template,
        final.templates.lookup spawn.spawnGroup.groupId = some template ∧
        (template.isSystem = false → spawn.mapId = template.mapId ∧
          ∀ template₀, templates.lookup spawn.spawnGroup.groupId = some template₀ →
            template₀.mapId = spawnGroupMapUnset →
            final.store.IsListed template.mapId spawn.spawnGroup.groupId)) ∧
    (∀ before row after, rows = before ++ row :: after →
      let state := store.applySpawnGroups templates before
      (state.applyRow row).report.assigned = state.report.assigned →
        (state.applyRow row).store = state.store ∧
        (state.applyRow row).templates = state.templates) ∧
    final.report.assigned + final.report.issues.length = rows.length := by
  intro final
  have h : Consistent templates final :=
    run_invariant_of_all (Consistent templates) (fun _ row h => h.applyRow row)
      hloaded.consistent rows
  refine ⟨?_, ?_, ?_, fun before row _ _ => (applyRow_report _ row).2, ?_⟩
  · intro member groupId groupId' hmember hmember'
    obtain ⟨spawn, -, hspawn, rfl, -⟩ := (h.members groupId member).mp hmember
    obtain ⟨spawn', -, hspawn', rfl, -⟩ := (h.members groupId' member).mp hmember'
    rw [hspawn] at hspawn'
    cases hspawn'
    rfl
  · intro groupId template htemplate hsystem member
    rw [h.members]
    constructor
    · rintro ⟨spawn, -, hspawn, hgroup, -⟩
      exact ⟨spawn, hspawn, hgroup⟩
    · rintro ⟨spawn, hspawn, hgroup⟩
      exact ⟨spawn, template, hspawn, hgroup, htemplate, hsystem⟩
  · intro member spawn hspawn hgroup
    obtain ⟨template, htemplate, hset, hmap⟩ := h.grouped member spawn hspawn hgroup
    refine ⟨template, htemplate, fun hsystem => ⟨hmap hsystem, ?_⟩⟩
    exact fun template₀ h₀ hunset => h.listed _ template₀ template h₀ hunset htemplate hset
  · have hcount := assigned_add_issues rows ⟨store, templates, .default⟩
    rw [← Nat.zero_add rows.length]
    exact hcount

/-! ## Where the indexes say less -/

def ungrouped : SpawnGroupTemplateData := ⟨0, "Default Group", 0, SpawnGroupFlags.system⟩

/-- A store with the creatures 100 and 101 on the given maps. -/
def twoCreatures (mapId mapId' : ℕ) : SpawnStore where
  spawns := AList.insert (SpawnObjectType.creature, 101) ⟨mapId', ungrouped⟩
    (AList.insert (SpawnObjectType.creature, 100) ⟨mapId, ungrouped⟩ ∅)
  spawnGroupsByMap := ∅
  spawnGroupMembers := ∅

def oneTemplate (key groupId mapId : ℕ) : SpawnGroupTemplates :=
  AList.singleton key ⟨groupId, "Group", mapId, 0⟩

theorem loaded_twoCreatures : Loaded (twoCreatures 571 1) (oneTemplate 10 10 spawnGroupMapUnset) := by
  refine ⟨?_, ?_, ?_, ?_, rfl⟩
  · intro member spawn h
    simp only [twoCreatures, Dict.lookup_insert_eq] at h
    split_ifs at h <;> cases h <;> rfl
  · intro member spawn h
    simp only [twoCreatures, Dict.lookup_insert_eq] at h
    split_ifs at h <;> cases h <;> decide
  · intro groupId member h
    simp [SpawnStore.IsMember, SpawnStore.groupMembers, twoCreatures] at h
  · intro groupId template h
    simp only [oneTemplate, Dict.lookup_singleton_eq] at h
    split_ifs at h with hkey
    cases h
    exact hkey.symm

/-- The first creature fixes the map of the group, and the second one is refused. -/
theorem spawn_groups_consistent_sample :
    ((twoCreatures 571 1).applySpawnGroups (oneTemplate 10 10 spawnGroupMapUnset)
      [⟨10, 0, 100⟩, ⟨10, 0, 101⟩, ⟨10, 9, 100⟩]).report.assigned +
    ((twoCreatures 571 1).applySpawnGroups (oneTemplate 10 10 spawnGroupMapUnset)
      [⟨10, 0, 100⟩, ⟨10, 0, 101⟩, ⟨10, 9, 100⟩]).report.issues.length = 3 :=
  (spawn_groups_consistent _ _ loaded_twoCreatures _).2.2.2.2

/-- The member index is left from an earlier pass, while the spawn was loaded again. -/
def staleIndex : SpawnStore :=
  { twoCreatures 571 1 with spawnGroupMembers := AList.singleton 10 {(.creature, 100)} }

/-- A template that has its map already is not listed under it. Spawns on the unset map leave
the map of their group unset. A template under another key gives its spawns the group it
names itself. And a member that is left in the index stays there. -/
theorem spawn_groups_not_consistent :
    ¬ ((twoCreatures 571 1).applySpawnGroups (oneTemplate 10 10 571)
      [⟨10, 0, 100⟩]).store.IsListed 571 10 ∧
    (((twoCreatures spawnGroupMapUnset 1).applySpawnGroups (oneTemplate 10 10 spawnGroupMapUnset)
      [⟨10, 0, 100⟩, ⟨10, 0, 101⟩]).store.IsMember 10 (.creature, 100) ∧
    (((twoCreatures spawnGroupMapUnset 1).applySpawnGroups (oneTemplate 10 10 spawnGroupMapUnset)
      [⟨10, 0, 100⟩, ⟨10, 0, 101⟩]).store.spawns.lookup (.creature, 100)).map SpawnData.mapId =
        some spawnGroupMapUnset ∧
    (((twoCreatures spawnGroupMapUnset 1).applySpawnGroups (oneTemplate 10 10 spawnGroupMapUnset)
      [⟨10, 0, 100⟩, ⟨10, 0, 101⟩]).templates.lookup 10).map SpawnGroupTemplateData.mapId =
        some 1) ∧
    (((twoCreatures 571 1).applySpawnGroups (oneTemplate 10 20 571)
      [⟨10, 0, 100⟩]).store.IsMember 10 (.creature, 100) ∧
    (((twoCreatures 571 1).applySpawnGroups (oneTemplate 10 20 571)
      [⟨10, 0, 100⟩]).store.spawns.lookup (.creature, 100)).map
        (fun spawn => spawn.spawnGroup.groupId) = some 20) ∧
    ((staleIndex.applySpawnGroups (oneTemplate 10 10 571) []).store.IsMember 10 (.creature, 100) ∧
    ((staleIndex.applySpawnGroups (oneTemplate 10 10 571) []).store.spawns.lookup
      (.creature, 100)).map (fun spawn => spawn.spawnGroup.groupId) = some 0) := by
  refine ⟨?_, ⟨?_, rfl, rfl⟩, ⟨?_, rfl⟩, ?_, rfl⟩
  · intro h
    cases h
  · exact Finset.mem_insert_of_mem (Finset.mem_insert_self _ _)
  · exact Finset.mem_insert_self _ _
  · exact Finset.mem_singleton_self _

end RustyCore.Spawns
