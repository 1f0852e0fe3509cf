import RustyCore.Model.Migrations.Migrate

/-! # What a report says

A report without problems is a history that agrees with the manifest and leaves nothing
to apply. -/

namespace RustyCore.Migrations

variable {row : HistoryRow}

/-! ## The manifest -/

section Manifest

variable (manifest : MigrationManifest) (database : DatabaseKind)

theorem nodup_keys : ((manifest.migrationsFor database).map Migration.key).Nodup := by
  have hperm := (List.perm_insertionSort (fun m m' : Migration => m.key ≤ m'.key)
    (manifest.migrations.filter fun m => m.database = database)).map Migration.key
  refine hperm.nodup_iff.mpr ?_
  have hfiltered : ((manifest.migrations.filter fun m => m.database = database).map
      fun m => (m.database, m.key)).Nodup :=
    manifest.distinct.sublist (List.filter_sublist.map _)
  refine List.Nodup.map_on ?_ hfiltered.of_map
  intro m hm m' hm' hkey
  have hdatabase : m.database = m'.database := by
    rw [of_decide_eq_true (List.mem_filter.mp hm).2, of_decide_eq_true (List.mem_filter.mp hm').2]
  exact List.inj_on_of_nodup_map hfiltered hm hm' (Prod.ext hdatabase hkey)

theorem sorted_migrationsFor :
    (manifest.migrationsFor database).Pairwise fun m m' => m.key < m'.key := by
  have hsorted : (manifest.migrationsFor database).Pairwise fun m m' => m.key ≤ m'.key :=
    List.pairwise_insertionSort _ _
  have hne := List.pairwise_map.mp (nodup_keys manifest database)
  exact (hsorted.and hne).imp fun h => lt_of_le_of_ne h.1 h.2

theorem find?_migrationsFor {m : Migration} (hm : m ∈ manifest.migrationsFor database)
    {key : Key} (hkey : m.key = key) :
    (manifest.migrationsFor database).find? (fun m' => m'.key = key) = some m := by
  cases hfind : (manifest.migrationsFor database).find? fun m' => m'.key = key with
  | none => exact absurd hkey (by simpa using List.find?_eq_none.mp hfind m hm)
  | some m' =>
    have hkey' : m'.key = key := by simpa using List.find?_some hfind
    have hm' := List.mem_of_find?_eq_some hfind
    rw [List.inj_on_of_nodup_map (nodup_keys manifest database) hm' hm (hkey'.trans hkey.symm)]

end Manifest

@[simp] theorem mem_readHistory {rows : List HistoryRow} :
    row ∈ readHistory rows ↔ row ∈ rows := (List.perm_insertionSort _ _).mem_iff

/-! ## Problems -/

theorem isPendingProblem_append (start rest : String) :
    isPendingProblem (start ++ rest) =
      "pending migration".toList.isPrefixOf (start.toList ++ rest.toList) :=
  congrArg _ String.toList_append

@[simp] theorem isPendingProblem_absentProblem (row : HistoryRow) :
    isPendingProblem (absentProblem row) = false :=
  (isPendingProblem_append _ _).trans (by simp [List.isPrefixOf])

@[simp] theorem isPendingProblem_checksumProblem (row : HistoryRow) :
    isPendingProblem (checksumProblem row) = false :=
  (isPendingProblem_append _ _).trans (by simp [List.isPrefixOf])

@[simp] theorem isPendingProblem_incompleteProblem (row : HistoryRow) :
    isPendingProblem (incompleteProblem row) = false :=
  (isPendingProblem_append _ _).trans (by simp [List.isPrefixOf])

/-- Every row is of a finished migration of the manifest, with its checksum. -/
def Agrees (expected : List Migration) (rows : List HistoryRow) : Prop :=
  ∀ row ∈ rows, row.success = true ∧ ∃ m ∈ expected, m.key = row.key ∧ row.checksum = m.sha256

section Report

variable (manifest : MigrationManifest) (database : DatabaseKind)
variable {history : List HistoryRow}

theorem rowProblems_eq_nil_iff :
    rowProblems (manifest.migrationsFor database) row = [] ↔
      row.success = true ∧
        ∃ m ∈ manifest.migrationsFor database, m.key = row.key ∧ row.checksum = m.sha256 := by
  rw [rowProblems]
  constructor
  · intro h
    cases hfind : (manifest.migrationsFor database).find? fun m => m.key = row.key with
    | none => simp [hfind] at h
    | some m =>
      have hkey : m.key = row.key := by simpa using List.find?_some hfind
      simp only [hfind, List.append_eq_nil_iff, ite_eq_right_iff] at h
      refine ⟨?_, m, List.mem_of_find?_eq_some hfind, hkey, ?_⟩
      · by_contra hsuccess
        simp [hsuccess] at h
      · by_contra hchecksum
        simp [hchecksum] at h
  · rintro ⟨hsuccess, m, hm, hkey, hchecksum⟩
    rw [find?_migrationsFor manifest database hm hkey]
    simp [hsuccess, hchecksum]

theorem isPendingProblem_of_mem_rowProblems {problem : String}
    (h : problem ∈ rowProblems (manifest.migrationsFor database) row) :
    isPendingProblem problem = false := by
  rw [rowProblems] at h
  cases hfind : (manifest.migrationsFor database).find? fun m => m.key = row.key with
  | none =>
    simp only [hfind, List.mem_singleton] at h
    simp [h]
  | some m =>
    simp only [hfind, List.mem_append] at h
    rcases h with h | h
    · split at h
      · simp [List.mem_singleton.mp h]
      · cases h
    · split at h
      · cases h
      · simp [List.mem_singleton.mp h]

/-- The validation before the loop accepts the histories that agree with the manifest. -/
theorem agrees_of_no_immutable_problem
    (h : ((buildReport manifest database true true history []).problems.any
      fun problem => !isPendingProblem problem) = false) :
    Agrees (manifest.migrationsFor database) history := by
  intro row hrow
  refine (rowProblems_eq_nil_iff manifest database).mp ?_
  refine List.eq_nil_iff_forall_not_mem.mpr fun problem hproblem => ?_
  have hall := List.any_eq_false.mp h problem (by
    simp only [buildReport, List.mem_append, List.mem_flatMap]
    exact .inl (.inr ⟨row, hrow, hproblem⟩))
  exact hall (by simp [isPendingProblem_of_mem_rowProblems manifest database hproblem])

theorem pendingProblems_eq_nil {m : Migration}
    (hactive : m.state = .active → ∃ row ∈ history, row.key = m.key) :
    pendingProblems history [] m = [] := by
  rw [pendingProblems, if_neg]
  rintro ⟨hstatus, hstate⟩
  obtain ⟨row, hrow, hkey⟩ := hactive hstate
  rw [statusOf] at hstatus
  cases hfind : history.reverse.find? fun row => row.key = m.key with
  | none =>
    have hnone := List.find?_eq_none.mp hfind row (List.mem_reverse.mpr hrow)
    exact hnone (by simpa using hkey)
  | some row' =>
    simp only [hfind] at hstatus
    split at hstatus
    · cases hstatus
    · cases hstatus

theorem compatible_of_complete (baselineCompatible : Bool)
    (hagrees : Agrees (manifest.migrationsFor database) history)
    (hactive : ∀ m ∈ manifest.migrationsFor database, m.state = .active →
      ∃ row ∈ history, row.key = m.key) :
    (buildReport manifest database baselineCompatible true history []).compatible =
      baselineCompatible := by
  have hrows : history.flatMap (rowProblems (manifest.migrationsFor database)) = [] :=
    List.flatMap_eq_nil_iff.mpr fun row hrow =>
      (rowProblems_eq_nil_iff manifest database).mpr (hagrees row hrow)
  have hpending : (manifest.migrationsFor database).flatMap (pendingProblems history []) = [] :=
    List.flatMap_eq_nil_iff.mpr fun m hm => pendingProblems_eq_nil (hactive m hm)
  simp only [buildReport, hrows, hpending]
  cases baselineCompatible with
  | true => rfl
  | false => rfl

end Report

end RustyCore.Migrations
