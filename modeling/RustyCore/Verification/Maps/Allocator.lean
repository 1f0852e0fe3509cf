import RustyCore.Model.Maps.MapManager

/-! # The instance id allocator as a set

The bit vector stands for the set of its used ids. Only the ids other than zero matter:
bit zero is cleared whenever the vector grows. -/

namespace RustyCore.Maps.InstanceIdAllocator

variable (ids : InstanceIdAllocator)

def Used (i : ℕ) : Prop := ids.freeInstanceIds[i]? = some false

instance : DecidablePred ids.Used := fun i =>
  inferInstanceAs (Decidable (ids.freeInstanceIds[i]? = some false))

theorem used_ensureLen (len i : ℕ) (hi : i ≠ 0) : (ids.ensureLen len).Used i ↔ ids.Used i := by
  simp only [Used, ensureLen]
  split_ifs with hlen
  · rw [List.getElem?_set_ne (Ne.symm hi)]
    by_cases hold : i < ids.freeInstanceIds.length
    · rw [List.getElem?_append_left hold]
    · rw [List.getElem?_append_right (by omega), List.getElem?_replicate,
        List.getElem?_eq_none (by omega)]
      split_ifs <;> simp
  · rfl

theorem lt_length_ensureLen (i : ℕ) :
    i < (ids.ensureLen (i + 1)).freeInstanceIds.length := by
  simp only [ensureLen]
  split_ifs with hlen
  · simp only [List.length_set, List.length_append, List.length_replicate]
    omega
  · omega

theorem used_mark_false {i : ℕ} (hlen : i < ids.freeInstanceIds.length) (j : ℕ) :
    (ids.mark i false).Used j ↔ j = i ∨ ids.Used j := by
  simp only [Used, mark]
  by_cases hj : j = i
  · subst hj
    simp [hlen]
  · rw [List.getElem?_set_ne (Ne.symm hj)]
    simp [hj]

theorem used_mark_true (i j : ℕ) : (ids.mark i true).Used j ↔ j ≠ i ∧ ids.Used j := by
  simp only [Used, mark]
  by_cases hj : j = i
  · subst hj
    rw [List.getElem?_set_self']
    simp
  · rw [List.getElem?_set_ne (Ne.symm hj)]
    simp [hj]

/-! ## Operations -/

theorem used_register (i j : ℕ) (hj : j ≠ 0) :
    (ids.registerInstanceId i).Used j ↔ j = i ∨ ids.Used j := by
  have hmarked : ((ids.ensureLen (i + 1)).mark i false).Used j ↔ j = i ∨ ids.Used j := by
    rw [used_mark_false _ (ids.lt_length_ensureLen i), ids.used_ensureLen _ _ hj]
  simp only [registerInstanceId]
  split_ifs <;> exact hmarked

@[simp] theorem ensureLen_next (len : ℕ) :
    (ids.ensureLen len).nextInstanceId = ids.nextInstanceId := by
  simp only [ensureLen]
  split_ifs <;> rfl

theorem register_next (i : ℕ) :
    (ids.registerInstanceId i).nextInstanceId =
      if ids.nextInstanceId = i then wrappingAdd 32 ids.nextInstanceId 1
      else ids.nextInstanceId := by
  simp only [registerInstanceId, mark, ensureLen_next]
  split_ifs <;> simp

theorem used_free (i j : ℕ) (hj : j ≠ 0) :
    (ids.freeInstanceId i).Used j ↔ j ≠ i ∧ ids.Used j := by
  have hmarked : ((ids.ensureLen (i + 1)).mark i true).Used j ↔ j ≠ i ∧ ids.Used j := by
    rw [used_mark_true, ids.used_ensureLen _ _ hj]
  exact hmarked

theorem free_next (i : ℕ) :
    (ids.freeInstanceId i).nextInstanceId = min ids.nextInstanceId i := by
  simp [freeInstanceId]

theorem used_init (maxExistingInstanceId j : ℕ) (hj : j ≠ 0) :
    ¬(initInstanceIds maxExistingInstanceId).Used j := by
  simp only [Used, initInstanceIds]
  rw [List.getElem?_set_ne (Ne.symm hj), List.getElem?_replicate]
  split_ifs <;> simp

theorem firstFree_eq_some {start n : ℕ} (h : ids.firstFree start = some n) :
    ¬ids.Used n ∧ ∀ m, start ≤ m → m < n → ids.Used m := by
  obtain ⟨i, hi, rfl⟩ := Option.map_eq_some_iff.mp h
  obtain ⟨hlt, htrue, hbefore⟩ := List.findIdx?_eq_some_iff_getElem.mp hi
  have hget : ∀ (k : ℕ) (hk : k < (ids.freeInstanceIds.drop start).length),
      ids.freeInstanceIds[k + start]? = some (ids.freeInstanceIds.drop start)[k] := by
    intro k hk
    rw [← List.getElem?_eq_getElem hk, List.getElem?_drop, Nat.add_comm]
  constructor
  · rw [Used, hget i hlt]
    simpa using htrue
  · intro m hm hmi
    have hfalse := hbefore (m - start) (by omega)
    have hused := hget (m - start) (by omega)
    rw [Nat.sub_add_cancel hm] at hused
    rw [Used, hused]
    simpa using hfalse

theorem firstFree_eq_none {start : ℕ} (h : ids.firstFree start = none) {n : ℕ} (hn : start ≤ n)
    (hlen : n < ids.freeInstanceIds.length) : ids.Used n := by
  have hnone := List.findIdx?_eq_none_iff.mp (Option.map_eq_none_iff.mp h)
  have hmem : ids.freeInstanceIds[n] ∈ ids.freeInstanceIds.drop start :=
    List.mem_drop_iff_getElem.mpr ⟨n - start, by omega, by simp [Nat.add_sub_cancel' hn]⟩
  have hfalse := hnone _ hmem
  rw [Used, List.getElem?_eq_getElem hlen]
  simpa using hfalse

theorem generate_eq_some {i : ℕ} {ids' : InstanceIdAllocator}
    (h : ids.generateInstanceId = (some i, ids')) (hnext : ids.nextInstanceId < 2 ^ 32)
    (hhigh : ∀ j, 2 ^ 32 ≤ j → ¬ids.Used j) :
    i = ids.nextInstanceId ∧ (∀ j, j ≠ 0 → (ids'.Used j ↔ j = i ∨ ids.Used j)) ∧
      ids'.nextInstanceId < 2 ^ 32 ∧ (ids'.nextInstanceId = 0 ∨ ¬ids'.Used ids'.nextInstanceId) := by
  simp only [generateInstanceId] at h
  rw [if_neg fun hlast => by rw [if_pos hlast] at h; cases (Prod.mk.inj h).1] at h
  set marked := (ids.ensureLen (ids.nextInstanceId + 1)).mark ids.nextInstanceId false with hmarked
  have hused : ∀ j, j ≠ 0 → (marked.Used j ↔ j = ids.nextInstanceId ∨ ids.Used j) := by
    intro j hj
    rw [hmarked, used_mark_false _ (ids.lt_length_ensureLen _), ids.used_ensureLen _ _ hj]
  have hfree : ¬marked.Used (2 ^ 32) := by
    rw [hused _ (by omega)]
    rintro (heq | hhigher)
    · omega
    · exact hhigh _ le_rfl hhigher
  have hstart : saturatingAdd 32 ids.nextInstanceId 1 ≤ 2 ^ 32 := by
    simp only [saturatingAdd]
    omega
  cases hfirst : marked.firstFree (saturatingAdd 32 ids.nextInstanceId 1) with
  | some next =>
    rw [hfirst] at h
    obtain ⟨hi, rfl⟩ := Prod.mk.inj h
    obtain rfl := Option.some.inj hi
    obtain ⟨hnot, hbefore⟩ := marked.firstFree_eq_some hfirst
    refine ⟨rfl, hused, Nat.mod_lt _ (by omega), ?_⟩
    rcases Nat.lt_trichotomy next (2 ^ 32) with hlt | heq | hgt
    · right
      simp only [Nat.mod_eq_of_lt hlt]
      exact hnot
    · left
      simp only [heq, Nat.mod_self]
    · exact absurd (hbefore _ hstart hgt) hfree
  | none =>
    rw [hfirst] at h
    obtain ⟨hi, rfl⟩ := Prod.mk.inj h
    obtain rfl := Option.some.inj hi
    have hpushed : ∀ j, (marked.freeInstanceIds ++ [true])[j]? = some false ↔
        marked.Used j := by
      intro j
      by_cases hlt : j < marked.freeInstanceIds.length
      · rw [List.getElem?_append_left hlt, Used]
      · have hout : marked.freeInstanceIds[j]? = none := List.getElem?_eq_none (by omega)
        rw [List.getElem?_append_right (by omega), Used, hout]
        cases j - marked.freeInstanceIds.length <;> simp
    refine ⟨rfl, fun j hj => (hpushed j).trans (hused j hj), Nat.mod_lt _ (by omega), ?_⟩
    rcases Nat.lt_trichotomy marked.freeInstanceIds.length (2 ^ 32) with hlt | heq | hgt
    · right
      simp only [Nat.mod_eq_of_lt hlt]
      intro hlen
      have hout := (hpushed marked.freeInstanceIds.length).mp hlen
      rw [Used, List.getElem?_eq_none le_rfl] at hout
      cases hout
    · left
      simp only [heq, Nat.mod_self]
    · exact absurd (marked.firstFree_eq_none hfirst hstart hgt) hfree

theorem generate_eq_none {ids' : InstanceIdAllocator}
    (h : ids.generateInstanceId = (none, ids')) : ids' = ids := by
  simp only [generateInstanceId] at h
  split_ifs at h
  · exact (Prod.mk.inj h).2.symm
  · split at h <;> cases (Prod.mk.inj h).1

end RustyCore.Maps.InstanceIdAllocator
