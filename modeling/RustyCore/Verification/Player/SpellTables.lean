import RustyCore.Verification.Player.SpellRows

/-! # Spell saves on the tables

What the steps of one row do to `character_spell`, and from it what the whole save does. -/

namespace RustyCore.Player

open SpellLoadState

/-- An `INSERT` is of a missing key. -/
def SpellTables.Fits (t : SpellTables) : SpellSaveStep → Prop
  | .insertSpell spellId _ _ => t.characterSpell.lookup spellId = none
  | .insertFavoriteSpell spellId => t.favorites.lookup spellId = none
  | .deleteSpell _ => True
  | .deleteFavoriteSpell _ => True

def SpellTables.spell (t : SpellTables) (spellId : ℤ) : Option StoredSpell :=
  t.characterSpell.lookup spellId

/-- What statements on the row of one spell do. -/
abbrev SpellSpec := RowSpec SpellTables.spell SpellTables.execute SpellTables.Fits

theorem deleteSpell_spec (t : SpellTables) (spellId : ℤ) :
    ∃ t', SpellSpec t [.deleteSpell spellId] spellId none t' := by
  refine ⟨{ t with characterSpell := AList.erase spellId t.characterSpell },
    ⟨trivial, _, rfl, trivial⟩, rfl, AList.lookup_erase spellId t.characterSpell, ?_⟩
  intro other hne
  simp only [SpellTables.spell, Dict.lookup_erase_eq, if_neg hne]

theorem insertSpell_spec {t : SpellTables} {spellId : ℤ} (h : t.spell spellId = none)
    (active disabled : Bool) :
    ∃ t', SpellSpec t [.insertSpell spellId active disabled] spellId (some (active, disabled)) t' := by
  let t' : SpellTables :=
    { t with characterSpell := AList.insert spellId (active, disabled) t.characterSpell }
  have hexecute : t.execute (.insertSpell spellId active disabled) = some t' := by
    rw [SpellTables.execute, Dict.insertRow_of_lookup_eq_none h]
    rfl
  refine ⟨t', ⟨h, _, hexecute, trivial⟩, ?_, ?_, ?_⟩
  · rw [transaction_cons, hexecute]
    rfl
  · simp only [t', SpellTables.spell, Dict.lookup_insert_eq, if_true]
  · intro other hne
    simp only [t', SpellTables.spell, Dict.lookup_insert_eq, if_neg hne]

theorem favorite_spec (t : SpellTables) (spellId : ℤ) (favorite : Bool) :
    ∃ t', SpellSpec t (.deleteFavoriteSpell spellId ::
      (if favorite then [.insertFavoriteSpell spellId] else [])) spellId (t.spell spellId) t' := by
  let t₁ : SpellTables := { t with favorites := AList.erase spellId t.favorites }
  cases favorite with
  | false => exact ⟨t₁, ⟨trivial, _, rfl, trivial⟩, rfl, rfl, fun _ _ => rfl⟩
  | true =>
    have hnone : t₁.favorites.lookup spellId = none := AList.lookup_erase spellId t.favorites
    let t₂ : SpellTables := { t₁ with favorites := AList.insert spellId () t₁.favorites }
    have hexecute : t₁.execute (.insertFavoriteSpell spellId) = some t₂ := by
      rw [SpellTables.execute, Dict.insertRow_of_lookup_eq_none hnone]
      rfl
    refine ⟨t₂, ⟨trivial, t₁, rfl, hnone, t₂, hexecute, trivial⟩, ?_, rfl, fun _ _ => rfl⟩
    have hdelete : t.execute (.deleteFavoriteSpell spellId) = some t₁ := rfl
    rw [if_pos rfl, transaction_cons, hdelete, Option.bind_some, transaction_cons, hexecute]
    rfl

theorem insert_spec {t : SpellTables} {spell : KnownSpellRecord} (h : t.spell spell.spellId = none) :
    ∃ t', SpellSpec t
      ((if spell.dependent then [] else [.insertSpell spell.spellId spell.active spell.disabled]) ++
        .deleteFavoriteSpell spell.spellId ::
          (if spell.favorite then [.insertFavoriteSpell spell.spellId] else [])) spell.spellId
      (if spell.dependent then none else some (spell.active, spell.disabled)) t' := by
  cases hdependent : spell.dependent with
  | true =>
    obtain ⟨t', ht'⟩ := favorite_spec t spell.spellId spell.favorite
    rw [h] at ht'
    exact ⟨t', ht'⟩
  | false =>
    obtain ⟨t', ht'⟩ := insertSpell_spec h spell.active spell.disabled
    obtain ⟨t'', ht''⟩ := favorite_spec t' spell.spellId spell.favorite
    rw [ht'.written] at ht''
    exact ⟨t'', ht'.append ht''⟩

/-! ## One row -/

/-- The row of the table after the save of `spell`. -/
def writtenSpell (spell : KnownSpellRecord) (stored : Option StoredSpell) : Option StoredSpell :=
  match spell.state with
  | unchanged | temporary => stored
  | removed => none
  | new | changed => if spell.dependent then none else some (spell.active, spell.disabled)

/-- A new row has no row in the table. -/
def SpellReady (spell : KnownSpellRecord) (stored : Option StoredSpell) : Prop :=
  spell.state = new → stored = none

theorem spell_block_spec (t : SpellTables) (spell : KnownSpellRecord)
    (h : SpellReady spell (t.spell spell.spellId)) :
    ∃ t', SpellSpec t (spellSaveSteps spell) spell.spellId
      (writtenSpell spell (t.spell spell.spellId)) t' := by
  cases hstate : spell.state with
  | unchanged =>
    simp only [spellSaveSteps, writtenSpell, hstate]
    exact ⟨t, .nil _ _ _ t _⟩
  | temporary =>
    simp only [spellSaveSteps, writtenSpell, hstate]
    exact ⟨t, .nil _ _ _ t _⟩
  | removed =>
    simp only [spellSaveSteps, writtenSpell, hstate]
    exact deleteSpell_spec t spell.spellId
  | new =>
    simp only [spellSaveSteps, writtenSpell, hstate]
    exact insert_spec (h hstate)
  | changed =>
    simp only [spellSaveSteps, writtenSpell, hstate]
    obtain ⟨t', ht'⟩ := deleteSpell_spec t spell.spellId
    obtain ⟨t'', ht''⟩ := insert_spec ht'.written
    exact ⟨t'', ht'.append ht''⟩

/-! ## The whole save -/

/-- The row of a spell after the save of the row that is kept under its id. -/
def writtenSpellAt (saved : Option KnownSpellRecord) (stored : Option StoredSpell) :
    Option StoredSpell :=
  match saved with
  | none => stored
  | some spell => writtenSpell spell stored

theorem spell_save_spec {runtime : SpellRuntimeState} {t : SpellTables}
    (hcomplete : runtime.complete = true)
    (hagrees : ∀ spellId, SpellAgrees (runtime.rows.get spellId) (t.spell spellId)) :
    AllFit SpellTables.execute SpellTables.Fits t runtime.savePlan ∧
    ∃ t', runtime.save t = some t' ∧
      ∀ spellId, t'.spell spellId = writtenSpellAt (runtime.rows.get spellId) (t.spell spellId) := by
  have hperm := List.mergeSort_perm runtime.rows.values
    (fun row row' => decide (row.spellId ≤ row'.spellId))
  generalize hsorted : runtime.rows.values.mergeSort
    (fun row row' => decide (row.spellId ≤ row'.spellId)) = sorted at hperm
  have hplan : runtime.savePlan = sorted.flatMap spellSaveSteps := by
    rw [SpellRuntimeState.savePlan, if_pos hcomplete, hsorted]
  have hmem : ∀ row ∈ sorted, runtime.rows.get row.spellId = some row := by
    intro row hrow
    exact KeyedMap.mem_values.mp (hperm.mem_iff.mp hrow)
  have hkeys : (sorted.map KnownSpellRecord.spellId).Nodup :=
    (hperm.map _).nodup_iff.mpr runtime.rows.nodup_keys
  have hready : ∀ row ∈ sorted, SpellReady row (t.spell row.spellId) := by
    intro row hrow hnew
    have hrowAgrees := hagrees row.spellId
    rw [hmem row hrow] at hrowAgrees
    exact (agrees_new_iff hnew).mp hrowAgrees
  obtain ⟨t', ht'⟩ := transaction_blocks spell_block_spec hkeys t hready
  rw [SpellRuntimeState.save, hplan]
  refine ⟨ht'.allFit, t', ht'.commits, ?_⟩
  intro spellId
  cases hget : runtime.rows.get spellId with
  | none =>
    refine ht'.others spellId fun hin => ?_
    obtain ⟨row, hrow, rfl⟩ := List.mem_map.mp hin
    rw [hmem row hrow] at hget
    cases hget
  | some row =>
    have hkey : row.spellId = spellId := KeyedMap.key_of_get hget
    subst hkey
    exact ht'.written row (hperm.mem_iff.mpr (KeyedMap.mem_values.mpr hget))

end RustyCore.Player
