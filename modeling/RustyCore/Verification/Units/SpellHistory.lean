import Mathlib.Data.Fintype.EquivFin
import RustyCore.Library.Run
import RustyCore.Model.Units.SpellHistory

/-! # Category cooldowns

A category is on cooldown as long as a cooldown of it runs if the index names, for each
category, a cooldown that outlasts the others of the category. -/

namespace RustyCore.Units

variable {h : SpellHistory} {cooldown a : SpellCooldown} {spellId nowMs : ℕ} {cooldownDeltaMs : ℤ}
  {rank : ℕ → ℕ}

/-- The cooldown keeps its category on cooldown at `nowMs`. -/
def SpellCooldown.Blocks (cooldown : SpellCooldown) (nowMs : ℕ) : Prop :=
  cooldown.onHold = true ∨ nowMs < cooldown.categoryEndMs

/-- The cooldown never keeps its category on cooldown. -/
def SpellCooldown.Idle (cooldown : SpellCooldown) : Prop :=
  cooldown.onHold = false ∧ cooldown.categoryEndMs = 0

/-- The cooldown keeps its category on cooldown whenever `other` does. -/
def SpellCooldown.Outlasts (cooldown other : SpellCooldown) : Prop :=
  cooldown.onHold = true ∨ (other.onHold = false ∧ other.categoryEndMs ≤ cooldown.categoryEndMs)

/-- What the index is for: a category is on cooldown as long as one of its cooldowns runs, and
the index names a stored cooldown of the category. -/
structure CategoriesHold (h : SpellHistory) : Prop where
  blocked : ∀ categoryId spellId cooldown nowMs, categoryId ≠ 0 →
    h.cooldowns.get spellId = some cooldown → cooldown.categoryId = categoryId →
    cooldown.Blocks nowMs → ∀ anySpellId, h.hasCooldown anySpellId categoryId nowMs = true
  named : ∀ categoryId spellId, h.categoryCooldowns.lookup categoryId = some spellId →
    ∃ cooldown, h.cooldowns.get spellId = some cooldown ∧ cooldown.categoryId = categoryId

/-- The index names a cooldown of each category that outlasts the others. -/
structure Led (h : SpellHistory) : Prop where
  named : ∀ categoryId spellId, h.categoryCooldowns.lookup categoryId = some spellId →
    ∃ cooldown, h.cooldowns.get spellId = some cooldown ∧ cooldown.categoryId = categoryId
  noZero : h.categoryCooldowns.lookup 0 = none
  led : ∀ spellId cooldown, h.cooldowns.get spellId = some cooldown → cooldown.categoryId ≠ 0 →
    ¬ cooldown.Idle → ∃ leadId lead, h.categoryCooldowns.lookup cooldown.categoryId = some leadId ∧
      h.cooldowns.get leadId = some lead ∧ lead.Outlasts cooldown

theorem SpellCooldown.Outlasts.blocks {b : SpellCooldown} (h : a.Outlasts b) (hb : b.Blocks nowMs) :
    a.Blocks nowMs := by
  rcases h with hold | ⟨hnot, hle⟩
  · exact .inl hold
  · rcases hb with hold | hlt
    · rw [hnot] at hold
      cases hold
    · exact .inr (lt_of_lt_of_le hlt hle)

theorem SpellCooldown.Outlasts.refl (a : SpellCooldown) : a.Outlasts a := by
  cases h : a.onHold with
  | true => exact .inl h
  | false => exact .inr ⟨h, le_rfl⟩

theorem SpellCooldown.Blocks.not_idle (h : a.Blocks nowMs) : ¬ a.Idle := by
  rintro ⟨hnot, hzero⟩
  rcases h with hold | hlt
  · rw [hnot] at hold
    cases hold
  · omega

/-- A cooldown that blocks whenever another one does outlasts it. -/
theorem SpellCooldown.outlasts_of_blocks {b : SpellCooldown} (hb : ¬ b.Idle)
    (h : ∀ nowMs, b.Blocks nowMs → a.Blocks nowMs) : a.Outlasts b := by
  by_cases hold : b.onHold = true
  · rcases h a.categoryEndMs (.inl hold) with ha | ha
    · exact .inl ha
    · omega
  · rw [Bool.not_eq_true] at hold
    have hpos : b.categoryEndMs ≠ 0 := fun hzero => hb ⟨hold, hzero⟩
    rcases h (b.categoryEndMs - 1) (.inr (by omega)) with ha | ha
    · exact .inl ha
    · exact .inr ⟨hold, by omega⟩

/-! ## The index and the law -/

theorem hasCooldown_of_lead {categoryId leadId : ℕ} {lead : SpellCooldown}
    (hcategory : categoryId ≠ 0) (hindex : h.categoryCooldowns.lookup categoryId = some leadId)
    (hlead : h.cooldowns.get leadId = some lead) (hblocks : lead.Blocks nowMs) (anySpellId : ℕ) :
    h.hasCooldown anySpellId categoryId nowMs = true := by
  have hcat : (categoryId != 0) = true := by simpa using hcategory
  have hmatch : (lead.onHold || decide (nowMs < lead.categoryEndMs)) = true := by
    rcases hblocks with hold | hlt
    · rw [hold, Bool.true_or]
    · rw [decide_eq_true hlt, Bool.or_true]
  simp only [SpellHistory.hasCooldown, hcat, hindex, Option.bind_some, hlead, Option.any_some,
    hmatch, Bool.and_self, Bool.or_true]

theorem Led.categoriesHold (hled : Led h) : CategoriesHold h := by
  refine ⟨fun categoryId spellId cooldown nowMs hne hget hcategory hblocks anySpellId => ?_,
    hled.named⟩
  subst hcategory
  obtain ⟨leadId, lead, hindex, hlead, houtlasts⟩ :=
    hled.led spellId cooldown hget hne hblocks.not_idle
  exact hasCooldown_of_lead hne hindex hlead (houtlasts.blocks hblocks) anySpellId

/-- A spell that is not on cooldown itself shows what the index says. -/
theorem CategoriesHold.led (hold : CategoriesHold h)
    (hget : h.cooldowns.get spellId = some cooldown) (hne : cooldown.categoryId ≠ 0)
    (hidle : ¬ cooldown.Idle) :
    ∃ leadId lead, h.categoryCooldowns.lookup cooldown.categoryId = some leadId ∧
      h.cooldowns.get leadId = some lead ∧ lead.Outlasts cooldown := by
  obtain ⟨free, hfree⟩ := Infinite.exists_notMem_finset h.cooldowns.keys.toFinset
  have hnone : h.cooldowns.get free = none := by
    refine AList.lookup_eq_none.mpr fun hmem => hfree ?_
    exact List.mem_toFinset.mpr (AList.mem_keys.mp hmem)
  have hblocks : ∀ nowMs, cooldown.Blocks nowMs → ∃ leadId lead,
      h.categoryCooldowns.lookup cooldown.categoryId = some leadId ∧
      h.cooldowns.get leadId = some lead ∧ lead.Blocks nowMs := by
    intro nowMs hb
    have hhas := hold.blocked _ spellId cooldown nowMs hne hget rfl hb free
    simp only [SpellHistory.hasCooldown, hnone, Option.any_none, Bool.false_or, Bool.and_eq_true,
      Option.any_eq_true, Bool.or_eq_true, decide_eq_true_eq, Option.bind_eq_some_iff] at hhas
    obtain ⟨_, lead, ⟨leadId, hindex, hlead⟩, hleadBlocks⟩ := hhas
    exact ⟨leadId, lead, hindex, hlead, hleadBlocks⟩
  have hsome : ∃ nowMs, cooldown.Blocks nowMs := by
    by_contra hnever
    push Not at hnever
    refine hidle ⟨?_, ?_⟩
    · by_contra hne
      exact hnever 0 (.inl (by simpa using hne))
    · by_contra hne
      exact hnever 0 (.inr (by omega))
  obtain ⟨now, hnow⟩ := hsome
  obtain ⟨leadId, lead, hindex, hlead, _⟩ := hblocks now hnow
  refine ⟨leadId, lead, hindex, hlead, SpellCooldown.outlasts_of_blocks hidle fun nowMs hb => ?_⟩
  obtain ⟨leadId', lead', hindex', hlead', hb'⟩ := hblocks nowMs hb
  rw [hindex] at hindex'
  cases hindex'
  rw [hlead] at hlead'
  cases hlead'
  exact hb'

/-! ## Conditions -/

/-- Every other cooldown of the category is idle or outlasted by `cooldown`. -/
def OutlastsOthers (h : SpellHistory) (cooldown : SpellCooldown) : Prop :=
  ∀ spellId other, spellId ≠ cooldown.spellId → h.cooldowns.get spellId = some other →
    other.categoryId = cooldown.categoryId → other.Idle ∨ cooldown.Outlasts other

/-- A cooldown that replaces the one of its spell: the spell is named for no other category, and
it becomes the longest one of its category. -/
def AddKeeps (h : SpellHistory) (cooldown : SpellCooldown) : Prop :=
  h.shouldReplace cooldown = true →
    (∀ categoryId, h.categoryCooldowns.lookup categoryId = some cooldown.spellId →
      categoryId = cooldown.categoryId) ∧
    (cooldown.categoryId ≠ 0 → OutlastsOthers h cooldown)

/-- A spell that loses its cooldown leaves no other running cooldown in its category. -/
def ClearKeeps (h : SpellHistory) (spellId : ℕ) : Prop :=
  ∀ cooldown, h.cooldowns.get spellId = some cooldown → cooldown.categoryId ≠ 0 →
    ∀ spellId' other, spellId' ≠ spellId → h.cooldowns.get spellId' = some other →
      other.categoryId = cooldown.categoryId → other.Idle

/-- A cooldown that changes stays the longest of its category, or stays behind the longest. -/
def ChangeKeeps (h : SpellHistory) (cooldown : SpellCooldown) : Prop :=
  cooldown.categoryId ≠ 0 →
    if h.categoryCooldowns.lookup cooldown.categoryId = some cooldown.spellId then
      OutlastsOthers h cooldown
    else cooldown.Idle ∨ ∃ leadId lead,
      h.categoryCooldowns.lookup cooldown.categoryId = some leadId ∧
        h.cooldowns.get leadId = some lead ∧ lead.Outlasts cooldown

def ModifyKeeps (h : SpellHistory) (spellId : ℕ) (cooldownDeltaMs : ℤ)
    (withoutCategoryCooldown : Bool) (nowMs : ℕ) : Prop :=
  cooldownDeltaMs ≠ 0 → ∀ cooldown, h.cooldowns.get spellId = some cooldown →
    let modified := SpellHistory.modifiedCooldown cooldown cooldownDeltaMs withoutCategoryCooldown
    if modified.cooldownEndMs ≤ nowMs ∧ modified.onHold = false then ClearKeeps h spellId
    else ChangeKeeps h modified

/-- The saved cooldown of a category that comes last, in the order in which they are restored,
outlasts the others. -/
def RestoreKeeps (h : SpellHistory) (rank : ℕ → ℕ) : Prop :=
  ∀ categoryId lead, categoryId ≠ 0 →
    ((h.restoreOrder rank).filter (·.categoryId = categoryId)).getLast? = some lead →
    ∀ cooldown ∈ h.restoreOrder rank, cooldown.categoryId = categoryId →
      cooldown.Idle ∨ lead.Outlasts cooldown

/-- A category that a cooldown still runs in has not ended, and no cooldown of it expires. -/
def UpdateKeeps (h : SpellHistory) (nowMs : ℕ) : Prop :=
  ∀ spellId cooldown, h.cooldowns.get spellId = some cooldown → cooldown.categoryId ≠ 0 →
    SpellHistory.expired nowMs cooldown = false → ¬ cooldown.Idle →
    (∀ leadId lead, h.categoryCooldowns.lookup cooldown.categoryId = some leadId →
      h.cooldowns.get leadId = some lead → lead.onHold = true ∨ nowMs ≤ lead.categoryEndMs) ∧
    ∀ spellId' other, h.cooldowns.get spellId' = some other →
      other.categoryId = cooldown.categoryId → SpellHistory.expired nowMs other = false

def CooldownOp.Keeps (h : SpellHistory) : CooldownOp → Prop
  | start nowMs spellId itemId cooldownMs categoryId categoryCooldownMs onHold =>
    ∀ cooldown, SpellHistory.startedCooldown nowMs spellId itemId cooldownMs categoryId
      categoryCooldownMs onHold = some cooldown → AddKeeps h cooldown
  | add cooldown => AddKeeps h cooldown
  | modify spellId cooldownDeltaMs withoutCategoryCooldown nowMs =>
    ModifyKeeps h spellId cooldownDeltaMs withoutCategoryCooldown nowMs
  | clear spellId => ClearKeeps h spellId
  | saveBeforeDuel => True
  | restoreAfterDuel rank => RestoreKeeps h rank
  | update nowMs => UpdateKeeps h nowMs

/-! ## Adding -/

theorem lookup_indexCooldown (index : Dict ℕ ℕ) (cooldown : SpellCooldown) (categoryId : ℕ) :
    (SpellHistory.indexCooldown index cooldown).lookup categoryId =
      if cooldown.categoryId ≠ 0 ∧ categoryId = cooldown.categoryId then some cooldown.spellId
      else index.lookup categoryId := by
  unfold SpellHistory.indexCooldown
  by_cases hzero : cooldown.categoryId = 0
  · simp [hzero]
  · simp only [hzero, ne_eq, not_false_eq_true, if_true, true_and, Dict.lookup_insert_eq]

theorem addCooldown_of_replace (hreplace : h.shouldReplace cooldown = true) :
    (h.addCooldown cooldown).1 =
      { h with
        cooldowns := h.cooldowns.insert cooldown
        categoryCooldowns := SpellHistory.indexCooldown h.categoryCooldowns cooldown } := by
  rw [SpellHistory.addCooldown, if_pos hreplace]
  rfl

theorem addCooldown_of_not_replace (hreplace : h.shouldReplace cooldown ≠ true) :
    (h.addCooldown cooldown).1 = h := by
  rw [SpellHistory.addCooldown, if_neg hreplace]

theorem Led.add (hled : Led h) (hkeeps : AddKeeps h cooldown) : Led (h.addCooldown cooldown).1 := by
  by_cases hreplace : h.shouldReplace cooldown = true
  · obtain ⟨hnamed, hothers⟩ := hkeeps hreplace
    rw [addCooldown_of_replace hreplace]
    refine ⟨fun categoryId spellId hlookup => ?_, ?_, fun spellId other hget hne hidle => ?_⟩
    · simp only [lookup_indexCooldown] at hlookup
      simp only [KeyedMap.get_insert]
      split at hlookup
      · rename_i hcat
        cases hlookup
        exact ⟨cooldown, if_pos rfl, hcat.2.symm⟩
      · obtain ⟨old, hold, holdcat⟩ := hled.named categoryId spellId hlookup
        split
        · rename_i hspell
          subst hspell
          exact ⟨cooldown, rfl, (hnamed categoryId hlookup).symm⟩
        · exact ⟨old, hold, holdcat⟩
    · simp only [lookup_indexCooldown]
      rw [if_neg (by rintro ⟨hne, heq⟩; exact hne heq.symm)]
      exact hled.noZero
    · simp only [KeyedMap.get_insert, lookup_indexCooldown] at hget ⊢
      by_cases hcat : other.categoryId = cooldown.categoryId
      · rw [if_pos ⟨hcat ▸ hne, hcat⟩]
        refine ⟨cooldown.spellId, cooldown, rfl, if_pos rfl, ?_⟩
        split at hget
        · cases hget
          exact .refl _
        · rename_i hspell
          exact (hothers (hcat ▸ hne) spellId other hspell hget hcat).resolve_left hidle
      · rw [if_neg fun h => hcat h.2]
        split at hget
        · cases hget
          exact absurd rfl hcat
        · obtain ⟨leadId, lead, hlookup, hlead, houtlasts⟩ := hled.led spellId other hget hne hidle
          refine ⟨leadId, lead, hlookup, ?_, houtlasts⟩
          rw [if_neg]
          · exact hlead
          · rintro rfl
            exact hcat (hnamed _ hlookup)
  · rw [addCooldown_of_not_replace hreplace]
    exact hled

theorem addKeeps_of_hold (hold : CategoriesHold (h.addCooldown cooldown).1) :
    AddKeeps h cooldown := by
  intro hreplace
  rw [addCooldown_of_replace hreplace] at hold
  constructor
  · intro categoryId hlookup
    by_contra hne
    obtain ⟨stored, hstored, hcat⟩ := hold.named categoryId cooldown.spellId (by
      simp only [lookup_indexCooldown]
      rw [if_neg fun h => hne h.2]
      exact hlookup)
    simp only [KeyedMap.get_insert, if_true] at hstored
    cases hstored
    exact hne hcat.symm
  · intro hne spellId other hspell hget hcat
    by_cases hidle : other.Idle
    · exact .inl hidle
    · obtain ⟨leadId, lead, hlookup, hlead, houtlasts⟩ := @CategoriesHold.led _ other spellId hold
        (by simp only [KeyedMap.get_insert, if_neg hspell, hget]) (hcat ▸ hne) hidle
      simp only [lookup_indexCooldown] at hlookup
      rw [if_pos ⟨hne, hcat⟩] at hlookup
      cases hlookup
      simp only [KeyedMap.get_insert, if_true] at hlead
      cases hlead
      exact .inr houtlasts

/-! ## Clearing -/

theorem clearCooldown_of_stored (hget : h.cooldowns.get spellId = some cooldown) :
    (h.clearCooldown spellId).1 =
      { h with
        cooldowns := h.cooldowns.remove spellId
        categoryCooldowns :=
          if cooldown.categoryId ≠ 0 then AList.erase cooldown.categoryId h.categoryCooldowns
          else h.categoryCooldowns } := by
  rw [SpellHistory.clearCooldown]
  simp only [hget]

theorem clearCooldown_of_none (hget : h.cooldowns.get spellId = none) :
    (h.clearCooldown spellId).1 = h := by
  rw [SpellHistory.clearCooldown]
  simp only [hget]

theorem lookup_clearedCategory (index : Dict ℕ ℕ) (cleared categoryId : ℕ) :
    (if cleared ≠ 0 then AList.erase cleared index else index).lookup categoryId =
      if cleared ≠ 0 ∧ categoryId = cleared then none else index.lookup categoryId := by
  by_cases hzero : cleared = 0
  · simp [hzero]
  · simp only [hzero, ne_eq, not_false_eq_true, if_true, true_and, Dict.lookup_erase_eq]

theorem Led.clear (hled : Led h) (hkeeps : ClearKeeps h spellId) :
    Led (h.clearCooldown spellId).1 := by
  cases hget : h.cooldowns.get spellId with
  | none =>
    rw [clearCooldown_of_none hget]
    exact hled
  | some cooldown =>
    rw [clearCooldown_of_stored hget]
    refine ⟨fun categoryId spellId' hlookup => ?_, ?_, fun spellId' other hother hne hidle => ?_⟩
    · simp only [lookup_clearedCategory] at hlookup
      simp only [KeyedMap.get_remove]
      split at hlookup
      · cases hlookup
      · rename_i hcat
        obtain ⟨stored, hstored, hstoredCat⟩ := hled.named categoryId spellId' hlookup
        refine ⟨stored, ?_, hstoredCat⟩
        rw [if_neg]
        · exact hstored
        · -- The cleared spell was named for its own category only, and not for category 0.
          rintro rfl
          rw [hget] at hstored
          cases hstored
          refine hcat ⟨fun hzero => ?_, hstoredCat.symm⟩
          rw [hzero] at hstoredCat
          rw [← hstoredCat, hled.noZero] at hlookup
          cases hlookup
    · simp only [lookup_clearedCategory]
      split
      · rfl
      · exact hled.noZero
    · simp only [KeyedMap.get_remove, lookup_clearedCategory] at hother ⊢
      split at hother
      · cases hother
      · rename_i hspell
        by_cases hcat : other.categoryId = cooldown.categoryId
        · exact absurd (hkeeps cooldown hget (hcat ▸ hne) spellId' other hspell hother hcat) hidle
        · rw [if_neg fun h => hcat h.2]
          obtain ⟨leadId, lead, hlookup, hlead, houtlasts⟩ :=
            hled.led spellId' other hother hne hidle
          refine ⟨leadId, lead, hlookup, ?_, houtlasts⟩
          rw [if_neg]
          · exact hlead
          · rintro rfl
            obtain ⟨stored, hstored, hstoredCat⟩ := hled.named _ _ hlookup
            rw [hget] at hstored
            cases hstored
            exact hcat hstoredCat.symm

theorem clearKeeps_of_hold (hold : CategoriesHold (h.clearCooldown spellId).1) :
    ClearKeeps h spellId := by
  intro cooldown hget hne spellId' other hspell hother hcat
  rw [clearCooldown_of_stored hget] at hold
  by_contra hidle
  obtain ⟨leadId, lead, hlookup, _⟩ := @CategoriesHold.led _ other spellId' hold
    (by simp only [KeyedMap.get_remove, if_neg hspell, hother]) (hcat ▸ hne) hidle
  simp only [lookup_clearedCategory] at hlookup
  rw [if_pos ⟨hne, hcat⟩] at hlookup
  cases hlookup

/-! ## Changing -/

theorem Led.change (hled : Led h) {old : SpellCooldown}
    (hget : h.cooldowns.get cooldown.spellId = some old)
    (hcat : old.categoryId = cooldown.categoryId) (hkeeps : ChangeKeeps h cooldown) :
    Led { h with cooldowns := h.cooldowns.insert cooldown } := by
  refine ⟨fun categoryId spellId hlookup => ?_, hled.noZero, fun spellId other hother hne hidle => ?_⟩
  · obtain ⟨stored, hstored, hstoredCat⟩ := hled.named categoryId spellId hlookup
    simp only [KeyedMap.get_insert]
    split
    · rename_i hspell
      subst hspell
      rw [hget] at hstored
      cases hstored
      exact ⟨cooldown, rfl, hcat.symm.trans hstoredCat⟩
    · exact ⟨stored, hstored, hstoredCat⟩
  · simp only [KeyedMap.get_insert] at hother ⊢
    split at hother
    · cases hother
      have hchange := hkeeps hne
      split at hchange
      · rename_i hlead
        exact ⟨_, _, hlead, if_pos rfl, .refl _⟩
      · rename_i hlead
        obtain ⟨leadId, lead, hlookup, hget', houtlasts⟩ := hchange.resolve_left hidle
        refine ⟨leadId, lead, hlookup, ?_, houtlasts⟩
        rw [if_neg]
        · exact hget'
        · rintro rfl
          exact hlead hlookup
    · rename_i hspell
      obtain ⟨leadId, lead, hlookup, hget', houtlasts⟩ := hled.led spellId other hother hne hidle
      by_cases hlead : leadId = cooldown.spellId
      · subst hlead
        refine ⟨_, cooldown, hlookup, if_pos rfl, ?_⟩
        obtain ⟨stored, hstored, hstoredCat⟩ := hled.named _ _ hlookup
        rw [hget] at hstored
        cases hstored
        have hsame : other.categoryId = cooldown.categoryId := hstoredCat.symm.trans hcat
        have hchange := hkeeps (hsame ▸ hne)
        rw [if_pos (hsame ▸ hlookup)] at hchange
        exact (hchange spellId other hspell hother hsame).resolve_left hidle
      · exact ⟨leadId, lead, hlookup, by rw [if_neg hlead, hget'], houtlasts⟩

theorem changeKeeps_of_hold
    (hold : CategoriesHold { h with cooldowns := h.cooldowns.insert cooldown }) :
    ChangeKeeps h cooldown := by
  intro hne
  split
  · rename_i hlead
    intro spellId other hspell hother hcat
    by_cases hidle : other.Idle
    · exact .inl hidle
    · obtain ⟨leadId, lead, hlookup, hget, houtlasts⟩ := @CategoriesHold.led _ other spellId hold
        (by simp only [KeyedMap.get_insert, if_neg hspell, hother]) (hcat ▸ hne) hidle
      rw [hcat] at hlookup
      cases hlead.symm.trans hlookup
      simp only [KeyedMap.get_insert, if_true] at hget
      cases hget
      exact .inr houtlasts
  · rename_i hlead
    by_cases hidle : cooldown.Idle
    · exact .inl hidle
    · obtain ⟨leadId, lead, hlookup, hget, houtlasts⟩ := @CategoriesHold.led _ cooldown
        cooldown.spellId hold (by simp only [KeyedMap.get_insert, if_true]) hne hidle
      refine .inr ⟨leadId, lead, hlookup, ?_, houtlasts⟩
      have hspell : leadId ≠ cooldown.spellId := by
        rintro rfl
        exact hlead hlookup
      simpa only [KeyedMap.get_insert, if_neg hspell] using hget

theorem modifiedCooldown_spec (cooldown : SpellCooldown) (cooldownDeltaMs : ℤ)
    (withoutCategoryCooldown : Bool) :
    (SpellHistory.modifiedCooldown cooldown cooldownDeltaMs withoutCategoryCooldown).spellId =
        cooldown.spellId ∧
      (SpellHistory.modifiedCooldown cooldown cooldownDeltaMs withoutCategoryCooldown).categoryId =
        cooldown.categoryId := by
  unfold SpellHistory.modifiedCooldown
  dsimp only
  split <;> exact ⟨rfl, rfl⟩

/-- What a modification does: nothing, a change of one cooldown, or its removal. -/
theorem modifyCooldown_spec (hdelta : cooldownDeltaMs ≠ 0)
    (hget : h.cooldowns.get spellId = some cooldown) (withoutCategoryCooldown : Bool) (nowMs : ℕ) :
    let modified := SpellHistory.modifiedCooldown cooldown cooldownDeltaMs withoutCategoryCooldown
    (h.modifyCooldown spellId cooldownDeltaMs withoutCategoryCooldown nowMs).1 =
      if modified.cooldownEndMs ≤ nowMs ∧ modified.onHold = false then (h.clearCooldown spellId).1
      else { h with cooldowns := h.cooldowns.insert modified } := by
  intro modified
  obtain ⟨hspell, hcat⟩ := modifiedCooldown_spec cooldown cooldownDeltaMs withoutCategoryCooldown
  have hkey : modified.spellId = spellId := hspell.trans (h.cooldowns.key_of_get hget)
  simp only [SpellHistory.modifyCooldown, if_neg hdelta, hget]
  split
  · have hstored : (h.cooldowns.insert modified).get spellId = some modified := by
      rw [KeyedMap.get_insert, if_pos hkey.symm]
    rw [clearCooldown_of_stored hget]
    change (SpellHistory.clearCooldown
      { h with cooldowns := h.cooldowns.insert modified } spellId).1 = _
    rw [clearCooldown_of_stored hstored]
    have hremove : (h.cooldowns.insert modified).remove spellId = h.cooldowns.remove spellId := by
      rw [← hkey, KeyedMap.remove_insert]
    have hcat' : modified.categoryId = cooldown.categoryId := hcat
    simp only [hremove, hcat']
  · rfl

theorem Led.modify (hled : Led h) {withoutCategoryCooldown : Bool}
    (hkeeps : ModifyKeeps h spellId cooldownDeltaMs withoutCategoryCooldown nowMs) :
    Led (h.modifyCooldown spellId cooldownDeltaMs withoutCategoryCooldown nowMs).1 := by
  by_cases hdelta : cooldownDeltaMs = 0
  · rw [SpellHistory.modifyCooldown, if_pos hdelta]
    exact hled
  · cases hget : h.cooldowns.get spellId with
    | none =>
      simp only [SpellHistory.modifyCooldown, if_neg hdelta, hget]
      exact hled
    | some cooldown =>
      have hstep := hkeeps hdelta cooldown hget
      obtain ⟨hspell, hcat⟩ :=
        modifiedCooldown_spec cooldown cooldownDeltaMs withoutCategoryCooldown
      rw [modifyCooldown_spec hdelta hget]
      dsimp only at hstep
      split at hstep
      · rename_i hcleared
        rw [if_pos hcleared]
        exact hled.clear hstep
      · rename_i hcleared
        rw [if_neg hcleared]
        have hstored : h.cooldowns.get (SpellHistory.modifiedCooldown cooldown cooldownDeltaMs
            withoutCategoryCooldown).spellId = some cooldown := by
          rw [hspell, h.cooldowns.key_of_get hget]
          exact hget
        exact hled.change hstored hcat.symm hstep

theorem modifyKeeps_of_hold {withoutCategoryCooldown : Bool}
    (hold : CategoriesHold
      (h.modifyCooldown spellId cooldownDeltaMs withoutCategoryCooldown nowMs).1) :
    ModifyKeeps h spellId cooldownDeltaMs withoutCategoryCooldown nowMs := by
  intro hdelta cooldown hget
  rw [modifyCooldown_spec hdelta hget] at hold
  dsimp only at hold ⊢
  split at hold
  · rename_i hcleared
    rw [if_pos hcleared]
    exact clearKeeps_of_hold hold
  · rename_i hcleared
    rw [if_neg hcleared]
    exact changeKeeps_of_hold hold

/-! ## Restoring -/

theorem lookup_restored (cooldowns : List SpellCooldown) (categoryId : ℕ) :
    (cooldowns.foldl SpellHistory.indexCooldown ∅).lookup categoryId =
      if categoryId = 0 then none
      else ((cooldowns.filter (·.categoryId = categoryId)).getLast?).map (·.spellId) := by
  induction cooldowns using List.reverseRecOn with
  | nil => simp
  | append_singleton cooldowns cooldown ih =>
    rw [List.foldl_append, List.foldl_cons, List.foldl_nil, lookup_indexCooldown, ih,
      List.filter_append]
    by_cases hzero : categoryId = 0
    · rw [if_neg (by rintro ⟨hne, heq⟩; exact hne (heq.symm.trans hzero)), if_pos hzero,
        if_pos hzero]
    · by_cases hcat : cooldown.categoryId = categoryId
      · rw [if_pos ⟨hcat ▸ hzero, hcat.symm⟩, if_neg hzero]
        simp [hcat]
      · rw [if_neg fun h => hcat h.2.symm, if_neg hzero, if_neg hzero]
        simp [hcat]

theorem mem_restoreOrder :
    cooldown ∈ h.restoreOrder rank ↔
      h.cooldownsBeforeDuel.get cooldown.spellId = some cooldown := by
  rw [SpellHistory.restoreOrder, List.mem_insertionSort, KeyedMap.mem_values]

theorem led_restore (hkeeps : RestoreKeeps h rank) :
    Led (h.restoreCooldownStateAfterDuel rank) := by
  refine ⟨fun categoryId spellId hlookup => ?_, ?_, fun spellId cooldown hget hne hidle => ?_⟩
  · simp only [SpellHistory.restoreCooldownStateAfterDuel, lookup_restored] at hlookup ⊢
    split at hlookup
    · cases hlookup
    · obtain ⟨lead, hlead, rfl⟩ := Option.map_eq_some_iff.mp hlookup
      obtain ⟨hmem, hcat⟩ := List.mem_filter.mp (List.mem_of_getLast? hlead)
      exact ⟨lead, mem_restoreOrder.mp hmem, by simpa using hcat⟩
  · simp only [SpellHistory.restoreCooldownStateAfterDuel, lookup_restored, if_true]
  · simp only [SpellHistory.restoreCooldownStateAfterDuel, lookup_restored, if_neg hne] at hget ⊢
    have hmem : cooldown ∈ h.restoreOrder rank := by
      rw [mem_restoreOrder, h.cooldownsBeforeDuel.key_of_get hget]
      exact hget
    have hfilter : cooldown ∈
        (h.restoreOrder rank).filter (·.categoryId = cooldown.categoryId) :=
      List.mem_filter.mpr ⟨hmem, by simp⟩
    cases hlast : ((h.restoreOrder rank).filter (·.categoryId = cooldown.categoryId)).getLast? with
    | none =>
      rw [List.getLast?_eq_none_iff] at hlast
      rw [hlast] at hfilter
      cases hfilter
    | some lead =>
      have hlead := (List.mem_filter.mp (List.mem_of_getLast? hlast)).1
      exact ⟨lead.spellId, lead, rfl, mem_restoreOrder.mp hlead,
        (hkeeps _ lead hne hlast cooldown hmem rfl).resolve_left hidle⟩

theorem restoreKeeps_of_hold (hold : CategoriesHold (h.restoreCooldownStateAfterDuel rank)) :
    RestoreKeeps h rank := by
  intro categoryId lead hne hlast cooldown hmem hcat
  subst hcat
  by_cases hidle : cooldown.Idle
  · exact .inl hidle
  · obtain ⟨leadId, lead', hlookup, hget, houtlasts⟩ :=
      @CategoriesHold.led _ cooldown cooldown.spellId hold (mem_restoreOrder.mp hmem) hne hidle
    simp only [SpellHistory.restoreCooldownStateAfterDuel, lookup_restored, if_neg hne, hlast,
      Option.map_some] at hlookup hget
    cases hlookup
    have hstored := mem_restoreOrder.mp (List.mem_filter.mp (List.mem_of_getLast? hlast)).1
    rw [hget] at hstored
    cases hstored
    exact .inr houtlasts

/-! ## Time -/

/-- Several spells are cleared: their cooldowns go, and their categories from the index. -/
theorem clearCooldowns_spec (spellIds : List ℕ) (h : SpellHistory) :
    let cleared := spellIds.foldl (fun h spellId => (h.clearCooldown spellId).1) h
    let clearsCategory := fun categoryId => ∃ spellId ∈ spellIds, ∃ cooldown,
      h.cooldowns.get spellId = some cooldown ∧ cooldown.categoryId = categoryId ∧ categoryId ≠ 0
    (∀ spellId, cleared.cooldowns.get spellId =
        if spellId ∈ spellIds then none else h.cooldowns.get spellId) ∧
      (∀ categoryId, clearsCategory categoryId →
        cleared.categoryCooldowns.lookup categoryId = none) ∧
      ∀ categoryId, ¬ clearsCategory categoryId →
        cleared.categoryCooldowns.lookup categoryId = h.categoryCooldowns.lookup categoryId := by
  induction spellIds generalizing h with
  | nil => simp
  | cons first spellIds ih =>
    obtain ⟨hget, hnone, hsame⟩ := ih (h.clearCooldown first).1
    simp only [List.foldl_cons]
    cases hfirst : h.cooldowns.get first with
    | none =>
      rw [clearCooldown_of_none hfirst] at hget hnone hsame ⊢
      refine ⟨fun spellId => ?_, fun categoryId hclears => hnone categoryId ?_,
        fun categoryId hclears => hsame categoryId ?_⟩
      · rw [hget]
        by_cases hspell : spellId = first
        · simp [hspell, hfirst]
        · simp [hspell]
      · obtain ⟨spellId, hmem, cooldown, hcooldown, hcat⟩ := hclears
        rcases List.mem_cons.mp hmem with rfl | hmem
        · rw [hfirst] at hcooldown
          cases hcooldown
        · exact ⟨spellId, hmem, cooldown, hcooldown, hcat⟩
      · rintro ⟨spellId, hmem, hstored⟩
        exact hclears ⟨spellId, List.mem_cons_of_mem _ hmem, hstored⟩
    | some cooldown =>
      rw [clearCooldown_of_stored hfirst] at hget hnone hsame ⊢
      simp only [KeyedMap.get_remove, lookup_clearedCategory] at hget hnone hsame
      refine ⟨fun spellId => ?_, fun categoryId hclears => ?_, fun categoryId hclears => ?_⟩
      · rw [hget]
        by_cases hspell : spellId = first <;> simp [hspell]
      · by_cases hrest : ∃ spellId ∈ spellIds, ∃ other,
            (if spellId = first then none else h.cooldowns.get spellId) = some other ∧
              other.categoryId = categoryId ∧ categoryId ≠ 0
        · exact hnone categoryId hrest
        · rw [hsame categoryId hrest, if_pos]
          obtain ⟨spellId, hmem, other, hother, hcat, hne⟩ := hclears
          by_cases hspell : spellId = first
          · rw [hspell, hfirst] at hother
            cases hother
            exact ⟨hcat ▸ hne, hcat.symm⟩
          · refine absurd ⟨spellId, (List.mem_cons.mp hmem).resolve_left hspell, other, ?_, hcat,
              hne⟩ hrest
            rw [if_neg hspell]
            exact hother
      · rw [hsame categoryId, if_neg]
        · rintro ⟨hne, heq⟩
          exact hclears ⟨first, List.mem_cons_self, cooldown, hfirst, heq.symm, heq ▸ hne⟩
        · rintro ⟨spellId, hmem, other, hother, hcat⟩
          split at hother
          · cases hother
          · exact hclears ⟨spellId, List.mem_cons_of_mem _ hmem, other, hother, hcat⟩

theorem update_spec (h : SpellHistory) (nowMs : ℕ) :
    (∀ spellId cooldown, (h.update nowMs).cooldowns.get spellId = some cooldown ↔
      h.cooldowns.get spellId = some cooldown ∧ SpellHistory.expired nowMs cooldown = false) ∧
    ∀ categoryId spellId, (h.update nowMs).categoryCooldowns.lookup categoryId = some spellId ↔
      h.categoryCooldowns.lookup categoryId = some spellId ∧
      (∃ lead, h.cooldowns.get spellId = some lead ∧
        (lead.onHold = true ∨ nowMs ≤ lead.categoryEndMs)) ∧
      (categoryId ≠ 0 → ∀ spellId' other, h.cooldowns.get spellId' = some other →
        other.categoryId = categoryId → SpellHistory.expired nowMs other = false) := by
  obtain ⟨hget, hnone, hsame⟩ := clearCooldowns_spec
    ((h.cooldowns.values.filter (SpellHistory.expired nowMs)).map (·.spellId))
    (h.dropEndedCategories nowMs)
  have hmem : ∀ spellId, spellId ∈
      (h.cooldowns.values.filter (SpellHistory.expired nowMs)).map (·.spellId) ↔
      ∃ cooldown, h.cooldowns.get spellId = some cooldown ∧
        SpellHistory.expired nowMs cooldown = true := by
    intro spellId
    simp only [List.mem_map, List.mem_filter, KeyedMap.mem_values]
    constructor
    · rintro ⟨cooldown, ⟨hstored, hexpired⟩, rfl⟩
      exact ⟨cooldown, hstored, hexpired⟩
    · rintro ⟨cooldown, hstored, hexpired⟩
      have hkey := h.cooldowns.key_of_get hstored
      exact ⟨cooldown, ⟨by rw [hkey]; exact hstored, hexpired⟩, hkey⟩
  have hkept : ∀ categoryId, (h.dropEndedCategories nowMs).categoryCooldowns.lookup categoryId =
      (h.categoryCooldowns.lookup categoryId).filter fun spellId =>
        (h.cooldowns.get spellId).any fun cooldown =>
          cooldown.onHold || decide (nowMs ≤ cooldown.categoryEndMs) := fun categoryId =>
    Dict.lookup_retain _ _ categoryId
  refine ⟨fun spellId cooldown => ?_, fun categoryId spellId => ?_⟩
  · change (SpellHistory.cooldowns (List.foldl _ _ _)).get spellId = _ ↔ _
    rw [hget]
    by_cases hexpired : spellId ∈
        (h.cooldowns.values.filter (SpellHistory.expired nowMs)).map (·.spellId)
    · rw [if_pos hexpired]
      obtain ⟨stored, hstored, hstoredExpired⟩ := (hmem spellId).mp hexpired
      refine iff_of_false (by simp) ?_
      rintro ⟨hcooldown, hnot⟩
      rw [hstored] at hcooldown
      cases hcooldown
      rw [hstoredExpired] at hnot
      cases hnot
    · rw [if_neg hexpired]
      refine ⟨fun hcooldown => ⟨hcooldown, ?_⟩, fun hcooldown => hcooldown.1⟩
      rw [← Bool.not_eq_true]
      exact fun htrue => hexpired ((hmem spellId).mpr ⟨cooldown, hcooldown, htrue⟩)
  · change (SpellHistory.categoryCooldowns (List.foldl _ _ _)).lookup categoryId = _ ↔ _
    by_cases hclears : ∃ spellId ∈
        (h.cooldowns.values.filter (SpellHistory.expired nowMs)).map (·.spellId), ∃ cooldown,
          h.cooldowns.get spellId = some cooldown ∧ cooldown.categoryId = categoryId ∧
            categoryId ≠ 0
    · rw [hnone categoryId hclears]
      refine iff_of_false (by simp) ?_
      rintro ⟨_, _, hrunning⟩
      obtain ⟨spellId', hexpired, cooldown, hstored, hcat, hne⟩ := hclears
      obtain ⟨stored, hstored', hexpired'⟩ := (hmem spellId').mp hexpired
      have := hrunning hne spellId' stored hstored' (by
        rw [hstored] at hstored'
        cases hstored'
        exact hcat)
      rw [hexpired'] at this
      cases this
    · rw [hsame categoryId hclears, hkept, Option.filter_eq_some_iff]
      refine and_congr_right fun _ => ?_
      simp only [Option.any_eq_true, Bool.or_eq_true, decide_eq_true_eq]
      refine ⟨fun hlead => ⟨hlead, fun hne spellId' other hother hcat => ?_⟩, fun hlead => hlead.1⟩
      rw [← Bool.not_eq_true]
      intro hexpired
      exact hclears ⟨spellId', (hmem spellId').mpr ⟨other, hother, hexpired⟩, other, hother, hcat,
        hne⟩

theorem Led.update (hled : Led h) (hkeeps : UpdateKeeps h nowMs) : Led (h.update nowMs) := by
  obtain ⟨hget, hindex⟩ := update_spec h nowMs
  refine ⟨fun categoryId spellId hlookup => ?_, ?_, fun spellId cooldown hstored hne hidle => ?_⟩
  · obtain ⟨hlookup, _, hrunning⟩ := (hindex categoryId spellId).mp hlookup
    obtain ⟨cooldown, hstored, hcat⟩ := hled.named categoryId spellId hlookup
    refine ⟨cooldown, (hget spellId cooldown).mpr ⟨hstored, ?_⟩, hcat⟩
    refine hrunning ?_ spellId cooldown hstored hcat
    rintro rfl
    rw [hled.noZero] at hlookup
    cases hlookup
  · cases hzero : (h.update nowMs).categoryCooldowns.lookup 0 with
    | none => rfl
    | some spellId =>
      have hlookup := ((hindex 0 spellId).mp hzero).1
      rw [hled.noZero] at hlookup
      cases hlookup
  · obtain ⟨hstored, hexpired⟩ := (hget spellId cooldown).mp hstored
    obtain ⟨hlead, hrunning⟩ := hkeeps spellId cooldown hstored hne hexpired hidle
    obtain ⟨leadId, lead, hlookup, hleadStored, houtlasts⟩ :=
      hled.led spellId cooldown hstored hne hidle
    obtain ⟨named, hnamed, hcat⟩ := hled.named _ _ hlookup
    rw [hleadStored] at hnamed
    cases hnamed
    exact ⟨leadId, lead, (hindex _ leadId).mpr
        ⟨hlookup, ⟨lead, hleadStored, hlead leadId lead hlookup hleadStored⟩, fun _ => hrunning⟩,
      (hget leadId lead).mpr ⟨hleadStored, hrunning leadId lead hleadStored hcat⟩, houtlasts⟩

theorem updateKeeps_of_hold (hold : CategoriesHold (h.update nowMs)) : UpdateKeeps h nowMs := by
  obtain ⟨hget, hindex⟩ := update_spec h nowMs
  intro spellId cooldown hstored hne hexpired hidle
  obtain ⟨leadId, lead, hlookup, hlead, _⟩ :=
    @CategoriesHold.led _ cooldown spellId hold ((hget _ _).mpr ⟨hstored, hexpired⟩) hne hidle
  obtain ⟨hlookup, ⟨lead', hlead', hrunning'⟩, hrunning⟩ := (hindex _ _).mp hlookup
  refine ⟨fun leadId' lead'' hlookup' hlead'' => ?_, hrunning hne⟩
  rw [hlookup] at hlookup'
  cases hlookup'
  rw [hlead'] at hlead''
  cases hlead''
  exact hrunning'

/-! ## Runs -/

theorem Led.apply (hled : Led h) {op : CooldownOp} (hkeeps : op.Keeps h) : Led (op.apply h) := by
  cases op with
  | start nowMs spellId itemId cooldownMs categoryId categoryCooldownMs onHold =>
    simp only [CooldownOp.apply, SpellHistory.startCooldown]
    split
    · exact hled
    · rename_i cooldown hstarted
      exact hled.add (hkeeps cooldown hstarted)
  | add cooldown => exact hled.add hkeeps
  | modify spellId cooldownDeltaMs withoutCategoryCooldown nowMs => exact hled.modify hkeeps
  | clear spellId => exact hled.clear hkeeps
  | saveBeforeDuel => exact ⟨hled.named, hled.noZero, hled.led⟩
  | restoreAfterDuel rank => exact led_restore hkeeps
  | update nowMs => exact hled.update hkeeps

theorem keeps_of_hold {op : CooldownOp} (hold : CategoriesHold (op.apply h)) : op.Keeps h := by
  cases op with
  | start nowMs spellId itemId cooldownMs categoryId categoryCooldownMs onHold =>
    intro cooldown hstarted
    simp only [CooldownOp.apply, SpellHistory.startCooldown, hstarted] at hold
    exact addKeeps_of_hold hold
  | add cooldown => exact addKeeps_of_hold hold
  | modify spellId cooldownDeltaMs withoutCategoryCooldown nowMs => exact modifyKeeps_of_hold hold
  | clear spellId => exact clearKeeps_of_hold hold
  | saveBeforeDuel => trivial
  | restoreAfterDuel rank => exact restoreKeeps_of_hold hold
  | update nowMs => exact updateKeeps_of_hold hold

theorem led_empty : Led .empty := by
  refine ⟨fun _ _ h => ?_, rfl, fun _ _ h => ?_⟩
  · cases h
  · cases h

/-- In every state of a run a category is on cooldown as long as one of its cooldowns runs, and
the index names a stored cooldown of each category, exactly when every operation of the run
keeps the longest cooldown of each category in the index. -/
theorem categories_hold_iff (ops : List CooldownOp) :
    (∀ ops', ops' <+: ops → CategoriesHold (run CooldownOp.apply .empty ops')) ↔
      EachStep CooldownOp.apply CooldownOp.Keeps .empty ops := by
  have hlegal : EachStep CooldownOp.apply (fun _ _ => True) .empty ops :=
    EachStep.of_forall (fun _ _ _ => trivial) _
  refine forall_prefixes_iff Led CategoriesHold (fun _ hled => hled.categoriesHold) ?_ ?_
    led_empty hlegal
  · exact fun _ _ hled _ hkeeps => hled.apply hkeeps
  · exact fun _ _ _ _ hold => keeps_of_hold hold

/-- Two spells of a category: the second one is cleared while the first still runs. -/
def clearedSecond : List CooldownOp :=
  [.start 0 1 0 0 7 1000 false, .start 0 2 0 0 7 2000 false, .clear 2]

/-- The cooldown of spell 1 keeps category 7 on cooldown until 1000, but after the cooldown of
spell 2 was cleared no other spell of the category is. -/
theorem cleared_spell_frees_category :
    let h := run CooldownOp.apply .empty clearedSecond
    h.cooldowns.get 1 = some ⟨1, 0, 1000, 7, 1000, false⟩ ∧
      h.hasCooldown 3 7 500 = false ∧ ¬ CategoriesHold h := by
  intro h
  have hstored : h.cooldowns.get 1 = some ⟨1, 0, 1000, 7, 1000, false⟩ := by rfl
  have hfree : h.hasCooldown 3 7 500 = false := by rfl
  refine ⟨hstored, hfree, fun hold => ?_⟩
  have hblocked := hold.blocked 7 1 _ 500 (by decide) hstored rfl (.inr (by decide)) 3
  rw [hfree] at hblocked
  cases hblocked

/-! ## Duels -/

@[simp] theorem clearCooldown_beforeDuel (h : SpellHistory) (spellId : ℕ) :
    (h.clearCooldown spellId).1.cooldownsBeforeDuel = h.cooldownsBeforeDuel := by
  unfold SpellHistory.clearCooldown
  split <;> rfl

theorem apply_beforeDuel (h : SpellHistory) (op : CooldownOp) (hop : op ≠ .saveBeforeDuel) :
    (op.apply h).cooldownsBeforeDuel = h.cooldownsBeforeDuel := by
  cases op with
  | saveBeforeDuel => exact absurd rfl hop
  | restoreAfterDuel => rfl
  | clear spellId => exact clearCooldown_beforeDuel h spellId
  | start | add | modify =>
    simp only [CooldownOp.apply, SpellHistory.startCooldown, SpellHistory.addCooldown,
      SpellHistory.modifyCooldown]
    repeat' split
    all_goals first | rfl | exact clearCooldown_beforeDuel _ _
  | update nowMs =>
    exact List.foldlRecOn (motive := fun h' : SpellHistory =>
      h'.cooldownsBeforeDuel = h.cooldownsBeforeDuel) _ _ rfl
      fun h' hkept spellId _ => (clearCooldown_beforeDuel h' spellId).trans hkept

/-- Whatever happens in a duel, its end gives back the cooldowns that were saved, and the index
names one of them for exactly the categories that they have. -/
theorem duel_gives_cooldowns_back (h : SpellHistory) (ops : List CooldownOp) (rank : ℕ → ℕ)
    (hops : ∀ op ∈ ops, op ≠ .saveBeforeDuel) :
    let after := (run CooldownOp.apply h.saveCooldownStateBeforeDuel
      ops).restoreCooldownStateAfterDuel rank
    after.cooldowns = h.cooldowns ∧
      (∀ categoryId spellId, after.categoryCooldowns.lookup categoryId = some spellId →
        ∃ cooldown, h.cooldowns.get spellId = some cooldown ∧ cooldown.categoryId = categoryId) ∧
      ∀ spellId cooldown, h.cooldowns.get spellId = some cooldown → cooldown.categoryId ≠ 0 →
        after.categoryCooldowns.lookup cooldown.categoryId ≠ none := by
  have hsaved : (run CooldownOp.apply h.saveCooldownStateBeforeDuel ops).cooldownsBeforeDuel =
      h.cooldowns :=
    run_invariant (fun h' : SpellHistory => h'.cooldownsBeforeDuel = h.cooldowns)
      (fun h' op hkept hop => (apply_beforeDuel h' op hop).trans hkept) rfl
      (EachStep.of_forall (fun op hop _ => hops op hop) _)
  refine ⟨hsaved, fun categoryId spellId hlookup => ?_, fun spellId cooldown hget hne => ?_⟩
  · simp only [SpellHistory.restoreCooldownStateAfterDuel, lookup_restored] at hlookup
    split at hlookup
    · cases hlookup
    · obtain ⟨lead, hlead, rfl⟩ := Option.map_eq_some_iff.mp hlookup
      obtain ⟨hmem, hcat⟩ := List.mem_filter.mp (List.mem_of_getLast? hlead)
      exact ⟨lead, hsaved ▸ mem_restoreOrder.mp hmem, by simpa using hcat⟩
  · simp only [SpellHistory.restoreCooldownStateAfterDuel, lookup_restored, if_neg hne, ne_eq,
      Option.map_eq_none_iff, List.getLast?_eq_none_iff, List.filter_eq_nil_iff]
    intro hnone
    refine hnone cooldown (mem_restoreOrder.mpr ?_) (by simp)
    rw [hsaved, h.cooldowns.key_of_get hget]
    exact hget

/-- A cooldown that is cleared in the duel is back after it. -/
theorem duel_gives_cooldowns_back_cleared :
    let h := (SpellHistory.empty.startCooldown 0 1 0 0 7 1000 false).1
    ((run CooldownOp.apply h.saveCooldownStateBeforeDuel
      [.clear 1]).restoreCooldownStateAfterDuel id).cooldowns = h.cooldowns :=
  (duel_gives_cooldowns_back _ [.clear 1] id (by simp)).1

end RustyCore.Units
