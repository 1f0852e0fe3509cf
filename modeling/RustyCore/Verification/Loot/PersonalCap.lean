import RustyCore.Verification.Loot.PersonalWalks
import RustyCore.Verification.Loot.SharedFill

/-! # The cap of a looter's personal loot

Plain rows and groups stop at the cap of the whole loot. The rounds of a reference row do not
look at it, so they decide whether each looter stays within the cap. -/

namespace RustyCore.Loot

open CallTree

variable {φ σ : Type}

def itemsOf (looter : ObjectGuid) (generated : List (GeneratedPersonalLootItem φ)) :
    List (GeneratedPersonalLootItem φ) := generated.filter fun held => held.looter = looter

/-- The numbers of a looter's items, as the entries show them. -/
def entryIds (addonMetadata : BitVec 32 → ItemTemplateAddonLootMetadata) (looter : ObjectGuid)
    (generated : List (GeneratedPersonalLootItem φ)) : List ℕ :=
  (itemsOf looter generated).map fun held =>
    (generatedCreatureLootItemToEntry held.item (addonMetadata held.item.itemId)).lootListId

/-- No looter has more items than the cap, or two items with one number. -/
def WithinCap (addonMetadata : BitVec 32 → ItemTemplateAddonLootMetadata)
    (generated : List (GeneratedPersonalLootItem φ)) : Prop :=
  ∀ looter, (itemsOf looter generated).length ≤ maxNrLootItems ∧
    (entryIds addonMetadata looter generated).Nodup

/-- The next items find room among the looter's items: there are few enough of them, and none
has a number that the new ones get. -/
def FitsAmong (looter : ObjectGuid) (count : ℕ)
    (generated : List (GeneratedPersonalLootItem φ)) : Prop :=
  (itemsOf looter generated).length + count ≤ maxNrLootItems ∧
    ∀ j < count, ∀ held ∈ itemsOf looter generated,
      held.item.lootListId % 256 ≠ (generated.length + j) % 256

/-- What the round hands over finds room. -/
def LooterRound.Fits (floats : LootFloats φ) (env : PersonalFillEnvironment φ σ)
    (options : LootFillOptions φ) (stores : LootStores φ) (depth : ℕ) (round : LooterRound φ σ) :
    Prop :=
  ∀ filled, round.filled floats env options stores depth = some filled →
    FitsAmong round.looter filled.generated.length round.state.generated

/-! ## Numbers -/

def NumberedPersonal (generated : List (GeneratedPersonalLootItem φ)) : Prop :=
  generated.map (fun held => held.item.lootListId) = List.range generated.length

theorem NumberedPersonal.push {generated : List (GeneratedPersonalLootItem φ)}
    (h : NumberedPersonal generated) {held : GeneratedPersonalLootItem φ}
    (hid : held.item.lootListId = generated.length) : NumberedPersonal (generated ++ [held]) := by
  rw [NumberedPersonal] at h ⊢
  simp [h, hid, List.range_succ]

variable {addonMetadata : BitVec 32 → ItemTemplateAddonLootMetadata}

/-- Loot that is no larger than the cap keeps every looter within it. -/
theorem NumberedPersonal.withinCap {generated : List (GeneratedPersonalLootItem φ)}
    (h : NumberedPersonal generated) (hlength : generated.length ≤ maxNrLootItems) :
    WithinCap addonMetadata generated := by
  intro looter
  refine ⟨(List.length_filter_le _ _).trans hlength, ?_⟩
  have hids : (generated.map fun held => held.item.lootListId % 256).Nodup := by
    have hmod : generated.map (fun held => held.item.lootListId % 256) =
        (List.range generated.length).map (· % 256) := by
      rw [← h, List.map_map]
      rfl
    rw [hmod]
    refine List.nodup_range.map_on fun i hi j hj heq => ?_
    rw [List.mem_range] at hi hj
    rw [maxNrLootItems] at hlength
    omega
  exact hids.sublist (List.filter_sublist.map _)

theorem WithinCap.of_prefix {generated generated' : List (GeneratedPersonalLootItem φ)}
    (hinit : generated <+: generated') (h : WithinCap addonMetadata generated') :
    WithinCap addonMetadata generated := by
  intro looter
  have hsublist : (itemsOf looter generated).Sublist (itemsOf looter generated') :=
    hinit.sublist.filter _
  exact ⟨hsublist.length_le.trans (h looter).1, (h looter).2.sublist (hsublist.map _)⟩

/-! ## Steps -/

variable {start generated result : List (GeneratedPersonalLootItem φ)}

/-- The loot grows, and each looter stays within the cap exactly if `fits` holds. -/
structure Tracks (addonMetadata : BitVec 32 → ItemTemplateAddonLootMetadata) (fits : Prop)
    (start result : List (GeneratedPersonalLootItem φ)) : Prop where
  grows : start <+: result
  numbered : NumberedPersonal result
  withinCap : WithinCap addonMetadata result ↔ WithinCap addonMetadata start ∧ fits

theorem Tracks.trans {fits fits' : Prop} (h : Tracks addonMetadata fits start generated)
    (h' : Tracks addonMetadata fits' generated result) :
    Tracks addonMetadata (fits ∧ fits') start result where
  grows := h.grows.trans h'.grows
  numbered := h'.numbered
  withinCap := by rw [h'.withinCap, h.withinCap, and_assoc]

theorem Tracks.congr {fits fits' : Prop} (h : Tracks addonMetadata fits start result)
    (hiff : fits ↔ fits') : Tracks addonMetadata fits' start result where
  grows := h.grows
  numbered := h.numbered
  withinCap := by rw [h.withinCap, hiff]

theorem Tracks.refl (hnumbered : NumberedPersonal start) :
    Tracks addonMetadata True start start where
  grows := List.prefix_refl _
  numbered := hnumbered
  withinCap := (and_true _).symm ▸ Iff.rfl

/-- One more item, as long as there is room for it. -/
theorem Tracks.push (hnumbered : NumberedPersonal start) (hroom : start.length < maxNrLootItems)
    {held : GeneratedPersonalLootItem φ} (hid : held.item.lootListId = start.length) :
    Tracks addonMetadata True start (start ++ [held]) := by
  have hnumbered' := hnumbered.push hid
  have hlength : (start ++ [held]).length ≤ maxNrLootItems := by
    rw [List.length_append]
    exact hroom
  refine ⟨List.prefix_append _ _, hnumbered', ?_⟩
  exact iff_of_true (hnumbered'.withinCap hlength) ⟨hnumbered.withinCap hroom.le, trivial⟩

/-! ## Plain rows and groups -/

section Rows

variable (floats : LootFloats φ) (env : PersonalFillEnvironment φ σ) (options : LootFillOptions φ)
variable {state : PersonalFillState φ σ}

theorem addPersonalStacks_tracks (looter : ObjectGuid) (context : LootStoreItemContext φ)
    (metadata : LootItemTemplateMetadata) (remaining : ℕ) (count : BitVec 32)
    (hstate : state.generated = start) (hnumbered : NumberedPersonal start) :
    Tracks addonMetadata True start
      (addPersonalStacks env options looter context metadata remaining count state).generated := by
  induction remaining generalizing count state start with
  | zero =>
    subst hstate
    exact .refl hnumbered
  | succ remaining ih =>
    subst hstate
    rw [addPersonalStacks]
    split
    · exact .refl hnumbered
    case isFalse hroom =>
      have hlength : state.generated.length < maxNrLootItems :=
        not_le.mp fun h => hroom (decide_eq_true h)
      refine ((Tracks.push hnumbered hlength ?_).trans
        (ih _ rfl (hnumbered.push ?_))).congr (and_self_iff)
      · rfl
      · rfl

theorem addGeneratedPersonalLootItem_tracks (looter : ObjectGuid)
    (context : LootStoreItemContext φ) (hstate : state.generated = start)
    (hnumbered : NumberedPersonal start) :
    Tracks addonMetadata True start
      (addGeneratedPersonalLootItem env options looter context state).generated := by
  subst hstate
  rw [addGeneratedPersonalLootItem]
  split
  · exact .refl hnumbered
  split
  · exact .refl hnumbered
  · exact addPersonalStacks_tracks env options looter context _ _ _ rfl hnumbered

theorem processPersonalRoot_tracks (group : LootGroup φ) (call : TemplateCall φ)
    (looter : ObjectGuid) (hstate : state.generated = start) (hnumbered : NumberedPersonal start) :
    Tracks addonMetadata True start
      (group.processPersonalRoot floats env options call looter state).generated := by
  subst hstate
  rw [LootGroup.processPersonalRoot]
  split
  · exact .refl hnumbered
  · exact addGeneratedPersonalLootItem_tracks env options looter _ rfl hnumbered

end Rows

/-! ## Rounds -/

def handedOver (looter : ObjectGuid) (items : List (GeneratedLootItem φ)) (first : ℕ) :
    List (GeneratedPersonalLootItem φ) :=
  items.mapIdx fun j item => ⟨looter, { item with lootListId := first + j }⟩

theorem pushForLooter_eq (looter : ObjectGuid) (items : List (GeneratedLootItem φ))
    (generated : List (GeneratedPersonalLootItem φ)) :
    pushForLooter looter items generated =
      generated ++ handedOver looter items generated.length := by
  induction items generalizing generated with
  | nil => simp [pushForLooter, handedOver]
  | cons item items ih =>
    rw [pushForLooter, ih, handedOver, handedOver, List.mapIdx_cons, List.append_assoc]
    simp [Nat.add_assoc, Nat.add_comm 1]

theorem numbered_pushForLooter (looter : ObjectGuid) (items : List (GeneratedLootItem φ))
    (hnumbered : NumberedPersonal start) :
    NumberedPersonal (pushForLooter looter items start) := by
  induction items generalizing start with
  | nil => exact hnumbered
  | cons item items ih => exact ih (hnumbered.push rfl)

theorem itemsOf_handedOver (looter looter' : ObjectGuid) (items : List (GeneratedLootItem φ))
    (first : ℕ) : itemsOf looter' (handedOver looter items first) =
      if looter' = looter then handedOver looter items first else [] := by
  split
  case isTrue heq =>
    refine List.filter_eq_self.mpr fun held hmem => ?_
    obtain ⟨j, hj, rfl⟩ := List.mem_mapIdx.mp hmem
    exact decide_eq_true heq.symm
  case isFalse hne =>
    refine List.filter_eq_nil_iff.mpr fun held hmem => ?_
    obtain ⟨j, hj, rfl⟩ := List.mem_mapIdx.mp hmem
    exact fun h => hne (of_decide_eq_true h).symm

theorem entryIds_handedOver (looter : ObjectGuid) (items : List (GeneratedLootItem φ))
    (first : ℕ) : entryIds addonMetadata looter (handedOver looter items first) =
      (List.range items.length).map fun j => (first + j) % 256 := by
  rw [entryIds, itemsOf_handedOver, if_pos rfl]
  refine List.ext_getElem (by simp [handedOver]) fun j _ _ => ?_
  simp [handedOver, generatedCreatureLootItemToEntry]

theorem nodup_newIds {count first : ℕ} (hcount : count ≤ maxNrLootItems) :
    ((List.range count).map fun j => (first + j) % 256).Nodup := by
  refine List.nodup_range.map_on fun i hi j hj heq => ?_
  rw [List.mem_range] at hi hj
  rw [maxNrLootItems] at hcount
  omega

theorem itemsOf_append (looter : ObjectGuid) (generated generated' : List (GeneratedPersonalLootItem φ)) :
    itemsOf looter (generated ++ generated') = itemsOf looter generated ++ itemsOf looter generated' :=
  List.filter_append _ _

theorem entryIds_append (looter : ObjectGuid)
    (generated generated' : List (GeneratedPersonalLootItem φ)) :
    entryIds addonMetadata looter (generated ++ generated') =
      entryIds addonMetadata looter generated ++ entryIds addonMetadata looter generated' := by
  rw [entryIds, itemsOf_append, List.map_append]
  rfl

/-- What is handed over keeps all looters within the cap exactly if it finds room. -/
theorem pushForLooter_tracks (looter : ObjectGuid) (items : List (GeneratedLootItem φ))
    (hnumbered : NumberedPersonal start) :
    Tracks addonMetadata (FitsAmong looter items.length start) start
      (pushForLooter looter items start) := by
  have hlength : (handedOver looter items start.length).length = items.length :=
    List.length_mapIdx
  refine ⟨pushForLooter_eq looter items start ▸ List.prefix_append _ _,
    numbered_pushForLooter looter items hnumbered, ?_⟩
  rw [pushForLooter_eq]
  constructor
  · intro hcap
    refine ⟨hcap.of_prefix (List.prefix_append _ _), ?_, fun j hj held hheld heq => ?_⟩
    · have hcount := (hcap looter).1
      rwa [itemsOf_append, itemsOf_handedOver, if_pos rfl, List.length_append, hlength] at hcount
    · have hnodup := (hcap looter).2
      rw [entryIds_append, entryIds_handedOver] at hnodup
      exact (List.nodup_append.mp hnodup).2.2 _ (List.mem_map_of_mem hheld) _
        (List.mem_map_of_mem (List.mem_range.mpr hj)) heq
  · rintro ⟨hcap, hcount, hdisjoint⟩ looter'
    rw [itemsOf_append, entryIds_append]
    by_cases heq : looter' = looter
    · subst heq
      rw [entryIds_handedOver, itemsOf_handedOver, if_pos rfl, List.length_append, hlength]
      refine ⟨hcount, List.nodup_append.mpr ⟨(hcap looter').2, nodup_newIds ?_, ?_⟩⟩
      · exact (Nat.le_add_left _ _).trans hcount
      · intro id hid id' hid'
        obtain ⟨held, hheld, rfl⟩ := List.mem_map.mp hid
        obtain ⟨j, hj, rfl⟩ := List.mem_map.mp hid'
        exact hdisjoint j (List.mem_range.mp hj) held hheld
    · have hnone : itemsOf looter' (handedOver looter items start.length) = [] := by
        rw [itemsOf_handedOver, if_neg heq]
      rw [entryIds, entryIds, hnone, List.map_nil, List.append_nil, List.append_nil]
      exact hcap looter'

/-! ## Runs -/

section Runs

variable (addonMetadata) (floats : LootFloats φ) (env : PersonalFillEnvironment φ σ)
  (options : LootFillOptions φ) (stores : LootStores φ) (depth : ℕ)
variable {state : PersonalFillState φ σ}

/-- The run of a fill keeps each looter within the cap exactly if all its rounds fit. -/
def Bounded (start : List (GeneratedPersonalLootItem φ))
    (t : PersonalFill φ σ (PersonalFillState φ σ)) : Prop :=
  ∀ result, t.run (processForPersonalLooter floats env options stores depth) = some result →
    Tracks addonMetadata (∀ round, Asks (processForPersonalLooter floats env options stores depth)
      t round → round.Fits floats env options stores depth) start result.generated

variable {addonMetadata floats env options stores depth}

theorem Bounded.done (h : Tracks addonMetadata True start state.generated) :
    Bounded addonMetadata floats env options stores depth start (.done state) := by
  intro result hrun
  cases hrun
  exact h.congr (iff_of_true trivial fun round hasks => (not_asks_done hasks).elim)

theorem Bounded.stuck : Bounded addonMetadata floats env options stores depth start .stuck :=
  fun _ hrun => by cases hrun

theorem Bounded.bind {t : PersonalFill φ σ (PersonalFillState φ σ)}
    {f : PersonalFillState φ σ → PersonalFill φ σ (PersonalFillState φ σ)}
    (ht : Bounded addonMetadata floats env options stores depth start t)
    (hf : ∀ state, NumberedPersonal state.generated →
      Bounded addonMetadata floats env options stores depth state.generated (f state)) :
    Bounded addonMetadata floats env options stores depth start (t >>= f) := by
  intro result hrun
  rw [run_bind] at hrun
  obtain ⟨state, hstate, hnext⟩ := Option.bind_eq_some_iff.mp hrun
  have htracks := ht state hstate
  refine (htracks.trans (hf state htracks.numbered result hnext)).congr ?_
  simp only [asks_bind_iff hstate, or_imp, forall_and]

theorem Bounded.ask (round : LooterRound φ σ) (hnumbered : NumberedPersonal round.state.generated) :
    Bounded addonMetadata floats env options stores depth round.state.generated
      (CallTree.ask round) := by
  intro result hrun
  have hanswer : processForPersonalLooter floats env options stores depth round = some result := by
    obtain ⟨state, hstate, hdone⟩ := Option.bind_eq_some_iff.mp hrun
    exact Option.some.inj hdone ▸ hstate
  obtain ⟨filled, hfilled, rfl⟩ := Option.map_eq_some_iff.mp hanswer
  refine (pushForLooter_tracks round.looter filled.generated hnumbered).congr ?_
  constructor
  · intro hfits round' hasks filled' hfilled'
    cases hasks with
    | here => exact Option.some.inj (hfilled.symm.trans hfilled') ▸ hfits
    | later _ hlater => exact (not_asks_done hlater).elim
  · exact fun hall => hall round .here filled hfilled

theorem personalRounds_bounded (looters : List ObjectGuid) (call : TemplateCall φ) (rounds : ℕ)
    (gotLoot : List ObjectGuid) (state : PersonalFillState φ σ) (hstate : state.generated = start)
    (hnumbered : NumberedPersonal start) :
    Bounded addonMetadata floats env options stores depth start
      (personalRounds env stores looters depth call rounds gotLoot state) := by
  induction rounds generalizing gotLoot state start with
  | zero =>
    subst hstate
    exact .done (.refl hnumbered)
  | succ rounds ih =>
    subst hstate
    rw [personalRounds]
    split
    · exact .stuck
    dsimp only
    split
    · exact .done (.refl hnumbered)
    split
    · exact .stuck
    · exact Bounded.bind (.ask _ hnumbered) fun filled hfilled => ih _ filled rfl hfilled

theorem processPlainEntry_bounded (looters : List ObjectGuid) (call : TemplateCall φ)
    (item : LootStoreItem φ) (hstate : state.generated = start)
    (hnumbered : NumberedPersonal start) :
    Bounded addonMetadata floats env options stores depth start
      (processPlainEntry env options looters call item state) := by
  subst hstate
  rw [processPlainEntry]
  split
  · exact .stuck
  split
  · exact .done (.refl hnumbered)
  dsimp only
  split
  · exact .stuck
  · exact .done (addGeneratedPersonalLootItem_tracks env options _ _ rfl hnumbered)

theorem processPersonalEntry_bounded (looters : List ObjectGuid) (call : TemplateCall φ)
    (item : LootStoreItem φ) (hnumbered : NumberedPersonal state.generated) :
    Bounded addonMetadata floats env options stores depth state.generated
      (processPersonalEntry floats env options stores looters depth call item state) := by
  rw [processPersonalEntry]
  split
  · exact .done (.refl hnumbered)
  generalize (if options.ratesAllowed = true then env.itemChanceRate item state.environment
    else (floats.one, state.environment)) = rate
  dsimp only
  split
  · exact .done (.refl hnumbered)
  split
  · exact processPlainEntry_bounded looters call item rfl hnumbered
  split
  · exact .done (.refl hnumbered)
  · exact personalRounds_bounded looters _ _ _ _ rfl hnumbered

theorem processPersonalEntries_bounded (looters : List ObjectGuid) (call : TemplateCall φ)
    (items : List (LootStoreItem φ)) (hnumbered : NumberedPersonal state.generated) :
    Bounded addonMetadata floats env options stores depth state.generated
      (processPersonalEntries floats env options stores looters depth call items state) := by
  induction items generalizing state with
  | nil => exact .done (.refl hnumbered)
  | cons item items ih =>
    rw [processPersonalEntries]
    split
    · exact .done (.refl hnumbered)
    · exact (processPersonalEntry_bounded looters call item hnumbered).bind fun _ hnext => ih hnext

theorem processPersonalGroup_bounded (looters : List ObjectGuid) (call : TemplateCall φ)
    (group : LootGroup φ) (hnumbered : NumberedPersonal state.generated) :
    Bounded addonMetadata floats env options stores depth state.generated
      (processPersonalGroup floats env options looters call group state) := by
  rw [processPersonalGroup]
  split
  · exact .stuck
  split
  · exact .done (.refl hnumbered)
  dsimp only
  split
  · exact .stuck
  · exact .done (processPersonalRoot_tracks floats env options group call _ rfl hnumbered)

theorem processPersonalGroups_bounded (looters : List ObjectGuid) (call : TemplateCall φ)
    (groups : List (LootGroup φ)) (hnumbered : NumberedPersonal state.generated) :
    Bounded addonMetadata floats env options stores depth state.generated
      (processPersonalGroups floats env options looters call groups state) := by
  induction groups generalizing state with
  | nil => exact .done (.refl hnumbered)
  | cons group groups ih =>
    rw [processPersonalGroups]
    split
    · exact .done (.refl hnumbered)
    · exact (processPersonalGroup_bounded looters call group hnumbered).bind
        fun _ hnext => ih hnext

theorem processPersonal_bounded (looters : List ObjectGuid) (call : TemplateCall φ)
    (hnumbered : NumberedPersonal state.generated) :
    Bounded addonMetadata floats env options stores depth state.generated
      (processPersonal floats env options stores looters depth call state) :=
  (processPersonalEntries_bounded looters call _ hnumbered).bind fun _ hnext =>
    processPersonalGroups_bounded looters call _ hnext

end Runs

/-- A personal fill keeps every looter within the cap exactly if all its rounds find room for
what they hand over. -/
theorem personal_loot_withinCap_iff (floats : LootFloats φ) {stores : LootStores φ}
    {env : PersonalFillEnvironment φ σ} (hindex : env.IndexInRange) {store : LootStore φ}
    {lootId : BitVec 32} {template : LootTemplate φ}
    (htemplate : store.getLootFor lootId = some template)
    (hacyclic : ¬ EndlessReferences stores template) (options : LootFillOptions φ)
    (looters : List ObjectGuid) (storeKind : LootStoreKind) (s : σ)
    (addonMetadata : BitVec 32 → ItemTemplateAddonLootMetadata) :
    (∃ depth, (store.fillPersonalLootWithContext floats env options stores looters depth lootId
        storeKind s).isSome) ∧
      ∀ depth generated, store.fillPersonalLootWithContext floats env options stores looters depth
          lootId storeKind s = some (.ok generated) →
        (WithinCap addonMetadata generated ↔
          ∀ round, Asks (processForPersonalLooter floats env options stores depth)
            (processPersonal floats env options stores looters depth
              ⟨template, storeKind, lootId, 0⟩ ⟨s, []⟩) round →
            round.Fits floats env options stores depth) := by
  refine ⟨fillPersonalLoot_isSome floats options stores hindex htemplate hacyclic looters
    storeKind s, fun depth generated hfill => ?_⟩
  simp only [LootStore.fillPersonalLootWithContext, htemplate] at hfill
  obtain ⟨result, hresult, hok⟩ := Option.map_eq_some_iff.mp hfill
  obtain rfl : result.generated = generated := Except.ok.inj hok
  have hempty : NumberedPersonal ([] : List (GeneratedPersonalLootItem φ)) := rfl
  have htracks : Tracks addonMetadata _ _ _ := processPersonal_bounded looters _ hempty result hresult
  rw [htracks.withinCap]
  exact and_iff_right (hempty.withinCap (Nat.zero_le _))

/-! ## Two rounds -/

def tenItemRows : List (LootTemplateRow ℤ) :=
  (List.range 10).map fun i => ⟨1, ⟨BitVec.ofNat 32 (i + 1), 0, 100, false, 1, 0, 1, 1⟩⟩

def tenItemStore : LootStore ℤ :=
  ((LootStore.forKind .reference).loadRows wholeChances tenItemRows fun _ => true).1

def tenItemsRow (rounds : BitVec 8) : LootTemplateRow ℤ := ⟨1, ⟨0, 1, 100, false, 1, 0, 1, rounds⟩⟩

def roundsStore (rounds : BitVec 8) : LootStore ℤ :=
  ((LootStore.forKind .creature).loadRows wholeChances [tenItemsRow rounds] fun _ => true).1

def steadyPersonalEnvironment : PersonalFillEnvironment ℤ Unit where
  genPercent s := (0, s)
  genCount minCount _ s := (minCount.setWidth 32, s)
  genIndex _ s := (0, s)
  itemTemplate _ s := (some ⟨1, false, false⟩, s)
  itemChanceRate _ s := (1, s)
  itemAllowed _ _ s := (true, s)
  randomProperties _ s := (⟨0, 0⟩, s)

def tenItemStores : LootStores ℤ := AList.singleton .reference tenItemStore

def fillForOne (rounds : BitVec 8) (depth : ℕ) :
    Option (Except LootFillError (List (GeneratedPersonalLootItem ℤ))) :=
  (roundsStore rounds).fillPersonalLootWithContext wholeChances steadyPersonalEnvironment
    ⟨1, true, 1, 0⟩ tenItemStores [⟨0, 1⟩] depth 1 .creature ()

theorem not_endlessReferences_tenItems (rounds : BitVec 8) :
    ¬ EndlessReferences tenItemStores ⟨[(tenItemsRow rounds).item], []⟩ := by
  refine not_endlessReferences_of_targets fun item hmem target htarget => ?_
  obtain rfl := List.mem_singleton.mp hmem
  have htenItems : tenItemStores.referenceTemplate (tenItemsRow rounds).item.reference =
    some ⟨tenItemRows.map LootTemplateRow.item, []⟩ := rfl
  obtain rfl := Option.some.inj (htenItems.symm.trans htarget)
  decide

/-- One round of ten items finds room. -/
theorem personal_loot_withinCap_iff_one_round :
    ((∃ depth, (fillForOne 1 depth).isSome) ∧
      ∀ depth generated, fillForOne 1 depth = some (.ok generated) →
        (WithinCap (fun _ => ⟨0⟩) generated ↔
          ∀ round, Asks (processForPersonalLooter wholeChances steadyPersonalEnvironment
              ⟨1, true, 1, 0⟩ tenItemStores depth)
            (processPersonal wholeChances steadyPersonalEnvironment ⟨1, true, 1, 0⟩ tenItemStores
              [⟨0, 1⟩] depth ⟨⟨[(tenItemsRow 1).item], []⟩, .creature, 1, 0⟩ ⟨(), []⟩) round →
            round.Fits wholeChances steadyPersonalEnvironment ⟨1, true, 1, 0⟩ tenItemStores depth)) ∧
      ∃ generated, fillForOne 1 1 = some (.ok generated) ∧
        (itemsOf ⟨0, 1⟩ generated).length = 10 :=
  ⟨personal_loot_withinCap_iff wholeChances (fun _ _ hpos => hpos) rfl
    (not_endlessReferences_tenItems 1) _ _ _ _ _, _, rfl, by decide⟩

/-- Two rounds of ten items give the only looter more than the cap. -/
theorem personal_loot_exceeds_cap :
    ∃ generated, fillForOne 2 1 = some (.ok generated) ∧
      (itemsOf ⟨0, 1⟩ generated).length = 20 ∧ ¬ WithinCap (fun _ => ⟨0⟩) generated := by
  refine ⟨_, rfl, by decide, fun h => ?_⟩
  exact absurd (h ⟨0, 1⟩).1 (by decide)

end RustyCore.Loot
