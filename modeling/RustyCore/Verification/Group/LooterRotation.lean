import RustyCore.Library.Rotation
import RustyCore.Model.Group.Loading
import RustyCore.Verification.Group.Roster

/-! # The round-robin looter

The next looter is searched for behind the slot of the current one and around the
roster. Over one round every eligible member has its turn. -/

namespace RustyCore.Group

namespace GroupInfo

variable {group : GroupInfo} {eligible : List ObjectGuid}

def joinOrder (group : GroupInfo) : List ObjectGuid := group.memberSlots.map GroupMemberSlot.guid

/-! ## Groups that can arise -/

/-- An edit of anything but who the members are. -/
def SameMembers (group edited : GroupInfo) : Prop :=
  edited.members = group.members ∧ edited.joinOrder = group.joinOrder

/-- A group that was created or loaded, and then joined, left and edited. -/
inductive Formed : GroupInfo → Prop where
  | created (groupGuid dbStoreId : ℕ) (leader : ObjectGuid) :
      Formed (GroupInfo.new groupGuid dbStoreId leader)
  | loaded {runtimeGroupGuid : ℕ} {row : GroupDbRow} {leader : Option GroupMemberCharacter}
      {difficultyStore : GroupDifficultyValidator} {group : GroupInfo} :
      loadGroupFromDbRowValidatedLikeCpp runtimeGroupGuid row leader difficultyStore = some group →
      Formed group
  | loadedMember {group : GroupInfo} (guidLow : ℕ) (memberFlags : BitVec 8) (subgroup roles : ℕ)
      (character : Option GroupMemberCharacter) : Formed group →
      Formed (group.loadMemberFromDbLikeCpp guidLow memberFlags subgroup roles character).2
  | joined {group joined : GroupInfo} {guid : ObjectGuid} : Formed group →
      group.addMember guid = some joined → Formed joined
  | left {group : GroupInfo} (guid : ObjectGuid) : Formed group → Formed (group.removeMember guid)
  | edited {group edited : GroupInfo} : Formed group → SameMembers group edited → Formed edited

/-- The two rosters list the same members, none of them twice. -/
def Distinct (group : GroupInfo) : Prop := group.members = group.joinOrder ∧ group.joinOrder.Nodup

theorem Distinct.append (h : group.Distinct) {guid : ObjectGuid} (hnew : guid ∉ group.members)
    {grown : GroupInfo} (hmembers : grown.members = group.members ++ [guid])
    (horder : grown.joinOrder = group.joinOrder ++ [guid]) : grown.Distinct := by
  refine ⟨by rw [hmembers, horder, h.1], ?_⟩
  rw [horder, ← List.concat_eq_append, List.nodup_concat]
  exact ⟨h.1 ▸ hnew, h.2⟩

theorem joinOrder_removeMember (group : GroupInfo) (guid : ObjectGuid) :
    (group.removeMember guid).joinOrder =
      group.joinOrder.filter (fun member => member != guid) := by
  obtain ⟨counts, hremoved⟩ := group.removeMember_eq guid
  rw [hremoved, joinOrder, joinOrder, List.filter_map]
  rfl

theorem members_removeMember (group : GroupInfo) (guid : ObjectGuid) :
    (group.removeMember guid).members = group.members.filter (fun member => member != guid) := by
  obtain ⟨counts, hremoved⟩ := group.removeMember_eq guid
  rw [hremoved]

theorem Distinct.removeMember (h : group.Distinct) (guid : ObjectGuid) :
    (group.removeMember guid).Distinct := by
  refine ⟨?_, ?_⟩
  · rw [members_removeMember, joinOrder_removeMember, h.1]
  · rw [joinOrder_removeMember]
    exact h.2.filter _

/-- Loading a member drops the slot it had, so that it never has two. -/
theorem Distinct.loadMember (h : group.Distinct) (guidLow : ℕ) (memberFlags : BitVec 8)
    (subgroup roles : ℕ) (character : Option GroupMemberCharacter) :
    (group.loadMemberFromDbLikeCpp guidLow memberFlags subgroup roles character).2.Distinct := by
  unfold loadMemberFromDbLikeCpp
  cases character with
  | none => exact h
  | some character =>
  cases hguid : playerFromLow guidLow with
  | none => exact h
  | some guid =>
  simp only
  split_ifs
  · exact h
  have hdropped := h.removeMember guid
  cases hcounted : (group.removeMember guid).subgroupCounterIncreaseLikeCpp subgroup with
  | none => exact hdropped
  | some counted =>
    obtain ⟨counts, rfl⟩ := subgroupCounterIncrease_eq hcounted
    refine hdropped.append ?_ (rfl : _ = _ ++ [guid]) ?_
    · rw [members_removeMember]
      simp
    · simp [joinOrder]

theorem Formed.distinct (h : group.Formed) : group.Distinct := by
  induction h with
  | created groupGuid dbStoreId leader => exact ⟨rfl, List.nodup_singleton leader⟩
  | @loaded runtimeGroupGuid row leader difficultyStore group hload =>
    unfold loadGroupFromDbRowValidatedLikeCpp at hload
    split at hload
    · obtain rfl := Option.some.inj hload
      exact ⟨rfl, List.nodup_nil⟩
    · cases hload
  | loadedMember guidLow memberFlags subgroup roles character _ ih =>
    exact ih.loadMember guidLow memberFlags subgroup roles character
  | joined _ hadd ih =>
    obtain ⟨hnew, subgroup, counts, -, -, rfl⟩ := addMember_eq hadd
    exact ih.append hnew rfl (by simp [joinOrder, GroupMemberSlot.joined])
  | left guid _ ih => exact ih.removeMember guid
  | edited _ hsame ih => exact ⟨by rw [hsame.1, hsame.2, ih.1], hsame.2 ▸ ih.2⟩

/-! ## The rotation -/

/-- The eligible members in the order they joined. -/
def eligibleMembers (group : GroupInfo) (eligible : List ObjectGuid) : List ObjectGuid :=
  group.joinOrder.filter fun guid => eligible.contains guid

/-- Where the current looter sits; a looter without a slot counts as the last one, so that
the first slot comes next. -/
def looterSlot (group : GroupInfo) : ℕ :=
  (group.slotIndex group.looterGuidLikeCpp).getD (group.joinOrder.length - 1)

/-- `guid` is the first eligible member strictly after the current looter, in cyclic order. -/
def NextEligible (group : GroupInfo) (eligible : List ObjectGuid) (guid : ObjectGuid) : Prop :=
  guid ∈ eligible ∧ ∃ steps, 0 < steps ∧ steps ≤ group.joinOrder.length ∧
    group.joinOrder[(group.looterSlot + steps) % group.joinOrder.length]? = some guid ∧
    ∀ fewer, 0 < fewer → fewer < steps → ∀ other,
      group.joinOrder[(group.looterSlot + fewer) % group.joinOrder.length]? = some other →
      other ∉ eligible

/-- One turn of the rotation. -/
def advanceLooter (group : GroupInfo) (eligible : List ObjectGuid) : GroupInfo :=
  (group.updateLooterGuidLikeCpp eligible false).2

/-! ## One turn -/

theorem slotIndex_eq_findIdx? (group : GroupInfo) (guid : ObjectGuid) :
    group.slotIndex guid = group.joinOrder.findIdx? (fun member => member == guid) := by
  rw [joinOrder, List.findIdx?_map]
  rfl

theorem looterSearchStart_eq_startAfter (group : GroupInfo) :
    group.looterSearchStart = startAfter group.looterGuidLikeCpp group.joinOrder := by
  have hindex := group.slotIndex_eq_findIdx? group.looterGuidLikeCpp
  unfold looterSearchStart startAfter
  generalize group.joinOrder.findIdx? _ = found at hindex
  subst hindex
  cases group.slotIndex group.looterGuidLikeCpp <;> rfl

theorem nextLooter_eq_findAfter (group : GroupInfo) (eligible : List ObjectGuid) :
    group.nextLooter eligible = findAfter (fun guid => eligible.contains guid)
      group.looterGuidLikeCpp group.joinOrder := by
  have hscan : ∀ slots : List GroupMemberSlot,
      (slots.findSome? fun slot => if eligible.contains slot.guid then some slot.guid else none) =
        (slots.map GroupMemberSlot.guid).find? fun guid => eligible.contains guid := by
    intro slots
    induction slots with
    | nil => rfl
    | cons slot slots ih =>
      rw [List.map_cons, List.find?_cons, List.findSome?_cons]
      cases eligible.contains slot.guid with
      | true => rfl
      | false => exact ih
  rw [nextLooter, hscan, List.map_append, List.map_drop, List.map_take,
    looterSearchStart_eq_startAfter]
  rfl

theorem updateLooterGuid_frame (group : GroupInfo) (eligible : List ObjectGuid) (ifneed : Bool) :
    (group.updateLooterGuidLikeCpp eligible ifneed).2 =
      { group with looterGuid := (group.updateLooterGuidLikeCpp eligible ifneed).2.looterGuid } := by
  unfold updateLooterGuidLikeCpp
  split_ifs <;> rfl

theorem joinOrder_advanceLooter (group : GroupInfo) (eligible : List ObjectGuid) :
    (group.advanceLooter eligible).joinOrder = group.joinOrder := by
  rw [advanceLooter, updateLooterGuid_frame]
  rfl

theorem lootMethod_advanceLooter (group : GroupInfo) (eligible : List ObjectGuid) :
    (group.advanceLooter eligible).lootMethod = group.lootMethod := by
  rw [advanceLooter, updateLooterGuid_frame]

theorem looterGuid_advanceLooter (hmethod : group.lootMethod ≠ lootMethodFreeForAll)
    {guid : ObjectGuid} (h : group.nextLooter eligible = some guid) :
    (group.advanceLooter eligible).looterGuidLikeCpp = guid := by
  rw [looterGuidLikeCpp, lootMethod_advanceLooter, if_neg hmethod]
  have hlooter : group.looterGuidLikeCpp = group.looterGuid := if_neg hmethod
  unfold advanceLooter updateLooterGuidLikeCpp
  rw [if_neg hmethod, if_neg (by simp), h, hlooter]
  by_cases hsame : some guid = some group.looterGuid
  · rw [if_pos hsame]
    exact (Option.some.inj hsame).symm
  · rw [if_neg hsame]
    rfl

theorem eligibleMembers_pos (hmember : ∃ guid ∈ group.joinOrder, guid ∈ eligible) :
    0 < (group.eligibleMembers eligible).length := by
  obtain ⟨guid, hguid, heligible⟩ := hmember
  exact List.length_pos_of_mem (List.mem_filter.mpr ⟨hguid, by simpa using heligible⟩)

theorem nextLooter_of_member (hmember : ∃ guid ∈ group.joinOrder, guid ∈ eligible)
    (hmethod : group.lootMethod ≠ lootMethodFreeForAll) :
    group.nextLooter eligible = some (group.advanceLooter eligible).looterGuidLikeCpp := by
  obtain ⟨r, hr, hfound⟩ := findAfter_exists (eligibleMembers_pos hmember) group.looterGuidLikeCpp
  rw [List.getElem?_eq_getElem hr] at hfound
  have hnext := (nextLooter_eq_findAfter group eligible).trans hfound
  rw [looterGuid_advanceLooter hmethod hnext, hnext]

theorem looterSearchStart_le (group : GroupInfo) :
    group.looterSearchStart ≤ group.joinOrder.length := by
  unfold looterSearchStart
  cases hindex : group.slotIndex group.looterGuidLikeCpp with
  | none => exact Nat.zero_le _
  | some index =>
    rw [slotIndex_eq_findIdx?] at hindex
    exact (List.getElem?_eq_some_iff.mp (findIdx?_beq_eq_some hindex)).1

theorem looterSlot_add (hpos : 0 < group.joinOrder.length) (k : ℕ) :
    (group.looterSlot + (k + 1)) % group.joinOrder.length =
      (group.looterSearchStart + k) % group.joinOrder.length := by
  unfold looterSlot looterSearchStart
  cases group.slotIndex group.looterGuidLikeCpp with
  | some index =>
    change (index + (k + 1)) % _ = (index + 1 + k) % _
    congr 1
    omega
  | none =>
    change (group.joinOrder.length - 1 + (k + 1)) % _ = (0 + k) % _
    have hwrap : group.joinOrder.length - 1 + (k + 1) = k + group.joinOrder.length := by omega
    rw [hwrap, Nat.add_mod_right, Nat.zero_add]

theorem nextEligible_of_nextLooter {guid : ObjectGuid} (h : group.nextLooter eligible = some guid) :
    group.NextEligible eligible guid := by
  rw [nextLooter_eq_findAfter] at h
  have hfrom : findFrom (fun guid => eligible.contains guid) group.looterSearchStart
      group.joinOrder = some guid := by
    rw [← h, findAfter, looterSearchStart_eq_startAfter]
  obtain ⟨k, hk, hat, heligible, hbefore⟩ := findFrom_steps group.looterSearchStart_le hfrom
  have hpos : 0 < group.joinOrder.length := by omega
  refine ⟨by simpa using heligible, k + 1, by omega, hk, by rw [looterSlot_add hpos]; exact hat, ?_⟩
  intro fewer hfewer hlt other hother
  obtain ⟨j, rfl⟩ : ∃ j, fewer = j + 1 := ⟨fewer - 1, by omega⟩
  rw [looterSlot_add hpos] at hother
  simpa using hbefore j (by omega) other hother

/-! ## A round -/

def afterTurns (group : GroupInfo) (eligible : List ObjectGuid) (turns : ℕ) : GroupInfo :=
  (fun group => group.advanceLooter eligible)^[turns] group

theorem afterTurns_succ (group : GroupInfo) (eligible : List ObjectGuid) (turns : ℕ) :
    group.afterTurns eligible (turns + 1) =
      (group.afterTurns eligible turns).advanceLooter eligible :=
  Function.iterate_succ_apply' _ turns group

theorem afterTurns_same (group : GroupInfo) (eligible : List ObjectGuid) (turns : ℕ) :
    (group.afterTurns eligible turns).joinOrder = group.joinOrder ∧
      (group.afterTurns eligible turns).lootMethod = group.lootMethod := by
  induction turns with
  | zero => exact ⟨rfl, rfl⟩
  | succ turns ih =>
    rw [afterTurns_succ]
    exact ⟨(joinOrder_advanceLooter _ _).trans ih.1, (lootMethod_advanceLooter _ _).trans ih.2⟩

/-- The rotation of the looter is fair: each turn goes to the next eligible member, and
any round of as many turns as there are eligible members gives each of them one. -/
theorem looter_rotation_fair {group : GroupInfo} (hgroup : group.Formed)
    (hmethod : group.lootMethod ≠ lootMethodFreeForAll) (eligible : List ObjectGuid)
    (hmember : ∃ guid ∈ group.members, guid ∈ eligible) :
    group.NextEligible eligible
        (group.updateLooterGuidLikeCpp eligible false).2.looterGuidLikeCpp ∧
      ∀ before,
        ((List.range (group.eligibleMembers eligible).length).map fun turn =>
            (group.afterTurns eligible (before + turn + 1)).looterGuidLikeCpp).Perm
          (group.eligibleMembers eligible) := by
  obtain ⟨hrosters, hnodup⟩ := hgroup.distinct
  rw [hrosters] at hmember
  refine ⟨nextEligible_of_nextLooter (nextLooter_of_member hmember hmethod), fun before => ?_⟩
  refine findAfter_run_perm hnodup (eligibleMembers_pos hmember)
    (f := fun turn => (group.afterTurns eligible turn).looterGuidLikeCpp) (fun turn => ?_) before
  obtain ⟨horder, hsame⟩ := afterTurns_same group eligible turn
  have hnext := nextLooter_of_member (horder ▸ hmember) (hsame ▸ hmethod)
  rw [nextLooter_eq_findAfter, horder] at hnext
  rw [hnext, afterTurns_succ]

/-- The second of three members is not eligible, and its turn goes to the third. -/
theorem looter_rotation_fair_three :
    let group := ((GroupInfo.new 1 1 (player 1)).founded (player 2)).founded (player 3)
    let eligible := [player 3, player 1]
    group.NextEligible eligible (player 3) ∧
      ((List.range 2).map fun turn =>
        (group.afterTurns eligible (0 + turn + 1)).looterGuidLikeCpp).Perm [player 1, player 3] :=
  have htwo : (GroupInfo.new 1 1 (player 1)).addMember (player 2) =
      some ((GroupInfo.new 1 1 (player 1)).founded (player 2)) := by decide +kernel
  have hthree : ((GroupInfo.new 1 1 (player 1)).founded (player 2)).addMember (player 3) =
      some (((GroupInfo.new 1 1 (player 1)).founded (player 2)).founded (player 3)) := by
    decide +kernel
  have hgroup : (((GroupInfo.new 1 1 (player 1)).founded (player 2)).founded (player 3)).Formed :=
    ((Formed.created 1 1 (player 1)).joined htwo).joined hthree
  have h := looter_rotation_fair hgroup (by decide) [player 3, player 1]
    ⟨player 1, by decide, by decide⟩
  ⟨h.1, h.2 0⟩

end GroupInfo

end RustyCore.Group
