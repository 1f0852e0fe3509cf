import RustyCore.Library.Dict
import RustyCore.Model.ObjectGuid

/-! # Conditions and rolls

What decides whether an item is there for a player, and who wins it. -/

/-! ## Loot conditions

The rows of a condition list and the evaluation of a list for a player. A row of a negative type
refers to another list. Only the values that the evaluation itself reads have a meaning here; the
others are for the evaluator. -/

namespace RustyCore.Loot

structure LootConditionRow where
  elseGroup : ℕ
  conditionTypeOrReference : ℤ
  conditionTarget : ℕ
  value1 : ℕ
  value2 : ℕ
  value3 : ℕ
  stringValue1 : String
  negative : Bool
  scriptName : String
deriving DecidableEq

abbrev LootConditionReferences := Dict ℕ (List LootConditionRow)

section Evaluation

variable (references : LootConditionReferences) (evaluate : LootConditionRow → Option Bool)
  (inner : List LootConditionRow → Bool)

/-- What becomes of the flag of a group at a row, where the group was met so far. -/
def nextGroupMeets (condition : LootConditionRow) : Bool :=
  if condition.conditionTypeOrReference < 0 then
    match references.lookup condition.conditionTypeOrReference.natAbs with
    | none => true
    | some referenceConditions => inner referenceConditions
  else if condition.conditionTarget ≠ 0 ∨ condition.stringValue1 ≠ "" ∨
      condition.scriptName ≠ "" then false
  else
    match evaluate condition with
    | none => false
    | some conditionMeets => if condition.negative then !conditionMeets else conditionMeets

/-- `else_group_store`, after the rows. -/
def elseGroupStore : List LootConditionRow → Dict ℕ Bool → Dict ℕ Bool
  | [], store => store
  | condition :: conditions, store =>
    let groupMeets := (store.lookup condition.elseGroup).getD true
    elseGroupStore conditions (AList.insert condition.elseGroup
      (if groupMeets then nextGroupMeets references evaluate inner condition else groupMeets) store)

end Evaluation

/-- `loot_conditions_allow_player_inner_like_cpp`, with the depths that are left. -/
def lootConditionsAllowPlayerInner (references : LootConditionReferences)
    (evaluate : LootConditionRow → Option Bool) : ℕ → List LootConditionRow → Bool
  | 0, conditions => conditions.isEmpty
  | remaining + 1, conditions =>
    conditions.isEmpty ||
      (elseGroupStore references evaluate
        (lootConditionsAllowPlayerInner references evaluate remaining) conditions ∅).anyEntry
          fun _ groupMeets => groupMeets

def lootConditionsAllowPlayerWithReferences (references : LootConditionReferences)
    (evaluate : LootConditionRow → Option Bool) (conditions : List LootConditionRow) : Bool :=
  lootConditionsAllowPlayerInner references evaluate 16 conditions

end RustyCore.Loot

/-! ## Loot rolls

The votes on one item that is rolled for, and the two loops that look for the winner. Voters are
kept in a hash map, so the loops run over its entries in any order. -/

namespace RustyCore.Loot

def rollVotePass : BitVec 8 := 0

def rollVoteNeed : BitVec 8 := 1

def rollVoteGreed : BitVec 8 := 2

def rollVoteDisenchant : BitVec 8 := 3

def rollVoteNotEmittedYet : BitVec 8 := 4

def rollVoteNotValid : BitVec 8 := 5

structure RepresentedLootRollVote where
  vote : BitVec 8
  rollNumber : BitVec 8
deriving DecidableEq

/-- The votes of a roll; what it is about plays no part in who wins. -/
structure RepresentedLootRollState where
  voters : Dict ObjectGuid RepresentedLootRollVote

/-- One voter, as the iteration over the map yields it. -/
abbrev RollVoter := Sigma fun _ : ObjectGuid => RepresentedLootRollVote

/-- `winner.is_none_or(|(_, current)| vote.roll_number > current.roll_number)`. -/
def outrolls (vote : RepresentedLootRollVote)
    (winner : Option (ObjectGuid × RepresentedLootRollVote)) : Bool :=
  winner.all fun current => current.2.rollNumber < vote.rollNumber

def finishWinnerFrom :
    List RollVoter → Option (ObjectGuid × RepresentedLootRollVote) → Bool →
      Option (Option (ObjectGuid × RepresentedLootRollVote))
  | [], winner, _ => some winner
  | ⟨playerGuid, vote⟩ :: voters, winner, hasNeed =>
    if vote.vote = rollVoteNeed then
      if !hasNeed || outrolls vote winner then
        finishWinnerFrom voters (some (playerGuid, vote)) true
      else finishWinnerFrom voters winner hasNeed
    else if vote.vote = rollVoteGreed ∨ vote.vote = rollVoteDisenchant then
      if !hasNeed && outrolls vote winner then
        finishWinnerFrom voters (some (playerGuid, vote)) hasNeed
      else finishWinnerFrom voters winner hasNeed
    else if vote.vote = rollVotePass ∨ vote.vote = rollVoteNotValid then
      finishWinnerFrom voters winner hasNeed
    else if vote.vote = rollVoteNotEmittedYet then none
    else finishWinnerFrom voters winner hasNeed

/-- `represented_loot_roll_finish_winner_like_cpp`: no answer as long as a vote is missing. -/
def representedLootRollFinishWinner (voters : List RollVoter) :
    Option (Option (ObjectGuid × RepresentedLootRollVote)) := finishWinnerFrom voters none false

def currentWinnerFrom :
    List RollVoter → Option (ObjectGuid × RepresentedLootRollVote) → Bool →
      Option (ObjectGuid × RepresentedLootRollVote)
  | [], winner, _ => winner
  | ⟨playerGuid, vote⟩ :: voters, winner, hasNeed =>
    if vote.vote = rollVoteNeed then
      if !hasNeed || outrolls vote winner then
        currentWinnerFrom voters (some (playerGuid, vote)) true
      else currentWinnerFrom voters winner hasNeed
    else if vote.vote = rollVoteGreed ∨ vote.vote = rollVoteDisenchant then
      if !hasNeed && outrolls vote winner then
        currentWinnerFrom voters (some (playerGuid, vote)) hasNeed
      else currentWinnerFrom voters winner hasNeed
    else currentWinnerFrom voters winner hasNeed

/-- `represented_loot_roll_current_winner_like_cpp`: missing votes do not bid. -/
def representedLootRollCurrentWinner (voters : List RollVoter) :
    Option (ObjectGuid × RepresentedLootRollVote) := currentWinnerFrom voters none false

end RustyCore.Loot
