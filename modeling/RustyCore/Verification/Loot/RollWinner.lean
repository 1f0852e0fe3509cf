import Mathlib.Data.List.MinMax
import RustyCore.Model.Loot.Rolls

/-! # The winner of a loot roll

Both loops pick the first of the highest bids, where any need is higher than any greed. -/

namespace RustyCore.Loot

variable {winner : Option (ObjectGuid × RepresentedLootRollVote)} {hasNeed : Bool}
variable {bid : ObjectGuid × RepresentedLootRollVote} {state : RepresentedLootRollState}
  {order : List RollVoter}

/-- Votes that want the item. -/
def RepresentedLootRollVote.Bids (vote : RepresentedLootRollVote) : Prop :=
  vote.vote = rollVoteNeed ∨ vote.vote = rollVoteGreed ∨ vote.vote = rollVoteDisenchant

instance (vote : RepresentedLootRollVote) : Decidable vote.Bids :=
  inferInstanceAs (Decidable (_ ∨ _))

/-- Bids are compared by whether they are needs, then by the roll. -/
def bidRank (voter : ObjectGuid × RepresentedLootRollVote) : Bool ×ₗ ℕ :=
  toLex (decide (voter.2.vote = rollVoteNeed), voter.2.rollNumber.toNat)

/-- The bids, in the order of the iteration. -/
def bids (voters : List RollVoter) : List (ObjectGuid × RepresentedLootRollVote) :=
  (voters.filter fun voter => voter.2.Bids).map fun voter => (voter.1, voter.2)

/-- The winner so far, after one more bid. -/
def outbid (winner : Option (ObjectGuid × RepresentedLootRollVote))
    (bid : ObjectGuid × RepresentedLootRollVote) : Option (ObjectGuid × RepresentedLootRollVote) :=
  List.argAux (fun bid current => bidRank current < bidRank bid) winner bid

/-- The flag of the loops tells whether the winner so far needs the item. -/
def NeedFlag (winner : Option (ObjectGuid × RepresentedLootRollVote)) (hasNeed : Bool) : Prop :=
  hasNeed = winner.any fun current => current.2.vote = rollVoteNeed

theorem outbid_need (hflag : NeedFlag winner hasNeed) (hneed : bid.2.vote = rollVoteNeed) :
    outbid winner bid = if !hasNeed || outrolls bid.2 winner then some bid else winner := by
  cases winner with
  | none => simp [outbid, List.argAux, outrolls]
  | some current =>
    rw [NeedFlag] at hflag
    by_cases hcurrent : current.2.vote = rollVoteNeed
    · simp [outbid, List.argAux, outrolls, hflag, hneed, hcurrent, bidRank,
        Prod.Lex.toLex_lt_toLex, BitVec.lt_def]
    · simp [outbid, List.argAux, outrolls, hflag, hneed, hcurrent, bidRank,
        Prod.Lex.toLex_lt_toLex]

theorem outbid_greed (hflag : NeedFlag winner hasNeed) (hneed : bid.2.vote ≠ rollVoteNeed) :
    outbid winner bid = if !hasNeed && outrolls bid.2 winner then some bid else winner := by
  rw [NeedFlag] at hflag
  cases winner with
  | none => simp [outbid, List.argAux, outrolls, hflag]
  | some current =>
    by_cases hcurrent : current.2.vote = rollVoteNeed
    · simp [outbid, List.argAux, outrolls, hflag, hneed, hcurrent, bidRank,
        Prod.Lex.toLex_lt_toLex]
    · simp [outbid, List.argAux, outrolls, hflag, hneed, hcurrent, bidRank,
        Prod.Lex.toLex_lt_toLex, BitVec.lt_def]

/-- One pass over the voters takes up the bids one after the other. -/
theorem currentWinnerFrom_eq (voters : List RollVoter) (hflag : NeedFlag winner hasNeed) :
    currentWinnerFrom voters winner hasNeed = (bids voters).foldl outbid winner := by
  induction voters generalizing winner hasNeed with
  | nil => rfl
  | cons voter voters ih =>
    obtain ⟨playerGuid, vote⟩ := voter
    rw [currentWinnerFrom]
    split
    case isTrue hneed =>
      have hbids : bids (⟨playerGuid, vote⟩ :: voters) = (playerGuid, vote) :: bids voters := by
        simp [bids, RepresentedLootRollVote.Bids, hneed]
      rw [hbids, List.foldl_cons, outbid_need hflag hneed]
      split
      · exact ih (by simp [NeedFlag, hneed])
      · exact ih hflag
    case isFalse hneed =>
      split
      case isTrue hgreed =>
        have hbids : bids (⟨playerGuid, vote⟩ :: voters) = (playerGuid, vote) :: bids voters := by
          simp [bids, RepresentedLootRollVote.Bids, hneed, hgreed]
        rw [hbids, List.foldl_cons, outbid_greed hflag hneed]
        split
        case isTrue hwins =>
          obtain ⟨hnone, -⟩ := Bool.and_eq_true_iff.mp hwins
          refine ih ?_
          simpa [NeedFlag, hneed] using hnone
        case isFalse => exact ih hflag
      case isFalse hgreed =>
        have hbids : bids (⟨playerGuid, vote⟩ :: voters) = bids voters := by
          simp [bids, RepresentedLootRollVote.Bids, hneed, hgreed]
        rw [hbids]
        exact ih hflag

theorem representedLootRollCurrentWinner_eq (voters : List RollVoter) :
    representedLootRollCurrentWinner voters = (bids voters).argmax bidRank :=
  currentWinnerFrom_eq voters rfl

/-- The other loop differs only in that it gives up at a missing vote. -/
theorem finishWinnerFrom_eq (voters : List RollVoter)
    (winner : Option (ObjectGuid × RepresentedLootRollVote)) (hasNeed : Bool) :
    finishWinnerFrom voters winner hasNeed =
      if ∃ voter ∈ voters, voter.2.vote = rollVoteNotEmittedYet then none
      else some (currentWinnerFrom voters winner hasNeed) := by
  induction voters generalizing winner hasNeed with
  | nil => simp [finishWinnerFrom, currentWinnerFrom]
  | cons voter voters ih =>
    obtain ⟨playerGuid, vote⟩ := voter
    rw [finishWinnerFrom, currentWinnerFrom]
    by_cases hmissing : vote.vote = rollVoteNotEmittedYet
    · have hexists : ∃ voter ∈ (⟨playerGuid, vote⟩ :: voters : List RollVoter),
          voter.2.vote = rollVoteNotEmittedYet := ⟨_, List.mem_cons_self, hmissing⟩
      rw [if_pos hexists, hmissing]
      rfl
    · have hrest : (∃ voter ∈ (⟨playerGuid, vote⟩ :: voters : List RollVoter),
          voter.2.vote = rollVoteNotEmittedYet) ↔
            ∃ voter ∈ voters, voter.2.vote = rollVoteNotEmittedYet := by
        simp [hmissing]
      simp only [hrest, if_neg hmissing, ih, ite_self]
      split
      · split <;> rfl
      · split <;> split <;> rfl

/-- Who wins: a voter with the highest roll among those who need the item, or, if there are none,
among those who bid on it at all; nobody if nobody bids. -/
def IsRollWinner (state : RepresentedLootRollState) :
    Option (ObjectGuid × RepresentedLootRollVote) → Prop
  | none => ∀ playerGuid vote, state.voters.lookup playerGuid = some vote → ¬ vote.Bids
  | some (winner, winning) => state.voters.lookup winner = some winning ∧
      ((winning.vote = rollVoteNeed ∧
          ∀ playerGuid vote, state.voters.lookup playerGuid = some vote →
            vote.vote = rollVoteNeed → vote.rollNumber ≤ winning.rollNumber) ∨
        ((∀ playerGuid vote, state.voters.lookup playerGuid = some vote →
            vote.vote ≠ rollVoteNeed) ∧
          (winning.vote = rollVoteGreed ∨ winning.vote = rollVoteDisenchant) ∧
          ∀ playerGuid vote, state.voters.lookup playerGuid = some vote →
            vote.vote = rollVoteGreed ∨ vote.vote = rollVoteDisenchant →
              vote.rollNumber ≤ winning.rollNumber))

theorem mem_bids (horder : order.Perm state.voters.entries) {playerGuid : ObjectGuid}
    {vote : RepresentedLootRollVote} :
    (playerGuid, vote) ∈ bids order ↔
      state.voters.lookup playerGuid = some vote ∧ vote.Bids := by
  simp only [bids, List.mem_map, List.mem_filter, Sigma.exists, Prod.mk.injEq, decide_eq_true_eq,
    horder.mem_iff, Dict.mem_entries_iff]
  constructor
  · rintro ⟨_, _, h, rfl, rfl⟩
    exact h
  · exact fun h => ⟨_, _, h, rfl, rfl⟩

theorem isRollWinner_argmax (horder : order.Perm state.voters.entries) :
    IsRollWinner state ((bids order).argmax bidRank) := by
  cases hwinner : (bids order).argmax bidRank with
  | none =>
    intro playerGuid vote hvote hbids
    have hmem := (mem_bids horder).mpr ⟨hvote, hbids⟩
    rw [List.argmax_eq_none.mp hwinner] at hmem
    cases hmem
  | some bid =>
    obtain ⟨winner, winning⟩ := bid
    obtain ⟨hlookup, hbids⟩ := (mem_bids horder).mp (List.argmax_mem hwinner)
    have hmax : ∀ playerGuid vote, state.voters.lookup playerGuid = some vote → vote.Bids →
        bidRank (playerGuid, vote) ≤ bidRank (winner, winning) := fun playerGuid vote hvote hbids =>
      List.le_of_mem_argmax ((mem_bids horder).mpr ⟨hvote, hbids⟩) hwinner
    refine ⟨hlookup, ?_⟩
    by_cases hneed : winning.vote = rollVoteNeed
    · refine .inl ⟨hneed, fun playerGuid vote hvote hvoteNeed => ?_⟩
      have hle := hmax playerGuid vote hvote (.inl hvoteNeed)
      simpa [bidRank, hneed, hvoteNeed, Prod.Lex.toLex_le_toLex, BitVec.le_def] using hle
    · refine .inr ⟨fun playerGuid vote hvote hvoteNeed => ?_, hbids.resolve_left hneed,
        fun playerGuid vote hvote hgreed => ?_⟩
      · have hle := hmax playerGuid vote hvote (.inl hvoteNeed)
        simp [bidRank, hneed, hvoteNeed, Prod.Lex.toLex_le_toLex] at hle
        exact absurd hle (by decide)
      · have hle := hmax playerGuid vote hvote (.inr hgreed)
        have hvoteNeed : vote.vote ≠ rollVoteNeed := by
          rintro heq
          rcases hgreed with h | h <;> rw [heq] at h <;> cases h
        simpa [bidRank, hneed, hvoteNeed, Prod.Lex.toLex_le_toLex, BitVec.le_def] using hle

/-- The roll is finished once all votes are there, and then both loops, in whatever order they
see the voters, name the same winner, who has the best bid. -/
theorem loot_roll_winner (state : RepresentedLootRollState) {order : List RollVoter}
    (horder : order.Perm state.voters.entries) :
    (representedLootRollFinishWinner order = none ↔
        ∃ playerGuid vote, state.voters.lookup playerGuid = some vote ∧
          vote.vote = rollVoteNotEmittedYet) ∧
      ∀ winner, representedLootRollFinishWinner order = some winner →
        IsRollWinner state winner ∧ representedLootRollCurrentWinner order = winner := by
  have hmissing : (∃ voter ∈ order, voter.2.vote = rollVoteNotEmittedYet) ↔
      ∃ playerGuid vote, state.voters.lookup playerGuid = some vote ∧
        vote.vote = rollVoteNotEmittedYet := by
    simp only [Sigma.exists, horder.mem_iff, Dict.mem_entries_iff]
  rw [representedLootRollFinishWinner, finishWinnerFrom_eq, ← hmissing]
  constructor
  · split
    case isTrue h => exact iff_of_true rfl h
    case isFalse h => exact iff_of_false (by simp) h
  · intro winner hfinish
    split at hfinish
    · cases hfinish
    · obtain rfl := Option.some.inj hfinish
      refine ⟨?_, rfl⟩
      rw [← representedLootRollCurrentWinner, representedLootRollCurrentWinner_eq]
      exact isRollWinner_argmax horder

def needBeatsGreed : RepresentedLootRollState where
  voters := AList.insert ⟨0, 1⟩ ⟨rollVoteGreed, 90⟩ (AList.singleton ⟨0, 2⟩ ⟨rollVoteNeed, 12⟩)

theorem loot_roll_winner_need_beats_greed :
    (representedLootRollFinishWinner needBeatsGreed.voters.entries = none ↔
        ∃ playerGuid vote, needBeatsGreed.voters.lookup playerGuid = some vote ∧
          vote.vote = rollVoteNotEmittedYet) ∧
      (∀ winner, representedLootRollFinishWinner needBeatsGreed.voters.entries = some winner →
        IsRollWinner needBeatsGreed winner ∧
          representedLootRollCurrentWinner needBeatsGreed.voters.entries = winner) ∧
      representedLootRollFinishWinner needBeatsGreed.voters.entries =
        some (some (⟨0, 2⟩, ⟨rollVoteNeed, 12⟩)) := by
  have hwinner := loot_roll_winner needBeatsGreed (List.Perm.refl _)
  exact ⟨hwinner.1, hwinner.2, by decide⟩

end RustyCore.Loot
