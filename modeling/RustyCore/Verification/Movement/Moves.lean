import RustyCore.Model.Movement.MotionMaster

/-! # What the calls of a motion master do

Every call is made of a few moves: a generator is removed and finalized, or a callback runs
on one that stays. The order of the stack and the references follow from the moves alone. -/

namespace RustyCore.Movement

open Relation

variable {γ ω : Type}
variable {s' s : Stage γ ω} {movement : γ}

namespace MovementGenerator

variable (gen : MovementGenerator γ ω)

def priority (generator : γ) : MovementGeneratorPriority := (gen.state generator).priority

def baseUnitState (generator : γ) : BitVec 32 := (gen.state generator).baseUnitState

/-- The two readings that the stack is built on. -/
def rank (generator : γ) : MovementGeneratorPriority × BitVec 32 :=
  (gen.priority generator, gen.baseUnitState generator)

/-- No callback changes the priority or the base unit state of its generator. -/
structure KeepsRank : Prop where
  init : ∀ g w, gen.rank (gen.init g w).1 = gen.rank g
  reset : ∀ g w, gen.rank (gen.reset g w).1 = gen.rank g
  update : ∀ g diffMs w, gen.rank (gen.update g diffMs w).2.1 = gen.rank g
  deactivate : ∀ g w, gen.rank (gen.deactivate g w).1 = gen.rank g
  finalize : ∀ g active movementInform w,
    gen.rank (gen.finalize g active movementInform w).1 = gen.rank g

end MovementGenerator

/-- The callbacks on a generator that stays, without `update`. -/
inductive Callback where
  | init
  | reset
  | deactivate
deriving DecidableEq

def MovementGenerator.callback (gen : MovementGenerator γ ω) : Callback → γ → ω → γ × ω
  | .init => gen.init
  | .reset => gen.reset
  | .deactivate => gen.deactivate

theorem MovementGenerator.KeepsRank.callback {gen : MovementGenerator γ ω} (h : gen.KeepsRank)
    (c : Callback) (g : γ) (w : ω) : gen.rank (gen.callback c g w).1 = gen.rank g := by
  cases c with
  | init => exact h.init g w
  | reset => exact h.reset g w
  | deactivate => exact h.deactivate g w

variable (gen : MovementGenerator γ ω)

/-- The elementary changes of a stack. -/
inductive Move : Stage γ ω → Stage γ ω → Prop
  | remove {s : Stage γ ω} {before after : List γ} {movement : γ} (active movementInform : Bool)
      (h : s.master.activeGenerators = before ++ movement :: after) :
      Move s
        { master := MotionMaster.clearBaseUnitState
            { s.master with activeGenerators := before ++ after }
            (gen.baseUnitState (gen.finalize movement active movementInform s.world).1)
          world := (gen.finalize movement active movementInform s.world).2 }
  | removeDefault {s : Stage γ ω} {generator : γ} (active movementInform : Bool)
      (h : s.master.defaultGenerator = some generator) :
      Move s
        { master := { s.master with defaultGenerator := none }
          world := (gen.finalize generator active movementInform s.world).2 }
  | callActive {s : Stage γ ω} {before after : List γ} {generator : γ} (c : Callback)
      (h : s.master.activeGenerators = before ++ generator :: after) :
      Move s
        { master :=
            { s.master with
              activeGenerators := before ++ (gen.callback c generator s.world).1 :: after }
          world := (gen.callback c generator s.world).2 }
  | callDefault {s : Stage γ ω} {generator : γ} (c : Callback)
      (h : s.master.defaultGenerator = some generator) :
      Move s
        { master :=
            { s.master with
              defaultGenerator := some (gen.callback c generator s.world).1 }
          world := (gen.callback c generator s.world).2 }
  | dropRefs {s : Stage γ ω} (h : s.master.activeGenerators = []) :
      Move s { s with master := { s.master with baseUnitStateRefs := [] } }

abbrev Moves : Stage γ ω → Stage γ ω → Prop := ReflTransGen (Move gen)

/-- A generator put into its place, which nothing holds any more. -/
inductive Put (movement : γ) : Stage γ ω → Stage γ ω → Prop
  | default {s : Stage γ ω} (flags : MotionMasterFlags) (hnone : s.master.defaultGenerator = none)
      (hflags : flags = s.master.flags ∨
        flags = s.master.flags ||| MotionMasterFlags.staticInitializationPending) :
      Put movement s
        { s with master := { s.master with flags := flags, defaultGenerator := some movement } }
  | active {s : Stage γ ω}
      (hne : ∀ g ∈ s.master.activeGenerators, gen.priority g ≠ gen.priority movement) :
      Put movement s (s.insertActive gen movement)

/-! ## The order of the stack -/

/-- The priorities fall strictly, and there is one reference for each base unit state. -/
structure Ordered (m : MotionMaster γ) : Prop where
  descending : (m.activeGenerators.map gen.priority).Pairwise (· > ·)
  refs : m.baseUnitStateRefs.Perm ((m.activeGenerators.map gen.baseUnitState).filter (· ≠ 0))

namespace Ordered

variable {gen} {m : MotionMaster γ}

theorem new (generator : γ) : Ordered gen (MotionMaster.new generator) where
  descending := List.Pairwise.nil
  refs := List.Perm.refl _

theorem congr {m' : MotionMaster γ} (h : Ordered gen m)
    (hranks : m'.activeGenerators.map gen.rank = m.activeGenerators.map gen.rank)
    (hrefs : m'.baseUnitStateRefs = m.baseUnitStateRefs) : Ordered gen m' := by
  have hpriority : m'.activeGenerators.map gen.priority = m.activeGenerators.map gen.priority := by
    simpa [MovementGenerator.rank, Function.comp_def] using congrArg (List.map Prod.fst) hranks
  have hstate : m'.activeGenerators.map gen.baseUnitState =
      m.activeGenerators.map gen.baseUnitState := by
    simpa [MovementGenerator.rank, Function.comp_def] using congrArg (List.map Prod.snd) hranks
  refine ⟨?_, ?_⟩
  · rw [hpriority]
    exact h.descending
  · rw [hstate, hrefs]
    exact h.refs

theorem setCurrentGenerator {generator generator' : γ} (h : Ordered gen m)
    (hcurrent : m.currentGenerator = some generator)
    (hrank : gen.rank generator' = gen.rank generator) :
    Ordered gen (m.setCurrentGenerator generator') := by
  unfold MotionMaster.currentGenerator at hcurrent
  unfold MotionMaster.setCurrentGenerator
  cases hactive : m.activeGenerators with
  | nil =>
    refine h.congr ?_ rfl
    rw [hactive]
  | cons top rest =>
    rw [hactive] at hcurrent
    obtain rfl := Option.some.inj hcurrent
    refine h.congr ?_ rfl
    rw [hactive, List.map_cons, List.map_cons, hrank]

theorem priority_ne (h : Ordered gen m) {before after : List γ}
    (hactive : m.activeGenerators = before ++ movement :: after) :
    ∀ g ∈ before ++ after, gen.priority g ≠ gen.priority movement := by
  have hnodup : (m.activeGenerators.map gen.priority).Nodup :=
    h.descending.imp fun hgt => ne_of_gt hgt
  rw [hactive, List.map_append, List.map_cons, List.nodup_middle, List.nodup_cons,
    ← List.map_append] at hnodup
  exact fun g hg heq => hnodup.1 (heq ▸ List.mem_map_of_mem hg)

theorem remove (h : Ordered gen m) {before after : List γ}
    (hactive : m.activeGenerators = before ++ movement :: after) :
    Ordered gen (MotionMaster.clearBaseUnitState { m with activeGenerators := before ++ after }
      (gen.baseUnitState movement)) := by
  have hrefs := h.refs
  have hmiddle : (m.activeGenerators.map gen.baseUnitState).Perm
      (gen.baseUnitState movement :: (before ++ after).map gen.baseUnitState) := by
    rw [hactive, ← List.map_cons]
    exact List.perm_middle.map _
  have hdescending : ((before ++ after).map gen.priority).Pairwise (· > ·) := by
    refine h.descending.sublist ?_
    rw [hactive]
    exact ((List.Sublist.refl before).append (List.sublist_cons_self _ _)).map _
  unfold MotionMaster.clearBaseUnitState
  split_ifs with hzero
  · refine ⟨hdescending, hrefs.trans ((hmiddle.filter _).trans ?_)⟩
    simp [hzero]
  · refine ⟨hdescending, ?_⟩
    have hcons := (hrefs.trans (hmiddle.filter _)).erase (gen.baseUnitState movement)
    rwa [List.filter_cons_of_pos (by simpa using hzero), List.erase_cons_head] at hcons

end Ordered

variable {gen}

theorem Move.ordered (hgen : gen.KeepsRank) (h : Move gen s s') (hs : Ordered gen s.master) :
    Ordered gen s'.master := by
  cases h with
  | @remove before after movement active movementInform hactive =>
    have hstate := congrArg Prod.snd (hgen.finalize movement active movementInform s.world)
    change gen.baseUnitState _ = gen.baseUnitState _ at hstate
    dsimp only
    rw [hstate]
    exact hs.remove hactive
  | removeDefault active movementInform hdefault => exact hs.congr rfl rfl
  | callActive c hactive =>
    refine hs.congr ?_ rfl
    rw [hactive, List.map_append, List.map_append, List.map_cons, List.map_cons,
      hgen.callback c]
  | callDefault c hdefault => exact hs.congr rfl rfl
  | dropRefs hactive =>
    refine ⟨hs.descending, ?_⟩
    rw [hactive]
    exact List.Perm.refl _

theorem Moves.ordered (hgen : gen.KeepsRank) (h : Moves gen s s') (hs : Ordered gen s.master) :
    Ordered gen s'.master := by
  induction h with
  | refl => exact hs
  | tail _ hmove ih => exact hmove.ordered hgen ih

theorem insertIdx_findIdx? (p : γ → Bool) (a : γ) (l : List γ) :
    l.insertIdx ((l.findIdx? p).getD l.length) a =
      l.takeWhile (fun g => !p g) ++ a :: l.dropWhile (fun g => !p g) := by
  induction l with
  | nil => rfl
  | cons b l ih =>
    rw [List.findIdx?_cons]
    cases hb : p b with
    | true => simp [hb]
    | false =>
      have hindex : ((l.findIdx? p).map (· + 1)).getD (b :: l).length =
          (l.findIdx? p).getD l.length + 1 := by
        cases l.findIdx? p <;> rfl
      simp only [hb, Bool.false_eq_true, if_false, Bool.not_false, List.takeWhile_cons_of_pos,
        List.dropWhile_cons_of_pos]
      rw [hindex, List.insertIdx_succ_cons, ih, List.cons_append]

variable (gen) in
theorem activeGenerators_insertActive (s : Stage γ ω) (movement : γ) :
    (s.insertActive gen movement).master.activeGenerators =
      s.master.activeGenerators.takeWhile
        (fun g => !decide (gen.priority g < gen.priority movement)) ++
      movement :: s.master.activeGenerators.dropWhile
        (fun g => !decide (gen.priority g < gen.priority movement)) := by
  have hsame : (s.master.addBaseUnitState (gen.baseUnitState movement)).activeGenerators =
      s.master.activeGenerators := by
    unfold MotionMaster.addBaseUnitState
    split_ifs <;> rfl
  rw [← insertIdx_findIdx?, ← hsame]
  rfl

/-- In a falling list, what is left after the prefix of the priorities from `p` on is below
`p`. -/
theorem lt_of_mem_dropWhile {p : MovementGeneratorPriority} {l : List γ}
    (hl : (l.map gen.priority).Pairwise (· > ·)) :
    ∀ g ∈ l.dropWhile (fun g => !decide (gen.priority g < p)), gen.priority g < p := by
  induction l with
  | nil => simp
  | cons top rest ih =>
    rw [List.map_cons, List.pairwise_cons] at hl
    rw [List.dropWhile_cons]
    by_cases htop : gen.priority top < p
    · simp only [htop, decide_true, Bool.not_true, Bool.false_eq_true, if_false]
      refine List.forall_mem_cons.mpr ⟨htop, fun g hg => ?_⟩
      exact (hl.1 _ (List.mem_map_of_mem hg)).trans htop
    · simpa only [htop, decide_false, Bool.not_false, if_true] using ih hl.2

theorem baseUnitStateRefs_insertActive (s : Stage γ ω) (movement : γ) :
    (s.insertActive gen movement).master.baseUnitStateRefs.Perm
      ([gen.baseUnitState movement].filter (· ≠ 0) ++ s.master.baseUnitStateRefs) := by
  change (MotionMaster.addBaseUnitState _ (gen.baseUnitState movement)).baseUnitStateRefs.Perm _
  unfold MotionMaster.addBaseUnitState
  split_ifs with hstate
  · rw [List.filter_cons_of_pos (by simpa using hstate)]
    exact List.perm_append_comm
  · rw [List.filter_cons_of_neg (by simpa using hstate)]
    exact List.Perm.refl _

theorem Put.ordered (h : Put gen movement s s') (hs : Ordered gen s.master) :
    Ordered gen s'.master := by
  cases h with
  | default flags hnone hflags => exact hs.congr rfl rfl
  | active hne =>
    have hactive := activeGenerators_insertActive gen s movement
    have hafter := lt_of_mem_dropWhile (p := gen.priority movement) hs.descending
    have hbefore : ∀ g ∈ s.master.activeGenerators.takeWhile
        (fun g => !decide (gen.priority g < gen.priority movement)),
        gen.priority movement < gen.priority g := by
      intro g hg
      have hle : ¬ gen.priority g < gen.priority movement := by
        simpa using List.all_eq_true.mp (List.all_takeWhile ..) g hg
      exact lt_of_le_of_ne (not_lt.mp hle)
        (hne g ((List.takeWhile_prefix _).subset hg)).symm
    have hdescending := hs.descending
    have hrefs := hs.refs
    rw [← List.takeWhile_append_dropWhile
      (p := fun g => !decide (gen.priority g < gen.priority movement))
      (l := s.master.activeGenerators)] at hdescending hrefs
    constructor
    · rw [hactive, List.map_append, List.map_cons, List.pairwise_append, List.pairwise_cons]
      rw [List.map_append, List.pairwise_append] at hdescending
      obtain ⟨hfirst, hlast, hcross⟩ := hdescending
      refine ⟨hfirst, ⟨?_, hlast⟩, ?_⟩
      · exact List.forall_mem_map.mpr hafter
      · intro a ha b hb
        obtain ⟨g, hg, rfl⟩ := List.mem_map.mp ha
        rcases List.mem_cons.mp hb with rfl | hb
        · exact hbefore g hg
        · exact hcross _ ha b hb
    · rw [hactive]
      refine (baseUnitStateRefs_insertActive s movement).trans
        ((hrefs.append_left _).trans ?_)
      rw [← List.filter_append]
      exact ((List.perm_middle.map gen.baseUnitState).filter _).symm

/-! ## Removals -/

section Removals

variable {s : Stage γ ω}

theorem removeActiveIndex_move (index : Fin s.master.activeGenerators.length)
    (active movementInform : Bool) :
    Move gen s (s.removeActiveIndex gen index active movementInform) := by
  have hsplit : s.master.activeGenerators =
      s.master.activeGenerators.take index ++ s.master.activeGenerators[index] ::
        s.master.activeGenerators.drop (index + 1) := by
    rw [Fin.getElem_fin, List.getElem_cons_drop, List.take_append_drop]
  have hmove : Move gen s _ := .remove active movementInform hsplit
  rwa [← List.eraseIdx_eq_take_drop_succ] at hmove

theorem removeFirst_moves (p : γ → Bool) (active : ℕ → Bool) :
    Moves gen s (s.removeFirst gen p active) := by
  unfold Stage.removeFirst
  split
  case h_1 index _ => exact .single (removeActiveIndex_move index _ false)
  case h_2 => exact .refl

theorem deleteDefault_moves (active movementInform : Bool) :
    Moves gen s (s.deleteDefault gen active movementInform) := by
  unfold Stage.deleteDefault
  split
  case h_1 => exact .refl
  case h_2 generator hdefault => exact .single (.removeDefault active movementInform hdefault)

theorem defaultGenerator_deleteDefault (active movementInform : Bool) :
    (s.deleteDefault gen active movementInform).master.defaultGenerator = none := by
  unfold Stage.deleteDefault
  split
  case h_1 hnone => exact hnone
  case h_2 => rfl

theorem removeAll_moves : Moves gen s (s.removeAll gen) ∧
    (s.removeAll gen).master.activeGenerators = [] := by
  induction s using Stage.removeAll.induct gen with
  | case1 s h ih =>
    rw [Stage.removeAll, dif_pos h]
    exact ⟨.head (removeActiveIndex_move ⟨0, h⟩ false false) ih.1, ih.2⟩
  | case2 s h =>
    rw [Stage.removeAll, dif_neg h]
    exact ⟨.refl, List.length_eq_zero_iff.mp (by omega)⟩

theorem directClearActive_moves : Moves gen s (s.directClearActive gen) ∧
    (s.directClearActive gen).master.activeGenerators = [] := by
  unfold Stage.directClearActive
  split_ifs with h
  · exact ⟨.head (removeActiveIndex_move ⟨0, h⟩ true false) removeAll_moves.1, removeAll_moves.2⟩
  · exact ⟨.refl, List.length_eq_zero_iff.mp (by omega)⟩

theorem directClear_moves : Moves gen s (s.directClear gen) := by
  exact (deleteDefault_moves _ _).trans
    (directClearActive_moves.1.tail (.dropRefs directClearActive_moves.2))

theorem removeWhere_moves (p : MovementGeneratorState → Bool) (index : ℕ) :
    Moves gen s (s.removeWhere gen p index) := by
  induction s, index using Stage.removeWhere.induct gen p with
  | case1 s index h hp ih =>
    rw [Stage.removeWhere, dif_pos h, if_pos hp]
    exact .head (removeActiveIndex_move ⟨index, h⟩ false false) ih
  | case2 s index h hp ih =>
    rw [Stage.removeWhere, dif_pos h, if_neg hp]
    exact ih
  | case3 s index h =>
    rw [Stage.removeWhere, dif_neg h]

end Removals

/-! ## Insertions -/

section Insertions

variable {s : Stage γ ω} {movement : γ}

theorem deactivateTop_moves : Moves gen s (s.deactivateTop gen) := by
  unfold Stage.deactivateTop
  split
  case h_1 => exact .refl
  case h_2 top rest hactive =>
    exact .single (@Move.callActive _ _ gen s [] rest top .deactivate hactive)

theorem deactivateDefault_moves : Moves gen s (s.deactivateDefault gen) := by
  unfold Stage.deactivateDefault
  split
  case h_1 => exact .refl
  case h_2 generator hdefault => exact .single (.callDefault .deactivate hdefault)

theorem makeRoom_moves : Moves gen s (s.makeRoom gen movement) := by
  unfold Stage.makeRoom
  split_ifs with h
  · dsimp only
    split_ifs
    · exact .single (removeActiveIndex_move ⟨0, h⟩ true false)
    · exact deactivateTop_moves
    · exact removeFirst_moves _ _
  · exact deactivateDefault_moves

theorem activeGenerators_removeActiveIndex (index : Fin s.master.activeGenerators.length)
    (active movementInform : Bool) :
    (s.removeActiveIndex gen index active movementInform).master.activeGenerators =
      s.master.activeGenerators.take index ++ s.master.activeGenerators.drop (index + 1) := by
  rw [← List.eraseIdx_eq_take_drop_succ]
  unfold Stage.removeActiveIndex MotionMaster.clearBaseUnitState
  dsimp only
  split_ifs <;> rfl

theorem priority_ne_removeActiveIndex (hs : Ordered gen s.master)
    (index : Fin s.master.activeGenerators.length) (active movementInform : Bool) :
    ∀ g ∈ (s.removeActiveIndex gen index active movementInform).master.activeGenerators,
      gen.priority g ≠ gen.priority (s.master.activeGenerators.get index) := by
  rw [activeGenerators_removeActiveIndex]
  refine hs.priority_ne ?_
  rw [List.get_eq_getElem, List.getElem_cons_drop, List.take_append_drop]

theorem Ordered.priority_le_top (hs : Ordered gen s.master) {top : γ} {rest : List γ}
    (hactive : s.master.activeGenerators = top :: rest) :
    ∀ g ∈ rest, gen.priority g < gen.priority top := by
  have hdescending := hs.descending
  rw [hactive, List.map_cons, List.pairwise_cons] at hdescending
  exact fun g hg => hdescending.1 _ (List.mem_map_of_mem hg)

theorem priority_ne_makeRoom (hgen : gen.KeepsRank) (hs : Ordered gen s.master) :
    ∀ g ∈ (s.makeRoom gen movement).master.activeGenerators,
      gen.priority g ≠ gen.priority movement := by
  unfold Stage.makeRoom
  split_ifs with h
  · dsimp only
    split_ifs with hle heq
    · have hne := priority_ne_removeActiveIndex hs ⟨0, h⟩ true false
      rwa [show gen.priority (s.master.activeGenerators.get ⟨0, h⟩) = gen.priority movement
        from heq.symm] at hne
    · have hlt : gen.priority s.master.activeGenerators[0] < gen.priority movement :=
        lt_of_le_of_ne hle (Ne.symm heq)
      unfold Stage.deactivateTop
      split
      case h_1 hnil => simp [hnil]
      case h_2 top rest hactive =>
        have htop : gen.priority (gen.deactivate top s.world).1 = gen.priority top :=
          congrArg Prod.fst (hgen.deactivate top s.world)
        simp only [hactive, List.getElem_cons_zero] at hlt
        refine List.forall_mem_cons.mpr ⟨?_, fun g hg => ?_⟩
        · rw [htop]
          exact hlt.ne
        · exact ((hs.priority_le_top hactive g hg).trans hlt).ne
    · unfold Stage.removeFirst
      split
      case h_1 index hfound =>
        have hpriority := (List.findFinIdx?_eq_some_iff.mp hfound).1
        have hne := priority_ne_removeActiveIndex hs index false false
        rwa [show gen.priority (s.master.activeGenerators.get index) = gen.priority movement from
          of_decide_eq_true hpriority] at hne
      case h_2 hnone =>
        intro g hg heq
        exact List.findFinIdx?_eq_none_iff.mp hnone g hg (decide_eq_true heq)
  · have hnil : s.master.activeGenerators = [] := List.length_eq_zero_iff.mp (by omega)
    unfold Stage.deactivateDefault
    split <;> simp [hnil]

theorem directAdd_moves (hgen : gen.KeepsRank) (hs : Ordered gen s.master) (slot : MovementSlot) :
    ∃ s₁, Moves gen s s₁ ∧ Put gen movement s₁ (s.directAdd gen movement slot) := by
  cases slot with
  | default =>
    refine ⟨_, deleteDefault_moves _ _, .default _ (defaultGenerator_deleteDefault _ _) ?_⟩
    split_ifs
    · exact .inr rfl
    · exact .inl rfl
  | active => exact ⟨_, makeRoom_moves, .active (priority_ne_makeRoom hgen hs)⟩

end Insertions

/-! ## Calls outside an update -/

/-- Nothing is waiting, and nothing makes a call wait. -/
structure Settled (m : MotionMaster γ) : Prop where
  queue : m.delayedActions = []
  flags : m.flags = 0 ∨ m.flags = MotionMasterFlags.staticInitializationPending

theorem Settled.new (generator : γ) : Settled (MotionMaster.new generator) := ⟨rfl, .inl rfl⟩

theorem Settled.congr {m m' : MotionMaster γ} (h : Settled m)
    (hbooks : m'.delayedActions = m.delayedActions ∧ m'.flags = m.flags) : Settled m' :=
  ⟨hbooks.1.trans h.queue, hbooks.2 ▸ h.flags⟩

theorem Move.books (h : Move gen s s') :
    s'.master.delayedActions = s.master.delayedActions ∧ s'.master.flags = s.master.flags := by
  cases h with
  | remove =>
    unfold MotionMaster.clearBaseUnitState
    split_ifs
    · exact ⟨rfl, rfl⟩
    · exact ⟨rfl, rfl⟩
  | removeDefault => exact ⟨rfl, rfl⟩
  | callActive => exact ⟨rfl, rfl⟩
  | callDefault => exact ⟨rfl, rfl⟩
  | dropRefs => exact ⟨rfl, rfl⟩

theorem Moves.books (h : Moves gen s s') :
    s'.master.delayedActions = s.master.delayedActions ∧ s'.master.flags = s.master.flags := by
  induction h with
  | refl => exact ⟨rfl, rfl⟩
  | tail _ hmove ih => exact ⟨hmove.books.1.trans ih.1, hmove.books.2.trans ih.2⟩

theorem Moves.settled (h : Moves gen s s') (hs : Settled s.master) : Settled s'.master :=
  hs.congr h.books

theorem Put.settled (h : Put gen movement s s') (hs : Settled s.master) : Settled s'.master := by
  cases h with
  | default flags hnone hflags =>
    refine ⟨hs.queue, ?_⟩
    rcases hflags with rfl | rfl
    · exact hs.flags
    · rcases hs.flags with hflags | hflags
      · exact .inr (by rw [hflags]; rfl)
      · exact .inr (by rw [hflags]; rfl)
  | active hne =>
    unfold Stage.insertActive MotionMaster.addBaseUnitState
    dsimp only
    split_ifs
    · exact ⟨hs.queue, hs.flags⟩
    · exact ⟨hs.queue, hs.flags⟩

section Calls

variable {s : Stage γ ω}

theorem delayOr_of_settled (hs : Settled s.master) (action : DelayedAction γ)
    (direct : Stage γ ω → Stage γ ω) : s.delayOr action direct = direct s := by
  refine if_neg ?_
  rcases hs.flags with hflags | hflags <;> rw [Stage.intersects, hflags] <;> decide

theorem add_moves (hgen : gen.KeepsRank) (hs : Settled s.master) (hordered : Ordered gen s.master)
    (movement : γ) (slot : MovementSlot) :
    ∃ s₁, Moves gen s s₁ ∧ Put gen movement s₁ (s.add gen movement slot) := by
  rw [Stage.add, delayOr_of_settled hs]
  exact directAdd_moves hgen hordered slot

theorem removeKind_moves (hs : Settled s.master) (kind : MovementGeneratorType)
    (slot : MovementSlot) : Moves gen s (s.removeKind gen kind slot) := by
  rw [Stage.removeKind, delayOr_of_settled hs]
  cases slot with
  | default =>
    dsimp only
    split_ifs
    · exact deleteDefault_moves false false
    · exact .refl
  | active => exact removeFirst_moves _ _

variable (gen) in
theorem clear_moves (hs : Settled s.master) : Moves gen s (s.clear gen) := by
  rw [Stage.clear, delayOr_of_settled hs]
  exact directClear_moves

theorem clearSlot_moves (hs : Settled s.master) (slot : MovementSlot) :
    Moves gen s (s.clearSlot gen slot) := by
  rw [Stage.clearSlot, delayOr_of_settled hs]
  cases slot with
  | default => exact deleteDefault_moves _ _
  | active => exact directClearActive_moves.1

theorem clearMode_moves (hs : Settled s.master) (mode : MovementGeneratorMode) :
    Moves gen s (s.clearMode gen mode) := by
  rw [Stage.clearMode, delayOr_of_settled hs]
  exact removeWhere_moves _ _

theorem clearPriority_moves (hs : Settled s.master) (priority : MovementGeneratorPriority) :
    Moves gen s (s.clearPriority gen priority) := by
  rw [Stage.clearPriority, delayOr_of_settled hs]
  exact removeWhere_moves _ _

end Calls

/-! ## An update -/

section Update

variable {m : MotionMaster γ} {s : Stage γ ω} {top : γ}

theorem currentGenerator_setCurrentGenerator (generator : γ) :
    (m.setCurrentGenerator generator).currentGenerator = some generator := by
  obtain ⟨default, actives, _, _, _, _⟩ := m
  cases actives <;> rfl

theorem setCurrentGenerator_setCurrentGenerator (generator generator' : γ) :
    (m.setCurrentGenerator generator).setCurrentGenerator generator' =
      m.setCurrentGenerator generator' := by
  obtain ⟨default, actives, _, _, _, _⟩ := m
  cases actives <;> rfl

theorem setCurrentGenerator_self (h : m.currentGenerator = some top) :
    m.setCurrentGenerator top = m := by
  obtain ⟨default, actives, _, _, _, _⟩ := m
  cases actives with
  | nil =>
    obtain rfl : default = some top := h
    rfl
  | cons top' rest =>
    obtain rfl := Option.some.inj h
    rfl

theorem books_setCurrentGenerator (generator : γ) :
    (m.setCurrentGenerator generator).delayedActions = m.delayedActions ∧
      (m.setCurrentGenerator generator).flags = m.flags := by
  obtain ⟨default, actives, _, _, _, _⟩ := m
  cases actives
  · exact ⟨rfl, rfl⟩
  · exact ⟨rfl, rfl⟩

theorem callCurrent_move (c : Callback) (h : s.master.currentGenerator = some top) :
    Move gen s
      { master := s.master.setCurrentGenerator (gen.callback c top s.world).1
        world := (gen.callback c top s.world).2 } := by
  obtain ⟨⟨default, actives, _, _, _, _⟩, w⟩ := s
  cases actives with
  | nil => exact Move.callDefault c h
  | cons top' rest =>
    obtain rfl := Option.some.inj h
    exact @Move.callActive _ _ gen ⟨_, w⟩ [] rest top' c rfl

theorem callCurrent_moves_if (c : Callback) (top : γ) (w : ω) (b : Prop) [Decidable b] :
    Moves gen { master := m.setCurrentGenerator top, world := w }
      { master := m.setCurrentGenerator (if b then gen.callback c top w else (top, w)).1
        world := (if b then gen.callback c top w else (top, w)).2 } := by
  split_ifs
  · have hmove : Move gen { master := m.setCurrentGenerator top, world := w } _ :=
      callCurrent_move c (currentGenerator_setCurrentGenerator top)
    rw [setCurrentGenerator_setCurrentGenerator] at hmove
    exact .single hmove
  · exact .refl

variable (gen) in
theorem updateTop_moves (h : s.master.currentGenerator = some top) (diffMs : ℕ) :
    ∃ top' w, Moves gen s { master := s.master.setCurrentGenerator top', world := w } ∧
      (∀ (α : Type) (f : γ → α), (∀ c g w, f (gen.callback c g w).1 = f g) → f top' = f top) ∧
      s.updateTop gen top diffMs =
        ((gen.update top' diffMs w).1,
          { master := s.master.setCurrentGenerator (gen.update top' diffMs w).2.1
            world := (gen.update top' diffMs w).2.2 }) := by
  have hinit : Moves gen { master := s.master.setCurrentGenerator top, world := s.world } _ :=
    callCurrent_moves_if .init top s.world (Stage.hasFlag gen top
      MovementGeneratorFlags.initializationPending)
  rw [setCurrentGenerator_self h] at hinit
  refine ⟨_, _, hinit.trans (callCurrent_moves_if .reset _ _ (Stage.hasFlag gen
    (if Stage.hasFlag gen top MovementGeneratorFlags.initializationPending then
      gen.callback .init top s.world else (top, s.world)).1
    MovementGeneratorFlags.deactivated)), fun α f hf => ?_, rfl⟩
  split_ifs
  · rw [hf, hf]
  · rw [hf]
  · rw [hf]
  · rfl

theorem removeFinished_moves (keepRunning : Bool) :
    Moves gen s (s.removeFinished gen keepRunning) := by
  unfold Stage.removeFinished
  split_ifs with h
  · exact .single (removeActiveIndex_move ⟨0, h.2⟩ true true)
  · exact .refl

theorem resolveDelayedActions_of_queue (h : s.master.delayedActions = []) :
    s.resolveDelayedActions gen =
      { s with master := { s.master with lastResolvedDelayedActions := [] } } := by
  obtain ⟨⟨default, actives, queue, _, _, _⟩, w⟩ := s
  obtain rfl : queue = [] := h
  rfl

/-- While an update runs. -/
def updating (s : Stage γ ω) : Stage γ ω :=
  { s with master := { s.master with flags := s.master.flags ||| MotionMasterFlags.update } }

/-- After the update, with nothing to resolve. -/
def afterUpdate (s : Stage γ ω) : Stage γ ω :=
  { s with master :=
    { s.master with
      flags := s.master.flags &&& ~~~MotionMasterFlags.update
      lastResolvedDelayedActions := [] } }

variable (gen) in
/-- The generator on top is updated and may be removed; the flag is there only meanwhile. -/
theorem update_cases (hs : Settled s.master) (diffMs : ℕ) :
    s.update gen diffMs = s ∨ ∃ top, s.master.currentGenerator = some top ∧ ∃ top' w s',
      Moves gen (updating s)
        { master := (updating s).master.setCurrentGenerator top', world := w } ∧
      (∀ (α : Type) (f : γ → α), (∀ c g w, f (gen.callback c g w).1 = f g) → f top' = f top) ∧
      Moves gen
        { master := (updating s).master.setCurrentGenerator (gen.update top' diffMs w).2.1
          world := (gen.update top' diffMs w).2.2 } s' ∧
      s.update gen diffMs = afterUpdate s' := by
  unfold Stage.update
  split_ifs with hskip
  · exact .inl rfl
  · split
    case h_1 => exact .inl rfl
    case h_2 top htop =>
      obtain ⟨top', w, hmoves, hsame, hupdate⟩ := updateTop_moves gen (s := updating s)
        htop diffMs
      refine .inr ⟨top, htop, top', w, _, hmoves, hsame,
        removeFinished_moves (gen.update top' diffMs w).1, ?_⟩
      change Stage.resolveDelayedActions gen _ = _
      unfold updating at hupdate
      rw [hupdate, resolveDelayedActions_of_queue]
      · rfl
      · exact (removeFinished_moves _).books.1.trans
          ((books_setCurrentGenerator _).1.trans hs.queue)

theorem Settled.afterUpdate (hs : Settled s.master)
    (hbooks : s'.master.delayedActions = (updating s).master.delayedActions ∧
      s'.master.flags = (updating s).master.flags) :
    Settled (afterUpdate s').master ∧ (Movement.afterUpdate s').master.flags = s.master.flags := by
  have hflags : (s.master.flags ||| MotionMasterFlags.update) &&& ~~~MotionMasterFlags.update =
      s.master.flags := by
    rcases hs.flags with h | h
    · rw [h]
      decide
    · rw [h]
      decide
  have hafter : (Movement.afterUpdate s').master.flags = s.master.flags :=
    (congrArg (· &&& ~~~MotionMasterFlags.update) hbooks.2).trans hflags
  exact ⟨⟨hbooks.1.trans hs.queue, hafter ▸ hs.flags⟩, hafter⟩

end Update

/-! ## Runs -/

/-- What holds of a master between two calls. -/
structure Sound (gen : MovementGenerator γ ω) (m : MotionMaster γ) : Prop where
  ordered : Ordered gen m
  settled : Settled m

namespace Sound

variable {s s' : Stage γ ω}

theorem new (generator : γ) : Sound gen (MotionMaster.new generator) :=
  ⟨Ordered.new generator, Settled.new generator⟩

theorem moves (hgen : gen.KeepsRank) (hs : Sound gen s.master) (h : Moves gen s s') :
    Sound gen s'.master :=
  ⟨h.ordered hgen hs.ordered, h.settled hs.settled⟩

theorem put (hs : Sound gen s.master) (h : Put gen movement s s') : Sound gen s'.master :=
  ⟨h.ordered hs.ordered, h.settled hs.settled⟩

theorem add (hgen : gen.KeepsRank) (hs : Sound gen s.master) (made : γ × ω)
    (slot : MovementSlot) : Sound gen ({ s with world := made.2 }.add gen made.1 slot).master := by
  obtain ⟨s₁, hmoves, hput⟩ := add_moves (s := { s with world := made.2 }) hgen hs.settled
    hs.ordered made.1 slot
  exact (moves (s := { s with world := made.2 }) hgen hs hmoves).put hput

theorem update (hgen : gen.KeepsRank) (hs : Sound gen s.master) (diffMs : ℕ) :
    Sound gen (s.update gen diffMs).master := by
  rcases update_cases gen hs.settled diffMs with heq |
    ⟨top, -, top', w, s', hbefore, -, hafter, heq⟩
  · rw [heq]
    exact hs
  · have hupdating : Ordered gen (updating s).master := hs.ordered.congr rfl rfl
    have htop := (hbefore.ordered hgen hupdating).setCurrentGenerator
      (currentGenerator_setCurrentGenerator top') (hgen.update top' diffMs w)
    rw [setCurrentGenerator_setCurrentGenerator] at htop
    have hbooks := books_setCurrentGenerator (m := (updating s).master)
      (gen.update top' diffMs w).2.1
    rw [heq]
    exact ⟨(hafter.ordered hgen htop).congr rfl rfl, (hs.settled.afterUpdate
      ⟨hafter.books.1.trans hbooks.1, hafter.books.2.trans hbooks.2⟩).1⟩

theorem stopOnDeath (hgen : gen.KeepsRank) (hs : Sound gen s.master) (ownerInWorld : Bool)
    (idleFactory : ω → γ × ω) :
    Sound gen (s.stopOnDeath gen ownerInWorld idleFactory).2.master := by
  have hclear := hs.moves hgen (clear_moves gen hs.settled)
  unfold Stage.stopOnDeath
  split_ifs
  · exact hs
  · exact hclear.add hgen (idleFactory (s.clear gen).world) .default
  · exact hs

theorem call (hgen : gen.KeepsRank) (hs : Sound gen s.master) (c : Call γ ω) :
    Sound gen (s.call gen c).master := by
  cases c with
  | add make slot => exact hs.add hgen (make s.world) slot
  | removeKind kind slot => exact hs.moves hgen (removeKind_moves hs.settled kind slot)
  | clear => exact hs.moves hgen (clear_moves gen hs.settled)
  | clearSlot slot => exact hs.moves hgen (clearSlot_moves hs.settled slot)
  | clearMode mode => exact hs.moves hgen (clearMode_moves hs.settled mode)
  | clearPriority priority => exact hs.moves hgen (clearPriority_moves hs.settled priority)
  | update diffMs => exact hs.update hgen diffMs
  | stopOnDeath ownerInWorld idleFactory => exact hs.stopOnDeath hgen ownerInWorld idleFactory

theorem calls (hgen : gen.KeepsRank) (hs : Sound gen s.master) (calls : List (Call γ ω)) :
    Sound gen (s.calls gen calls).master := by
  induction calls generalizing s with
  | nil => exact hs
  | cons c calls ih => exact ih (hs.call hgen c)

end Sound

end RustyCore.Movement
