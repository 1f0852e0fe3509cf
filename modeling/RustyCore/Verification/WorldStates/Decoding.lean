import RustyCore.Verification.WorldStates.Meaning

/-! # Evaluation computes the meaning

Each part of the evaluator reads exactly the bytes of one subtree, evaluates the entries that
the meaning of the subtree asks for, in the same order, and returns its value. -/

namespace RustyCore.WorldStates

open CallTree

variable {clock : ℕ → BitVec 32} {context : WorldStateExpressionContext} {α β : Type}
variable {t : Meaning α} {code : List Byte} {m : Wse α}

/-! ## Reading what was written -/

/-- `m` reads the bytes `code`, no more and no less, and computes `t`. -/
def Decodes (t : Meaning α) (code : List Byte) (m : Wse α) : Prop :=
  ∀ rest reads, Simulates (fun entry start => start.1 = entry)
    (fun start value result => result = (value, start.2))
    (fun a r => r = (a, ⟨rest, reads⟩)) t (m ⟨code ++ rest, reads⟩)

theorem Decodes.pure (a : α) : Decodes (Pure.pure a) [] (Pure.pure a) := fun _ _ => .done rfl

theorem Decodes.bind {f : α → Meaning β} {code' : List Byte} {g : α → Wse β}
    (h : Decodes t code m) (h' : ∀ a, Decodes (f a) code' (g a)) :
    Decodes (t >>= f) (code ++ code') (m >>= g) := by
  intro rest reads
  rw [List.append_assoc]
  refine (h (code' ++ rest) reads).bind fun a r hr => ?_
  rw [hr]
  exact h' a rest reads

theorem Decodes.map (h : Decodes t code m) (f : α → β) :
    Decodes (do return f (← t)) code (do return f (← m)) := by
  have hbind := h.bind fun a => Decodes.pure (f a)
  rwa [List.append_nil] at hbind

theorem Decodes.read {a : α} {t : Meaning β} {code' : List Byte} {g : α → Wse β}
    (h : Decodes (.done a) code m) (h' : Decodes t code' (g a)) :
    Decodes t (code ++ code') (m >>= g) := by
  intro rest reads
  have hread := h (code' ++ rest) reads
  rw [List.append_assoc]
  change Simulates _ _ _ t (m _ >>= fun r => g r.1 r.2)
  generalize m ⟨code ++ (code' ++ rest), reads⟩ = t' at hread
  cases hread with
  | done hr =>
    rw [hr]
    exact h' rest reads

theorem decodes_readU8 (byte : Byte) : Decodes (.done (some byte)) [byte] readU8 :=
  fun _ _ => .done rfl

theorem decodes_readU32 (word : BitVec 32) :
    Decodes (.done (some word)) (encodeWord word) readU32 := by
  intro rest reads
  have hword : word.toNat < 256 ^ 4 := word.isLt
  have hlength : (encodeWord word).length = 4 := length_leBytes 4 _
  have hread : readU32 ⟨encodeWord word ++ rest, reads⟩ = .done (some word, ⟨rest, reads⟩) := by
    rw [readU32, if_neg (by simp [hlength]), List.take_left' hlength, List.drop_left' hlength,
      encodeWord, ofLeBytes_leBytes_of_lt hword, BitVec.ofNat_toNat, BitVec.setWidth_eq]
  rw [hread]
  exact .done rfl

theorem Decodes.isAtEnd {t : Meaning β} {byte : Byte} {g : Bool → Wse β}
    (h : Decodes t (byte :: code) (g false)) :
    Decodes t (byte :: code) (WorldStates.isAtEnd >>= g) := h

/-- The evaluation of another entry is the value the meaning asks for. -/
theorem decodes_nestedExpression (entry : WorldStateExpressionEntry) :
    Decodes (ask entry) [] (nestedExpression entry) := by
  intro rest reads
  refine .call rfl fun value result hvalue => .done ?_
  rw [hvalue]
  rfl

/-! ## Values -/

theorem functionValue_of_max_le {functionType : BitVec 32} (h : wseFunctionMax ≤ functionType)
    (arg1 : BitVec 32) : functionValue context functionType arg1 = 0 := by
  have hne : ∀ code : BitVec 32, code < wseFunctionMax → functionType ≠ code :=
    fun code hlt heq => absurd (heq ▸ h) (BitVec.not_le.mpr hlt)
  simp only [functionValue, hne _ (by decide : wseFunctionNone < wseFunctionMax),
    hne _ (by decide : wseFunctionMonth < wseFunctionMax),
    hne _ (by decide : wseFunctionDay < wseFunctionMax),
    hne _ (by decide : wseFunctionTimeOfDay < wseFunctionMax),
    hne _ (by decide : wseFunctionRegion < wseFunctionMax),
    hne _ (by decide : wseFunctionClockHour < wseFunctionMax),
    hne _ (by decide : wseFunctionOldDifficultyId < wseFunctionMax),
    hne _ (by decide : wseFunctionHolidayActive < wseFunctionMax),
    hne _ (by decide : wseFunctionTimerCurrentTime < wseFunctionMax),
    hne _ (by decide : wseFunctionWeekNumber < wseFunctionMax),
    hne _ (by decide : wseFunctionDifficultyId < wseFunctionMax), if_false]

section Evaluation

variable (clock context)
variable {steps : ℕ}

theorem decodes_evalFunction (functionType : WseFunction) (arg1 arg2 : BitVec 32) :
    Decodes (functionType.meaning context arg1) []
      (if wseFunctionMax ≤ functionType.1 then return 0
        else evalFunction clock context functionType.1 arg1 arg2) := by
  obtain ⟨code, hrandom, hmersenne⟩ := functionType
  rw [WseFunction.meaning]
  by_cases hmax : wseFunctionMax ≤ code
  · have hnested : code ≠ wseFunctionWorldStateExpression := fun h =>
      absurd (h ▸ hmax) (by decide)
    simp only [if_pos hmax, if_neg hnested, functionValue_of_max_le hmax]
    exact .pure 0
  · simp only [if_neg hmax, evalFunction, if_neg hrandom, if_neg hmersenne]
    split
    · cases context.findExpression arg1 with
      | none => exact .pure 0
      | some entry => exact (decodes_nestedExpression entry).map fun value => if value then 1 else 0
    · exact .pure _

theorem decodes_evalSingleValue (v : SingleValue) (h : v.encode.length ≤ steps) :
    Decodes (v.meaning context) v.encode (evalSingleValue clock context steps) := by
  induction v generalizing steps with
  | constant value =>
    obtain ⟨steps, rfl⟩ := Nat.exists_eq_add_of_le' (Nat.one_le_of_lt h)
    exact (decodes_readU8 valueConstant).read (.map (decodes_readU32 value) fun v => v.getD 0)
  | worldState id =>
    obtain ⟨steps, rfl⟩ := Nat.exists_eq_add_of_le' (Nat.one_le_of_lt h)
    exact (decodes_readU8 valueWorldState).read
      (.map (decodes_readU32 id) fun v => context.worldStateValue (v.getD 0))
  | function functionType arg1 arg2 ih1 ih2 =>
    obtain ⟨steps, rfl⟩ := Nat.exists_eq_add_of_le' (Nat.one_le_of_lt h)
    simp only [SingleValue.encode, List.length_cons, List.length_append] at h
    refine (decodes_readU8 valueFunction).read ?_
    refine (decodes_readU32 functionType.1).read ?_
    refine (ih1 (by omega)).bind fun value1 => ?_
    have h2 : Decodes (arg2.meaning context) arg2.encode
        (evalSingleValue clock context steps) := ih2 (by omega)
    have h := h2.bind fun value2 => decodes_evalFunction clock context functionType value1 value2
    rwa [List.append_nil] at h

theorem decodes_evalValue (v : Value) (h : v.encode.length ≤ steps) :
    Decodes (v.meaning context) v.encode (evalValue clock context steps) := by
  cases v with
  | single value =>
    simp only [Value.encode, List.length_append] at h
    have hvalue := decodes_evalSingleValue clock context value (Nat.le_of_add_right_le h)
    have hread : Decodes (value.meaning context >>= pure) (value.encode ++ [opNone])
        (evalValue clock context steps) :=
      hvalue.bind fun left => (decodes_readU8 opNone).read (.pure left)
    rwa [bind_pure] at hread
  | joined op left right =>
    simp only [Value.encode, List.length_append, List.length_cons] at h
    have hleft : left.encode.length ≤ steps := by omega
    have hright : right.encode.length ≤ steps := by omega
    refine (decodes_evalSingleValue clock context left hleft).bind fun value => ?_
    refine (decodes_readU8 op.code).read ?_
    have hoperand := decodes_evalSingleValue clock context right hright
    cases op <;> exact hoperand.map _

theorem decodes_evalRelOp (r : Relation) (h : r.encode.length ≤ steps) :
    Decodes (r.meaning context) r.encode (evalRelOp clock context steps) := by
  cases r with
  | nonzero value =>
    simp only [Relation.encode, List.length_append] at h
    have hvalue := decodes_evalValue clock context value (Nat.le_of_add_right_le h)
    exact hvalue.bind fun left => (decodes_readU8 compNone).read (.pure (left != 0))
  | compare comparison left right =>
    simp only [Relation.encode, List.length_append, List.length_cons] at h
    have hleft : left.encode.length ≤ steps := by omega
    have hright : right.encode.length ≤ steps := by omega
    refine (decodes_evalValue clock context left hleft).bind fun value => ?_
    refine (decodes_readU8 comparison.code).read ?_
    have hoperand := decodes_evalValue clock context right hright
    cases comparison <;> exact hoperand.map _

/-! ## Expressions -/

theorem joinResults_code (logic : Logic) (first second : Bool) :
    joinResults logic.code first second = logic.join first second := by
  cases logic <;> rfl

theorem code_ne_logicNone (logic : Logic) : logic.code ≠ logicNone := by
  cases logic <;> decide

/-- The loop reads the relations that are left, and the code that ends them. -/
theorem decodes_evalLogic (rest : List (Logic × Relation)) {rounds : ℕ}
    (hsteps : (encodeRest rest).length ≤ steps) (hrounds : rest.length ≤ rounds) (result : Bool) :
    Decodes (joinAll context result rest) (encodeRest rest)
      (readU8 >>= fun code =>
        evalLogic clock context steps rounds result (code.getD logicNone)) := by
  induction rest generalizing rounds result with
  | nil =>
    refine (decodes_readU8 logicNone).read ?_
    cases rounds <;> exact .pure result
  | cons joined rest ih =>
    obtain ⟨logic, relation⟩ := joined
    obtain ⟨rounds, rfl⟩ := Nat.exists_eq_add_of_le' (Nat.one_le_of_lt hrounds)
    simp only [encodeRest, List.length_cons, List.length_append] at hsteps hrounds
    have hrelation : relation.encode.length ≤ steps := by omega
    refine (decodes_readU8 logic.code).read ?_
    rw [Option.getD_some, evalLogic, if_neg (code_ne_logicNone logic), joinAll]
    refine (decodes_evalRelOp clock context relation hrelation).bind fun second => ?_
    rw [joinResults_code]
    -- the bytes of the rest are not all read: the code that ends it is among them
    have hrest := ih (by omega) (Nat.le_of_succ_le_succ hrounds) (logic.join result second)
    cases rest with
    | nil => exact hrest.isAtEnd
    | cons next rest => exact hrest.isAtEnd

theorem length_le_encodeRest (rest : List (Logic × Relation)) :
    rest.length ≤ (encodeRest rest).length := by
  induction rest with
  | nil => exact Nat.zero_le _
  | cons joined rest ih =>
    simp only [encodeRest, List.length_cons, List.length_append]
    omega

theorem decodes_evalExpression (tree : ExpressionTree) (h : tree.encode.length ≤ steps) :
    Decodes (tree.meaning context) (if tree.enabled then tree.encode else [0])
      (evalExpression clock context steps) := by
  rw [ExpressionTree.meaning]
  simp only [ExpressionTree.encode, List.length_cons, List.length_append] at h ⊢
  split
  case isTrue henabled =>
    have hfirst : tree.first.encode.length ≤ steps := by omega
    have hrest : (encodeRest tree.rest).length ≤ steps := by omega
    refine ((decodes_readU8 1).map _).read ?_
    refine (decodes_evalRelOp clock context tree.first hfirst).bind fun result => ?_
    exact decodes_evalLogic clock context tree.rest hrest
      ((length_le_encodeRest tree.rest).trans hrest) result
  case isFalse => exact ((decodes_readU8 0).map _).read (.pure false)

end Evaluation

/-! ## Texts -/

theorem hexDigit_of_hexValue {c : Char} {value : ℕ} (h : hexValue c = some value) :
    ∃ b, String.utf8EncodeChar c = [b] ∧ hexDigit b = some value ∧ b ≠ 43 := by
  have hbounds : ∀ low high : Char, low ≤ c ∧ c ≤ high ↔
      low.toNat ≤ c.toNat ∧ c.toNat ≤ high.toNat := fun _ _ => Iff.rfl
  simp only [hexValue, hbounds] at h
  have hle : c.toNat ≤ 102 ∧ 48 ≤ c.toNat := by
    simp only [Char.reduceToNat] at h
    split_ifs at h <;> omega
  have hbyte : (UInt8.ofNat c.toNat).toNat = c.toNat := Nat.mod_eq_of_lt (by omega)
  refine ⟨UInt8.ofNat c.toNat, if_pos (hle.1.trans (by decide)), ?_, fun hsign => ?_⟩
  · rw [hexDigit, hbyte, ← h]
    simp only [Char.reduceToNat]
    split_ifs <;> first | rfl | (congr 1; omega)
  · have hcode := congrArg UInt8.toNat hsign
    rw [hbyte] at hcode
    have hnot : c.toNat ≠ 43 := by omega
    exact hnot hcode

theorem hexPairs_of_hexBytes {digits : List Char} {bytes : List Byte}
    (h : hexBytes digits = some bytes) :
    hexPairs (digits.flatMap String.utf8EncodeChar) = some bytes := by
  fun_induction hexBytes digits generalizing bytes with
  | case1 => exact h
  | case2 => cases h
  | case3 c c' digits ih =>
    obtain ⟨high, hhigh, h⟩ := Option.bind_eq_some_iff.mp h
    obtain ⟨low, hlow, h⟩ := Option.bind_eq_some_iff.mp h
    obtain ⟨rest, hrest, h⟩ := Option.bind_eq_some_iff.mp h
    obtain ⟨b, hb, hdigit, hsign⟩ := hexDigit_of_hexValue hhigh
    obtain ⟨b', hb', hdigit', -⟩ := hexDigit_of_hexValue hlow
    simp only [List.flatMap_cons, hb, hb', List.singleton_append, hexPairs, u8FromHex,
      if_neg hsign, hdigit, hdigit', ih hrest, Option.bind_eq_bind, Option.bind_some]
    exact h

theorem hexToBytes_of_hexText {text : String} {bytes : List Byte} (h : HexText text bytes) :
    hexToBytes text = some bytes := hexPairs_of_hexBytes h

/-! ## Entries -/

variable (clock) in
theorem evalEntry_simulates {treeOf : WorldStateExpressionEntry → Option ExpressionTree}
    (hspells : ∀ entry tree, treeOf entry = some tree → HexText entry.expression tree.encode)
    (entry : WorldStateExpressionEntry) (start : WorldStateExpressionEntry × ℕ)
    (hstart : start.1 = entry) :
    Simulates (fun entry start => start.1 = entry)
      (fun start value result => result = (value, start.2))
      (fun value result => result = (value, start.2))
      (entryMeaning context treeOf entry) (evalEntry clock context start) := by
  subst hstart
  rw [entryMeaning]
  cases htree : treeOf start.1 with
  | none => exact .stuck
  | some tree =>
    have hbytes := hexToBytes_of_hexText (hspells _ _ htree)
    obtain ⟨rest, hrest⟩ : ∃ rest,
        tree.encode = (if tree.enabled then tree.encode else [0]) ++ rest := by
      split
      case isTrue => exact ⟨[], (List.append_nil _).symm⟩
      case isFalse hdisabled => exact ⟨_, by rw [ExpressionTree.encode, if_neg hdisabled]; rfl⟩
    have hsteps : tree.encode.length ≤ tree.encode.length + 1 := Nat.le_succ _
    have hread := decodes_evalExpression clock context tree hsteps rest start.2
    rw [← hrest] at hread
    rw [evalEntry, hbytes, Option.elim_some, ← bind_pure (tree.meaning context)]
    refine hread.bind fun value result hresult => ?_
    rw [hresult]
    exact .done rfl

/-! ## Every tree has a meaning -/

/-- A computation whose own steps never get stuck. -/
def Meaningful (t : Meaning α) : Prop := Always (fun _ => True) t

theorem Meaningful.pure (a : α) : Meaningful (Pure.pure a : Meaning α) := .done trivial

theorem Meaningful.bind {f : α → Meaning β} (ht : Meaningful t) (hf : ∀ a, Meaningful (f a)) :
    Meaningful (t >>= f) := Always.bind ht fun a _ => hf a

theorem Meaningful.map (ht : Meaningful t) (f : α → β) :
    Meaningful (do return f (← t)) := ht.bind fun _ => .pure _

variable (context) in
theorem meaningful_singleValue (v : SingleValue) : Meaningful (v.meaning context) := by
  induction v with
  | constant value => exact .pure value
  | worldState id => exact .pure _
  | function functionType arg1 arg2 ih1 ih2 =>
    refine ih1.bind fun value => ih2.bind fun _ => ?_
    rw [WseFunction.meaning]
    split
    · cases context.findExpression value with
      | none => exact .pure 0
      | some entry => exact .call fun _ => .done trivial
    · exact .pure _

variable (context) in
theorem meaningful_value (v : Value) : Meaningful (v.meaning context) := by
  cases v with
  | single value => exact meaningful_singleValue context value
  | joined op left right =>
    exact (meaningful_singleValue context left).bind fun _ =>
      (meaningful_singleValue context right).map _

variable (context) in
theorem meaningful_relation (r : Relation) : Meaningful (r.meaning context) := by
  cases r with
  | nonzero value => exact (meaningful_value context value).map _
  | compare comparison left right =>
    exact (meaningful_value context left).bind fun _ => (meaningful_value context right).map _

theorem meaningful_joinAll (result : Bool) (rest : List (Logic × Relation)) :
    Meaningful (joinAll context result rest) := by
  induction rest generalizing result with
  | nil => exact .pure result
  | cons joined rest ih => exact (meaningful_relation context joined.2).bind fun _ => ih _

theorem meaningful_expressionTree (tree : ExpressionTree) :
    Meaningful (tree.meaning context) := by
  rw [ExpressionTree.meaning]
  split
  · exact (meaningful_relation context tree.first).bind fun _ => meaningful_joinAll _ _
  · exact .pure false

/-- Evaluation returns the meaning of an entry that, like all the entries it refers to, spells
a tree, if these entries do not refer to each other for ever. -/
theorem evaluation_is_meaning (clock : ℕ → BitVec 32) (context : WorldStateExpressionContext)
    (treeOf : WorldStateExpressionEntry → Option ExpressionTree)
    (hspells : ∀ entry tree, treeOf entry = some tree → HexText entry.expression tree.encode)
    (entry : WorldStateExpressionEntry)
    (htrees : ∀ entry', CallsFrom (entryMeaning context treeOf) entry entry' →
      (treeOf entry').isSome)
    (hacyclic : ¬ EndlessCalls (entryMeaning context treeOf) entry) :
    ∃ value, Returns (entryMeaning context treeOf) entry value ∧
      ∃ depth, isMeetingWorldStateExpression clock context depth entry = some value := by
  have hsteps : ∀ entry', CallsFrom (entryMeaning context treeOf) entry entry' →
      Meaningful (entryMeaning context treeOf entry') := by
    intro entry' hfrom
    obtain ⟨tree, htree⟩ := Option.isSome_iff_exists.mp (htrees entry' hfrom)
    rw [entryMeaning, htree]
    exact meaningful_expressionTree tree
  have hends := terminates_of_acc (not_endlessCalls_iff_acc.mp hacyclic) hsteps
  obtain ⟨value, depth, hvalue⟩ := terminates_iff.mp hends
  refine ⟨value, ⟨depth, hvalue⟩, depth, ?_⟩
  have hstart : ((entry, 0) : WorldStateExpressionEntry × ℕ).1 = entry := rfl
  obtain ⟨result, hresult, hsame⟩ :=
    recurse_simulates (evalEntry_simulates clock hspells) hstart hvalue
  rw [isMeetingWorldStateExpression, hresult, hsame]
  rfl

/-- Whether the world state 88 is 7. -/
def stateIsSeven : ExpressionTree where
  enabled := true
  first := .compare .equal (.single (.worldState 88)) (.single (.constant 7))
  rest := []

/-- A text of it, with whitespace. -/
def stateIsSevenEntry : WorldStateExpressionEntry := ⟨1, "01\t0258000000 00 01\n0107000000 00 00"⟩

def stateIsSevenTree (entry : WorldStateExpressionEntry) : Option ExpressionTree :=
  if entry = stateIsSevenEntry then some stateIsSeven else none

theorem stateIsSeven_never_calls (entry entry' : WorldStateExpressionEntry) :
    ¬ Calls (entryMeaning WorldStateExpressionContext.default stateIsSevenTree) entry' entry := by
  have hmeaning : stateIsSeven.meaning WorldStateExpressionContext.default = .done false := rfl
  rw [Calls, entryMeaning, stateIsSevenTree]
  split
  · rw [Option.elim_some, hmeaning]
    exact nofun
  · exact nofun

theorem evaluation_is_meaning_seven :
    ∃ value, Returns (entryMeaning WorldStateExpressionContext.default stateIsSevenTree)
        stateIsSevenEntry value ∧
      ∃ depth, isMeetingWorldStateExpression (fun _ => 0) WorldStateExpressionContext.default
        depth stateIsSevenEntry = some value := by
  refine evaluation_is_meaning (fun _ => 0) WorldStateExpressionContext.default stateIsSevenTree
    (fun entry tree htree => ?_) stateIsSevenEntry (fun entry' hfrom => ?_)
    (fun ⟨_, _, hchain⟩ => stateIsSeven_never_calls _ _ (hchain 0))
  · rw [stateIsSevenTree, Option.ite_none_right_eq_some, Option.some.injEq] at htree
    obtain ⟨rfl, rfl⟩ := htree
    have hspells : hexBytes (stateIsSevenEntry.expression.toList.filter fun c =>
        !isWhitespace c) = some stateIsSeven.encode := by decide +kernel
    exact hspells
  · cases hfrom with
    | refl => rfl
    | tail _ hcall => exact absurd hcall (stateIsSeven_never_calls _ _)

/-! ## The quotient that overflows -/

/-- The least number divided by minus one. -/
def overflowingQuotient : ExpressionTree where
  enabled := true
  first := .nonzero (.joined .division (.constant (BitVec.intMin 32)) (.constant (-1)))
  rest := []

def overflowingEntry : WorldStateExpressionEntry := ⟨1, "01 0100000080 04 01FFFFFFFF 00 00"⟩

theorem overflowingEntry_spells :
    hexToBytes overflowingEntry.expression = some overflowingQuotient.encode := by
  decide +kernel

/-- The quotient wraps around to the least number, which is not zero, but the expression is
false. -/
theorem overflowing_quotient_is_zero :
    isMeetingWorldStateExpression (fun _ => 0) WorldStateExpressionContext.default 1
        overflowingEntry = some false ∧
      hexToBytes overflowingEntry.expression = some overflowingQuotient.encode ∧
      (BitVec.intMin 32).sdiv (-1) = BitVec.intMin 32 ∧ BitVec.intMin 32 ≠ 0 := by
  refine ⟨by decide +kernel, overflowingEntry_spells, by decide, by decide⟩

end RustyCore.WorldStates
