import RustyCore.Model.WorldStates.Expression

/-! # When an evaluation ends

The loops of the evaluator consume bytes, so they end. The evaluation of an entry ends unless
the entries that it evaluates go on for ever. -/

namespace RustyCore.WorldStates

open CallTree

variable {clock : ℕ → BitVec 32} {context : WorldStateExpressionContext} {α β : Type}
variable {bound steps : ℕ}

/-! ## Reading never lengthens what is left -/

/-- With at most `bound` bytes left, `m` comes to an end and leaves no more than it found. -/
def Shortens (bound : ℕ) (m : Wse α) : Prop :=
  ∀ reader : WseByteReader, reader.rest.length ≤ bound →
    Always (fun r => r.2.rest.length ≤ reader.rest.length) (m reader)

theorem Shortens.pure (bound : ℕ) (a : α) : Shortens bound (Pure.pure a : Wse α) :=
  fun _ _ => .done le_rfl

theorem Shortens.bind {m : Wse α} {f : α → Wse β} (hm : Shortens bound m)
    (hf : ∀ a, Shortens bound (f a)) : Shortens bound (m >>= f) := by
  intro reader hreader
  refine (hm reader hreader).bind fun r hr => ?_
  exact (hf r.1 r.2 (hr.trans hreader)).mono fun r' hr' => hr'.trans hr

theorem Shortens.map {m : Wse α} (hm : Shortens bound m) (f : α → β) :
    Shortens bound (do return f (← m)) :=
  hm.bind fun _ => .pure bound _

theorem shortens_readU8 (bound : ℕ) : Shortens bound readU8 := by
  rintro ⟨rest, clockReads⟩ -
  cases rest with
  | nil => exact .done le_rfl
  | cons byte rest => exact .done (Nat.le_succ _)

theorem shortens_readU32 (bound : ℕ) : Shortens bound readU32 := by
  rintro ⟨rest, clockReads⟩ -
  rw [readU32]
  split
  · exact .done le_rfl
  · exact .done (by simp)

theorem shortens_isAtEnd (bound : ℕ) : Shortens bound isAtEnd := fun _ _ => .done le_rfl

theorem shortens_readClock (bound : ℕ) : Shortens bound (readClock clock) :=
  fun _ _ => .done le_rfl

theorem shortens_nestedExpression (bound : ℕ) (entry : WorldStateExpressionEntry) :
    Shortens bound (nestedExpression entry) :=
  fun _ _ => .call fun _ => .done le_rfl

theorem Shortens.readU8_bind {f : Option Byte → Wse α} (hnone : Shortens bound (f none))
    (hsome : ∀ byte rest, rest < bound → Shortens rest (f (some byte))) :
    Shortens bound (readU8 >>= f) := by
  rintro ⟨rest, clockReads⟩ hrest
  cases rest with
  | nil => exact hnone _ hrest
  | cons byte rest =>
    exact (hsome byte rest.length hrest ⟨rest, clockReads⟩ le_rfl).mono fun r hr =>
      hr.trans (Nat.le_succ _)

/-! ## The evaluator ends -/

theorem shortens_randomRange (bound : ℕ) (arg1 arg2 : BitVec 32) :
    Shortens bound (randomRange clock arg1 arg2) := by
  rw [randomRange]
  split_ifs
  all_goals first | exact .pure bound _ | exact (shortens_readClock bound).map _

theorem shortens_evalFunction (bound : ℕ) (functionType arg1 arg2 : BitVec 32) :
    Shortens bound (evalFunction clock context functionType arg1 arg2) := by
  rw [evalFunction]
  split
  · exact shortens_randomRange bound arg1 arg2
  split
  · split
    · exact .pure bound _
    · exact (shortens_nestedExpression bound _).map _
  split
  · exact .pure bound _
  · exact .pure bound _

/-- The recursion into arguments ends within one step more than there are bytes. -/
theorem shortens_evalSingleValue (h : bound < steps) :
    Shortens bound (evalSingleValue clock context steps) := by
  induction steps generalizing bound with
  | zero => cases h
  | succ steps ih =>
    rw [evalSingleValue]
    refine .readU8_bind (.pure bound _) fun byte rest hrest => ?_
    have harg : Shortens rest (evalSingleValue clock context steps) := ih (by omega)
    dsimp only
    split
    · exact (shortens_readU32 rest).map _
    split
    · exact (shortens_readU32 rest).map _
    split
    · refine (shortens_readU32 rest).bind fun functionType => ?_
      refine harg.bind fun arg1 => harg.bind fun arg2 => ?_
      split
      · exact .pure rest _
      · exact shortens_evalFunction rest _ arg1 arg2
    · exact .pure rest _

theorem shortens_evalValue (h : bound < steps) :
    Shortens bound (evalValue clock context steps) := by
  have hsingle : Shortens bound (evalSingleValue clock context steps) :=
    shortens_evalSingleValue h
  rw [evalValue]
  refine hsingle.bind fun left => (shortens_readU8 bound).bind fun op => ?_
  dsimp only
  split_ifs
  all_goals first | exact .pure bound _ | exact hsingle.map _

theorem shortens_evalRelOp (h : bound < steps) :
    Shortens bound (evalRelOp clock context steps) := by
  have hvalue : Shortens bound (evalValue clock context steps) := shortens_evalValue h
  rw [evalRelOp]
  refine hvalue.bind fun left => (shortens_readU8 bound).bind fun comp => ?_
  dsimp only
  split_ifs
  all_goals first | exact .pure bound _ | exact hvalue.map _

/-- Every round of the loop over the relations reads the byte that joins the next one. -/
theorem shortens_evalLogic {rounds : ℕ} (hsteps : bound < steps) (hrounds : bound < rounds)
    (finalResult : Bool) (resultLogic : Byte) :
    Shortens bound (evalLogic clock context steps rounds finalResult resultLogic) := by
  induction rounds generalizing bound finalResult resultLogic with
  | zero => cases hrounds
  | succ rounds ih =>
    rw [evalLogic]
    split
    · exact .pure bound _
    refine (shortens_evalRelOp hsteps).bind fun secondResult => ?_
    refine (shortens_isAtEnd bound).bind fun atEnd => ?_
    split
    · exact .pure bound _
    refine .readU8_bind ?_ fun byte rest hrest => ih (by omega) (by omega) _ _
    cases rounds <;> exact .pure bound _

theorem shortens_evalExpression (h : bound < steps) :
    Shortens bound (evalExpression clock context steps) := by
  rw [evalExpression]
  refine ((shortens_readU8 bound).map _).bind fun enabled => ?_
  split
  · exact .pure bound _
  refine (shortens_evalRelOp h).bind fun finalResult => ?_
  exact (shortens_readU8 bound).bind fun resultLogic => shortens_evalLogic h h _ _

theorem always_evalEntry (start : WorldStateExpressionEntry × ℕ) :
    Always (fun _ => True) (evalEntry clock context start) := by
  rw [evalEntry]
  split
  · exact .done trivial
  · split
    · exact .done trivial
    · refine Always.bind (shortens_evalExpression (Nat.lt_succ_self _) _ le_rfl) fun _ _ => ?_
      exact .done trivial

/-- An evaluation ends exactly if the entries it evaluates do not go on for ever. -/
theorem evaluation_terminates (clock : ℕ → BitVec 32) (context : WorldStateExpressionContext)
    (entry : WorldStateExpressionEntry) :
    (∃ depth, (isMeetingWorldStateExpression clock context depth entry).isSome) ↔
      ¬ EndlessCalls (evalEntry clock context) (entry, 0) := by
  rw [← terminates_iff_not_endlessCalls always_evalEntry, Terminates]
  simp only [isMeetingWorldStateExpression, Option.isSome_map]

def selfReference : WorldStateExpressionEntry :=
  ⟨1, "01 03 16000000 0101000000 0100000000 00 00"⟩

theorem calls_selfReference (clock : ℕ → BitVec 32) :
    Calls (evalEntry clock { WorldStateExpressionContext.default with
      expressions := some (AList.singleton 1 selfReference) })
      (selfReference, 0) (selfReference, 0) := by
  have hbytes : hexToBytes selfReference.expression =
      some [1, 3, 0x16, 0, 0, 0, 1, 1, 0, 0, 0, 1, 0, 0, 0, 0, 0, 0] := by decide +kernel
  rw [Calls, evalEntry, hbytes]
  exact .here

/-- An expression that refers to itself is evaluated for ever. -/
theorem self_reference_never_ends :
    ¬ ∃ depth, (isMeetingWorldStateExpression (fun _ => 0)
      { WorldStateExpressionContext.default with
        expressions := some (AList.singleton 1 selfReference) } depth selfReference).isSome := by
  rw [evaluation_terminates, not_not]
  exact endlessCalls_of_calls_self (calls_selfReference _)

end RustyCore.WorldStates
