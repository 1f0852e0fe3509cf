import RustyCore.Model.WorldStates.Expression

/-! # What a world-state expression means

The expressions as trees, the value of a tree in a context, and the bytes and texts that spell
it. -/

namespace RustyCore.WorldStates

/-! ## Trees -/

/-- The functions that draw no random numbers. -/
abbrev WseFunction : Type :=
  { code : BitVec 32 // code ≠ wseFunctionRandom ∧ code ≠ wseFunctionMersenneRandom }

inductive SingleValue where
  | constant (value : BitVec 32)
  | worldState (id : BitVec 32)
  | function (functionType : WseFunction) (arg1 arg2 : SingleValue)

inductive Operator where
  | sum | substraction | multiplication | division | remainder

inductive Value where
  | single (value : SingleValue)
  | joined (op : Operator) (left right : SingleValue)

inductive Comparison where
  | equal | notEqual | less | lessOrEqual | greater | greaterOrEqual

inductive Relation where
  | nonzero (value : Value)
  | compare (comparison : Comparison) (left right : Value)

inductive Logic where
  | and | or | xor

structure ExpressionTree where
  enabled : Bool
  first : Relation
  rest : List (Logic × Relation)

/-! ## Values -/

/-- Arithmetic of 32 bits; a quotient that is not one of them is zero. -/
def Operator.apply : Operator → BitVec 32 → BitVec 32 → BitVec 32
  | sum, left, right => left + right
  | substraction, left, right => left - right
  | multiplication, left, right => left * right
  | division, left, right => checkedDiv left right
  | remainder, left, right => checkedRem left right

def Comparison.holds : Comparison → BitVec 32 → BitVec 32 → Bool
  | equal, left, right => left == right
  | notEqual, left, right => left != right
  | less, left, right => left.slt right
  | lessOrEqual, left, right => left.sle right
  | greater, left, right => right.slt left
  | greaterOrEqual, left, right => right.sle left

def Logic.join : Logic → Bool → Bool → Bool
  | and, first, second => first && second
  | or, first, second => first || second
  | xor, first, second => first != second

section Meaning

variable (context : WorldStateExpressionContext)

/-- A computation that asks for the values of other entries. -/
abbrev Meaning : Type → Type := CallTree WorldStateExpressionEntry Bool

/-- The function 22 is the value of another entry, and zero if there is none. -/
def WseFunction.meaning (functionType : WseFunction) (arg1 : BitVec 32) : Meaning (BitVec 32) :=
  if functionType.1 = wseFunctionWorldStateExpression then
    match context.findExpression arg1 with
    | none => return 0
    | some entry => return if ← CallTree.ask entry then 1 else 0
  else return functionValue context functionType.1 arg1

def SingleValue.meaning : SingleValue → Meaning (BitVec 32)
  | constant value => return value
  | worldState id => return context.worldStateValue id
  | function functionType arg1 arg2 => do
      let value ← arg1.meaning
      let _ ← arg2.meaning
      functionType.meaning context value

def Value.meaning : Value → Meaning (BitVec 32)
  | single value => value.meaning context
  | joined op left right => return op.apply (← left.meaning context) (← right.meaning context)

def Relation.meaning : Relation → Meaning Bool
  | nonzero value => return (← value.meaning context) != 0
  | compare comparison left right =>
    return comparison.holds (← left.meaning context) (← right.meaning context)

/-- The relations are joined from left to right. -/
def joinAll : Bool → List (Logic × Relation) → Meaning Bool
  | result, [] => return result
  | result, (logic, relation) :: rest => do
      joinAll (logic.join result (← relation.meaning context)) rest

def ExpressionTree.meaning (tree : ExpressionTree) : Meaning Bool :=
  if tree.enabled then do joinAll context (← tree.first.meaning context) tree.rest
  else return false

/-- The meaning of an entry, `treeOf` telling which tree it spells; an entry that spells none
has no meaning. -/
def entryMeaning (treeOf : WorldStateExpressionEntry → Option ExpressionTree)
    (entry : WorldStateExpressionEntry) : Meaning Bool :=
  (treeOf entry).elim .stuck (ExpressionTree.meaning context)

end Meaning

/-! ## Bytes -/

def Operator.code : Operator → Byte
  | sum => opSum
  | substraction => opSubstraction
  | multiplication => opMultiplication
  | division => opDivision
  | remainder => opRemainder

def Comparison.code : Comparison → Byte
  | equal => compEqual
  | notEqual => compNotEqual
  | less => compLess
  | lessOrEqual => compLessOrEqual
  | greater => compGreater
  | greaterOrEqual => compGreaterOrEqual

def Logic.code : Logic → Byte
  | and => logicAnd
  | or => logicOr
  | xor => logicXor

def encodeWord (word : BitVec 32) : List Byte := leBytes 4 word.toNat

def SingleValue.encode : SingleValue → List Byte
  | constant value => valueConstant :: encodeWord value
  | worldState id => valueWorldState :: encodeWord id
  | function functionType arg1 arg2 =>
    valueFunction :: (encodeWord functionType.1 ++ (arg1.encode ++ arg2.encode))

def Value.encode : Value → List Byte
  | single value => value.encode ++ [opNone]
  | joined op left right => left.encode ++ op.code :: right.encode

def Relation.encode : Relation → List Byte
  | nonzero value => value.encode ++ [compNone]
  | compare comparison left right => left.encode ++ comparison.code :: right.encode

def encodeRest : List (Logic × Relation) → List Byte
  | [] => [logicNone]
  | (logic, relation) :: rest => logic.code :: (relation.encode ++ encodeRest rest)

def ExpressionTree.encode (tree : ExpressionTree) : List Byte :=
  (if tree.enabled then 1 else 0) :: (tree.first.encode ++ encodeRest tree.rest)

/-! ## Texts -/

/-- The value of a hexadecimal digit in either case. -/
def hexValue (c : Char) : Option ℕ :=
  if '0' ≤ c ∧ c ≤ '9' then some (c.toNat - '0'.toNat)
  else if 'a' ≤ c ∧ c ≤ 'f' then some (c.toNat - 'a'.toNat + 10)
  else if 'A' ≤ c ∧ c ≤ 'F' then some (c.toNat - 'A'.toNat + 10)
  else none

/-- Two digits for every byte. -/
def hexBytes : List Char → Option (List Byte)
  | [] => some []
  | [_] => none
  | c :: c' :: digits => do
      let high ← hexValue c
      let low ← hexValue c'
      let bytes ← hexBytes digits
      return BitVec.ofNat 8 (16 * high + low) :: bytes

/-- The text spells the bytes in hexadecimal, with any whitespace in between. -/
def HexText (text : String) (bytes : List Byte) : Prop :=
  hexBytes (text.toList.filter fun c => !isWhitespace c) = some bytes

end RustyCore.WorldStates
