import RustyCore.Library.CallTree
import RustyCore.Library.Dict
import RustyCore.Library.FixedWidth
import Mathlib.Data.String.Basic

/-! # World-state expressions

An expression is a hexadecimal text. Evaluating it decodes it on the way, and may evaluate
further expressions of the store. The system clock, which one function reads, is a sequence of
readings. -/

namespace RustyCore.WorldStates

structure WorldStateExpressionEntry where
  id : BitVec 32
  expression : String
deriving DecidableEq

structure WorldStateExpressionWorldState where
  id : BitVec 32
  value : BitVec 32

structure WorldStateExpressionTime where
  month : BitVec 32
  day : BitVec 32
  hour : BitVec 32
  minute : BitVec 32
  gameTimeSecs : BitVec 64

structure WorldStateExpressionContext where
  worldStates : List WorldStateExpressionWorldState
  expressions : Option (Dict (BitVec 32) WorldStateExpressionEntry)
  difficultyId : BitVec 32
  oldDifficultyId : BitVec 32
  region : BitVec 32
  raidOriginSecs : BitVec 64
  activeHolidayIds : List (BitVec 32)
  time : WorldStateExpressionTime

namespace WorldStateExpressionContext

def default : WorldStateExpressionContext where
  worldStates := []
  expressions := none
  difficultyId := 0
  oldDifficultyId := -1
  region := 0
  raidOriginSecs := 1135695600
  activeHolidayIds := []
  time := ⟨1, 1, 0, 0, 0⟩

def worldStateValue (context : WorldStateExpressionContext) (id : BitVec 32) : BitVec 32 :=
  ((context.worldStates.find? fun worldState => worldState.id == id).map (·.value)).getD 0

def isHolidayActive (context : WorldStateExpressionContext) (id : BitVec 32) : BitVec 32 :=
  if context.activeHolidayIds.contains id then 1 else 0

/-- `u32::try_from` and a look into the store. -/
def findExpression (context : WorldStateExpressionContext) (arg : BitVec 32) :
    Option WorldStateExpressionEntry :=
  context.expressions.bind fun store => if arg.msb then none else store.lookup arg

end WorldStateExpressionContext

/-! ## Codes -/

def wseFunctionMax : BitVec 32 := 39

def valueConstant : Byte := 1
def valueWorldState : Byte := 2
def valueFunction : Byte := 3

def logicNone : Byte := 0
def logicAnd : Byte := 1
def logicOr : Byte := 2
def logicXor : Byte := 3

def compNone : Byte := 0
def compEqual : Byte := 1
def compNotEqual : Byte := 2
def compLess : Byte := 3
def compLessOrEqual : Byte := 4
def compGreater : Byte := 5
def compGreaterOrEqual : Byte := 6

def opNone : Byte := 0
def opSum : Byte := 1
def opSubstraction : Byte := 2
def opMultiplication : Byte := 3
def opDivision : Byte := 4
def opRemainder : Byte := 5

def wseFunctionNone : BitVec 32 := 0
def wseFunctionRandom : BitVec 32 := 1
def wseFunctionMonth : BitVec 32 := 2
def wseFunctionDay : BitVec 32 := 3
def wseFunctionTimeOfDay : BitVec 32 := 4
def wseFunctionRegion : BitVec 32 := 5
def wseFunctionClockHour : BitVec 32 := 6
def wseFunctionOldDifficultyId : BitVec 32 := 7
def wseFunctionHolidayActive : BitVec 32 := 10
def wseFunctionTimerCurrentTime : BitVec 32 := 11
def wseFunctionWeekNumber : BitVec 32 := 12
def wseFunctionDifficultyId : BitVec 32 := 15
def wseFunctionWorldStateExpression : BitVec 32 := 22
def wseFunctionMersenneRandom : BitVec 32 := 33

/-! ## The hexadecimal text -/

def isWhitespace (c : Char) : Bool :=
  (9 ≤ c.toNat && c.toNat ≤ 13) || c.toNat == 0x20 || c.toNat == 0x85 || c.toNat == 0xA0 ||
    c.toNat == 0x1680 || (0x2000 ≤ c.toNat && c.toNat ≤ 0x200A) || c.toNat == 0x2028 ||
    c.toNat == 0x2029 || c.toNat == 0x202F || c.toNat == 0x205F || c.toNat == 0x3000

def hexDigit (b : UInt8) : Option ℕ :=
  if 48 ≤ b.toNat ∧ b.toNat ≤ 57 then some (b.toNat - 48)
  else if 97 ≤ b.toNat ∧ b.toNat ≤ 102 then some (b.toNat - 87)
  else if 65 ≤ b.toNat ∧ b.toNat ≤ 70 then some (b.toNat - 55)
  else none

/-- `u8::from_str_radix(s, 16)` on two bytes; a plus sign may come first. -/
def u8FromHex (b b' : UInt8) : Option Byte :=
  if b = 43 then (hexDigit b').map (BitVec.ofNat 8)
  else do
    let high ← hexDigit b
    let low ← hexDigit b'
    return BitVec.ofNat 8 (16 * high + low)

def hexPairs : List UInt8 → Option (List Byte)
  | [] => some []
  | [_] => none
  | b :: b' :: rest => do
      let byte ← u8FromHex b b'
      let bytes ← hexPairs rest
      return byte :: bytes

def hexToBytes (input : String) : Option (List Byte) :=
  hexPairs ((input.toList.filter fun c => !isWhitespace c).flatMap String.utf8EncodeChar)

/-! ## The generator of the function 33 -/

structure Mt19937 where
  state : Array (BitVec 32)
  index : ℕ

namespace Mt19937

def new (seed : BitVec 32) : Mt19937 where
  state := (List.range 623).foldl (fun state i =>
    let last := state.getD i 0
    state.push (1812433253 * (last ^^^ (last >>> 30)) + BitVec.ofNat 32 (i + 1))) #[seed]
  index := 624

def twistAt (state : Array (BitVec 32)) (i : ℕ) : Array (BitVec 32) :=
  let x := (state.getD i 0 &&& 0x80000000) + (state.getD ((i + 1) % 624) 0 &&& 0x7FFFFFFF)
  let half := x >>> 1
  let xa := if x % 2 ≠ 0 then half ^^^ 0x9908B0DF else half
  state.setIfInBounds i (state.getD ((i + 397) % 624) 0 ^^^ xa)

def twist (generator : Mt19937) : Mt19937 where
  state := (List.range 624).foldl twistAt generator.state
  index := 0

def nextU32 (generator : Mt19937) : BitVec 32 × Mt19937 :=
  let ready := if 624 ≤ generator.index then generator.twist else generator
  let y := ready.state.getD ready.index 0
  let y := y ^^^ (y >>> 11)
  let y := y ^^^ ((y <<< 7) &&& 0x9D2C5680)
  let y := y ^^^ ((y <<< 15) &&& 0xEFC60000)
  (y ^^^ (y >>> 18), { ready with index := ready.index + 1 })

end Mt19937

def mersenneRandom (arg1 arg2 : BitVec 32) : BitVec 32 :=
  if arg1.msb then 0
  else if arg1 = 0 then 0
  else if arg1 = 1 then 1
  else
    let seed := if arg2.msb || arg2 == 0 then 1 else arg2
    (Mt19937.new seed).nextU32.1 % arg1 + 1

/-! ## The reader -/

/-- The bytes that are left, and how often the clock was read. -/
structure WseByteReader where
  rest : List Byte
  clockReads : ℕ

/-- An evaluation reads bytes and may evaluate other entries. -/
abbrev Wse : Type → Type :=
  StateT WseByteReader (CallTree (WorldStateExpressionEntry × ℕ) (Bool × ℕ))

def isAtEnd : Wse Bool := return (← get).rest.isEmpty

def readU8 : Wse (Option Byte) := fun reader =>
  match reader.rest with
  | [] => .done (none, reader)
  | byte :: rest => .done (some byte, { reader with rest := rest })

def readBool : Wse (Option Bool) := return (← readU8).map (· != 0)

/-- Four bytes, or none if fewer are left. -/
def readU32 : Wse (Option (BitVec 32)) := fun reader =>
  if reader.rest.length < 4 then .done (none, reader)
  else .done (some (BitVec.ofNat 32 (ofLeBytes (reader.rest.take 4))),
    { reader with rest := reader.rest.drop 4 })

def readI32 : Wse (Option (BitVec 32)) := readU32

/-! ## Evaluation -/

section Evaluation

variable (clock : ℕ → BitVec 32) (context : WorldStateExpressionContext)

/-- The nanoseconds of the system clock. -/
def readClock : Wse (BitVec 32) := fun reader =>
  .done (clock reader.clockReads, { reader with clockReads := reader.clockReads + 1 })

def randomRange (arg1 arg2 : BitVec 32) : Wse (BitVec 32) :=
  let minimum := if arg1.sle arg2 then arg1 else arg2
  let maximum := if arg1.sle arg2 then arg2 else arg1
  let span := (maximum.toInt - minimum.toInt + 1).toNat
  if 4294967296 ≤ span ∨ span ≤ 1 then return minimum
  else return minimum + BitVec.ofNat 32 ((← readClock clock).toNat % span)

/-- The functions that neither draw nor evaluate anything. -/
def functionValue (functionType arg1 : BitVec 32) : BitVec 32 :=
  if functionType = wseFunctionNone then 0
  else if functionType = wseFunctionMonth then context.time.month
  else if functionType = wseFunctionDay then context.time.day
  else if functionType = wseFunctionTimeOfDay then context.time.hour * 60 + context.time.minute
  else if functionType = wseFunctionRegion then context.region
  else if functionType = wseFunctionClockHour then
    let currentHour := context.time.hour + 1
    if currentHour.sle 12 then if currentHour ≠ 0 then currentHour else 12 else currentHour - 12
  else if functionType = wseFunctionOldDifficultyId then context.oldDifficultyId
  else if functionType = wseFunctionHolidayActive then
    if arg1.msb then 0 else context.isHolidayActive arg1
  else if functionType = wseFunctionTimerCurrentTime then context.time.gameTimeSecs.setWidth 32
  else if functionType = wseFunctionWeekNumber then
    ((context.time.gameTimeSecs - context.raidOriginSecs).sdiv 604800).setWidth 32
  else if functionType = wseFunctionDifficultyId then context.difficultyId
  else 0

/-- The evaluation of another entry, with the same clock. -/
def nestedExpression (entry : WorldStateExpressionEntry) : Wse Bool := fun reader =>
  .call (entry, reader.clockReads) fun value =>
    .done (value.1, { reader with clockReads := value.2 })

def evalFunction (functionType arg1 arg2 : BitVec 32) : Wse (BitVec 32) :=
  if functionType = wseFunctionRandom then randomRange clock arg1 arg2
  else if functionType = wseFunctionWorldStateExpression then
    match context.findExpression arg1 with
    | none => return 0
    | some entry => return if ← nestedExpression entry then 1 else 0
  else if functionType = wseFunctionMersenneRandom then return mersenneRandom arg1 arg2
  else return functionValue context functionType arg1

/-- `left.checked_div(right).unwrap_or(0)`. -/
def checkedDiv (left right : BitVec 32) : BitVec 32 :=
  if right = 0 ∨ (left = BitVec.intMin 32 ∧ right = -1) then 0 else left.sdiv right

/-- `left.checked_rem(right).unwrap_or(0)`. -/
def checkedRem (left right : BitVec 32) : BitVec 32 :=
  if right = 0 ∨ (left = BitVec.intMin 32 ∧ right = -1) then 0 else left.srem right

/-- `steps` bounds the depth of the recursion into arguments. -/
def evalSingleValue : ℕ → Wse (BitVec 32)
  | 0 => fun _ => .stuck
  | steps + 1 => do
      let tag := (← readU8).getD 0
      if tag = valueConstant then return (← readI32).getD 0
      else if tag = valueWorldState then return context.worldStateValue ((← readU32).getD 0)
      else if tag = valueFunction then
        let functionType := (← readU32).getD (BitVec.allOnes 32)
        let arg1 ← evalSingleValue steps
        let arg2 ← evalSingleValue steps
        if wseFunctionMax ≤ functionType then return 0
        else evalFunction clock context functionType arg1 arg2
      else return 0

def evalValue (steps : ℕ) : Wse (BitVec 32) := do
  let left ← evalSingleValue clock context steps
  let op := (← readU8).getD opNone
  if op = opNone then return left
  else if op = opSum then return left + (← evalSingleValue clock context steps)
  else if op = opSubstraction then return left - (← evalSingleValue clock context steps)
  else if op = opMultiplication then return left * (← evalSingleValue clock context steps)
  else if op = opDivision then return checkedDiv left (← evalSingleValue clock context steps)
  else if op = opRemainder then return checkedRem left (← evalSingleValue clock context steps)
  else return left

def evalRelOp (steps : ℕ) : Wse Bool := do
  let left ← evalValue clock context steps
  let comp := (← readU8).getD compNone
  if comp = compNone then return left != 0
  else if comp = compEqual then return left == (← evalValue clock context steps)
  else if comp = compNotEqual then return left != (← evalValue clock context steps)
  else if comp = compLess then return left.slt (← evalValue clock context steps)
  else if comp = compLessOrEqual then return left.sle (← evalValue clock context steps)
  else if comp = compGreater then return (← evalValue clock context steps).slt left
  else if comp = compGreaterOrEqual then return (← evalValue clock context steps).sle left
  else return false

def joinResults (logic : Byte) (first second : Bool) : Bool :=
  if logic = logicAnd then first && second
  else if logic = logicOr then first || second
  else if logic = logicXor then first != second
  else first

/-- The loop over the relations behind the first, of `rounds` rounds at most. -/
def evalLogic (steps : ℕ) : ℕ → Bool → Byte → Wse Bool
  | 0, finalResult, resultLogic =>
    if resultLogic = logicNone then return finalResult else fun _ => .stuck
  | rounds + 1, finalResult, resultLogic =>
    if resultLogic = logicNone then return finalResult
    else do
      let secondResult ← evalRelOp clock context steps
      let joined := joinResults resultLogic finalResult secondResult
      if ← isAtEnd then return joined
      else evalLogic steps rounds joined ((← readU8).getD logicNone)

def evalExpression (steps : ℕ) : Wse Bool := do
  if !(← readBool).getD false then return false
  else
    let finalResult ← evalRelOp clock context steps
    let resultLogic := (← readU8).getD logicNone
    evalLogic clock context steps steps finalResult resultLogic

/-- The evaluation of one entry, when the clock was read so often before. -/
def evalEntry (start : WorldStateExpressionEntry × ℕ) :
    CallTree (WorldStateExpressionEntry × ℕ) (Bool × ℕ) (Bool × ℕ) :=
  match hexToBytes start.1.expression with
  | none => .done (false, start.2)
  | some bytes =>
    if bytes.isEmpty then .done (false, start.2)
    else do
      let value ← evalExpression clock context (bytes.length + 1) ⟨bytes, start.2⟩
      return (value.1, value.2.clockReads)

/-- The result of an evaluation whose entries nest less than `depth` deep. -/
def isMeetingWorldStateExpression (depth : ℕ) (entry : WorldStateExpressionEntry) :
    Option Bool :=
  (recurse (evalEntry clock context) depth (entry, 0)).map Prod.fst

end Evaluation

end RustyCore.WorldStates
