import RustyCore.Library.Scanner

/-! # Splitting a script

`split_sql` as its loops run. The source walks over the bytes of the script; every byte that it
looks for is an ASCII one, so the script is taken here by its characters, and an index is what
lies behind it. -/

namespace RustyCore.Migrations

def isWhitespace (c : Char) : Bool :=
  (9 ≤ c.toNat && c.toNat ≤ 13) || c.toNat = 0x20 || c.toNat = 0x85 || c.toNat = 0xA0 ||
    c.toNat = 0x1680 || (0x2000 ≤ c.toNat && c.toNat ≤ 0x200A) || c.toNat = 0x2028 ||
    c.toNat = 0x2029 || c.toNat = 0x202F || c.toNat = 0x205F || c.toNat = 0x3000

/-- `str::trim`. -/
def trim (text : List Char) : List Char := Scanner.trim isWhitespace text

/-- What the inner loop of a comment to the end of the line leaves. -/
def skipLine : List Char → List Char
  | [] => []
  | c :: rest => if c = '\n' then c :: rest else skipLine rest

/-- What the inner loop of a block comment leaves, with the end of the comment skipped. -/
def skipBlock : List Char → List Char
  | [] => []
  | c :: rest => if c = '*' ∧ rest.head? = some '/' then rest.tail else skipBlock rest

/-- What the inner loop of a string leaves. -/
def skipQuoted (quote : Char) : List Char → List Char
  | [] => []
  | c :: rest =>
    if c = '\\' then
      match rest with
      | [] => []
      | _ :: rest => skipQuoted quote rest
    else if c = quote then rest
    else skipQuoted quote rest

theorem length_skipLine_le (text : List Char) : (skipLine text).length ≤ text.length := by
  induction text with
  | nil => exact le_rfl
  | cons c rest ih =>
    rw [skipLine]
    split
    · exact le_rfl
    · exact ih.trans (Nat.le_succ _)

theorem length_skipBlock_le (text : List Char) : (skipBlock text).length ≤ text.length := by
  induction text with
  | nil => exact le_rfl
  | cons c rest ih =>
    rw [skipBlock]
    split
    · simp only [List.length_tail, List.length_cons]
      omega
    · exact ih.trans (Nat.le_succ _)

theorem length_skipQuoted_le (quote : Char) (text : List Char) :
    (skipQuoted quote text).length ≤ text.length := by
  fun_induction skipQuoted quote text with
  | case1 => exact le_rfl
  | case2 => simp
  | case3 => grind
  | case4 => grind
  | case5 => grind

/-- `content[start..index]`. -/
def slice (start index : List Char) : List Char := start.take (start.length - index.length)

/-- `statements` with the trimmed text, if anything is left of it. -/
def pushSolid (statements : List (List Char)) (text : List Char) : List (List Char) :=
  let statement := trim text
  if statement.isEmpty then statements else statements ++ [statement]

/-- The main loop. -/
def splitLoop (start index : List Char) (statements : List (List Char)) : List (List Char) :=
  match index with
  | [] => pushSolid statements start
  | c :: rest =>
    if c = '-' ∧ rest.head? = some '-' then splitLoop start (skipLine rest) statements
    else if c = '#' then splitLoop start (skipLine rest) statements
    else if c = '/' ∧ rest.head? = some '*' then splitLoop start (skipBlock rest.tail) statements
    else if c = '\'' ∨ c = '"' then splitLoop start (skipQuoted c rest) statements
    else if c = ';' then splitLoop rest rest (pushSolid statements (slice start (c :: rest)))
    else splitLoop start rest statements
termination_by index.length
decreasing_by
  · exact Nat.lt_succ_of_le (length_skipLine_le rest)
  · exact Nat.lt_succ_of_le (length_skipLine_le rest)
  · exact Nat.lt_succ_of_le ((length_skipBlock_le _).trans (by simp))
  · exact Nat.lt_succ_of_le (length_skipQuoted_le c rest)
  · exact Nat.lt_succ_self _
  · exact Nat.lt_succ_self _

def splitSql (content : List Char) : List (List Char) := splitLoop content content []

end RustyCore.Migrations
