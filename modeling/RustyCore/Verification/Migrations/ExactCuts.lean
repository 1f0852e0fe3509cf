import RustyCore.Model.Migrations.SplitSql

/-! # Where a script is cut

The main loop of `split_sql` is a scanner with lexical modes. It is compared with the scanner
that reads the script as the database does. -/

namespace RustyCore.Migrations

variable {mode : SqlMode} {c : Char}

/-! ## Lexical modes -/

inductive SqlMode where
  | plain
  /-- In a comment to the end of the line. -/
  | line
  /-- Before the second character of a block comment. -/
  | blockOpen
  | block
  /-- Before the last character of a block comment. -/
  | blockClose
  | quoted (quote : Char)
  /-- Before a character that is part of the quoted text whatever it is. -/
  | escaped (quote : Char)
deriving DecidableEq

namespace SqlMode

/-- The modes in a comment, which the two scanners leave in the same way. -/
def nextInComment (mode : SqlMode) (c : Char) (rest : List Char) : SqlMode :=
  match mode with
  | line => if c = '\n' then plain else line
  | blockOpen => block
  | block => if c = '*' ∧ rest.head? = some '/' then blockClose else block
  | blockClose => plain
  | mode => mode

def cuts (mode : SqlMode) (c : Char) : Bool := mode = plain && c = ';'

end SqlMode

open SqlMode

/-! ## The scanner of the code -/

def nextMode (mode : SqlMode) (c : Char) (rest : List Char) : SqlMode :=
  match mode with
  | plain =>
    if c = '-' ∧ rest.head? = some '-' then line
    else if c = '#' then line
    else if c = '/' ∧ rest.head? = some '*' then blockOpen
    else if c = '\'' ∨ c = '"' then quoted c
    else plain
  | quoted quote =>
    if c = '\\' then escaped quote else if c = quote then plain else quoted quote
  | escaped quote => quoted quote
  | mode => nextInComment mode c rest

def splitScanner : Scanner SqlMode Char := ⟨plain, nextMode, cuts⟩

theorem cuts_of_ne_plain (h : mode ≠ plain) (c : Char) : cuts mode c = false := by
  simp [cuts, h]

theorem cuts_of_ne_semicolon (mode : SqlMode) (h : c ≠ ';') : cuts mode c = false := by
  simp [cuts, h]

theorem pieces_nil (mode : SqlMode) (piece : List Char) :
    splitScanner.piecesFrom mode piece [] = [piece] := rfl

theorem pieces_cons (h : cuts mode c = false) (piece rest : List Char) :
    splitScanner.piecesFrom mode piece (c :: rest) =
      splitScanner.piecesFrom (nextMode mode c rest) (piece ++ [c]) rest := by
  have hcut : splitScanner.cuts mode c = false := h
  rw [Scanner.piecesFrom, if_neg (by simp [hcut])]
  rfl

/-- An inner loop that starts in `mode` ends in plain text, and what it has passed over belongs
to the piece. -/
def Skips (mode : SqlMode) (text left : List Char) : Prop :=
  ∃ passed, text = passed ++ left ∧ ∀ piece,
    splitScanner.piecesFrom mode piece text = splitScanner.piecesFrom plain (piece ++ passed) left

theorem Skips.refl (text : List Char) : Skips plain text text := ⟨[], rfl, by simp⟩

theorem Skips.end (mode : SqlMode) : Skips mode [] [] :=
  ⟨[], rfl, fun piece => by simp [pieces_nil]⟩

theorem Skips.cons (hcut : cuts mode c = false) {rest left : List Char}
    (h : Skips (nextMode mode c rest) rest left) : Skips mode (c :: rest) left := by
  obtain ⟨passed, hrest, hpieces⟩ := h
  refine ⟨c :: passed, by simp [hrest], fun piece => ?_⟩
  rw [pieces_cons hcut, hpieces]
  simp

theorem skips_line (text : List Char) : Skips line text (skipLine text) := by
  induction text with
  | nil => exact Skips.end line
  | cons c rest ih =>
    by_cases hc : c = '\n'
    · subst hc
      refine ⟨[], rfl, fun piece => ?_⟩
      rw [pieces_cons (by decide), skipLine, if_pos rfl, List.append_nil,
        pieces_cons (by decide)]
      simp [nextMode, nextInComment]
    · have hrest : Skips line (c :: rest) (skipLine rest) := by
        refine Skips.cons (cuts_of_ne_plain (by decide) _) ?_
        simpa [nextMode, nextInComment, hc] using ih
      simpa [skipLine, hc] using hrest

theorem skips_block (text : List Char) : Skips block text (skipBlock text) := by
  induction text with
  | nil => exact Skips.end block
  | cons c rest ih =>
    by_cases hc : c = '*' ∧ rest.head? = some '/'
    · have hrest : Skips block (c :: rest) rest.tail := by
        refine Skips.cons (cuts_of_ne_plain (by decide) _) ?_
        obtain ⟨hstar, hslash⟩ := hc
        cases rest with
        | nil => simp at hslash
        | cons c' rest =>
          have hclose : nextMode block c (c' :: rest) = blockClose := by
            simp_all [nextMode, nextInComment]
          rw [hclose]
          exact Skips.cons (cuts_of_ne_plain (by decide) _) (Skips.refl rest)
      simpa [skipBlock, hc] using hrest
    · have hrest : Skips block (c :: rest) (skipBlock rest) := by
        refine Skips.cons (cuts_of_ne_plain (by decide) _) ?_
        simpa [nextMode, nextInComment, hc] using ih
      simpa [skipBlock, hc] using hrest

theorem skips_quoted (quote : Char) (text : List Char) :
    Skips (quoted quote) text (skipQuoted quote text) := by
  fun_induction skipQuoted quote text with
  | case1 => exact Skips.end _
  | case2 =>
    refine Skips.cons (cuts_of_ne_plain (by simp) _) ?_
    exact Skips.end _
  | case3 c' rest ih =>
    refine Skips.cons (cuts_of_ne_plain (by simp) _) ?_
    have hescaped : nextMode (quoted quote) '\\' (c' :: rest) = escaped quote := by
      simp [nextMode]
    rw [hescaped]
    exact Skips.cons (cuts_of_ne_plain (by simp) _) ih
  | case4 rest hc =>
    refine Skips.cons (cuts_of_ne_plain (by simp) _) ?_
    simpa [nextMode, hc] using Skips.refl rest
  | case5 c rest hc hquote ih =>
    refine Skips.cons (cuts_of_ne_plain (by simp) _) ?_
    simpa [nextMode, hc, hquote] using ih

theorem skips_blockOpen {rest : List Char} (h : rest.head? = some '*') :
    Skips blockOpen rest (skipBlock rest.tail) := by
  cases rest with
  | nil => simp at h
  | cons c rest => exact Skips.cons (cuts_of_ne_plain (by decide) _) (skips_block rest)

/-! ## The main loop -/

theorem slice_append (piece index : List Char) : slice (piece ++ index) index = piece := by
  simp [slice]

theorem pushSolid_append (statements : List (List Char)) (piece : List Char)
    (pieces : List (List Char)) :
    pushSolid statements piece ++ Scanner.solid isWhitespace pieces =
      statements ++ Scanner.solid isWhitespace (piece :: pieces) := by
  by_cases hpiece : trim piece = []
  · rw [Scanner.solid_cons_of_blank isWhitespace hpiece]
    simp [pushSolid, hpiece]
  · rw [Scanner.solid_cons_of_ne isWhitespace hpiece]
    simp [pushSolid, hpiece]
    rfl

/-- A branch of the loop that skips to `left` adds to the piece what it has passed over. -/
theorem loop_skips {start index left : List Char} {statements result : List (List Char)}
    (hskips : Skips plain index left)
    (ih : ∀ {piece}, start = piece ++ left → result =
      statements ++ Scanner.solid isWhitespace (splitScanner.piecesFrom plain piece left))
    {piece : List Char} (hstart : start = piece ++ index) :
    result =
      statements ++ Scanner.solid isWhitespace (splitScanner.piecesFrom plain piece index) := by
  obtain ⟨passed, hindex, hpieces⟩ := hskips
  rw [hpieces]
  exact ih (by rw [hstart, hindex, List.append_assoc])

theorem splitLoop_eq {start index : List Char} (statements : List (List Char)) {piece : List Char}
    (hstart : start = piece ++ index) :
    splitLoop start index statements =
      statements ++ Scanner.solid isWhitespace (splitScanner.piecesFrom plain piece index) := by
  fun_induction splitLoop start index statements generalizing piece with
  | case1 start statements =>
    rw [hstart, List.append_nil, pieces_nil]
    simpa [Scanner.solid] using pushSolid_append statements piece []
  | case2 start statements c rest hc ih =>
    refine loop_skips (Skips.cons (cuts_of_ne_semicolon _ (by simp [hc])) ?_) ih hstart
    simpa [nextMode, hc] using skips_line rest
  | case3 start statements rest hc ih =>
    refine loop_skips (Skips.cons (cuts_of_ne_semicolon _ (by decide)) ?_) ih hstart
    simpa [nextMode, hc] using skips_line rest
  | case4 start statements c rest hc hc' hblock ih =>
    refine loop_skips (Skips.cons (cuts_of_ne_semicolon _ (by simp [hblock])) ?_) ih hstart
    simpa [nextMode, hc, hc', hblock] using skips_blockOpen hblock.2
  | case5 start statements c rest hc hc' hblock hquote ih =>
    refine loop_skips (Skips.cons (cuts_of_ne_semicolon _ ?_) ?_) ih hstart
    · rcases hquote with rfl | rfl <;> decide
    · simpa [nextMode, hc, hc', hblock, hquote] using skips_quoted c rest
  | case6 start statements rest hc hc' hblock hquote ih =>
    have hrest : rest = [] ++ rest := rfl
    rw [ih hrest, hstart, slice_append, pushSolid_append]
    rfl
  | case7 start statements c rest hc hc' hblock hquote hsemicolon ih =>
    refine loop_skips (Skips.cons (cuts_of_ne_semicolon _ hsemicolon) ?_) ih hstart
    simpa [nextMode, hc, hc', hblock, hquote] using Skips.refl rest

theorem splitSql_eq (content : List Char) :
    splitSql content =
      Scanner.solid isWhitespace (splitScanner.piecesFrom plain [] content) :=
  splitLoop_eq [] rfl

end RustyCore.Migrations

/-! ## The cuts of the database

The script as the database reads it, with backtick identifiers, doubled quotes and `--` comments
that need a blank, and the scripts on which `split_sql` cuts at the same semicolons. -/

namespace RustyCore.Migrations

open SqlMode

variable {c : Char} {mode : SqlMode}

/-! ## The scanner of the database -/

def backtick : Char := Char.ofNat 0x60

def isSpaceOrControl (c : Char) : Bool := c.toNat ≤ 0x20 || c.toNat = 0x7F

/-- Whether a dash in front of `rest` opens a comment: with a second one, and a blank, a control
character or the end behind that. -/
def opensLine (rest : List Char) : Bool :=
  rest.head? = some '-' && rest.tail.head?.all isSpaceOrControl

def mysqlNext (mode : SqlMode) (c : Char) (rest : List Char) : SqlMode :=
  match mode with
  | plain =>
    if c = '-' ∧ opensLine rest = true then line
    else if c = '#' then line
    else if c = '/' ∧ rest.head? = some '*' then blockOpen
    else if c = '\'' ∨ c = '"' ∨ c = backtick then quoted c
    else plain
  | quoted quote =>
    if c = '\\' ∧ quote ≠ backtick then escaped quote
    else if c = quote then
      -- A doubled quote is part of the text.
      if rest.head? = some quote then escaped quote else plain
    else quoted quote
  | escaped quote => quoted quote
  | mode => nextInComment mode c rest

def mysqlScanner : Scanner SqlMode Char := ⟨plain, mysqlNext, cuts⟩

/-- The statements of a script: the text between the semicolons that end one. -/
def mysqlStatements (script : List Char) : List (List Char) :=
  Scanner.solid isWhitespace (mysqlScanner.piecesFrom plain [] script)

def tokenAt (mode : SqlMode) (c : Char) (rest : List Char) : Bool :=
  match mode with
  | plain =>
    !isWhitespace c && c ≠ ';' && mysqlNext plain c rest ≠ line &&
      mysqlNext plain c rest ≠ blockOpen
  | quoted _ | escaped _ => true
  | _ => false

def hasTokenFrom : SqlMode → List Char → Bool
  | _, [] => false
  | mode, c :: rest => tokenAt mode c rest || hasTokenFrom (mysqlNext mode c rest) rest

/-- Some token stands outside the comments. -/
def HasToken (statement : List Char) : Prop := hasTokenFrom plain statement = true

/-- The statements that `split_sql` returns are those of the script, each of them has a token,
and they keep every character but blanks and the semicolons between them. -/
structure ExactCuts (script : List Char) : Prop where
  statements : splitSql script = mysqlStatements script
  tokens : ∀ statement ∈ splitSql script, HasToken statement
  lossless : (splitSql script).flatten.filter (fun c => !isWhitespace c) =
    (mysqlScanner.uncutFrom plain script).filter fun c => !isWhitespace c

/-- Each semicolon ends a statement for both scanners or for none. -/
def SameSemicolons (script : List Char) : Prop :=
  splitScanner.cutsFrom plain script = mysqlScanner.cutsFrom plain script

instance (statement : List Char) : Decidable (HasToken statement) :=
  inferInstanceAs (Decidable (_ = _))

instance (script : List Char) : Decidable (SameSemicolons script) :=
  inferInstanceAs (Decidable (_ = _))

/-! ## Both scanners cut at semicolons in plain text -/

theorem isWhitespace_semicolon : isWhitespace ';' = false := by decide

theorem eq_plain_of_cuts (h : cuts mode c = true) : mode = plain ∧ c = ';' := by
  simpa [cuts] using h

theorem ne_of_isWhitespace {c' : Char} (h : isWhitespace c = true) (h' : isWhitespace c' = false) :
    c ≠ c' := by
  rintro rfl
  simp [h] at h'

theorem opens_nothing (h : isWhitespace c = true) :
    c ≠ '-' ∧ c ≠ '#' ∧ c ≠ '/' ∧ c ≠ '\'' ∧ c ≠ '"' ∧ c ≠ backtick := by
  refine ⟨?_, ?_, ?_, ?_, ?_, ?_⟩ <;> exact ne_of_isWhitespace h (by decide)

theorem separates_split : splitScanner.Separates isWhitespace ';' where
  eq_sep h := (eq_plain_of_cuts h).2
  cuts_start := by decide
  next_cut rest h := by
    obtain ⟨rfl, rfl⟩ := eq_plain_of_cuts h
    simp [splitScanner, nextMode]
  next_space rest h := by
    simp [splitScanner, nextMode, opens_nothing h]

theorem separates_mysql : mysqlScanner.Separates isWhitespace ';' where
  eq_sep h := (eq_plain_of_cuts h).2
  cuts_start := by decide
  next_cut rest h := by
    obtain ⟨rfl, rfl⟩ := eq_plain_of_cuts h
    simp [mysqlScanner, mysqlNext, backtick]
  next_space rest h := by
    simp [mysqlScanner, mysqlNext, opens_nothing h]

theorem sameSemicolons_iff (script : List Char) :
    SameSemicolons script ↔ splitSql script = mysqlStatements script := by
  constructor
  · intro h
    rw [splitSql_eq, mysqlStatements, Scanner.piecesFrom_congr h]
  · intro h
    rw [splitSql_eq, mysqlStatements] at h
    exact Scanner.cutsFrom_eq_of_solid_eq isWhitespace_semicolon separates_split separates_mysql
      (fun _ => ⟨rfl, rfl⟩) h

theorem lossless_mysqlStatements (script : List Char) :
    (mysqlStatements script).flatten.filter (fun c => !isWhitespace c) =
      (mysqlScanner.uncutFrom plain script).filter fun c => !isWhitespace c := by
  rw [mysqlStatements, Scanner.filter_flatten_solid, Scanner.flatten_piecesFrom]
  rfl

theorem exactCuts_iff (script : List Char) :
    ExactCuts script ↔
      SameSemicolons script ∧ ∀ statement ∈ mysqlStatements script, HasToken statement := by
  constructor
  · intro h
    exact ⟨(sameSemicolons_iff script).mpr h.statements, h.statements ▸ h.tokens⟩
  · rintro ⟨hsame, htokens⟩
    have heq := (sameSemicolons_iff script).mp hsame
    exact ⟨heq, heq ▸ htokens, heq ▸ lossless_mysqlStatements script⟩

/-! ## Calm scripts -/

/-- A backtick identifier holds nothing that the code takes for more than plain text, and two
dashes outside it open a comment. -/
def CalmAt (mode : SqlMode) (c : Char) (rest : List Char) : Prop :=
  match mode with
  | plain => c = '-' → rest.head? = some '-' → opensLine rest = true
  | quoted quote | escaped quote =>
    quote = backtick → cuts plain c = false ∧ nextMode plain c rest = plain
  | _ => True

def CalmFrom : SqlMode → List Char → Prop
  | _, [] => True
  | mode, c :: rest => CalmAt mode c rest ∧ CalmFrom (mysqlNext mode c rest) rest

/-- Neither in a string nor in an identifier. -/
def SqlMode.isOutside : SqlMode → Bool
  | quoted _ | escaped _ => false
  | _ => true

/-- How the modes of the two scanners correspond in a calm script: a backtick identifier is plain
text for the code, which also closes and reopens a string at a doubled quote. -/
inductive Corresponds : SqlMode → SqlMode → List Char → Prop
  | outside {mode : SqlMode} (rest : List Char)
      (hmode : mode.isOutside = true) : Corresponds mode mode rest
  | string {quote : Char} (rest : List Char) (hquote : quote = '\'' ∨ quote = '"') :
      Corresponds (quoted quote) (quoted quote) rest
  | backslash {quote : Char} (rest : List Char) (hquote : quote = '\'' ∨ quote = '"') :
      Corresponds (escaped quote) (escaped quote) rest
  | doubled {quote : Char} {rest : List Char} (hquote : quote = '\'' ∨ quote = '"')
      (hnext : rest.head? = some quote) : Corresponds (escaped quote) plain rest
  | identifier {mode : SqlMode} (rest : List Char)
      (hmode : mode = quoted backtick ∨ mode = escaped backtick) : Corresponds mode plain rest

/-- In plain text both scanners go on in the same way, but for a backtick. -/
theorem corresponds_plain {rest : List Char} (hcalm : CalmAt plain c rest) :
    Corresponds (mysqlNext plain c rest) (nextMode plain c rest) rest := by
  have hdash : (c = '-' ∧ opensLine rest = true) ↔ (c = '-' ∧ rest.head? = some '-') := by
    constructor
    · rintro ⟨hc, hopens⟩
      exact ⟨hc, by simp_all [opensLine]⟩
    · rintro ⟨hc, hhead⟩
      exact ⟨hc, hcalm hc hhead⟩
  simp only [mysqlNext, nextMode, hdash]
  by_cases hline : c = '-' ∧ rest.head? = some '-'
  · simpa only [if_pos hline] using Corresponds.outside rest rfl
  by_cases hhash : c = '#'
  · simpa only [if_neg hline, if_pos hhash] using Corresponds.outside rest rfl
  by_cases hblock : c = '/' ∧ rest.head? = some '*'
  · simpa only [if_neg hline, if_neg hhash, if_pos hblock] using Corresponds.outside rest rfl
  simp only [if_neg hline, if_neg hhash, if_neg hblock]
  by_cases hquote : c = '\'' ∨ c = '"'
  · rw [if_pos hquote, if_pos (hquote.imp_right .inl)]
    exact .string rest hquote
  · by_cases hbacktick : c = backtick
    · rw [if_neg hquote, if_pos (.inr (.inr hbacktick)), hbacktick]
      exact .identifier rest (.inl rfl)
    · rw [if_neg hquote, if_neg fun h => ?_]
      · exact .outside rest rfl
      · rcases h with h | h | h
        · exact hquote (.inl h)
        · exact hquote (.inr h)
        · exact hbacktick h

theorem ne_backtick {quote : Char} (h : quote = '\'' ∨ quote = '"') : quote ≠ backtick := by
  rcases h with rfl | rfl <;> decide

/-- A quote is read in the same way by both, with the code in plain text between two of them. -/
theorem corresponds_quoted {quote : Char} (hquote : quote = '\'' ∨ quote = '"') (c : Char)
    (rest : List Char) :
    Corresponds (mysqlNext (quoted quote) c rest) (nextMode (quoted quote) c rest) rest := by
  simp only [mysqlNext, nextMode]
  by_cases hbackslash : c = '\\'
  · rw [if_pos ⟨hbackslash, ne_backtick hquote⟩, if_pos hbackslash]
    exact .backslash rest hquote
  · rw [if_neg fun h => hbackslash h.1, if_neg hbackslash]
    by_cases hc : c = quote
    · rw [if_pos hc, if_pos hc]
      by_cases hnext : rest.head? = some quote
      · rw [if_pos hnext]
        exact .doubled hquote hnext
      · rw [if_neg hnext]
        exact .outside rest rfl
    · rw [if_neg hc, if_neg hc]
      exact .string rest hquote

/-- What follows in an identifier is an identifier or, after its end, plain text. -/
theorem corresponds_identifier (hmode : mode = quoted backtick ∨ mode = escaped backtick)
    (c : Char) (rest : List Char) : Corresponds (mysqlNext mode c rest) plain rest := by
  rcases hmode with rfl | rfl
  · simp only [mysqlNext, ne_eq, not_true_eq_false, and_false, if_false]
    by_cases hc : c = backtick
    · rw [if_pos hc]
      by_cases hnext : rest.head? = some backtick
      · rw [if_pos hnext]
        exact .identifier rest (.inr rfl)
      · rw [if_neg hnext]
        exact .outside rest rfl
    · rw [if_neg hc]
      exact .identifier rest (.inl rfl)
  · exact .identifier rest (.inl rfl)

theorem Corresponds.step {mode' : SqlMode} {rest : List Char}
    (h : Corresponds mode mode' (c :: rest)) (hcalm : CalmAt mode c rest) :
    cuts mode' c = cuts mode c ∧
      Corresponds (mysqlNext mode c rest) (nextMode mode' c rest) rest := by
  cases h with
  | outside _ hmode =>
    refine ⟨rfl, ?_⟩
    cases mode with
    | plain => exact corresponds_plain hcalm
    | line =>
      refine .outside rest ?_
      simp only [mysqlNext, nextInComment]
      split <;> rfl
    | blockOpen => exact .outside rest rfl
    | block =>
      refine .outside rest ?_
      simp only [mysqlNext, nextInComment]
      split <;> rfl
    | blockClose => exact .outside rest rfl
    | quoted quote => simp [isOutside] at hmode
    | escaped quote => simp [isOutside] at hmode
  | string _ hquote => exact ⟨rfl, corresponds_quoted hquote c rest⟩
  | backslash _ hquote => exact ⟨rfl, .string rest hquote⟩
  | doubled hquote hnext =>
    obtain rfl : c = _ := Option.some.inj hnext
    refine ⟨?_, ?_⟩
    · rcases hquote with rfl | rfl <;> decide
    · have hopen : nextMode SqlMode.plain c rest = quoted c := by
        rcases hquote with rfl | rfl <;> simp [nextMode]
      rw [hopen]
      exact .string rest hquote
  | identifier _ hmode =>
    have hplain : cuts SqlMode.plain c = false ∧ nextMode SqlMode.plain c rest = .plain := by
      rcases hmode with rfl | rfl <;> exact hcalm rfl
    refine ⟨?_, ?_⟩
    · rw [hplain.1]
      rcases hmode with rfl | rfl <;> rfl
    · rw [hplain.2]
      exact corresponds_identifier hmode c rest

theorem cuts_of_calm {mode' : SqlMode} {text : List Char} (h : Corresponds mode mode' text)
    (hcalm : CalmFrom mode text) :
    splitScanner.cutsFrom mode' text = mysqlScanner.cutsFrom mode text := by
  induction text generalizing mode mode' with
  | nil => rfl
  | cons c rest ih =>
    obtain ⟨hcut, hnext⟩ := h.step hcalm.1
    exact congrArg₂ List.cons hcut (ih hnext hcalm.2)

theorem sameSemicolons_of_calm {script : List Char} (h : CalmFrom plain script) :
    SameSemicolons script :=
  cuts_of_calm (.outside _ rfl) h

end RustyCore.Migrations
