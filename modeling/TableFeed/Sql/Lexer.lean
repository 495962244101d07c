import TableFeed.Sql.Quoted
import TableFeed.Sql.Rules
import TableFeed.Text.Blank

/-!
# The lexer

A text is cut into pieces from left to right; a piece is a token, or a gap: one blank or one
comment. What a character begins depends on the dialect and, for a period, on the piece
before it. The gaps are dropped, and every token keeps the first gap behind it.

    "a -- b\n.c"  ──▶  word a · gap " " · gap "-- b\n" · "." · word c
-/

namespace TableFeed.Sql

open TableFeed

/-- What the lexer cuts off at once. -/
inductive Piece where
  | token (t : Token)
  | gap (text : String)
  deriving DecidableEq, Repr

/-- A piece and what follows it. -/
abbrev Cut := Except SyntaxError (Piece × List Glyph)

namespace Lexer

/-- A message about a place. -/
def fail {α : Type} (text : String) (place : Place) : Except SyntaxError α :=
  .error (.message text (some place))

/-- The characters of some glyphs. -/
def chars (gs : List Glyph) : List Char := gs.map (·.char)

/-- A token as a cut. -/
def cut (t : Token) (rest : List Glyph) : Cut := .ok (.token t, rest)

/-! ### Operators and punctuation -/

/-- What may follow an operator that has been read. -/
inductive Ending where
  /-- It is complete. -/
  | closed
  /-- More operator characters make it another operator. -/
  | extends
  /-- It is no operator unless more operator characters follow. -/
  | mustExtend
  deriving DecidableEq, Repr

/-- The characters that operators of one's own are made of. -/
def inOperator (c : Char) : Bool :=
  ['+', '-', '*', '/', '<', '>', '=', '~', '!', '@', '#', '%', '^', '&', '|', Char.ofNat 96,
    '?'].contains c

/-- The operator at the start of some characters: how many of them it takes, its text and what
may follow. `geometric` if the geometric operators exist, `pipes` if the pipe does. The operator
`&>` takes the character behind it too. -/
def operatorAt (geometric intDivision pipes : Bool) :
    List Char → Option (Nat × String × Ending)
  | '(' :: _ => some (1, "(", .closed)
  | ')' :: _ => some (1, ")", .closed)
  | ',' :: _ => some (1, ",", .closed)
  | ';' :: _ => some (1, ";", .closed)
  | '[' :: _ => some (1, "[", .closed)
  | ']' :: _ => some (1, "]", .closed)
  | '\x7b' :: _ => some (1, "\x7b", .closed)
  | '\x7d' :: _ => some (1, "\x7d", .closed)
  | '\\' :: _ => some (1, "\\", .closed)
  | '-' :: '>' :: '>' :: _ => some (3, "->>", .extends)
  | '-' :: '>' :: _ => some (2, "->", .extends)
  | '-' :: _ => some (1, "-", .extends)
  | '/' :: '/' :: _ => if intDivision then some (2, "//", .closed) else some (1, "/", .closed)
  | '/' :: _ => some (1, "/", .closed)
  | '+' :: _ => some (1, "+", .closed)
  | '*' :: _ => some (1, "*", .closed)
  | '%' :: c :: _ => if Text.isBlank c then some (1, "%", .closed) else some (1, "%", .extends)
  | '%' :: _ => some (1, "%", .extends)
  | '|' :: '/' :: _ => some (2, "|/", .extends)
  | '|' :: '|' :: '/' :: _ => some (3, "||/", .extends)
  | '|' :: '|' :: _ => some (2, "||", .extends)
  | '|' :: '&' :: c :: _ =>
    if geometric then if c = '>' then some (3, "|&>", .extends) else some (2, "|&", .mustExtend)
    else some (1, "|", .extends)
  | '|' :: '&' :: _ => if geometric then some (2, "|&", .mustExtend) else some (1, "|", .extends)
  | '|' :: '>' :: c :: _ =>
    if geometric then if c = '>' then some (3, "|>>", .extends) else some (2, "|>", .mustExtend)
    else if pipes then some (2, "|>", .extends)
    else some (1, "|", .extends)
  | '|' :: '>' :: _ =>
    if geometric then some (2, "|>", .mustExtend)
    else if pipes then some (2, "|>", .extends)
    else some (1, "|", .extends)
  | '|' :: _ => some (1, "|", .extends)
  | '=' :: '>' :: _ => some (2, "=>", .closed)
  | '=' :: '=' :: _ => some (2, "==", .closed)
  | '=' :: _ => some (1, "=", .closed)
  | '!' :: '=' :: _ => some (2, "<>", .closed)
  | '!' :: '!' :: _ => some (2, "!!", .closed)
  | '!' :: '~' :: '*' :: _ => some (3, "!~*", .closed)
  | '!' :: '~' :: '~' :: '*' :: _ => some (4, "!~~*", .closed)
  | '!' :: '~' :: '~' :: _ => some (3, "!~~", .closed)
  | '!' :: '~' :: _ => some (2, "!~", .closed)
  | '!' :: _ => some (1, "!", .closed)
  | '<' :: '=' :: '>' :: _ => some (3, "<=>", .extends)
  | '<' :: '=' :: _ => some (2, "<=", .extends)
  | '<' :: '>' :: _ => some (2, "<>", .extends)
  | '<' :: '|' :: _ => if geometric then some (2, "<<|", .extends) else some (1, "<", .extends)
  | '<' :: '<' :: c :: _ =>
    if geometric = true ∧ c = '|' then some (3, "<<|", .extends) else some (2, "<<", .extends)
  | '<' :: '<' :: _ => some (2, "<<", .extends)
  | '<' :: '-' :: c :: _ =>
    if geometric then if c = '>' then some (3, "<->", .extends) else some (2, "<-", .mustExtend)
    else some (1, "<", .extends)
  | '<' :: '-' :: _ => if geometric then some (2, "<-", .mustExtend) else some (1, "<", .extends)
  | '<' :: '^' :: _ => if geometric then some (2, "<^", .extends) else some (1, "<", .extends)
  | '<' :: '@' :: _ => some (2, "<@", .extends)
  | '<' :: _ => some (1, "<", .extends)
  | '>' :: '=' :: _ => some (2, ">=", .extends)
  | '>' :: '>' :: _ => some (2, ">>", .extends)
  | '>' :: '^' :: _ => if geometric then some (2, ">^", .extends) else some (1, ">", .extends)
  | '>' :: _ => some (1, ">", .extends)
  | ':' :: ':' :: _ => some (2, "::", .closed)
  | ':' :: '=' :: _ => some (2, ":=", .closed)
  | ':' :: _ => some (1, ":", .closed)
  | '&' :: '>' :: _ => if geometric then some (3, "&>", .closed) else some (1, "&", .extends)
  | '&' :: '<' :: c :: _ =>
    if geometric then if c = '|' then some (3, "&<|", .closed) else some (2, "&<", .extends)
    else some (1, "&", .extends)
  | '&' :: '<' :: _ => if geometric then some (2, "&<", .extends) else some (1, "&", .extends)
  | '&' :: '&' :: _ => some (2, "&&", .extends)
  | '&' :: _ => some (1, "&", .extends)
  | '^' :: '@' :: _ => some (2, "^@", .closed)
  | '^' :: _ => some (1, "^", .closed)
  | '~' :: '*' :: _ => some (2, "~*", .extends)
  | '~' :: '=' :: _ => if geometric then some (2, "~=", .extends) else some (1, "~", .extends)
  | '~' :: '~' :: '*' :: _ => some (3, "~~*", .extends)
  | '~' :: '~' :: _ => some (2, "~~", .extends)
  | '~' :: _ => some (1, "~", .extends)
  | _ => none

/-- The operator that starts here, as far as it reaches. -/
def operator (rules : Rules) (finish : Place) (taken : Nat) (text : String) (ending : Ending)
    (gs : List Glyph) : Cut :=
  let rest := gs.drop taken
  match ending with
  | .closed => cut (.symbol text) rest
  | _ =>
    match if rules.customOperators then spanGlyphs inOperator rest else ([], rest) with
    | ([], rest) =>
      if ending = .mustExtend then
        fail ("Expected a valid binary operator after '" ++ text ++ "'") (placeOf finish rest)
      else cut (.symbol text) rest
    | (more, rest) => cut (.operator (text ++ String.ofList more)) rest

/-! ### Words -/

/-- A word that begins with `start`. -/
def word (rules : Rules) (start : List Char) (rest : List Glyph) : Cut :=
  let (more, rest) := spanGlyphs rules.inName rest
  cut (.word { text := String.ofList (start ++ more) }) rest

/-- What `#` begins where it begins no comment. -/
def hash (rules : Rules) (finish : Place) (gs : List Glyph) : Cut :=
  match chars (gs.take 3) with
  | _ :: '-' :: _ => operator rules finish 2 "#-" .extends gs
  | _ :: '>' :: '>' :: _ => operator rules finish 3 "#>>" .extends gs
  | _ :: '>' :: _ => operator rules finish 2 "#>" .extends gs
  | _ :: ' ' :: _ => operator rules finish 1 "#" .closed gs
  | _ :: c :: _ =>
    if c = '#' ∧ rules.customOperators = true then operator rules finish 2 "##" .extends gs
    else if rules.beginsName '#' then word rules ['#', c] (gs.drop 2)
    else operator rules finish 1 "#" .extends gs
  | _ => operator rules finish 1 "#" .extends gs

/-- A name that begins with an at sign before `c`, or the sign alone. -/
def atName (rules : Rules) (finish : Place) (c : Char) (gs : List Glyph) : Cut :=
  if rules.beginsName '@' then word rules ['@', c] (gs.drop 2)
  else operator rules finish 1 "@" .closed gs

/-- What `@` begins. -/
def atSign (rules : Rules) (finish : Place) (gs : List Glyph) : Cut :=
  match chars (gs.take 3) with
  | _ :: '@' :: third =>
    if rules.customOperators then operator rules finish 2 "@@" .closed gs
    else match third with
      | ' ' :: _ => operator rules finish 2 "@@" .closed gs
      | c :: _ =>
        if rules.beginsName '@' then word rules ['@', '@', c] (gs.drop 3)
        else operator rules finish 2 "@@" .closed gs
      | [] => operator rules finish 2 "@@" .closed gs
  | _ :: '-' :: third =>
    if rules.customOperators then
      if third = ['@'] then operator rules finish 3 "@-@" .closed gs
      else operator rules finish 2 "@-" .mustExtend gs
    else atName rules finish '-' gs
  | _ :: '>' :: _ => operator rules finish 2 "@>" .closed gs
  | _ :: '?' :: _ => operator rules finish 2 "@?" .closed gs
  | _ :: c :: _ =>
    if [' ', '\'', '"', Char.ofNat 96].contains c then operator rules finish 1 "@" .closed gs
    else atName rules finish c gs
  | _ => operator rules finish 1 "@" .closed gs

/-- What a question mark begins. As an operator by itself it takes the character behind it
too. -/
def question (rules : Rules) (gs : List Glyph) : Cut :=
  if rules.customOperators then
    match chars (gs.take 3) with
    | _ :: '|' :: '|' :: _ => cut (.symbol "?||") (gs.drop 3)
    | _ :: '|' :: _ => cut (.symbol "?|") (gs.drop 2)
    | _ :: '&' :: _ => cut (.symbol "?&") (gs.drop 2)
    | _ :: '-' :: '|' :: _ => cut (.symbol "?-|") (gs.drop 3)
    | _ :: '-' :: _ => cut (.symbol "?-") (gs.drop 2)
    | _ :: '#' :: _ => cut (.symbol "?#") (gs.drop 2)
    | _ => cut (.symbol "?") (gs.drop 2)
  else
    let (digits, rest) := spanGlyphs Text.isNumeric (gs.drop 1)
    cut (.placeholder (String.ofList ('?' :: digits))) rest

/-- What a dollar sign begins where no name begins with it. -/
def dollar (rules : Rules) (finish : Place) (gs : List Glyph) : Cut :=
  let inner := gs.drop 1
  let plain := !rules.dollarPlaceholders
  if plain && chars (inner.take 1) == ['$'] then
    match readDollars false (inner.drop 1) with
    | some (text, rest) => cut (.dollar "" (String.ofList text)) rest
    | none => fail "Unterminated dollar-quoted string" finish
  else
    let (tag, rest) := spanGlyphs
      (fun c => Text.isAlphanumeric c || c == '_' || (c == '$' && !plain)) inner
    if plain && chars (rest.take 1) == ['$'] then
      match readTagged ('$' :: tag ++ ['$']) (rest.drop 1) with
      | some (text, rest) => cut (.dollar (String.ofList tag) (String.ofList text)) rest
      | none => fail "Unterminated dollar-quoted, expected $" finish
    else cut (.placeholder (String.ofList ('$' :: tag))) rest

/-! ### Numbers -/

/-- The digits of a number, with single underscores between them where the dialect allows
them. -/
def spanDigits (rules : Rules) (isDigit : Char → Bool) : List Glyph → List Char × List Glyph
  | [] => ([], [])
  | g :: gs =>
    let separates := rules.numberUnderscores && g.char == '_' &&
      match gs with
      | h :: _ => (digitValue? 16 h.char).isSome
      | [] => false
    if isDigit g.char || separates then
      let (cs, rest) := spanDigits rules isDigit gs
      (g.char :: cs, rest)
    else ([], g :: gs)

/-- The exponent of a number, behind its mark; empty if no digit follows the mark. -/
def exponent (gs : List Glyph) : List Char × List Glyph :=
  match gs with
  | [] => ([], [])
  | mark :: inner =>
    let (sign, inner) := match inner with
      | s :: more => if s.char = '+' ∨ s.char = '-' then ([s.char], more) else ([], inner)
      | [] => ([], [])
    match spanGlyphs Char.isDigit inner with
    | ([], _) => ([], gs)
    | (digits, rest) => (mark.char :: sign ++ digits, rest)

/-- Whether the mark of an exponent comes next. -/
def isMarked (gs : List Glyph) : Bool :=
  match gs with
  | g :: _ => g.char == 'e' || g.char == 'E'
  | [] => false

/-- A number, or a period alone. Where names may begin with digits, letters behind the digits make
a name of them, unless the first one could be the mark of an exponent. -/
def decimal (rules : Rules) (before : Option Token) (afterWord : Bool) (gs : List Glyph) : Cut :=
  let (whole, rest) := spanDigits rules Char.isDigit gs
  if whole = ['0'] ∧ chars (rest.take 1) = ['x'] then
    let (hex, rest) := spanDigits rules (fun c => (digitValue? 16 c).isSome) (rest.drop 1)
    cut (.quoted .hex (String.ofList hex)) rest
  else
    let (whole, rest) :=
      if chars (rest.take 1) = ['.'] then (whole ++ ['.'], rest.drop 1) else (whole, rest)
    if whole = ['.'] ∧ rules.digitNames = true ∧ afterWord = true then cut (.symbol ".") rest
    else
      let (fraction, rest) := spanDigits rules Char.isDigit rest
      let mantissa := whole ++ fraction
      if mantissa = ['.'] then cut (.symbol ".") rest
      else
        let marked := isMarked rest
        let (exp, rest) := if marked then exponent rest else ([], rest)
        let text := mantissa ++ exp
        let (more, after) :=
          if rules.digitNames && !marked then spanGlyphs rules.inName rest else ([], rest)
        if more ≠ [] then cut (.word { text := String.ofList (text ++ more) }) after
        else if rules.digitNames = true ∧ marked = true ∧ before = some (.symbol ".") then
          cut (.word { text := String.ofList text }) rest
        else if chars (rest.take 1) = ['L'] then
          cut (.number (String.ofList text) true) (rest.drop 1)
        else cut (.number (String.ofList text) false) rest

/-- What a digit or a period begins. -/
def number (rules : Rules) (before : Option Token) (gs : List Glyph) : Cut :=
  let afterWord := match before with
    | some (.word _) => true
    | _ => false
  match gs with
  | dot :: under :: _ =>
    if dot.char = '.' ∧ under.char = '_' then
      if afterWord then cut (.symbol ".") (gs.drop 1)
      else fail "Unexpected character '_'" dot.place
    else decimal rules before afterWord gs
  | _ => decimal rules before afterWord gs

/-! ### Literals -/

/-- A literal whose opening quote is the first glyph. -/
def literal (rules : Rules) (finish : Place) (escapes : Bool) (quoting : Quoting)
    (gs : List Glyph) : Cut :=
  let quote := (gs.head?.map (·.char)).getD '\''
  match readQuoted quote escapes rules.keepsWildcardEscapes (gs.drop 1) with
  | some (text, rest) => cut (.quoted quoting (String.ofList text)) rest
  | none => fail "Unterminated string literal" (placeOf finish gs)

/-- A raw literal in one pair of quotes, whose opening quote is the first glyph. -/
def singleRaw (rules : Rules) (finish : Place) (quoting : Quoting) (quote : Char)
    (gs : List Glyph) : Cut :=
  match readQuoted quote false rules.keepsWildcardEscapes (gs.drop 1) with
  | some (text, rest) => cut (.quoted quoting (String.ofList text)) rest
  | none => fail "Unterminated string literal" (placeOf finish (gs.drop 1))

/-- A raw literal whose opening quote is the first glyph: one quote or three. -/
def rawLiteral (rules : Rules) (finish : Place) (short long : Quoting) (gs : List Glyph) :
    Cut :=
  let quote := (gs.head?.map (·.char)).getD '\''
  match chars (gs.take 3) with
  | _ :: b :: third =>
    if b = quote then
      if third = [quote] then
        match readTriple quote (gs.drop 3) with
        | some (text, rest) => cut (.quoted long (String.ofList text)) rest
        | none => fail "Unterminated string literal" (placeOf finish (gs.drop 3))
      else cut (.quoted short "") (gs.drop 2)
    else singleRaw rules finish short quote gs
  | _ => singleRaw rules finish short quote gs

/-- A name in quotes. -/
def quotedName (quote : Char) (g : Glyph) (gs : List Glyph) : Cut :=
  match readName (closingMark quote) gs with
  | some (text, rest) => cut (.word { text := String.ofList text, quote := some quote }) rest
  | none =>
    fail ("Expected close delimiter '" ++ (closingMark quote).toString ++ "' before EOF.") g.place

/-! ### Gaps -/

/-- A line comment that begins with `mark`. -/
def lineComment (rules : Rules) (mark : String) (gs : List Glyph) : Cut :=
  let (text, rest) := readLine rules.returnEndsComment (gs.drop mark.length)
  .ok (.gap (mark ++ String.ofList text), rest)

/-- A block comment. -/
def blockComment (rules : Rules) (finish : Place) (gs : List Glyph) : Cut :=
  match readComment rules.nestedComments 0 (gs.drop 2) with
  | some (text, rest) => .ok (.gap ("/*" ++ String.ofList text ++ "*/"), rest)
  | none => fail "Unexpected EOF while in a multi-line comment" finish

/-- Whether two hyphens begin a comment. -/
def isLineComment (rules : Rules) (gs : List Glyph) : Bool :=
  match chars (gs.take 3) with
  | '-' :: '-' :: third => !rules.spacedComments || third = [' ']
  | _ => false

/-! ### One piece -/

/-- What the letters that may mark a literal begin: the literal or a word. -/
def marked (rules : Rules) (finish : Place) (g : Glyph) (gs : List Glyph) : Option Cut :=
  let next := chars (gs.take 1)
  match g.char.toUpper with
  | 'B' =>
    if rules.bitStrings then
      if next = ['\''] then some (literal rules finish false .bits gs)
      else if next = ['"'] then some (literal rules finish false .bitsDouble gs)
      else some (word rules [g.char] gs)
    else none
  | 'R' =>
    if rules.rawStrings then
      if next = ['\''] then some (rawLiteral rules finish .raw .rawTriple gs)
      else if next = ['"'] then some (rawLiteral rules finish .rawDouble .rawTripleDouble gs)
      else some (word rules [g.char] gs)
    else none
  | 'N' =>
    if next = ['\''] then some (literal rules finish rules.backslashEscapes .national gs)
    else some (word rules [g.char] gs)
  | 'E' =>
    if rules.escapeStrings then
      if next = ['\''] then
        match readEscaped (gs.length + 1) (gs.drop 1) with
        | some (text, rest) => some (cut (.quoted .escaped (String.ofList text)) rest)
        | none => some (fail "Unterminated encoded string literal" g.place)
      else some (word rules [g.char] gs)
    else none
  | 'U' =>
    if rules.unicodeStrings then
      if chars (gs.take 2) = ['&', '\''] then
        match readUnicode finish (gs.length + 1) (gs.drop 2) with
        | .ok (text, rest) => some (cut (.quoted .unicode (String.ofList text)) rest)
        | .error e => some (.error e)
      else some (word rules [g.char] gs)
    else none
  | 'X' =>
    if next = ['\''] then some (literal rules finish true .hex gs)
    else some (word rules [g.char] gs)
  | _ => none

/-- The piece that starts with the glyph `g`; `before` is the token right before it, if no gap
lies between. -/
def piece (rules : Rules) (finish : Place) (before : Option Token) (g : Glyph) (gs : List Glyph) :
    Cut :=
  let c := g.char
  let all := g :: gs
  if c = ' ' ∨ c = '\t' ∨ c = '\n' then .ok (.gap c.toString, gs)
  else if c = '\r' then
    .ok (.gap "\n", if chars (gs.take 1) = ['\n'] then gs.drop 1 else gs)
  else match marked rules finish g gs with
  | some cut => cut
  | none =>
    if c = '\'' then literal rules finish rules.backslashEscapes .single all
    else if rules.nameQuotes.contains c then quotedName c g gs
    else if c = '"' then literal rules finish rules.backslashEscapes .double all
    else if c.isDigit || c == '.' then number rules before all
    else if isLineComment rules all then lineComment rules "--" all
    else if chars (all.take 2) = ['/', '*'] then blockComment rules finish all
    else if c = '#' then
      if rules.hashComments then lineComment rules "#" all else hash rules finish all
    else if c = '@' then atSign rules finish all
    else if c = '?' then question rules all
    else match operatorAt rules.customOperators rules.intDivision rules.pipeOperators
      (chars (all.take 4)) with
    | some (taken, text, ending) => operator rules finish taken text ending all
    | none =>
      if rules.beginsName c then word rules [c] gs
      else if c = '$' then dollar rules finish all
      else if Text.isBlank c then .ok (.gap " ", gs)
      else cut (.symbol c.toString) gs

/-! ### All pieces -/

/-- How far a text has been read. -/
structure Progress where
  /-- The tokens, newest first. -/
  done : List Lexeme := []
  /-- The last token, if no gap lies behind it. -/
  before : Option Token := none

/-- What becomes of a gap at a place. -/
abbrev GapRule := String → Place → Progress → Except SyntaxError Progress

/-- Remember a gap at the token before it. -/
def noteGap : GapRule := fun text place p =>
  .ok <| match p.done with
  | [] => {}
  | l :: ls =>
    { done := (if l.gap.isNone then { l with gap := some (text, place) } else l) :: ls }

/-- All tokens. `fuel` bounds the number of pieces. -/
def run (rules : Rules) (onGap : GapRule) (finish : Place) :
    Nat → Progress → List Glyph → Except SyntaxError Progress
  | 0, p, _ | _ + 1, p, [] => .ok p
  | fuel + 1, p, g :: gs => do
    let (found, rest) ← piece rules finish p.before g gs
    let p ← match found with
      | .gap text => onGap text g.place p
      | .token t => .ok { done := { token := t, place := g.place } :: p.done, before := some t }
    run rules onGap finish fuel p rest

/-- All tokens of some characters that begin at a place, behind those that have been read. -/
def runFrom (rules : Rules) (onGap : GapRule) (start : Place) (p : Progress) (cs : List Char) :
    Except SyntaxError Progress :=
  run rules onGap (endOf start cs) (cs.length + 1) p (glyphs start cs)

/-- What a block comment tells the reader: the characters between an exclamation mark with a
number behind it and the end. -/
def hint (text : String) : Option (List Char) :=
  match text.toList with
  | '/' :: '*' :: '!' :: cs => some ((cs.take (cs.length - 2)).dropWhile Char.isDigit)
  | _ => none

/-- Read the tokens of a hint as if the hint began where its comment does; any other gap is
remembered. -/
def expandHint (rules : Rules) : GapRule := fun text place p =>
  match hint text with
  | some [] => .ok p
  | some cs => runFrom rules noteGap place p cs
  | none => noteGap text place p

end Lexer

/-- The tokens of a text. -/
def tokens (rules : Rules) (text : String) : Except SyntaxError (List Lexeme) :=
  let onGap := if rules.commentHints then Lexer.expandHint rules else Lexer.noteGap
  match Lexer.runFrom rules onGap ⟨1, 1⟩ {} text.toList with
  | .ok p => .ok p.done.reverse
  | .error e => .error e

end TableFeed.Sql
