import TableFeed.Sql.Token

/-!
# Reading quoted literals

Each reader starts behind the opening quote and gives the text of the literal and what follows
its closing quote. All of them read one character after the other, so they are recursive on
the list that is left.
-/

namespace TableFeed.Sql

open TableFeed

/-- A character in its place. -/
structure Glyph where
  char : Char
  place : Place
  deriving DecidableEq, Repr

/-- The characters of a text in their places. -/
def glyphs : Place → List Char → List Glyph
  | _, [] => []
  | p, c :: cs =>
    ⟨c, p⟩ :: glyphs (if c = '\n' then ⟨p.line + 1, 1⟩ else ⟨p.line, p.column + 1⟩) cs

/-- The place behind the last of some characters. -/
def endOf : Place → List Char → Place
  | p, [] => p
  | p, c :: cs => endOf (if c = '\n' then ⟨p.line + 1, 1⟩ else ⟨p.line, p.column + 1⟩) cs

/-- The place of the first of some glyphs. -/
def placeOf (finish : Place) : List Glyph → Place
  | [] => finish
  | g :: _ => g.place

/-- The characters as long as they satisfy `p`, and the rest. -/
def spanGlyphs (p : Char → Bool) : List Glyph → List Char × List Glyph
  | [] => ([], [])
  | g :: gs =>
    if p g.char then
      let (cs, rest) := spanGlyphs p gs
      (g.char :: cs, rest)
    else ([], g :: gs)

/-- Puts a character in front of what a reader gives. -/
def consRead (c : Char) : Option (List Char × List Glyph) → Option (List Char × List Glyph)
  | some (cs, rest) => some (c :: cs, rest)
  | none => none

/-- What a backslash makes of the character behind it. -/
def escapeMeaning : Char → Char
  | '0' => Char.ofNat 0
  | 'a' => Char.ofNat 7
  | 'b' => Char.ofNat 8
  | 'f' => Char.ofNat 12
  | 'n' => '\n'
  | 'r' => '\r'
  | 't' => '\t'
  | 'Z' => Char.ofNat 26
  | c => c

/-- A text in quotes, in which the quote is written twice. With `escapes` a backslash escapes
the next character, and with `wildcards` the escapes of `%` and `_` stay as they are. -/
def readQuoted (quote : Char) (escapes wildcards : Bool) :
    List Glyph → Option (List Char × List Glyph)
  | [] => none
  | [g] =>
    if g.char = quote then some ([], [])
    else none
  | g :: h :: rest =>
    if g.char = quote then
      if h.char = quote then consRead quote (readQuoted quote escapes wildcards rest)
      else some ([], h :: rest)
    else if escapes && g.char == '\\' then
      if wildcards && (h.char == '%' || h.char == '_') then
        consRead '\\' (consRead h.char (readQuoted quote escapes wildcards rest))
      else consRead (escapeMeaning h.char) (readQuoted quote escapes wildcards rest)
    else consRead g.char (readQuoted quote escapes wildcards (h :: rest))

/-- A text in three quotes on either side. -/
def readTriple (quote : Char) : List Glyph → Option (List Char × List Glyph)
  | a :: b :: c :: rest =>
    if a.char = quote ∧ b.char = quote ∧ c.char = quote then some ([], rest)
    else consRead a.char (readTriple quote (b :: c :: rest))
  | _ => none

/-- A quoted name, in which the closing mark is written twice. -/
def readName (close : Char) : List Glyph → Option (List Char × List Glyph)
  | [] => none
  | [g] => if g.char = close then some ([], []) else none
  | g :: h :: rest =>
    if g.char = close then
      if h.char = close then consRead close (readName close rest)
      else some ([], h :: rest)
    else consRead g.char (readName close (h :: rest))

/-! ### Literals with escapes of their own -/

/-- The value of a digit of a base up to sixteen. -/
def digitValue? (base : Nat) (c : Char) : Option Nat :=
  let n := if c.isDigit then c.toNat - 48
    else if 'a' ≤ c ∧ c ≤ 'f' then c.toNat - 87
    else if 'A' ≤ c ∧ c ≤ 'F' then c.toNat - 55
    else 16
  if n < base then some n else none

/-- The number that some digits write. -/
def digitsValue? (base : Nat) (cs : List Char) : Option Nat :=
  match cs with
  | [] => none
  | _ => cs.foldlM (fun n c => (digitValue? base c).map (n * base + ·)) 0

/-- The character with a code point, if there is one. -/
def charOf? (n : Nat) : Option Char :=
  if n.isValidChar then some (Char.ofNat n) else none

/-- The character that a byte of an escape stands for. -/
def byteChar? (base : Nat) (cs : List Char) : Option Char :=
  match digitsValue? base cs with
  | some n => if n % 256 ≤ 127 then some (Char.ofNat (n % 256)) else none
  | none => none

/-- The number written by exactly `n` hexadecimal digits; a plus sign may take the place of
the first one. -/
def fixedHex? (cs : List Char) : Option Nat :=
  match cs with
  | '+' :: ds => digitsValue? 16 ds
  | ds => digitsValue? 16 ds

/-- At most `n` digits of a base. -/
def someDigits (base : Nat) : Nat → List Glyph → List Char × List Glyph
  | 0, gs => ([], gs)
  | _ + 1, [] => ([], [])
  | n + 1, g :: gs =>
    if (digitValue? base g.char).isSome then
      let (cs, rest) := someDigits base n gs
      (g.char :: cs, rest)
    else ([], g :: gs)

/-- A character written by its code point in `n` digits. -/
def fixedCodePoint (n : Nat) (gs : List Glyph) : Option (Char × List Glyph) :=
  if gs.length < n then none
  else ((fixedHex? ((gs.take n).map (·.char))).bind charOf?).map (·, gs.drop n)

/-- The character that an escape of an `E` literal stands for, read behind the backslash. -/
def readEscape : List Glyph → Option (Char × List Glyph)
  | [] => none
  | g :: gs =>
    match g.char with
    | 'b' => some (Char.ofNat 8, gs)
    | 'f' => some (Char.ofNat 12, gs)
    | 'n' => some ('\n', gs)
    | 'r' => some ('\r', gs)
    | 't' => some ('\t', gs)
    | 'u' => fixedCodePoint 4 gs
    | 'U' => fixedCodePoint 8 gs
    | 'x' =>
      match someDigits 16 2 gs with
      | ([], _) => some ('x', gs)
      | (ds, rest) => (byteChar? 16 ds).map (·, rest)
    | c =>
      if (digitValue? 8 c).isSome then
        let (ds, rest) := someDigits 8 2 gs
        (byteChar? 8 (c :: ds)).map (·, rest)
      else some (c, gs)

/-- The text of an `E` literal. `fuel` bounds the number of characters. -/
def readEscaped : Nat → List Glyph → Option (List Char × List Glyph)
  | 0, _ => none
  | _ + 1, [] => none
  | fuel + 1, g :: gs =>
    if g.char = '\'' then
      match gs with
      | h :: rest =>
        if h.char = '\'' then consRead '\'' (readEscaped fuel rest) else some ([], gs)
      | [] => some ([], gs)
    else if g.char = '\\' then
      match readEscape gs with
      | some (c, rest) => if c.toNat = 0 then none else consRead c (readEscaped fuel rest)
      | none => none
    else consRead g.char (readEscaped fuel gs)

/-- A code point of `n` hexadecimal digits of a `U&` literal. -/
def readCodePoint (finish : Place) : Nat → Nat → List Glyph → Except SyntaxError (Char × List Glyph)
  | 0, value, gs =>
    match charOf? value with
    | some c => .ok (c, gs)
    | none =>
      .error (.message ("Invalid unicode character: " ++ String.ofList (Nat.toDigits 16 value))
        (some (placeOf finish gs)))
  | _ + 1, _, [] =>
    .error (.message "Unexpected EOF while parsing hex digit in escaped unicode string."
      (some finish))
  | n + 1, value, g :: gs =>
    match digitValue? 16 g.char with
    | some d => readCodePoint finish n (value * 16 + d) gs
    | none =>
      .error (.message ("Invalid hex digit in escaped unicode string: " ++ g.char.toString)
        (some (placeOf finish gs)))

/-- Puts a character in front of what is read behind it. -/
def readThen (c : Char) : Except SyntaxError (List Char × List Glyph) →
    Except SyntaxError (List Char × List Glyph)
  | .ok (cs, rest) => .ok (c :: cs, rest)
  | .error e => .error e

/-- The text of a `U&` literal. `fuel` bounds the number of characters. -/
def readUnicode (finish : Place) : Nat → List Glyph → Except SyntaxError (List Char × List Glyph)
  | 0, _ | _ + 1, [] =>
    .error (.message "Unterminated unicode encoded string literal" (some finish))
  | fuel + 1, g :: gs =>
    if g.char = '\'' then
      match gs with
      | h :: rest => if h.char = '\'' then readThen '\'' (readUnicode finish fuel rest) else .ok ([], gs)
      | [] => .ok ([], gs)
    else if g.char = '\\' then
      match gs with
      | h :: rest =>
        if h.char = '\\' then readThen '\\' (readUnicode finish fuel rest)
        else
          let (digits, start) := if h.char = '+' then (6, rest) else (4, gs)
          match readCodePoint finish digits 0 start with
          | .ok (c, rest) => readThen c (readUnicode finish fuel rest)
          | .error e => .error e
      | [] =>
        match readCodePoint finish 4 0 [] with
        | .ok (c, rest) => readThen c (readUnicode finish fuel rest)
        | .error e => .error e
    else readThen g.char (readUnicode finish fuel gs)

/-! ### Dollar quotes -/

/-- The text between `$$` and `$$`; `afterDollar` if the character before was a dollar sign
whose meaning is still open. -/
def readDollars : Bool → List Glyph → Option (List Char × List Glyph)
  | _, [] => none
  | afterDollar, g :: gs =>
    if afterDollar then
      if g.char = '$' then some ([], gs)
      else consRead '$' (consRead g.char (readDollars false gs))
    else if g.char = '$' then readDollars true gs
    else consRead g.char (readDollars false gs)

/-- The text up to the end mark `mark`. -/
def readTagged (mark : List Char) : List Glyph → Option (List Char × List Glyph)
  | [] => none
  | g :: gs =>
    if mark.isPrefixOf ((g :: (gs.take mark.length)).map (·.char)) then
      some ([], (g :: gs).drop mark.length)
    else consRead g.char (readTagged mark gs)

/-! ### Comments -/

/-- The text of a block comment that is open `depth + 1` times, up to its end. -/
def readComment (nests : Bool) : Nat → List Glyph → Option (List Char × List Glyph)
  | _, [] | _, [_] => none
  | depth, g :: h :: rest =>
    if nests = true ∧ g.char = '/' ∧ h.char = '*' then
      consRead '/' (consRead '*' (readComment nests (depth + 1) rest))
    else if g.char = '*' ∧ h.char = '/' then
      match depth with
      | 0 => some ([], rest)
      | depth + 1 => consRead '*' (consRead '/' (readComment nests depth rest))
    else consRead g.char (readComment nests depth (h :: rest))

/-- The text of a line comment with the character that ends it. -/
def readLine (returnEnds : Bool) : List Glyph → List Char × List Glyph
  | [] => ([], [])
  | g :: gs =>
    if g.char = '\n' ∨ (returnEnds = true ∧ g.char = '\r') then ([g.char], gs)
    else
      let (cs, rest) := readLine returnEnds gs
      (g.char :: cs, rest)

end TableFeed.Sql
