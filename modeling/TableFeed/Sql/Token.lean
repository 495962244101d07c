import TableFeed.Text.Casing

/-!
# Tokens

A token is what the parser reads instead of characters. Blanks and comments are no tokens of
the parser's input; each token only remembers the blank or comment that follows it directly,
because some forms (`:name`, `@name`) must be written without one.
-/

namespace TableFeed.Sql

open TableFeed

/-- A place in a text: line and column, both counted from one. -/
structure Place where
  line : Nat
  column : Nat
  deriving DecidableEq, Repr, Inhabited

/-- The way a quoted literal is written. -/
inductive Quoting where
  /-- `'text'` -/
  | single
  /-- `"text"` -/
  | double
  /-- `N'text'` -/
  | national
  /-- `E'text'` -/
  | escaped
  /-- `U&'text'` -/
  | unicode
  /-- `X'1F'` -/
  | hex
  /-- `B'01'` -/
  | bits
  /-- `B"01"` -/
  | bitsDouble
  /-- `R'text'` -/
  | raw
  /-- `R"text"` -/
  | rawDouble
  /-- `R'''text'''` -/
  | rawTriple
  /-- `R"""text"""` -/
  | rawTripleDouble
  deriving DecidableEq, Repr

/-- What a quoted literal starts and ends with. -/
def Quoting.marks : Quoting → String × String
  | single => ("'", "'")
  | double => ("\"", "\"")
  | national => ("N'", "'")
  | escaped => ("E'", "'")
  | unicode => ("U&'", "'")
  | hex => ("X'", "'")
  | bits => ("B'", "'")
  | bitsDouble => ("B\"", "\"")
  | raw => ("R'", "'")
  | rawDouble => ("R\"", "\"")
  | rawTriple => ("R'''", "'''")
  | rawTripleDouble => ("R\"\"\"", "\"\"\"")

/-- The mark that closes a name opened by `quote`. -/
def closingMark (quote : Char) : Char := if quote == '[' then ']' else quote

/-- A word: a keyword or a name. -/
structure Word where
  /-- The word as it is meant, without quotes. -/
  text : String
  /-- The mark that opened it, if it was quoted. -/
  quote : Option Char := none
  /-- The word in upper case if it was not quoted; empty otherwise, so that a quoted word is
  never taken for a keyword. -/
  keyword : String := match quote with
    | none => Text.raised text
    | some _ => ""
  deriving DecidableEq, Repr

/-- A token. -/
inductive Token where
  | word (w : Word)
  /-- A number with its digits as written; `long` if an `L` follows. -/
  | number (digits : String) (long : Bool)
  | quoted (quoting : Quoting) (text : String)
  /-- `$tag$text$tag$` -/
  | dollar (tag : String) (text : String)
  /-- `?1`, `$1` -/
  | placeholder (text : String)
  /-- An operator of the dialect's own making. -/
  | operator (text : String)
  /-- Any other operator, punctuation or stray character. -/
  | symbol (text : String)
  deriving DecidableEq, Repr

namespace Token

/-- How a token is shown in a message. -/
def text : Token → String
  | word w =>
    match w.quote with
    | some q => q.toString ++ w.text ++ (closingMark q).toString
    | none => w.text
  | number digits long => digits ++ if long then "L" else ""
  | quoted q s => q.marks.1 ++ s ++ q.marks.2
  | dollar tag s => "$" ++ tag ++ "$" ++ s ++ "$" ++ tag ++ "$"
  | placeholder s | operator s | symbol s => s

/-- How an operator that no rule covers is shown in a message. -/
def description : Token → String
  | word w =>
    "Word(Word \x7b value: \"" ++ w.text ++ "\", quote_style: None, keyword: " ++ w.keyword ++
      " \x7d)"
  | symbol "<<" => "ShiftLeft"
  | symbol ">>" => "ShiftRight"
  | symbol "#" => "Sharp"
  | symbol "&&" => "Overlap"
  | symbol "^@" => "CaretAt"
  | symbol "!" => "ExclamationMark"
  | symbol "[" => "LBracket"
  | symbol "@" => "AtSign"
  | t => t.text

/-- The keyword that a token spells; empty when it spells none. -/
def keyword : Token → String
  | word w => w.keyword
  | _ => ""

end Token

/-- A token in its place. -/
structure Lexeme where
  token : Token
  place : Place
  /-- The blank or comment right behind the token, if there is one. -/
  gap : Option (String × Place) := none
  deriving DecidableEq, Repr

/-- Why a text could not be read. -/
inductive SyntaxError where
  /-- A message about the text at a place. -/
  | message (text : String) (place : Option Place)
  /-- Too many forms inside one another. -/
  | tooDeep
  deriving DecidableEq, Repr

namespace SyntaxError

/-- How a place is named at the end of a message. -/
def locate : Option Place → String
  | some p => " at Line: " ++ toString p.line ++ ", Column: " ++ toString p.column
  | none => ""

/-- What the user is told. -/
def render : SyntaxError → String
  | message text place => "sql parser error: " ++ text ++ locate place
  | tooDeep => "sql parser error: recursion limit exceeded"

end SyntaxError

end TableFeed.Sql
