import TableFeed.Text.Lines
import TableFeed.Text.Utf8

/-!
# Input of a run

A script arrives as bytes, and reading it may fail. Each line is decoded by itself, together with
the line feed that ends it; the lines before the first one that cannot be decoded are good. Where
reading fails, a line without its end is lost.

    "a;\nb\xFF\nc"   ──lines──▶   line "a;", failure
-/

namespace TableFeed.Script

open TableFeed

/-- Bytes to read, and the failure that comes behind them instead of the end. -/
structure Input where
  bytes : List UInt8
  failure : Option String := none
  deriving DecidableEq, Repr

/-- What reading gives: lines, and at last perhaps a failure. -/
abbrev Feed : Type := List (Except String String)

/-- A line feed. -/
def lineFeed : UInt8 := 10

/-- The text of a line that ends with a line feed. -/
def endedLine (bytes : List UInt8) : Except String String :=
  match Text.decode (bytes ++ [lineFeed]) with
  | .ok cs => .ok (String.ofList (Text.dropMark '\r' cs.dropLast))
  | .error m => .error m.message

/-- The text of a line at the end of the input. -/
def lastLine (bytes : List UInt8) : Except String String :=
  match Text.decode bytes with
  | .ok cs => .ok (String.ofList cs)
  | .error m => .error m.message

/-- Results up to the first failure. -/
def untilFailure : Feed → Feed
  | [] => []
  | .ok line :: rest => .ok line :: untilFailure rest
  | .error e :: _ => [.error e]

/-- What comes behind the last line feed. -/
def Input.ending (i : Input) (rest : List UInt8) : Feed :=
  match i.failure with
  | some text => [.error text]
  | none => if rest.isEmpty then [] else [lastLine rest]

/-- What reading an input gives. -/
def Input.feed (i : Input) : Feed :=
  let (ended, rest) := Text.cutAfter lineFeed i.bytes
  untilFailure (ended.map endedLine ++ i.ending rest)

/-- The input that a text is. -/
def Input.ofText (text : String) : Input := { bytes := Text.encode text.toList }

end TableFeed.Script
