import TableFeed.Script.LineMode
import TableFeed.Text.Blank
import TableFeed.Text.Lines

/-!
# Cutting a script into statements

A script is read line by line and cut at every `;` that stands outside quoted literals and
comments. Comments are dropped, the lines of one statement are joined with a line feed, and a
statement is trimmed; blank ones are not reported.

The scan is a left fold over the characters of a line. Its state names the *region* that the
next character lies in:

                    ' or "                      quote, not escaped
        plain ───────────────▶ literal ─────────────────────────────▶ plain
        plain ──── -- ───────▶ lineComment ──── end of line ────────▶ plain
        plain ──── /* ───────▶ blockComment ─── */ ─────────────────▶ plain

The first character of a comment mark has already been kept when the second one shows what it
was; it is the newest character of the buffer then, and is taken back.
-/

namespace TableFeed.Script

open TableFeed

/-- The region of the script that the next character lies in. -/
inductive Region where
  /-- Outside literals and comments; `previous` is the character just kept, if it can still
  begin a comment mark. -/
  | plain (previous : Option Char)
  /-- Inside a literal opened by `quote`; `escaped` after a backslash that escapes. -/
  | literal (quote : Char) (escaped : Bool)
  /-- After `--`. -/
  | lineComment
  /-- After the opening mark of a block comment; `afterStar` right after a `*` of its text. -/
  | blockComment (afterStar : Bool)
  deriving DecidableEq, Repr

/-- Outside everything, with no character to look back at. -/
def Region.start : Region := .plain none

/-- The quotes that open a literal. -/
def isQuote (c : Char) : Bool := c == '\'' || c == '"'

/-- The state of the scan. Characters and statements are held newest first. -/
structure Scan where
  /-- The region of the next character. -/
  region : Region := .start
  /-- The characters kept since the last terminator, newest first. -/
  buffer : List Char := []
  /-- The statements completed on this line, newest first. -/
  done : List String := []
  deriving DecidableEq, Repr

namespace Scan

/-- The statement that a buffer holds: its text trimmed, unless nothing is left of it. -/
def statement? (buffer : List Char) : Option String :=
  match Text.trim buffer.reverse with
  | [] => none
  | text => some (String.ofList text)

/-- Keep a character. -/
def keep (s : Scan) (c : Char) (region : Region) : Scan :=
  { s with region, buffer := c :: s.buffer }

/-- Enter a comment, whose first character is the newest one of the buffer. -/
def enterComment (s : Scan) (region : Region) : Scan :=
  { s with region, buffer := s.buffer.tail }

/-- A terminator: report the statement, if there is one, and start anew. -/
def terminate (s : Scan) : Scan :=
  { region := .start, buffer := [], done := (statement? s.buffer).toList ++ s.done }

/-- One character outside literals and comments. -/
def plainStep (s : Scan) (previous : Option Char) (c : Char) : Scan :=
  if isQuote c then s.keep c (.literal c false)
  else if previous = some '/' ∧ c = '*' then s.enterComment (.blockComment false)
  else if previous = some '-' ∧ c = '-' then s.enterComment .lineComment
  else if c = ';' then s.terminate
  else s.keep c (.plain (some c))

/-- One character of a literal: an unescaped quote of its own kind closes it. -/
def literalStep (s : Scan) (quote : Char) (escaped : Bool) (c : Char) : Scan :=
  if c = quote ∧ escaped = false then s.keep c (.plain (some c))
  else s.keep c (.literal quote (c == '\\' && !escaped))

/-- One character of a block comment: a `/` right after a `*` closes it. -/
def blockStep (s : Scan) (afterStar : Bool) (c : Char) : Scan :=
  if afterStar = true ∧ c = '/' then { s with region := .start }
  else { s with region := .blockComment (c == '*') }

/-- One character of a line. -/
def step (s : Scan) (c : Char) : Scan :=
  match s.region with
  | .plain previous => s.plainStep previous c
  | .literal quote escaped => s.literalStep quote escaped c
  | .lineComment => s
  | .blockComment afterStar => s.blockStep afterStar c

/-- The characters of a line, one after the other. -/
def run (s : Scan) (cs : List Char) : Scan := cs.foldl step s

end Scan

/-- A segmenter between two lines. -/
structure Segmenter where
  /-- What is carried across line ends. -/
  mode : LineMode
  /-- The region at the end of the last line. -/
  region : Region := .start
  /-- The characters of the pending statement, newest first. -/
  buffer : List Char := []
  /-- Whether a line has been read. -/
  begun : Bool := false
  deriving DecidableEq, Repr

namespace Segmenter

/-- A segmenter that has read nothing. -/
def start (mode : LineMode) : Segmenter := { mode }

/-- Joins the coming line to the pending statement, unless nothing of it has been kept. -/
def joined (buffer : List Char) : List Char := if buffer = [] then [] else '\n' :: buffer

/-- The end of a line, read when the next line comes. -/
def lineBreak (g : Segmenter) : Segmenter :=
  match g.mode, g.region with
  | .resetPerLine, _ => { g with buffer := joined g.buffer }
  | .continuous, .plain _ => { g with region := .start, buffer := joined g.buffer }
  | .continuous, .literal q _ => { g with region := .literal q false, buffer := '\n' :: g.buffer }
  | .continuous, .lineComment => { g with region := .start, buffer := joined g.buffer }
  | .continuous, .blockComment _ => { g with region := .blockComment false }

/-- The state in which the scan of the next line starts. -/
def lineStart (g : Segmenter) : Scan :=
  let g := if g.begun then g.lineBreak else g
  match g.mode with
  | .resetPerLine => { region := .start, buffer := g.buffer }
  | .continuous => { region := g.region, buffer := g.buffer }

/-- Read one line: the statements that it completes, in order, and the segmenter after it. -/
def pushLine (g : Segmenter) (line : String) : List String × Segmenter :=
  let s := g.lineStart.run line.toList
  (s.done.reverse, { g with region := s.region, buffer := s.buffer, begun := true })

/-- The statement that is pending when no more lines come. -/
def finish (g : Segmenter) : Option String := Scan.statement? g.buffer

/-- Read several lines. -/
def pushLines (g : Segmenter) : List String → List String × Segmenter
  | [] => ([], g)
  | line :: lines =>
    let (done, g) := g.pushLine line
    let (more, g) := g.pushLines lines
    (done ++ more, g)

end Segmenter

/-- The statements of a list of lines. -/
def segment (mode : LineMode) (lines : List String) : List String :=
  let (done, g) := (Segmenter.start mode).pushLines lines
  done ++ g.finish.toList

end TableFeed.Script
