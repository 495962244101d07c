import TableFeed.Proofs.Script.OnDemand
import TableFeed.Proofs.Script.Refeed
import TableFeed.Proofs.Sql.Pieces
import TableFeed.Proofs.Sql.Separators
import TableFeed.Proofs.Text.Lines

/-!
# One statement at a time

The segmenter cuts a script into statements for a parser that refuses a text of several ones. The
two read literals, names and comments each by their own rules. Wherever a dialect keeps step with
the segmenter up to the last semicolon of a statement, it takes none of these semicolons for the end
of a statement: all of them are within literals. A statement without semicolons needs no step to be
kept.

    script ──segment──▶ piece ──trim──▶ text ──tokens──▶ no semicolon ──parse──▶ one statement

A dialect gets out of step where the segmenter reads a literal and the dialect does not, or the
other way round.
-/

namespace TableFeed.Sql

open TableFeed
open TableFeed.Script (lexemes emitted pieceText JoinsMark)

/-- A dialect keeps step with the segmenter over a piece of a script up to its last semicolon. -/
def Dialect.KeepsStep (d : Dialect) (piece : List Script.Lexeme) : Prop :=
  ';' ∈ pieceText piece →
    ¬JoinsMark piece ∧ d.rules.follows .outside (lexemes (pieceText piece)) = true

instance (d : Dialect) (piece : List Script.Lexeme) : Decidable (d.KeepsStep piece) :=
  inferInstanceAs (Decidable (_ → _))

/-- The statements of a script are the texts of its pieces, and a dialect that keeps step with the
segmenter over a piece does not find several statements in its text. -/
theorem parse_splitStatements_ne_multiple (d : Dialect) (script : String) :
    Script.splitStatements .continuous script =
        (emitted (Text.lines script)).map (String.ofList ∘ pieceText) ∧
      ∀ piece ∈ emitted (Text.lines script), d.KeepsStep piece →
        ∀ n, parse d (String.ofList (pieceText piece)) ≠ .error (.multiple n) := by
  constructor
  · rw [Script.splitStatements_eq]
    exact Script.segment_eq_emitted fun _ => Text.lineFeed_notMem_lines
  · intro piece hp hk
    obtain ⟨hp, -⟩ := List.mem_filter.1 hp
    refine parse_ne_multiple fun ls hls => tokens_ne_terminator d.regular (fun hs => ?_) hls
    rw [String.toList_ofList] at hs ⊢
    obtain ⟨hj, hf⟩ := hk hs
    exact ⟨(Script.bare_trim _).2 ((Script.bare_piece hp).2 hj), hf⟩

/-- Semicolons in literals, next to escaped quotes, doubled marks and comments. -/
def keptApart : String :=
  "SELECT 'it\\'s; fine', `a``b` FROM t; -- no; one\nSELECT \"x;y\" /* ; */, b'1;';"

theorem parse_keptApart :
    (∀ piece ∈ emitted (Text.lines keptApart), Dialect.mysql.KeepsStep piece) ∧
      Script.splitStatements .continuous keptApart =
        ["SELECT 'it\\'s; fine', `a``b` FROM t", "SELECT \"x;y\" , b'1;'"] ∧
      ∀ s ∈ Script.splitStatements .continuous keptApart,
        ∀ n, parse .mysql s ≠ .error (.multiple n) := by
  have hk : ∀ piece ∈ emitted (Text.lines keptApart), Dialect.mysql.KeepsStep piece := by
    decide +kernel
  obtain ⟨hs, hp⟩ := parse_splitStatements_ne_multiple .mysql keptApart
  refine ⟨hk, hs.trans (by decide +kernel), ?_⟩
  rw [hs]
  exact List.forall_mem_map.2 fun piece hpiece => hp piece hpiece (hk piece hpiece)

/-- Whether a text was refused for holding several statements. -/
instance (x : Except ParseError Statement) (n : Nat) : Decidable (x = .error (.multiple n)) :=
  match x with
  | .ok _ => isFalse nofun
  | .error (.syntaxError _) => isFalse nofun
  | .error .empty => isFalse nofun
  | .error (.multiple m) => decidable_of_iff (m = n) ⟨fun h => by rw [h], fun h => by cases h; rfl⟩

/-- Scripts that a dialect gets out of step with, and the only statement that each is cut into. -/
def outOfStep : List (Dialect × String × String) :=
  [
    -- for the segmenter alone, a backslash escapes the quote
    (.ansi, "SELECT '\\'; SELECT 2", "SELECT '\\'; SELECT 2"),
    (.mysql, "SELECT b'\\'; SELECT 2", "SELECT b'\\'; SELECT 2"),
    -- for the segmenter alone, a literal begins in a name, a comment or a dollar quote
    (.mysql, "SELECT 1 AS `it's`; SELECT 2", "SELECT 1 AS `it's`; SELECT 2"),
    (.mssql, "SELECT 1 AS [it's]; SELECT 2", "SELECT 1 AS [it's]; SELECT 2"),
    (.mysql, "SELECT 1 # it's\n; SELECT 2", "SELECT 1 # it's\n; SELECT 2"),
    (.postgres, "SELECT $a$it's$a$; SELECT 2", "SELECT $a$it's$a$; SELECT 2"),
    (.generic, "SELECT r'''it's'''; SELECT 2", "SELECT r'''it's'''; SELECT 2"),
    -- for the dialect, the quote is part of a name or an operator
    (.mssql, "SELECT #'; SELECT 2", "SELECT #'; SELECT 2"),
    (.mssql, "SELECT @@'; SELECT 2", "SELECT @@'; SELECT 2"),
    (.postgres, "SELECT 1 ?'2; SELECT 3 --'", "SELECT 1 ?'2; SELECT 3 --'"),
    (.postgres, "SELECT 1 &>'2; SELECT 3 --'", "SELECT 1 &>'2; SELECT 3 --'"),
    -- for the dialect, a comment begins where one was removed
    (.ansi, "SELECT 1 -/**/- '\n; SELECT 2 --'", "SELECT 1 -- '\n; SELECT 2 --'")]

/-- Out of step, a dialect finds two statements where the segmenter saw one. -/
theorem parse_outOfStep :
    outOfStep.Forall fun x => Script.splitStatements .continuous x.2.1 = [x.2.2] ∧
      parse x.1 x.2.2 = .error (.multiple 2) := by
  simp only [Script.splitStatements_eq]
  decide +kernel

end TableFeed.Sql
