import TableFeed.Proofs.Script.Outlook

/-!
# Segmentation by lookahead

The statements of lines are those of their lexemes. In continuous mode the lines are joined with
line feeds and lexed as one text; in reset-per-line mode every line is lexed by itself, so that
its literals and comments end with it, and an ordinary line feed stands between the lexemes of
two lines.

                     lines ──joined──▶ text ──lexed──▶ lexemes          continuous
                     lines ──lexed───▶ lexemes ──joined──▶ lexemes      reset per line
-/

namespace TableFeed.Script

open TableFeed

namespace Segmenter

theorem cutFrom_joined (buffer : List Char) (ls : List Lexeme) :
    cutFrom (joined buffer) ls = cutFrom buffer (.ordinary '\n' :: ls) := by
  unfold joined
  split
  · next h =>
    subst h
    have hb : ∀ c ∈ ['\n'], Text.isBlank c = true := List.forall_mem_singleton.mpr rfl
    exact (cutFrom_append_blank hb [] ls).symm
  · rfl

/-- The scan that a segmenter carries from line to line. -/
def scan (g : Segmenter) : Scan := { region := g.region, buffer := g.buffer }

/-- The characters that lines add behind the present one. -/
def laterChars : LineMode → List String → List Char
  | .continuous, lines => lines.flatMap fun line => '\n' :: line.toList
  | .resetPerLine, _ => []

/-- The lexemes that lines add behind the characters of the present one. -/
def laterLexemes : LineMode → List String → List Lexeme
  | .continuous, _ => []
  | .resetPerLine, lines => lines.flatMap fun line => .ordinary '\n' :: lexemes line.toList

/-- In continuous mode the end of a line is a line feed. -/
theorem outlook_lineBreak {g : Segmenter} (hm : g.mode = .continuous) (hp : g.region.Proper)
    (cs : List Char) : g.lineBreak.scan.outlook cs [] = g.scan.outlook ('\n' :: cs) [] := by
  obtain ⟨mode, region, buffer, begun⟩ := g
  subst hm
  cases region with
  | plain previous =>
    rw [Scan.outlook_plain rfl (opensComment_lineFeed previous cs), Scan.outlook_plain rfl rfl,
      lexemes_lineFeed]
    simp [scan, lineBreak, cutFrom_joined]
  | literal quote escaped =>
    have hc : ¬('\n' = quote ∧ escaped = false) := by
      rintro ⟨rfl, -⟩
      exact Bool.false_ne_true hp
    simp [Scan.outlook, scan, lineBreak, literalRest_cons hc]
  | lineComment =>
    rw [Scan.outlook_plain rfl rfl]
    simp [Scan.outlook, scan, lineBreak, cutFrom_joined, inLine, lexemes_lineFeed]
  | blockComment afterStar => simp [Scan.outlook, scan, lineBreak, behindBlock_cons]

@[simp] theorem mode_lineBreak (g : Segmenter) : g.lineBreak.mode = g.mode := by
  unfold lineBreak
  split <;> rfl

theorem lineStart_continuous {g : Segmenter} (hb : g.begun = true) (hm : g.mode = .continuous) :
    g.lineStart = g.lineBreak.scan := by
  simp [lineStart, hb, hm, scan]

theorem lineStart_resetPerLine {g : Segmenter} (hb : g.begun = true) (hm : g.mode = .resetPerLine) :
    g.lineStart = { region := .start, buffer := joined g.buffer } := by
  simp [lineStart, hb, hm, lineBreak]

theorem proper_lineBreak {g : Segmenter} (hp : g.region.Proper) : g.lineBreak.region.Proper := by
  unfold lineBreak
  split
  · exact hp
  · trivial
  · next q _ h =>
    rw [h] at hp
    exact hp
  · trivial
  · trivial

/-- The first characters of the next line follow the end of the present one. -/
theorem outlook_lineStart {g : Segmenter} (hb : g.begun = true) (hp : g.region.Proper)
    (line : String) (lines : List String) :
    g.lineStart.outlook (line.toList ++ laterChars g.mode lines) (laterLexemes g.mode lines) =
      g.scan.outlook (laterChars g.mode (line :: lines)) (laterLexemes g.mode (line :: lines)) := by
  cases hm : g.mode with
  | continuous =>
    rw [lineStart_continuous hb hm]
    exact outlook_lineBreak hm hp _
  | resetPerLine =>
    rw [lineStart_resetPerLine hb hm, laterChars, List.append_nil, Scan.outlook_plain rfl rfl,
      laterChars, Scan.outlook_nil]
    simp [cutFrom_joined, laterLexemes, scan]

theorem proper_lineStart {g : Segmenter} (hb : g.begun = true) (hp : g.region.Proper) :
    g.lineStart.region.Proper := by
  cases hm : g.mode with
  | continuous => rw [lineStart_continuous hb hm]; exact proper_lineBreak hp
  | resetPerLine => rw [lineStart_resetPerLine hb hm]; trivial

/-- The segmenter after a line. -/
theorem pushLines_cons (g : Segmenter) (line : String) (lines : List String) :
    (g.pushLines (line :: lines)).1 ++ (g.pushLines (line :: lines)).2.finish.toList =
      (g.pushLine line).1 ++
        (((g.pushLine line).2.pushLines lines).1 ++
          ((g.pushLine line).2.pushLines lines).2.finish.toList) := by
  simp [pushLines]

theorem pushLine_append_outlook {g : Segmenter} (hs : g.lineStart.region.Proper) {line : String}
    (hl : '\n' ∉ line.toList) (cs : List Char) (more : List Lexeme) :
    (g.pushLine line).1 ++ (g.pushLine line).2.scan.outlook cs more =
      g.lineStart.outlook (line.toList ++ cs) more := by
  rw [← Scan.outlook_run hs hl cs more]
  simp [pushLine, Scan.outlook, scan]

/-- What lines give behind the scan that a segmenter carries. -/
theorem pushLines_eq_outlook {g : Segmenter} (hb : g.begun = true) (hp : g.region.Proper)
    {lines : List String} (hl : ∀ line ∈ lines, '\n' ∉ line.toList) :
    (g.pushLines lines).1 ++ (g.pushLines lines).2.finish.toList =
      g.scan.outlook (laterChars g.mode lines) (laterLexemes g.mode lines) := by
  induction lines generalizing g with
  | nil =>
    have hc : laterChars g.mode [] = [] := by cases g.mode <;> rfl
    have hm : laterLexemes g.mode [] = [] := by cases g.mode <;> rfl
    rw [hc, hm, Scan.outlook_nil]
    rfl
  | cons line lines ih =>
    rw [List.forall_mem_cons] at hl
    have hs := proper_lineStart hb hp
    have hp' : (g.pushLine line).2.region.Proper := Scan.proper_run hs line.toList
    rw [pushLines_cons, ih rfl hp' hl.2, ← outlook_lineStart hb hp]
    exact pushLine_append_outlook hs hl.1 _ _

end Segmenter

open Segmenter in
/-- The statements of lines are those of the lexemes of the first line and of what the others
add. -/
theorem segment_cons (mode : LineMode) {line : String} {lines : List String}
    (hl : ∀ l ∈ line :: lines, '\n' ∉ l.toList) :
    segment mode (line :: lines) =
      statementsOf (lexemes (line.toList ++ laterChars mode lines) ++ laterLexemes mode lines) := by
  rw [List.forall_mem_cons] at hl
  have hs : (start mode).lineStart.region.Proper := by cases mode <;> trivial
  have hp : ((start mode).pushLine line).2.region.Proper := Scan.proper_run hs line.toList
  have h : segment mode (line :: lines) = (start mode).lineStart.outlook
      (line.toList ++ laterChars mode lines) (laterLexemes mode lines) := by
    refine (pushLines_cons (start mode) line lines).trans ?_
    rw [pushLines_eq_outlook rfl hp hl.2]
    exact pushLine_append_outlook hs hl.1 _ _
  have hstart : (start mode).lineStart = {} := by cases mode <;> rfl
  rw [h, hstart, Scan.outlook_plain rfl rfl, cutFrom_nil_eq_statementsOf]
  rfl

/-! ### Lines joined -/

/-- A list joined with a separator is its first part and the others, each behind a separator. -/
theorem intercalate_cons {α : Type} (sep : α) (xs : List α) (xss : List (List α)) :
    [sep].intercalate (xs :: xss) = xs ++ xss.flatMap fun ys => sep :: ys := by
  induction xss generalizing xs with
  | nil => simp
  | cons ys xss ih =>
    rw [List.intercalate_cons_cons, ih]
    simp

theorem segment_nil (mode : LineMode) : segment mode [] = [] := rfl

theorem statementsOf_nil : statementsOf [] = [] := by simp [statementsOf, pieceText]

/-- The segmenter gives the statements of the lexemes: of the joined lines in continuous mode, of
each line by itself in reset-per-line mode. -/
theorem segment_eq_statementsOf {lines : List String} (hl : ∀ line ∈ lines, '\n' ∉ line.toList) :
    segment .continuous lines =
        statementsOf (lexemes (['\n'].intercalate (lines.map String.toList))) ∧
      segment .resetPerLine lines =
        statementsOf ([.ordinary '\n'].intercalate (lines.map fun line => lexemes line.toList)) := by
  cases lines with
  | nil => simp [segment_nil, lexemes, statementsOf_nil]
  | cons line lines =>
    rw [segment_cons .continuous hl, segment_cons .resetPerLine hl]
    simp only [List.map_cons, intercalate_cons, List.flatMap_map]
    simp [Segmenter.laterChars, Segmenter.laterLexemes]

/-- Marks that overlap, a backslash at the end of a line, and a literal that stays open. -/
def overlappingMarks : List String :=
  ["a 'x;\\", "';/*/ b;", "*/ c---;", "-/**/- d//*;", "*/;e \"open;"]

theorem segment_overlappingMarks :
    (∀ line ∈ overlappingMarks, '\n' ∉ line.toList) ∧
      statementsOf (lexemes (['\n'].intercalate (overlappingMarks.map String.toList))) =
        ["a 'x;\\\n'", "c\n-- d/", "e \"open;"] ∧
      statementsOf ([.ordinary '\n'].intercalate
          (overlappingMarks.map fun line => lexemes line.toList)) =
        ["a 'x;\\\n';/*/ b;\n*/ c\n-- d/\n*/", "e \"open;"] := by
  have h : ∀ line ∈ overlappingMarks, '\n' ∉ line.toList := by decide
  obtain ⟨hc, hr⟩ := segment_eq_statementsOf h
  exact ⟨h, hc.symm.trans (by decide), hr.symm.trans (by decide)⟩

end TableFeed.Script
