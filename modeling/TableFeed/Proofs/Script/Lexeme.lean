import TableFeed.Script.Segmenter

/-!
# Lexemes

A text is cut into lexemes by looking ahead: what begins at a character is told by the characters
that follow it.

    ' … '  or  " … "    literal         through the first such quote that no backslash escapes
    -- …                line comment    up to the next line feed
    /* … */             block comment   through the first `*/` behind its opening mark
    ;                   terminator
    anything else       an ordinary character

A literal or a block comment that is not closed runs to the end of the text. Statements follow
from lexemes without any state: drop the comments, cut at the terminators, trim the pieces and
drop the blank ones.
-/

namespace TableFeed.Script

open TableFeed

/-- A stretch of a text. -/
inductive Lexeme where
  | literal (text : List Char)
  | lineComment (text : List Char)
  | blockComment (text : List Char)
  | terminator
  | ordinary (c : Char)
  deriving DecidableEq, Repr

namespace Lexeme

/-- The characters of a lexeme. -/
def text : Lexeme → List Char
  | literal cs | lineComment cs | blockComment cs => cs
  | terminator => [';']
  | ordinary c => [c]

/-- Whether a lexeme is dropped. -/
def isComment : Lexeme → Bool
  | lineComment _ | blockComment _ => true
  | _ => false

@[simp] theorem text_literal (cs : List Char) : (literal cs).text = cs := rfl
@[simp] theorem text_lineComment (cs : List Char) : (lineComment cs).text = cs := rfl
@[simp] theorem text_blockComment (cs : List Char) : (blockComment cs).text = cs := rfl
@[simp] theorem text_terminator : terminator.text = [';'] := rfl
@[simp] theorem text_ordinary (c : Char) : (ordinary c).text = [c] := rfl

@[simp] theorem isComment_literal (cs : List Char) : (literal cs).isComment = false := rfl
@[simp] theorem isComment_lineComment (cs : List Char) : (lineComment cs).isComment = true := rfl
@[simp] theorem isComment_blockComment (cs : List Char) : (blockComment cs).isComment = true := rfl
@[simp] theorem isComment_terminator : terminator.isComment = false := rfl
@[simp] theorem isComment_ordinary (c : Char) : (ordinary c).isComment = false := rfl

end Lexeme

/-! ### Cutting by lookahead -/

/-- The rest of a literal, through the first `quote` that no backslash escapes, and what is behind
it. -/
def throughQuote (quote : Char) : List Char → List Char × List Char
  | [] => ([], [])
  | '\\' :: c :: cs => ('\\' :: c :: (throughQuote quote cs).1, (throughQuote quote cs).2)
  | c :: cs =>
    if c = quote then ([c], cs) else (c :: (throughQuote quote cs).1, (throughQuote quote cs).2)

/-- The rest of a block comment, through the first `*/`, and what is behind it. -/
def throughClose : List Char → List Char × List Char
  | [] => ([], [])
  | '*' :: '/' :: cs => (['*', '/'], cs)
  | c :: cs => (c :: (throughClose cs).1, (throughClose cs).2)

/-- Whether a character is not a line feed. -/
def inLine (c : Char) : Bool := c ≠ '\n'

theorem throughQuote_append (quote : Char) (cs : List Char) :
    (throughQuote quote cs).1 ++ (throughQuote quote cs).2 = cs := by
  fun_induction throughQuote quote cs <;> simp_all

theorem throughClose_append (cs : List Char) : (throughClose cs).1 ++ (throughClose cs).2 = cs := by
  fun_induction throughClose cs <;> simp_all

theorem length_throughQuote_le (quote : Char) (cs : List Char) :
    (throughQuote quote cs).2.length ≤ cs.length := by
  have h := congrArg List.length (throughQuote_append quote cs)
  rw [List.length_append] at h
  omega

theorem length_throughClose_le (cs : List Char) : (throughClose cs).2.length ≤ cs.length := by
  have h := congrArg List.length (throughClose_append cs)
  rw [List.length_append] at h
  omega

/-- The lexemes of a text. -/
def lexemes : List Char → List Lexeme
  | [] => []
  | '-' :: '-' :: cs =>
    .lineComment ('-' :: '-' :: cs.takeWhile inLine) :: lexemes (cs.dropWhile inLine)
  | '/' :: '*' :: cs =>
    .blockComment ('/' :: '*' :: (throughClose cs).1) :: lexemes (throughClose cs).2
  | ';' :: cs => .terminator :: lexemes cs
  | c :: cs =>
    if isQuote c then .literal (c :: (throughQuote c cs).1) :: lexemes (throughQuote c cs).2
    else .ordinary c :: lexemes cs
termination_by cs => cs.length
decreasing_by
  · have := (List.dropWhile_suffix (l := cs) inLine).length_le
    simp only [List.length_cons]; omega
  · have := length_throughClose_le cs
    simp only [List.length_cons]; omega
  · simp
  · have := length_throughQuote_le c cs
    simp only [List.length_cons]; omega
  · simp

/-! ### What a character begins -/

/-- Whether a character and those that follow it open a comment. -/
def opensComment : Option Char → List Char → Bool
  | some '-', '-' :: _ => true
  | some '/', '*' :: _ => true
  | _, _ => false

theorem opensComment_nil (previous : Option Char) : opensComment previous [] = false := by
  unfold opensComment
  split <;> simp_all

theorem opensComment_lineFeed (previous : Option Char) (cs : List Char) :
    opensComment previous ('\n' :: cs) = false := by
  unfold opensComment
  split <;> simp_all

theorem opensComment_eq_true {previous : Option Char} {cs : List Char}
    (h : opensComment previous cs = true) :
    (∃ rest, previous = some '-' ∧ cs = '-' :: rest) ∨
      (∃ rest, previous = some '/' ∧ cs = '*' :: rest) := by
  unfold opensComment at h
  split at h
  · exact .inl ⟨_, rfl, rfl⟩
  · exact .inr ⟨_, rfl, rfl⟩
  · exact absurd h (by decide)


theorem lexemes_cons_quote {c : Char} (h : isQuote c = true) (cs : List Char) :
    lexemes (c :: cs) = .literal (c :: (throughQuote c cs).1) :: lexemes (throughQuote c cs).2 := by
  have hc : c = '\'' ∨ c = '"' := by simpa [isQuote] using h
  rcases hc with rfl | rfl <;> rw [lexemes] <;> simp [isQuote]

theorem lexemes_cons_ordinary {c : Char} {cs : List Char} (hq : isQuote c = false) (ht : c ≠ ';')
    (ho : opensComment (some c) cs = false) : lexemes (c :: cs) = .ordinary c :: lexemes cs := by
  rw [lexemes]
  · simp [hq]
  · rintro cs rfl rfl
    simp [opensComment] at ho
  · rintro cs rfl rfl
    simp [opensComment] at ho
  · exact ht

theorem lexemes_lineFeed (cs : List Char) : lexemes ('\n' :: cs) = .ordinary '\n' :: lexemes cs :=
  lexemes_cons_ordinary rfl (by decide) rfl

/-- Nothing of a text is lost, doubled or moved. -/
theorem flatMap_text_lexemes (cs : List Char) : (lexemes cs).flatMap Lexeme.text = cs := by
  fun_induction lexemes cs with
  | case1 => rfl
  | case2 cs ih => simp [ih]
  | case3 cs ih => simp [ih, throughClose_append]
  | case4 cs ih => simp [ih]
  | case5 c cs _ _ _ hq ih => simp [ih, throughQuote_append]
  | case6 c cs _ _ _ hq ih => simp [ih]

/-! ### Statements of lexemes -/

/-- Lexemes without the comments, cut at the terminators. -/
def pieces (ls : List Lexeme) : List (List Lexeme) :=
  (ls.filter fun l => !l.isComment).splitOn .terminator

/-- The text of a piece without the blanks at both ends. -/
def pieceText (piece : List Lexeme) : List Char := Text.trim (piece.flatMap Lexeme.text)

/-- The statements that some lexemes make: the texts of the pieces that are not blank. -/
def statementsOf (ls : List Lexeme) : List String :=
  (((pieces ls).map pieceText).filter fun cs => cs ≠ []).map String.ofList

@[simp] theorem pieces_nil : pieces [] = [[]] := rfl

theorem pieces_ne_nil (ls : List Lexeme) : pieces ls ≠ [] := List.splitOn_ne_nil _ _

theorem pieces_cons_comment {l : Lexeme} (h : l.isComment = true) (ls : List Lexeme) :
    pieces (l :: ls) = pieces ls := by
  simp [pieces, h]

theorem pieces_cons_terminator (ls : List Lexeme) :
    pieces (.terminator :: ls) = [] :: pieces ls := by
  simp [pieces, List.splitOn_cons_eq_if_modifyHead]

theorem pieces_cons_kept {l : Lexeme} (hc : l.isComment = false) (ht : l ≠ .terminator)
    (ls : List Lexeme) : pieces (l :: ls) = (pieces ls).modifyHead (l :: ·) := by
  simp [pieces, hc, ht, List.splitOn_cons_eq_if_modifyHead]

@[simp] theorem pieces_cons_literal (cs : List Char) (ls : List Lexeme) :
    pieces (.literal cs :: ls) = (pieces ls).modifyHead (.literal cs :: ·) :=
  pieces_cons_kept (Lexeme.isComment_literal cs) (by simp) ls

end TableFeed.Script
