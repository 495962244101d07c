import Mathlib.Tactic.SplitIfs
import TableFeed.Proofs.Script.Lexeme

/-!
# What a scan will give

The scan reads one character after the other and knows a comment by looking back; lexemes are
known by looking ahead. What a scan will still give is told by lexemes: its *outlook* is what it
has completed, then what its buffer makes together with the lexemes of the characters to come.
A step takes one of these characters and leaves the outlook as it is.

    outlook (s.step c) cs  =  outlook s (c :: cs)

In the plain region the character before may turn out to be the first one of a comment mark. It
is then taken from the buffer and lexed together with the characters to come.
-/

namespace TableFeed.Script

open TableFeed

/-! ### Statements behind kept characters -/

/-- The statements of lexemes behind the characters of a buffer, newest first. -/
def cutFrom (buffer : List Char) : List Lexeme → List String
  | [] => (Scan.statement? buffer).toList
  | .terminator :: ls => (Scan.statement? buffer).toList ++ cutFrom [] ls
  | .lineComment _ :: ls => cutFrom buffer ls
  | .blockComment _ :: ls => cutFrom buffer ls
  | .literal text :: ls => cutFrom (text.reverse ++ buffer) ls
  | .ordinary c :: ls => cutFrom (c :: buffer) ls

theorem toList_statement? (buffer : List Char) :
    (Scan.statement? buffer).toList =
      (([Text.trim buffer.reverse]).filter fun cs => cs ≠ []).map String.ofList := by
  unfold Scan.statement?
  cases Text.trim buffer.reverse <;> simp

/-- A comment makes no difference. -/
theorem statementsOf_cons_comment {l : Lexeme} (h : l.isComment = true) (text : List Char)
    (ls : List Lexeme) :
    statementsOf (.literal text :: l :: ls) = statementsOf (.literal text :: ls) := by
  simp only [statementsOf, pieces_cons_literal, pieces_cons_comment h]

/-- A lexeme that is neither a comment nor a terminator adds its text to the literal before it. -/
theorem statementsOf_cons_kept {l : Lexeme} (hc : l.isComment = false) (ht : l ≠ .terminator)
    (text : List Char) (ls : List Lexeme) :
    statementsOf (.literal text :: l :: ls) = statementsOf (.literal (text ++ l.text) :: ls) := by
  obtain ⟨p, ps, h⟩ := List.exists_cons_of_ne_nil (pieces_ne_nil ls)
  simp [statementsOf, pieces_cons_kept hc ht, h, pieceText]

/-- A terminator ends the statement of the literal before it. -/
theorem statementsOf_cons_terminator (text : List Char) (ls : List Lexeme) :
    statementsOf (.literal text :: .terminator :: ls) =
      (Scan.statement? text.reverse).toList ++ statementsOf ls := by
  rw [toList_statement?, List.reverse_reverse]
  simp only [statementsOf, pieces_cons_literal, pieces_cons_terminator, List.modifyHead_cons,
    List.map_cons]
  rw [← List.map_append, ← List.filter_append]
  simp [pieceText]

theorem statementsOf_nil_literal (ls : List Lexeme) :
    statementsOf (.literal [] :: ls) = statementsOf ls := by
  obtain ⟨p, ps, h⟩ := List.exists_cons_of_ne_nil (pieces_ne_nil ls)
  simp [statementsOf, h, pieceText]

/-- Kept characters count like a literal that holds them. -/
theorem cutFrom_eq_statementsOf (buffer : List Char) (ls : List Lexeme) :
    cutFrom buffer ls = statementsOf (.literal buffer.reverse :: ls) := by
  fun_induction cutFrom buffer ls with
  | case1 buffer =>
    rw [toList_statement?]
    simp [statementsOf, pieceText]
  | case2 buffer ls ih =>
    rw [statementsOf_cons_terminator, List.reverse_reverse, ih, List.reverse_nil,
      statementsOf_nil_literal]
  | case3 buffer text ls ih => rw [statementsOf_cons_comment rfl, ih]
  | case4 buffer text ls ih => rw [statementsOf_cons_comment rfl, ih]
  | case5 buffer text ls ih =>
    rw [statementsOf_cons_kept rfl (by simp), ih]
    simp
  | case6 buffer c ls ih =>
    rw [statementsOf_cons_kept rfl (by simp), ih]
    simp

theorem cutFrom_nil_eq_statementsOf (ls : List Lexeme) : cutFrom [] ls = statementsOf ls := by
  rw [cutFrom_eq_statementsOf, List.reverse_nil, statementsOf_nil_literal]

theorem statement?_append_blank {blanks : List Char} (h : ∀ c ∈ blanks, Text.isBlank c = true)
    (buffer : List Char) : Scan.statement? (buffer ++ blanks) = Scan.statement? buffer := by
  unfold Scan.statement?
  rw [List.reverse_append, Text.trim, Text.trim, Text.trimStart, List.dropWhile_append_of_pos]
  · rfl
  · simpa using h

/-- Blanks before everything else make no difference. -/
theorem cutFrom_append_blank {blanks : List Char} (h : ∀ c ∈ blanks, Text.isBlank c = true)
    (buffer : List Char) (ls : List Lexeme) :
    cutFrom (buffer ++ blanks) ls = cutFrom buffer ls := by
  fun_induction cutFrom buffer ls with
  | case1 buffer => rw [cutFrom, statement?_append_blank h]
  | case2 buffer ls ih => rw [cutFrom, statement?_append_blank h]
  | case3 buffer text ls ih => rw [cutFrom, ih]
  | case4 buffer text ls ih => rw [cutFrom, ih]
  | case5 buffer text ls ih => rw [cutFrom, ← List.append_assoc, ih]
  | case6 buffer c ls ih => rw [cutFrom, ← List.cons_append, ih]

/-! ### Inside a region -/

/-- The rest of a literal, of which the first character may be escaped. -/
def literalRest (quote : Char) : Bool → List Char → List Char × List Char
  | true, c :: cs => (c :: (throughQuote quote cs).1, (throughQuote quote cs).2)
  | _, cs => throughQuote quote cs

/-- What is behind the rest of a block comment, of which the first character may be behind a
star. -/
def behindBlock : Bool → List Char → List Char
  | true, '/' :: cs => cs
  | _, cs => (throughClose cs).2

theorem literalRest_cons {quote c : Char} {escaped : Bool} (hc : ¬(c = quote ∧ escaped = false))
    (cs : List Char) :
    literalRest quote escaped (c :: cs) =
      (c :: (literalRest quote (c == '\\' && !escaped) cs).1,
        (literalRest quote (c == '\\' && !escaped) cs).2) := by
  cases escaped with
  | true => simp [literalRest]
  | false =>
    have hq : c ≠ quote := by simpa using hc
    by_cases hb : c = '\\'
    · subst hb
      cases cs <;> simp [literalRest, throughQuote, hq]
    · simp [literalRest, throughQuote, hq, hb]

theorem literalRest_quote {quote : Char} (h : isQuote quote = true) (cs : List Char) :
    literalRest quote false (quote :: cs) = ([quote], cs) := by
  have hb : quote ≠ '\\' := by rintro rfl; exact absurd h (by decide)
  rw [literalRest, throughQuote]
  · simp
  · rintro d ds rfl
    exact absurd rfl hb
  · simp

theorem throughClose_cons_snd (c : Char) (cs : List Char) :
    (throughClose (c :: cs)).2 = behindBlock (c == '*') cs := by
  by_cases hs : c = '*'
  · subst hs
    match cs with
    | [] => rfl
    | d :: ds =>
      by_cases hd : d = '/'
      · subst hd; rfl
      · simp [throughClose, behindBlock, hd]
  · simp [throughClose, behindBlock, hs]

theorem behindBlock_cons {c : Char} {afterStar : Bool} (hc : ¬(afterStar = true ∧ c = '/'))
    (cs : List Char) : behindBlock afterStar (c :: cs) = behindBlock (c == '*') cs := by
  rw [← throughClose_cons_snd]
  cases afterStar with
  | false => rfl
  | true =>
    have hc' : c ≠ '/' := by simpa using hc
    simp [behindBlock, hc']

/-- A region whose quote is one. -/
def Region.Proper : Region → Prop
  | .literal quote _ => isQuote quote = true
  | _ => True

/-! ### The outlook of a scan -/

namespace Scan

/-- What a scan gives when the characters `cs` follow, and behind them the lexemes `more`. -/
def outlook (s : Scan) (cs : List Char) (more : List Lexeme) : List String :=
  s.done.reverse ++
    match s.region with
    | .plain previous =>
      if opensComment previous cs then
        cutFrom s.buffer.tail (lexemes (previous.toList ++ cs) ++ more)
      else cutFrom s.buffer (lexemes cs ++ more)
    | .literal quote escaped =>
      cutFrom ((literalRest quote escaped cs).1.reverse ++ s.buffer)
        (lexemes (literalRest quote escaped cs).2 ++ more)
    | .lineComment => cutFrom s.buffer (lexemes (cs.dropWhile inLine) ++ more)
    | .blockComment afterStar => cutFrom s.buffer (lexemes (behindBlock afterStar cs) ++ more)

/-- The two ways to enter a comment need a comment that opens. -/
theorem plainStep_of_not_opensComment {previous : Option Char} {c : Char} {cs : List Char}
    (ho : opensComment previous (c :: cs) = false) (s : Scan) :
    s.plainStep previous c =
      if isQuote c then s.keep c (.literal c false)
      else if c = ';' then s.terminate
      else s.keep c (.plain (some c)) := by
  have hb : ¬(previous = some '/' ∧ c = '*') := by
    rintro ⟨rfl, rfl⟩
    exact absurd ho (by simp [opensComment])
  have hl : ¬(previous = some '-' ∧ c = '-') := by
    rintro ⟨rfl, rfl⟩
    exact absurd ho (by simp [opensComment])
  rw [plainStep, if_neg hb, if_neg hl]

theorem outlook_plain {s : Scan} {previous : Option Char} {cs : List Char}
    (hs : s.region = .plain previous) (ho : opensComment previous cs = false) (more : List Lexeme) :
    s.outlook cs more = s.done.reverse ++ cutFrom s.buffer (lexemes cs ++ more) := by
  simp [outlook, hs, ho]

/-- A kept character is an ordinary lexeme, or begins a comment of the characters that follow. -/
theorem outlook_keep_plain {c : Char} {cs : List Char} (hq : isQuote c = false) (ht : c ≠ ';')
    (s : Scan) (more : List Lexeme) :
    (s.keep c (.plain (some c))).outlook cs more =
      s.done.reverse ++ cutFrom s.buffer (lexemes (c :: cs) ++ more) := by
  cases ho : opensComment (some c) cs with
  | true => simp [outlook, keep, ho]
  | false =>
    rw [outlook_plain rfl ho, lexemes_cons_ordinary hq ht ho]
    simp [keep, cutFrom]

theorem outlook_plainStep {s : Scan} {previous : Option Char} (hs : s.region = .plain previous)
    (c : Char) (cs : List Char) (more : List Lexeme) :
    (s.plainStep previous c).outlook cs more = s.outlook (c :: cs) more := by
  cases ho : opensComment previous (c :: cs) with
  | true =>
    rcases opensComment_eq_true ho with ⟨rest, rfl, h⟩ | ⟨rest, rfl, h⟩ <;>
      obtain ⟨rfl, rfl⟩ := List.cons.inj h <;>
      simp [outlook, plainStep, isQuote, enterComment, hs, opensComment, lexemes, cutFrom,
        behindBlock]
  | false =>
    rw [plainStep_of_not_opensComment ho, outlook_plain hs ho]
    split
    · next hq =>
      rw [lexemes_cons_quote hq]
      simp [outlook, keep, literalRest, cutFrom]
    split
    · next ht =>
      subst ht
      simp [outlook, terminate, Region.start, opensComment, lexemes, cutFrom]
      cases statement? s.buffer <;> simp
    · next hq ht => exact outlook_keep_plain (by simpa using hq) ht s more

theorem outlook_literalStep {s : Scan} {quote : Char} {escaped : Bool}
    (hs : s.region = .literal quote escaped) (hq : isQuote quote = true) (c : Char) (cs : List Char)
    (more : List Lexeme) :
    (s.literalStep quote escaped c).outlook cs more = s.outlook (c :: cs) more := by
  unfold literalStep
  split
  · next hc =>
    obtain ⟨rfl, rfl⟩ := hc
    have ho : opensComment (some c) cs = false := by
      unfold opensComment
      split <;> simp_all [isQuote]
    rw [outlook_plain rfl ho]
    simp [outlook, hs, literalRest_quote hq, keep]
  · next hc => simp [outlook, keep, hs, literalRest_cons hc]

theorem outlook_blockStep {s : Scan} {afterStar : Bool} (hs : s.region = .blockComment afterStar)
    (c : Char) (cs : List Char) (more : List Lexeme) :
    (s.blockStep afterStar c).outlook cs more = s.outlook (c :: cs) more := by
  unfold blockStep
  split
  · next hc =>
    obtain ⟨rfl, rfl⟩ := hc
    simp [outlook, hs, Region.start, opensComment, behindBlock]
  · next hc => simp [outlook, hs, behindBlock_cons hc]

/-- A step takes one of the characters to come and leaves the outlook as it is. -/
theorem outlook_step {s : Scan} (hs : s.region.Proper) {c : Char} (hc : c ≠ '\n') (cs : List Char)
    (more : List Lexeme) : (s.step c).outlook cs more = s.outlook (c :: cs) more := by
  unfold step
  split
  · next previous h => exact outlook_plainStep h c cs more
  · next quote escaped h =>
    exact outlook_literalStep h (by simpa [h, Region.Proper] using hs) c cs more
  · next h => simp [outlook, h, inLine, hc]
  · next afterStar h => exact outlook_blockStep h c cs more

theorem proper_step {s : Scan} (hs : s.region.Proper) (c : Char) : (s.step c).region.Proper := by
  unfold step
  split
  · next previous h =>
    unfold plainStep
    split_ifs with hq <;> first | exact hq | trivial
  · next quote escaped h =>
    unfold literalStep
    split_ifs
    · trivial
    · show isQuote quote = true
      simpa [h, Region.Proper] using hs
  · exact hs
  · unfold blockStep
    split_ifs <;> trivial

theorem proper_run {s : Scan} (hs : s.region.Proper) (cs : List Char) :
    (s.run cs).region.Proper := by
  induction cs generalizing s with
  | nil => exact hs
  | cons c cs ih => exact ih (proper_step hs c)

theorem outlook_run {s : Scan} (hs : s.region.Proper) {line : List Char} (hl : '\n' ∉ line)
    (cs : List Char) (more : List Lexeme) :
    (s.run line).outlook cs more = s.outlook (line ++ cs) more := by
  induction line generalizing s with
  | nil => rfl
  | cons c line ih =>
    obtain ⟨hc, hl⟩ := not_or.mp (mt List.mem_cons.mpr hl)
    have h := outlook_step hs (Ne.symm hc) (line ++ cs) more
    exact (ih (proper_step hs c) hl).trans h

theorem outlook_nil (s : Scan) (more : List Lexeme) :
    s.outlook [] more = s.done.reverse ++ cutFrom s.buffer more := by
  obtain ⟨region, buffer, done⟩ := s
  cases region with
  | plain previous => rw [outlook_plain rfl (opensComment_nil previous)]; simp [lexemes]
  | literal quote escaped => cases escaped <;> simp [outlook, literalRest, throughQuote, lexemes]
  | lineComment => simp [outlook, lexemes]
  | blockComment afterStar => cases afterStar <;> simp [outlook, behindBlock, throughClose, lexemes]

end Scan

end TableFeed.Script
