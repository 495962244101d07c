import Mathlib.Algebra.GroupWithZero.Nat
import Mathlib.Data.List.DropRight
import Mathlib.Data.List.Flatten
import Mathlib.Data.List.Infix
import TableFeed.Proofs.Script.Segmentation

/-!
# Reading statements again

A statement that has been cut out of a script can be read as a script itself. It is *refed* if it
comes back as it was: nothing in it is complete, and all of it is pending at its end. So it is for
every statement but those where a comment stood between two characters that, once it is dropped,
open a comment themselves.

    "a //**/* b"  ──cut──▶  "a /* b"  ──cut──▶  "a"

The statement of a piece of the script is lexed into that piece again, blanks at its ends aside,
unless two characters of the piece join to a comment mark. What is read is told by the outlook of
the scan; that nothing is complete shows when one more character is read behind the statement.
-/

namespace TableFeed.Script

open TableFeed

/-! ### Bare texts -/

namespace Lexeme

/-- Whether a lexeme is part of a statement. -/
def isKept : Lexeme → Bool
  | literal _ | ordinary _ => true
  | _ => false

@[simp] theorem isKept_literal (cs : List Char) : (literal cs).isKept = true := rfl
@[simp] theorem isKept_lineComment (cs : List Char) : (lineComment cs).isKept = false := rfl
@[simp] theorem isKept_blockComment (cs : List Char) : (blockComment cs).isKept = false := rfl
@[simp] theorem isKept_terminator : terminator.isKept = false := rfl
@[simp] theorem isKept_ordinary (c : Char) : (ordinary c).isKept = true := rfl

end Lexeme

/-- A text without comments and terminators. -/
def Bare (cs : List Char) : Prop := ∀ l ∈ lexemes cs, l.isKept = true

@[simp] theorem bare_nil : Bare [] := by simp [Bare, lexemes]

theorem bare_cons_ordinary {c : Char} {cs : List Char} (hq : isQuote c = false) (ht : c ≠ ';')
    (ho : opensComment (some c) cs = false) : Bare (c :: cs) ↔ Bare cs := by
  simp [Bare, lexemes_cons_ordinary hq ht ho]

theorem bare_cons_quote {c : Char} (h : isQuote c = true) (cs : List Char) :
    Bare (c :: cs) ↔ Bare (throughQuote c cs).2 := by
  simp [Bare, lexemes_cons_quote h]

theorem not_bare_opensComment {c : Char} {cs : List Char} (h : opensComment (some c) cs = true) :
    ¬Bare (c :: cs) := by
  rcases opensComment_eq_true h with ⟨rest, hc, rfl⟩ | ⟨rest, hc, rfl⟩ <;>
    obtain rfl := Option.some.inj hc <;> simp [Bare, lexemes]

theorem not_bare_terminator (cs : List Char) : ¬Bare (';' :: cs) := by
  simp [Bare, lexemes]

/-! ### Open and closed literals -/

/-- The rest of a literal that ends with it, whatever follows. -/
def Closed (quote : Char) (body : List Char) : Prop :=
  ∀ cs, throughQuote quote (body ++ cs) = (body, cs)

theorem isQuote_ne_backslash {quote : Char} (h : isQuote quote = true) : quote ≠ '\\' := by
  rintro rfl
  exact absurd h (by decide)

theorem throughQuote_cons {quote c : Char} (hb : c ≠ '\\') (cs : List Char) :
    throughQuote quote (c :: cs) =
      if c = quote then ([c], cs)
      else (c :: (throughQuote quote cs).1, (throughQuote quote cs).2) := by
  rw [throughQuote]
  rintro _ _ rfl
  exact absurd rfl hb

theorem throughQuote_escape (quote c : Char) (cs : List Char) :
    throughQuote quote ('\\' :: c :: cs) =
      ('\\' :: c :: (throughQuote quote cs).1, (throughQuote quote cs).2) := rfl

/-- A literal is closed, or it is open and one more character that is not its quote leaves it
open. -/
theorem closed_or_open {quote : Char} (hq : isQuote quote = true) (cs : List Char) :
    Closed quote (throughQuote quote cs).1 ∨
      (throughQuote quote cs).2 = [] ∧
        ∀ c ≠ quote, throughQuote quote (cs ++ [c]) = (cs ++ [c], []) := by
  fun_induction throughQuote quote cs with
  | case1 =>
    refine .inr ⟨rfl, fun c hc => ?_⟩
    simp [throughQuote, hc]
  | case2 d cs ih =>
    rcases ih with ih | ⟨hr, ih⟩
    · refine .inl fun ds => ?_
      rw [List.cons_append, List.cons_append, throughQuote_escape, ih]
    · refine .inr ⟨hr, fun c hc => ?_⟩
      rw [List.cons_append, List.cons_append, throughQuote_escape, ih c hc]
  | case3 cs h =>
    refine .inl fun ds => ?_
    rw [List.singleton_append, throughQuote_cons (isQuote_ne_backslash hq), if_pos rfl]
  | case4 c cs h hc ih =>
    by_cases hb : c = '\\'
    · subst hb
      cases cs with
      | nil => exact .inr ⟨rfl, fun c _ => by simp [throughQuote]⟩
      | cons d ds => exact absurd rfl (h d ds rfl)
    rcases ih with ih | ⟨hr, ih⟩
    · refine .inl fun ds => ?_
      rw [List.cons_append, throughQuote_cons hb, if_neg hc, ih]
    · refine .inr ⟨hr, fun d hd => ?_⟩
      rw [List.cons_append, throughQuote_cons hb, if_neg hc, ih d hd]

theorem throughQuote_append_of_closed {quote : Char} {cs : List Char}
    (h : Closed quote (throughQuote quote cs).1) (ds : List Char) :
    throughQuote quote (cs ++ ds) =
      ((throughQuote quote cs).1, (throughQuote quote cs).2 ++ ds) := by
  rw [← h, ← List.append_assoc, throughQuote_append]

/-! ### Blanks at the ends -/

/-- A character that begins and ends nothing. -/
def Neutral (c : Char) : Prop :=
  isQuote c = false ∧ c ≠ ';' ∧ c ≠ '-' ∧ c ≠ '/' ∧ c ≠ '*'

theorem opensComment_of_neutral {c : Char} (h : Neutral c) (cs : List Char) :
    opensComment (some c) cs = false := by
  by_contra ho
  rcases opensComment_eq_true (by simpa using ho) with ⟨_, hc, -⟩ | ⟨_, hc, -⟩
  · exact h.2.2.1 (Option.some.inj hc)
  · exact h.2.2.2.1 (Option.some.inj hc)

theorem opensComment_append_neutral {c : Char} (h : Neutral c) (previous : Option Char)
    (cs : List Char) : opensComment previous (cs ++ [c]) = opensComment previous cs := by
  cases cs with
  | cons d ds =>
    rw [List.cons_append]
    unfold opensComment
    split <;> simp_all
  | nil =>
    rw [opensComment_nil]
    by_contra ho
    rcases opensComment_eq_true (by simpa using ho) with ⟨_, -, hc⟩ | ⟨_, -, hc⟩
    · exact h.2.2.1 (List.cons.inj hc).1
    · exact h.2.2.2.2 (List.cons.inj hc).1

theorem neutral_of_isBlank {c : Char} (h : Text.isBlank c = true) : Neutral c := by
  refine ⟨?_, ?_, ?_, ?_, ?_⟩
  · by_contra hq
    have hc : c = '\'' ∨ c = '"' := by simpa [isQuote, or_iff_not_imp_left] using hq
    rcases hc with rfl | rfl <;> exact absurd h (by decide)
  all_goals rintro rfl; exact absurd h (by decide)

theorem bare_cons_neutral {c : Char} (h : Neutral c) (cs : List Char) :
    Bare (c :: cs) ↔ Bare cs :=
  bare_cons_ordinary h.1 h.2.1 (opensComment_of_neutral h cs)

theorem bare_append_neutral {c : Char} (h : Neutral c) (cs : List Char) :
    Bare (cs ++ [c]) ↔ Bare cs := by
  fun_induction lexemes cs with
  | case1 => exact bare_cons_neutral h []
  | case2 cs ih => simp [Bare, lexemes]
  | case3 cs ih => simp [Bare, lexemes]
  | case4 cs ih => simp [Bare, lexemes]
  | case5 d cs _ _ _ hq ih =>
    rw [List.cons_append, bare_cons_quote hq, bare_cons_quote hq]
    rcases closed_or_open hq cs with hcl | ⟨hr, hop⟩
    · rw [throughQuote_append_of_closed hcl]
      exact ih
    · have hc : c ≠ d := by
        rintro rfl
        exact Bool.false_ne_true (h.1.symm.trans hq)
      rw [hop c hc, hr]
  | case6 d cs hl hb ht hq ih =>
    rw [List.cons_append]
    cases ho : opensComment (some d) cs with
    | true =>
      refine iff_of_false (not_bare_opensComment ?_) (not_bare_opensComment ho)
      rw [opensComment_append_neutral h, ho]
    | false =>
      rw [bare_cons_ordinary (by simpa using hq) ht ho, ← ih]
      apply bare_cons_ordinary (by simpa using hq) ht
      rw [opensComment_append_neutral h, ho]

theorem bare_trimStart (cs : List Char) : Bare (Text.trimStart cs) ↔ Bare cs := by
  unfold Text.trimStart
  induction cs with
  | nil => rfl
  | cons c cs ih =>
    rw [List.dropWhile_cons]
    split
    · next h => rw [ih, bare_cons_neutral (neutral_of_isBlank h)]
    · rfl

theorem bare_trimEnd (cs : List Char) : Bare (Text.trimEnd cs) ↔ Bare cs := by
  unfold Text.trimEnd
  induction cs using List.reverseRecOn with
  | nil => rfl
  | append_singleton cs c ih =>
    rw [List.reverse_append, List.reverse_singleton, List.singleton_append, List.dropWhile_cons]
    split
    · next h => rw [ih, bare_append_neutral (neutral_of_isBlank h)]
    · simp

/-- Blanks at the ends of a text make no difference to what else is in it. -/
theorem bare_trim (cs : List Char) : Bare (Text.trim cs) ↔ Bare cs := by
  rw [Text.trim, bare_trimEnd, bare_trimStart]

/-! ### Comment marks of a piece -/

/-- Two characters that stand next to each other in a piece open a comment: what stood between
them has been dropped. -/
def JoinsMark (piece : List Lexeme) : Prop :=
  [.ordinary '-', .ordinary '-'] <:+: piece ∨ [.ordinary '/', .ordinary '*'] <:+: piece

instance (piece : List Lexeme) : Decidable (JoinsMark piece) :=
  inferInstanceAs (Decidable (_ ∨ _))

/-- Whether a lexeme and those that follow it open a comment. -/
def headJoins : Lexeme → List Lexeme → Bool
  | .ordinary '-', .ordinary '-' :: _ => true
  | .ordinary '/', .ordinary '*' :: _ => true
  | _, _ => false

theorem not_joinsMark_nil : ¬JoinsMark [] := by
  simp [JoinsMark]

theorem headJoins_iff (l : Lexeme) (piece : List Lexeme) :
    headJoins l piece = true ↔
      [.ordinary '-', .ordinary '-'] <+: l :: piece ∨ [.ordinary '/', .ordinary '*'] <+: l :: piece := by
  cases piece with
  | nil => simp [headJoins, List.cons_prefix_cons]
  | cons m piece =>
    simp only [List.cons_prefix_cons, List.nil_prefix, and_true]
    unfold headJoins
    split <;> simp_all
    grind

theorem joinsMark_cons (l : Lexeme) (piece : List Lexeme) :
    JoinsMark (l :: piece) ↔ headJoins l piece = true ∨ JoinsMark piece := by
  rw [headJoins_iff, JoinsMark, JoinsMark, List.infix_cons_iff, List.infix_cons_iff]
  tauto

/-- A lexeme that is a literal begins with a quote. -/
theorem exists_quote_of_mem_lexemes {cs text : List Char} (h : .literal text ∈ lexemes cs) :
    ∃ q body, isQuote q = true ∧ text = q :: body := by
  fun_induction lexemes cs with
  | case1 => simp at h
  | case2 cs ih => exact ih (by simpa using h)
  | case3 cs ih => exact ih (by simpa using h)
  | case4 cs ih => exact ih (by simpa using h)
  | case5 c cs _ _ _ hq ih =>
    rcases List.mem_cons.1 h with h | h
    · exact ⟨c, _, hq, Lexeme.literal.inj h⟩
    · exact ih h
  | case6 c cs _ _ _ hq ih => exact ih (by simpa using h)

/-- A lexeme in front of others is put in front of a piece of theirs, if it is kept. -/
theorem mem_pieces_cons {l : Lexeme} {ls piece : List Lexeme} (h : piece ∈ pieces (l :: ls)) :
    piece = [] ∨ piece ∈ pieces ls ∨ l.isKept = true ∧ ∃ tail ∈ pieces ls, piece = l :: tail := by
  have kept (hc : l.isComment = false) (ht : l ≠ .terminator) :
      piece ∈ pieces ls ∨ ∃ tail ∈ pieces ls, piece = l :: tail := by
    obtain ⟨p, ps, hp⟩ := List.exists_cons_of_ne_nil (pieces_ne_nil ls)
    rw [pieces_cons_kept hc ht, hp, List.modifyHead_cons] at h
    rw [hp]
    rcases List.mem_cons.1 h with rfl | h
    · exact .inr ⟨p, List.mem_cons_self, rfl⟩
    · exact .inl (List.mem_cons_of_mem p h)
  cases l with
  | literal text => exact .inr ((kept rfl (by simp)).imp_right fun h => ⟨rfl, h⟩)
  | ordinary c => exact .inr ((kept rfl (by simp)).imp_right fun h => ⟨rfl, h⟩)
  | lineComment text => exact .inr (.inl (by rwa [pieces_cons_comment rfl] at h))
  | blockComment text => exact .inr (.inl (by rwa [pieces_cons_comment rfl] at h))
  | terminator =>
    rw [pieces_cons_terminator] at h
    exact (List.mem_cons.1 h).imp_right .inl

/-- The pieces of some lexemes consist of those that are kept. -/
theorem mem_of_mem_pieces {ls piece : List Lexeme} (hp : piece ∈ pieces ls) {l : Lexeme}
    (hl : l ∈ piece) : l ∈ ls ∧ l.isKept = true := by
  induction ls generalizing piece with
  | nil =>
    obtain rfl : piece = [] := by simpa using hp
    exact absurd hl List.not_mem_nil
  | cons m ls ih =>
    have later {p : List Lexeme} (hp : p ∈ pieces ls) (hl : l ∈ p) :
        l ∈ m :: ls ∧ l.isKept = true :=
      ⟨List.mem_cons_of_mem m (ih hp hl).1, (ih hp hl).2⟩
    rcases mem_pieces_cons hp with rfl | hp | ⟨hm, tail, ht, rfl⟩
    · exact absurd hl List.not_mem_nil
    · exact later hp hl
    · rcases List.mem_cons.1 hl with rfl | hl
      · exact ⟨List.mem_cons_self, hm⟩
      · exact later ht hl

/-- In the text of a piece a comment opens where its lexemes join to the mark. -/
theorem opensComment_piece {cs : List Char} {piece : List Lexeme} (hp : piece ∈ pieces (lexemes cs))
    (c : Char) :
    opensComment (some c) (piece.flatMap Lexeme.text) = headJoins (.ordinary c) piece := by
  cases piece with
  | nil => rw [List.flatMap_nil, opensComment_nil]; simp [headJoins]
  | cons l piece =>
    obtain ⟨hl, hk⟩ := mem_of_mem_pieces hp List.mem_cons_self
    cases l with
    | ordinary d =>
      unfold opensComment headJoins
      split <;> simp_all
    | literal text =>
      obtain ⟨q, body, hq, rfl⟩ := exists_quote_of_mem_lexemes hl
      have hn : opensComment (some c) (q :: (body ++ piece.flatMap Lexeme.text)) = false := by
        by_contra ho
        rcases opensComment_eq_true (by simpa using ho) with ⟨_, -, h⟩ | ⟨_, -, h⟩ <;>
          obtain rfl := (List.cons.inj h).1 <;> exact absurd hq (by decide)
      simpa [headJoins] using hn
    | lineComment text => exact absurd hk (by simp)
    | blockComment text => exact absurd hk (by simp)
    | terminator => exact absurd hk (by simp)

theorem bare_cons_piece_ordinary {c : Char} (hq : isQuote c = false) (ht : c ≠ ';') {cs : List Char}
    {piece : List Lexeme} (hp : piece ∈ pieces (lexemes cs))
    (ih : Bare (piece.flatMap Lexeme.text) ↔ ¬JoinsMark piece) :
    Bare ((Lexeme.ordinary c :: piece).flatMap Lexeme.text) ↔
      ¬JoinsMark (Lexeme.ordinary c :: piece) := by
  have ho := opensComment_piece hp c
  rw [joinsMark_cons, List.flatMap_cons, Lexeme.text_ordinary, List.singleton_append, ← ho]
  cases h : opensComment (some c) (piece.flatMap Lexeme.text) with
  | true => simpa using not_bare_opensComment h
  | false => simpa [bare_cons_ordinary hq ht h] using ih

theorem bare_cons_piece_quote {c : Char} (hq : isQuote c = true) {body : List Char}
    (hb : Closed c body) {piece : List Lexeme}
    (ih : Bare (piece.flatMap Lexeme.text) ↔ ¬JoinsMark piece) :
    Bare ((Lexeme.literal (c :: body) :: piece).flatMap Lexeme.text) ↔
      ¬JoinsMark (Lexeme.literal (c :: body) :: piece) := by
  rw [joinsMark_cons, List.flatMap_cons, Lexeme.text_literal, List.cons_append, bare_cons_quote hq,
    hb, ih]
  simp [headJoins]

/-- The text of a piece is bare, unless two of its characters join to a comment mark. -/
theorem bare_piece {cs : List Char} {piece : List Lexeme} (hp : piece ∈ pieces (lexemes cs)) :
    Bare (piece.flatMap Lexeme.text) ↔ ¬JoinsMark piece := by
  have nil : Bare (([] : List Lexeme).flatMap Lexeme.text) ↔ ¬JoinsMark [] := by
    simp [not_joinsMark_nil]
  fun_induction lexemes cs generalizing piece with
  | case1 =>
    obtain rfl : piece = [] := by simpa using hp
    exact nil
  | case2 cs ih => exact ih (by rwa [pieces_cons_comment rfl] at hp)
  | case3 cs ih => exact ih (by rwa [pieces_cons_comment rfl] at hp)
  | case4 cs ih =>
    rcases mem_pieces_cons hp with rfl | hp | ⟨hk, -⟩
    · exact nil
    · exact ih hp
    · exact absurd hk (by simp)
  | case5 c cs _ _ _ hq ih =>
    rcases mem_pieces_cons hp with rfl | hp | ⟨-, tail, ht, rfl⟩
    · exact nil
    · exact ih hp
    · rcases closed_or_open hq cs with hb | ⟨hr, -⟩
      · exact bare_cons_piece_quote hq hb (ih ht)
      · -- the literal takes in all that follows, so that nothing is left for other lexemes
        obtain rfl : tail = [] := by simpa [hr, lexemes] using ht
        have hcs := throughQuote_append c cs
        rw [hr, List.append_nil] at hcs
        simp [bare_cons_quote hq, hcs, hr, joinsMark_cons, headJoins, not_joinsMark_nil]
  | case6 c cs _ _ ht hq ih =>
    rcases mem_pieces_cons hp with rfl | hp | ⟨-, tail, htail, rfl⟩
    · exact nil
    · exact ih hp
    · exact bare_cons_piece_ordinary (by simpa using hq) ht htail (ih htail)

/-! ### Statements of a bare text -/

theorem pieces_of_kept {ls : List Lexeme} (h : ∀ l ∈ ls, l.isKept = true) : pieces ls = [ls] := by
  induction ls with
  | nil => rfl
  | cons l ls ih =>
    rw [List.forall_mem_cons] at h
    have hc : l.isComment = false := by cases l <;> simp_all
    have ht : l ≠ .terminator := by rintro rfl; simp at h
    rw [pieces_cons_kept hc ht, ih h.2]
    rfl

theorem statementsOf_of_bare {cs : List Char} (h : Bare cs) :
    statementsOf (lexemes cs) =
      (([Text.trim cs]).filter fun text => text ≠ []).map String.ofList := by
  rw [statementsOf, pieces_of_kept h, List.map_singleton, pieceText, flatMap_text_lexemes]

theorem length_trim_le (cs : List Char) : (Text.trim cs).length ≤ cs.length := by
  have hs := (List.dropWhile_suffix (l := cs) Text.isBlank).length_le
  have he := (List.dropWhile_suffix (l := (Text.trimStart cs).reverse) Text.isBlank).length_le
  rw [Text.trim, Text.trimEnd, List.length_reverse]
  rw [List.length_reverse] at he
  exact he.trans hs

theorem length_statement?_le (buffer : List Char) :
    ((Scan.statement? buffer).toList.map String.length).sum ≤ buffer.length := by
  have h := length_trim_le buffer.reverse
  rw [List.length_reverse] at h
  rw [toList_statement?]
  by_cases ht : Text.trim buffer.reverse = [] <;> simp [ht, h]

/-- Statements are made of the kept characters, each of which they use once at most. -/
theorem length_cutFrom_le (buffer : List Char) (ls : List Lexeme) :
    ((cutFrom buffer ls).map String.length).sum ≤
      buffer.length + ((ls.filter Lexeme.isKept).flatMap Lexeme.text).length := by
  have hs (buffer : List Char) := length_statement?_le buffer
  fun_induction cutFrom buffer ls with
  | case1 buffer => simpa using hs buffer
  | case2 buffer ls ih =>
    rw [List.map_append, List.sum_append]
    simpa using Nat.add_le_add (hs buffer) ih
  | case3 buffer text ls ih => simpa using ih
  | case4 buffer text ls ih => simpa using ih
  | case5 buffer text ls ih =>
    simp only [List.length_append, List.length_reverse] at ih
    simp only [List.filter_cons_of_pos (Lexeme.isKept_literal text), List.flatMap_cons,
      List.length_append, Lexeme.text_literal]
    omega
  | case6 buffer c ls ih =>
    simp only [List.length_cons] at ih
    simp only [List.filter_cons_of_pos (Lexeme.isKept_ordinary c), List.flatMap_cons,
      List.length_append, Lexeme.text_ordinary, List.length_singleton]
    omega

theorem text_ne_nil_of_mem_lexemes {cs : List Char} {l : Lexeme} (h : l ∈ lexemes cs) :
    l.text ≠ [] := by
  fun_induction lexemes cs with
  | case1 => simp at h
  | case2 | case3 | case4 | case5 | case6 => rcases List.mem_cons.1 h with rfl | h <;> simp_all

/-- If nothing is lost from a text by keeping some of its lexemes, all are kept. -/
theorem isKept_of_length_le {ls : List Lexeme} (hn : ∀ l ∈ ls, l.text ≠ [])
    (h : (ls.flatMap Lexeme.text).length ≤
      ((ls.filter Lexeme.isKept).flatMap Lexeme.text).length) : ∀ l ∈ ls, l.isKept = true := by
  have le (ls : List Lexeme) : ((ls.filter Lexeme.isKept).flatMap Lexeme.text).length ≤
      (ls.flatMap Lexeme.text).length :=
    (List.filter_sublist.flatMap _).length_le
  induction ls with
  | nil => simp
  | cons l ls ih =>
    rw [List.forall_mem_cons] at hn
    have hl := List.length_pos_of_ne_nil hn.1
    have hle := le ls
    rw [List.flatMap_cons, List.length_append, List.filter_cons] at h
    split at h
    · next hk =>
      rw [List.flatMap_cons, List.length_append] at h
      exact List.forall_mem_cons.2 ⟨hk, ih hn.2 (by omega)⟩
    · omega

/-- A text that is its only statement is bare: comments and terminators would be missing in it. -/
theorem bare_of_statementsOf {cs : List Char}
    (h : statementsOf (lexemes cs) = [String.ofList cs]) : Bare cs := by
  apply isKept_of_length_le fun l hl => text_ne_nil_of_mem_lexemes hl
  have hle := length_cutFrom_le [] (lexemes cs)
  rw [cutFrom_nil_eq_statementsOf, h] at hle
  simpa [flatMap_text_lexemes] using hle

/-! ### Trimmed texts -/

theorem trimStart_trim (cs : List Char) : Text.trimStart (Text.trim cs) = Text.trim cs := by
  have hs := List.dropWhile_eq_self_iff.1 (List.dropWhile_idempotent Text.isBlank cs)
  have hp : Text.trim cs <+: cs.dropWhile Text.isBlank := List.rdropWhile_prefix Text.isBlank _
  refine List.dropWhile_eq_self_iff.2 fun hl => ?_
  rw [hp.getElem hl]
  exact hs (hl.trans_le hp.length_le)

theorem trim_trim (cs : List Char) : Text.trim (Text.trim cs) = Text.trim cs := by
  rw [Text.trim, trimStart_trim]
  exact List.rdropWhile_idempotent Text.isBlank (Text.trimStart cs)

theorem trim_append_of_trimmed {cs : List Char} (h : Text.trimStart cs = cs) {c : Char}
    (hc : Text.isBlank c = false) : Text.trim (cs ++ [c]) = cs ++ [c] := by
  have hs : Text.trimStart (cs ++ [c]) = cs ++ [c] := by
    cases cs with
    | nil => simp [Text.trimStart, hc]
    | cons d ds =>
      have hd := List.dropWhile_eq_self_iff.1 h (Nat.zero_lt_succ _)
      exact List.dropWhile_cons_of_neg hd
  rw [Text.trim, hs]
  simp [Text.trimEnd, hc]

/-! ### Feeding a text line by line -/

namespace Segmenter

/-- What lines give behind the scan of a segmenter, with more characters behind the last one. -/
theorem pushLines_append_outlook {g : Segmenter} (hb : g.begun = true) (hp : g.region.Proper)
    (hm : g.mode = .continuous) {lines : List String} (hl : ∀ line ∈ lines, '\n' ∉ line.toList)
    (cs : List Char) :
    (g.pushLines lines).1 ++ (g.pushLines lines).2.scan.outlook cs [] =
      g.scan.outlook (laterChars .continuous lines ++ cs) [] := by
  induction lines generalizing g with
  | nil => rfl
  | cons line lines ih =>
    rw [List.forall_mem_cons] at hl
    have hs := proper_lineStart hb hp
    have hp' : (g.pushLine line).2.region.Proper := Scan.proper_run hs line.toList
    have h := pushLine_append_outlook hs hl.1 (laterChars .continuous lines ++ cs) []
    rw [lineStart_continuous hb hm, outlook_lineBreak hm hp, ← ih rfl hp' hm hl.2] at h
    simpa [pushLines, laterChars] using h

end Segmenter

/-- A fresh segmenter and what it completes, fed with the lines of a text. -/
def feed (cs : List Char) : List String × Segmenter :=
  (Segmenter.start .continuous).pushLines ((cs.splitOn '\n').map String.ofList)

theorem lineFeed_notMem_of_mem_splitOn {cs part : List Char} (h : part ∈ cs.splitOn '\n') :
    '\n' ∉ part := by
  induction cs generalizing part with
  | nil => simp_all
  | cons c cs ih =>
    obtain ⟨p, ps, hp⟩ := List.exists_cons_of_ne_nil (List.splitOn_ne_nil '\n' cs)
    rw [List.splitOn_cons_eq_if_modifyHead, hp] at h
    rw [hp] at ih
    split at h
    · rcases List.mem_cons.1 h with rfl | h
      · exact List.not_mem_nil
      · exact ih h
    · next hc =>
      rcases List.mem_cons.1 h with rfl | h
      · have hc' : '\n' ≠ c := by rintro rfl; simp at hc
        exact mt List.mem_cons.1 (not_or.2 ⟨hc', ih List.mem_cons_self⟩)
      · exact ih (List.mem_cons_of_mem p h)

/-- What the lines of a text give is told by its lexemes, also if more characters follow it. -/
theorem feed_append_outlook (cs more : List Char) :
    (feed cs).1 ++ (feed cs).2.scan.outlook more [] = statementsOf (lexemes (cs ++ more)) := by
  obtain ⟨part, parts, hcs⟩ := List.exists_cons_of_ne_nil (List.splitOn_ne_nil '\n' cs)
  have hl : ∀ line ∈ (part :: parts).map String.ofList, '\n' ∉ line.toList := by
    rw [← hcs, List.forall_mem_map]
    intro p hp
    simpa using lineFeed_notMem_of_mem_splitOn hp
  have hj : part ++ Segmenter.laterChars .continuous (parts.map String.ofList) = cs := by
    have h : ['\n'].intercalate (cs.splitOn '\n') = cs := List.intercalate_splitOn '\n'
    rw [hcs, intercalate_cons] at h
    simpa [Segmenter.laterChars, List.flatMap_map] using h
  rw [List.map_cons, List.forall_mem_cons] at hl
  have hs : (Segmenter.start .continuous).lineStart.region.Proper := trivial
  have hp : ((Segmenter.start .continuous).pushLine (String.ofList part)).2.region.Proper :=
    Scan.proper_run hs _
  have h := Segmenter.pushLine_append_outlook hs hl.1
    (Segmenter.laterChars .continuous (parts.map String.ofList) ++ more) []
  rw [← Segmenter.pushLines_append_outlook rfl hp rfl hl.2] at h
  have hstart : (Segmenter.start .continuous).lineStart.outlook (cs ++ more) [] =
      statementsOf (lexemes (cs ++ more)) := by
    rw [Scan.outlook_plain rfl rfl, List.append_nil]
    exact cutFrom_nil_eq_statementsOf _
  rw [String.toList_ofList, ← List.append_assoc part, hj, hstart] at h
  simpa [feed, hcs, Segmenter.pushLines] using h

theorem feed_append_finish (cs : List Char) :
    (feed cs).1 ++ (feed cs).2.finish.toList = statementsOf (lexemes cs) := by
  have h := feed_append_outlook cs []
  rw [Scan.outlook_nil, List.append_nil] at h
  exact h

/-- A text comes back as it is when its lines are read: nothing is complete, all is pending. -/
def Refed (cs : List Char) : Prop :=
  (feed cs).1 = [] ∧ (feed cs).2.finish = some (String.ofList cs)

instance (cs : List Char) : Decidable (Refed cs) := inferInstanceAs (Decidable (_ ∧ _))

theorem bare_of_refed {cs : List Char} (h : Refed cs) : Bare cs := by
  apply bare_of_statementsOf
  rw [← feed_append_finish, h.1, h.2]
  rfl

/-- Nothing of a bare text is complete: a character behind it would still be part of the statement. -/
theorem refed_of_bare {cs : List Char} (hb : Bare cs) (ht : Text.trim cs = cs) (hn : cs ≠ []) :
    Refed cs := by
  have hx : Neutral 'x' := by refine ⟨rfl, ?_, ?_, ?_, ?_⟩ <;> decide
  have htx : Text.trim (cs ++ ['x']) = cs ++ ['x'] :=
    trim_append_of_trimmed (by rw [← ht, trimStart_trim]) rfl
  have h := feed_append_finish cs
  have hmore := feed_append_outlook cs ['x']
  rw [statementsOf_of_bare hb, ht] at h
  rw [statementsOf_of_bare ((bare_append_neutral hx cs).2 hb), htx] at hmore
  have hf : ([cs].filter fun text => text ≠ []) = [cs] := by simp [hn]
  have hfx : ([cs ++ ['x']].filter fun text => text ≠ []) = [cs ++ ['x']] := by simp
  rw [hf, List.map_singleton] at h
  rw [hfx, List.map_singleton] at hmore
  have hdone : (feed cs).1 = [] := by
    cases hd : (feed cs).1 with
    | nil => rfl
    | cons s done =>
      rw [hd] at h hmore
      have hs : s = String.ofList cs := (List.cons.inj h).1
      have hs' : s = String.ofList (cs ++ ['x']) := (List.cons.inj hmore).1
      have hl := congrArg String.length (hs.symm.trans hs')
      simp at hl
  rw [hdone, List.nil_append] at h
  exact ⟨hdone, by simpa [Option.toList_eq_singleton_iff] using h⟩

theorem refed_iff_bare {cs : List Char} (ht : Text.trim cs = cs) (hn : cs ≠ []) :
    Refed cs ↔ Bare cs :=
  ⟨bare_of_refed, fun h => refed_of_bare h ht hn⟩

/-! ### Emitted statements -/

/-- The pieces of lines that are not blank. -/
def emitted (lines : List String) : List (List Lexeme) :=
  (pieces (lexemes (['\n'].intercalate (lines.map String.toList)))).filter (pieceText · ≠ [])

theorem segment_eq_emitted {lines : List String} (hl : ∀ line ∈ lines, '\n' ∉ line.toList) :
    segment .continuous lines = (emitted lines).map (String.ofList ∘ pieceText) := by
  cases lines with
  | nil => simp [segment_nil, emitted, lexemes, pieceText]
  | cons line lines =>
    rw [segment_cons .continuous hl, emitted, List.map_cons, intercalate_cons, statementsOf,
      List.filter_map, List.map_map, List.flatMap_map]
    simp [Segmenter.laterChars, Segmenter.laterLexemes, Function.comp_def]

/-- The statements of lines are the texts of the pieces that are not blank, and each is read again
as it is exactly if no two characters of its piece join to a comment mark; exactly then nothing in
it is a comment or a terminator. -/
theorem segment_refed_iff {lines : List String} (hl : ∀ line ∈ lines, '\n' ∉ line.toList) :
    segment .continuous lines = (emitted lines).map (String.ofList ∘ pieceText) ∧
      ∀ piece ∈ emitted lines,
        (Refed (pieceText piece) ↔ ¬JoinsMark piece) ∧
          (Bare (pieceText piece) ↔ ¬JoinsMark piece) := by
  refine ⟨segment_eq_emitted hl, fun piece hp => ?_⟩
  obtain ⟨hp, hn⟩ := List.mem_filter.1 hp
  have hb : Bare (pieceText piece) ↔ ¬JoinsMark piece := by
    rw [pieceText, bare_trim]
    exact bare_piece hp
  have hr : Refed (pieceText piece) ↔ Bare (pieceText piece) :=
    refed_iff_bare (trim_trim _) (by simpa using hn)
  exact ⟨hr.trans hb, hb⟩

/-- A comment between two dashes, and dashes that stay apart. -/
def dashes : List String := ["a -/**/- b; '-", "-'-/* ; */ -"]

theorem emitted_dashes :
    emitted dashes =
      [[.ordinary 'a', .ordinary ' ', .ordinary '-', .ordinary '-', .ordinary ' ', .ordinary 'b'],
        [.ordinary ' ', .literal "'-\n-'".toList, .ordinary '-', .ordinary ' ', .ordinary '-']] := by
  have hj : ['\n'].intercalate (dashes.map String.toList) =
      "a -/**/- b; '-\n-'-/* ; */ -".toList := by decide
  have hp : pieces (lexemes (['\n'].intercalate (dashes.map String.toList))) =
      [[.ordinary 'a', .ordinary ' ', .ordinary '-', .ordinary '-', .ordinary ' ', .ordinary 'b'],
        [.ordinary ' ', .literal "'-\n-'".toList, .ordinary '-', .ordinary ' ', .ordinary '-']] := by
    rw [hj]
    simp [lexemes, throughQuote, throughClose, isQuote]
    rfl
  rw [emitted, hp]
  decide

theorem segment_refed_dashes :
    (∀ line ∈ dashes, '\n' ∉ line.toList) ∧
      segment .continuous dashes = ["a -- b", "'-\n-'- -"] ∧
      ¬Refed "a -- b".toList ∧ Refed "'-\n-'- -".toList := by
  have h : ∀ line ∈ dashes, '\n' ∉ line.toList := by decide
  obtain ⟨hs, hp⟩ := segment_refed_iff h
  rw [emitted_dashes, List.forall_mem_cons, List.forall_mem_singleton] at hp
  obtain ⟨⟨hl, -⟩, hr, -⟩ := hp
  rw [emitted_dashes] at hs
  refine ⟨h, hs.trans (by decide), fun hf => hl.1 hf (by decide), hr.2 (by decide)⟩

/-- Read again, a statement loses what is behind two dashes that a comment was between. -/
theorem segment_joined_dashes :
    segment .continuous ["a -/**/- b"] = ["a -- b"] ∧
      (feed "a -- b".toList).1 = [] ∧ (feed "a -- b".toList).2.finish = some "a" ∧
      ¬Refed "a -- b".toList := by
  decide

end TableFeed.Script
