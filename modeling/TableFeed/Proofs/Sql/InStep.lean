import TableFeed.Proofs.Script.Refeed
import TableFeed.Sql.Lexer

/-!
# Dialects in step with the segmenter

The segmenter cuts a script without knowing its dialect: it knows quotes, backslashes and comments.
A dialect reads more: names in marks of their own, comments behind `#`, texts between dollar signs,
and quotes that are part of an operator or a word; and in most of them a backslash is a character
like any other. A text is *in step* with a dialect if no literal of the segmenter lies within any of
these, and none holds a quote of its own that the dialect would take for its end.

    outside ──opening mark──▶ name ──closing mark──▶ behind the name ──▶ outside
    outside ────── # ───────▶ comment ──line feed──▶ outside

A closing mark behind a name that it just closed opens the same name again. Behind the last
semicolon of a text nothing matters any more, so that step need not be kept there.

Only literals can get a text out of step, and what is left of a text behind a lexeme of both readers
is in step again.
-/

namespace TableFeed.Sql

open TableFeed.Script (lexemes throughQuote isQuote Bare)

/-! ### What a dialect reads on its own terms -/

/-- Whether a lexeme is a literal. -/
def isLiteral : Script.Lexeme → Bool
  | .literal _ => true
  | _ => false

/-- Whether no semicolon is among the characters of some lexemes. -/
def calm (ls : List Script.Lexeme) : Bool := ls.all fun l => !l.text.contains ';'

/-- Whether a literal holds its own quote before its last character. -/
def holdsQuote : List Char → Bool
  | q :: body => 1 < (body.dropWhile (· != q)).length
  | [] => false

/-- Whether a lexeme is a literal that holds its own quote. -/
def isMixed : Script.Lexeme → Bool
  | .literal text => holdsQuote text
  | _ => false

namespace Rules

variable (r : Rules)

/-- Whether a character opens a quoted name or a comment of its dialect. -/
def marks (c : Char) : Bool := r.nameQuotes.contains c || (c == '#' && r.hashComments)

/-- Whether a lexeme opens a literal, a quoted name or a comment. -/
def opens : Script.Lexeme → Bool
  | .literal _ => true
  | .ordinary c => r.marks c
  | _ => false

/-- Whether a lexeme may stand in the tag between two dollar signs. -/
def isTag : Script.Lexeme → Bool
  | .ordinary c => Text.isAlphanumeric c || c == '_'
  | _ => false

/-- Whether a character takes what follows it into a token, so that nothing is opened there, or
reads literals behind it as the segmenter does not. -/
def swallows : Char → List Script.Lexeme → Bool
  | '#', l :: _ => r.beginsName '#' && r.opens l
  | '@', .ordinary '@' :: l :: _ => r.beginsName '@' && r.opens l
  | '@', .ordinary c :: _ => r.beginsName '@' && c != Char.ofNat 96 && r.marks c
  | '?', l :: _ => r.customOperators && r.opens l
  | '&', .ordinary '>' :: l :: _ => r.customOperators && r.opens l
  | '$', ls =>
    !r.beginsName '$' && !r.dollarPlaceholders && (ls.dropWhile isTag).head? == some (.ordinary '$')
  | c, ls =>
    (c.toUpper == 'B' && r.bitStrings && r.backslashEscapes &&
      (ls.takeWhile isLiteral).any isMixed) ||
    (c.toUpper == 'R' && r.rawStrings && match ls with
      | .literal [_, q] :: .literal (q' :: _) :: _ => q == q'
      | _ => false)

end Rules

/-- Where a dialect stands among the lexemes of the segmenter. -/
inductive Zone where
  | outside
  /-- In a name that ends with `close`. -/
  | name (close : Char)
  /-- Behind a name that ended with `close`. -/
  | behind (close : Char)
  /-- In a comment up to the end of the line. -/
  | comment
  deriving DecidableEq, Repr

namespace Rules

variable (r : Rules)

/-- Where a character leads that stands outside. -/
def enter (c : Char) : Zone :=
  if r.nameQuotes.contains c then .name (closingMark c)
  else if c == '#' && r.hashComments then .comment
  else .outside

/-- Where a lexeme leads that stands outside, if the dialect keeps step over it. -/
def nextOutside : Script.Lexeme → List Script.Lexeme → Option Zone
  | .literal text, _ =>
    if r.backslashEscapes || !holdsQuote text then some .outside else none
  | .ordinary c, ls => if r.marks c || !r.swallows c ls then some (r.enter c) else none
  | _, _ => some .outside

/-- Where a lexeme leads from a zone, if the dialect keeps step over it: names and comments have no
room for literals. -/
def next : Zone → Script.Lexeme → List Script.Lexeme → Option Zone
  | .outside, l, ls => r.nextOutside l ls
  | .name close, l, _ =>
    if isLiteral l then none
    else some (if l = .ordinary close then .behind close else .name close)
  | .behind close, l, ls =>
    if l = .ordinary close then some (.name close) else r.nextOutside l ls
  | .comment, l, _ =>
    if isLiteral l then none else some (if l = .ordinary '\n' then .outside else .comment)

/-- Whether a dialect that stands in a zone keeps step with the segmenter over some lexemes, up to
the last one that holds a semicolon. -/
def follows : Zone → List Script.Lexeme → Bool
  | _, [] => true
  | z, l :: ls => calm (l :: ls) || (r.next z l ls).any fun z => follows z ls

/-- A text over which a dialect that stands in a zone keeps step with the segmenter; no comment is
left in it before the last semicolon. -/
def Follows (z : Zone) (cs : List Char) : Prop :=
  ';' ∈ cs → Bare cs ∧ r.follows z (lexemes cs) = true

/-- A text that the dialect reads in step with the segmenter. -/
def InStep (cs : List Char) : Prop := r.Follows .outside cs

variable {r : Rules}

/-! ### What is left of a text in step -/

@[simp] theorem inStep_nil : r.InStep [] := fun h => absurd h (by simp)

theorem calm_lexemes (cs : List Char) : calm (lexemes cs) = true ↔ ';' ∉ cs := by
  have hcs := Script.flatMap_text_lexemes cs
  simp only [calm, List.all_eq_true, Bool.not_eq_true', List.contains_eq_mem,
    decide_eq_false_iff_not]
  constructor
  · intro h hs
    rw [← hcs, List.mem_flatMap] at hs
    obtain ⟨l, hl, hs⟩ := hs
    exact h l hl hs
  · intro h l hl hs
    exact h (hcs ▸ List.mem_flatMap.2 ⟨l, hl, hs⟩)

theorem not_calm {cs : List Char} (h : ';' ∈ cs) : calm (lexemes cs) = false := by
  rw [← Bool.not_eq_true, calm_lexemes]
  exact fun hn => hn h

theorem not_calm_cons {l : Script.Lexeme} {cs : List Char} (h : ';' ∈ cs) :
    calm (l :: lexemes cs) = false := by
  rw [calm, List.all_cons, ← calm, not_calm h, Bool.and_false]

/-- As long as semicolons are left, step is kept over the next lexeme. -/
theorem exists_next {z : Zone} {l : Script.Lexeme} {ls : List Script.Lexeme}
    (hc : calm (l :: ls) = false) (h : r.follows z (l :: ls) = true) :
    ∃ z', r.next z l ls = some z' ∧ r.follows z' ls = true := by
  rw [follows, hc, Bool.false_or] at h
  exact (Option.any_eq_true _ _).1 h

theorem next_ordinary {c : Char} {ls : List Script.Lexeme} {z : Zone} :
    r.next .outside (.ordinary c) ls = some z ↔
      (r.marks c || !r.swallows c ls) = true ∧ r.enter c = z := by
  rw [next, nextOutside, Option.ite_none_right_eq_some, Option.some_inj]

theorem next_literal {text : List Char} {ls : List Script.Lexeme} {z : Zone} :
    r.next .outside (.literal text) ls = some z ↔
      (r.backslashEscapes || !holdsQuote text) = true ∧ .outside = z := by
  rw [next, nextOutside, Option.ite_none_right_eq_some, Option.some_inj]

/-- A text without semicolons, over which any dialect keeps step. -/
def Quiet (cs : List Char) : Prop := ';' ∉ cs

theorem Quiet.inStep {cs : List Char} (h : Quiet cs) : r.InStep cs := fun hs => absurd hs h

theorem Quiet.of_suffix {cs ds : List Char} (h : Quiet cs) (hs : ds <:+ cs) : Quiet ds :=
  fun hd => h (hs.subset hd)

theorem Quiet.tail {c : Char} {cs : List Char} (h : Quiet (c :: cs)) : Quiet cs :=
  h.of_suffix (List.suffix_cons c cs)

theorem lexemes_cons_of_bare {c : Char} {cs : List Char} (h : Bare (c :: cs))
    (hq : isQuote c = false) :
    lexemes (c :: cs) = .ordinary c :: lexemes cs ∧ Bare cs ∧ c ≠ ';' := by
  have ht : c ≠ ';' := by
    rintro rfl
    exact Script.not_bare_terminator cs h
  have ho : Script.opensComment (some c) cs = false := by
    by_contra ho
    exact Script.not_bare_opensComment (by simpa using ho) h
  exact ⟨Script.lexemes_cons_ordinary hq ht ho, (Script.bare_cons_ordinary hq ht ho).1 h, ht⟩

/-- Whether a character opens neither a literal nor a quoted name nor a comment. -/
def idle (r : Rules) (c : Char) : Bool := !isQuote c && !r.marks c

theorem isQuote_of_idle {c : Char} (h : r.idle c = true) : isQuote c = false := by
  simp only [idle, Bool.and_eq_true, Bool.not_eq_true'] at h
  exact h.1

theorem marks_of_idle {c : Char} (h : r.idle c = true) : r.marks c = false := by
  simp only [idle, Bool.and_eq_true, Bool.not_eq_true'] at h
  exact h.2

theorem enter_of_idle {c : Char} (hc : r.idle c = true) : r.enter c = .outside := by
  obtain ⟨hn, hh⟩ := Bool.or_eq_false_iff.1 (marks_of_idle hc)
  rw [enter, hn, hh]
  rfl

/-- A character that stands outside of literals is no semicolon. -/
theorem InStep.ne_terminator {c : Char} {cs : List Char} (h : r.InStep (c :: cs)) : c ≠ ';' := by
  rintro rfl
  exact Script.not_bare_terminator cs (h List.mem_cons_self).1

/-- A character that is no quote leads on, unless it swallows what follows. -/
theorem InStep.of_cons {c : Char} {cs : List Char} (h : r.InStep (c :: cs))
    (hq : isQuote c = false) (hs : ';' ∈ cs) :
    (r.marks c || !r.swallows c (lexemes cs)) = true ∧ Bare cs ∧
      r.follows (r.enter c) (lexemes cs) = true := by
  obtain ⟨hb, hf⟩ := h (List.mem_cons_of_mem c hs)
  obtain ⟨hl, hb, -⟩ := lexemes_cons_of_bare hb hq
  rw [hl] at hf
  obtain ⟨z, hz, hf⟩ := exists_next (not_calm_cons hs) hf
  obtain ⟨hm, rfl⟩ := next_ordinary.1 hz
  exact ⟨hm, hb, hf⟩

/-- A character that swallows what follows leaves nothing behind that could matter. -/
theorem InStep.quiet {c : Char} {cs : List Char} (h : r.InStep (c :: cs)) (hc : r.idle c = true)
    (hs : Bare cs → r.swallows c (lexemes cs) = true) : Quiet cs := by
  intro hm
  obtain ⟨hf, hb, -⟩ := h.of_cons (isQuote_of_idle hc) hm
  rw [marks_of_idle hc, hs hb] at hf
  cases hf

/-- A text is in step behind an idle character. -/
theorem InStep.tail {c : Char} {cs : List Char} (h : r.InStep (c :: cs)) (hc : r.idle c = true) :
    r.InStep cs := by
  intro hs
  obtain ⟨-, hb, hf⟩ := h.of_cons (isQuote_of_idle hc) hs
  exact ⟨hb, by rwa [enter_of_idle hc] at hf⟩

theorem InStep.of_append {cs ds : List Char} (h : r.InStep (cs ++ ds))
    (hc : ∀ c ∈ cs, r.idle c = true) : r.InStep ds := by
  induction cs with
  | nil => exact h
  | cons c cs ih =>
    rw [List.forall_mem_cons] at hc
    exact ih (h.tail hc.1) hc.2

/-- A character that opens a name or a comment leads into it. -/
theorem InStep.enter {c : Char} {cs : List Char} (h : r.InStep (c :: cs))
    (hq : isQuote c = false) : r.Follows (r.enter c) cs :=
  fun hs => (h.of_cons hq hs).2

/-- Behind a literal a text is in step. -/
theorem InStep.behind_quote {q : Char} {cs : List Char} (h : r.InStep (q :: cs))
    (hq : isQuote q = true) : r.InStep (throughQuote q cs).2 := by
  intro hs
  have hcs : (throughQuote q cs).2 <:+ cs := ⟨_, Script.throughQuote_append q cs⟩
  obtain ⟨hb, hf⟩ := h (List.mem_cons_of_mem q (hcs.subset hs))
  rw [Script.lexemes_cons_quote hq] at hf
  obtain ⟨z, hz, hf⟩ := exists_next (not_calm_cons hs) hf
  obtain ⟨-, rfl⟩ := next_literal.1 hz
  exact ⟨(Script.bare_cons_quote hq cs).1 hb, hf⟩

/-- Where backslashes do not escape, a literal does not hold its own quote. -/
theorem InStep.not_holdsQuote {q : Char} {cs : List Char} (h : r.InStep (q :: cs))
    (hq : isQuote q = true) (hb : r.backslashEscapes = false) (hs : ';' ∈ cs) :
    holdsQuote (q :: (throughQuote q cs).1) = false := by
  obtain ⟨-, hf⟩ := h (List.mem_cons_of_mem q hs)
  have hc := not_calm (List.mem_cons_of_mem q hs)
  rw [Script.lexemes_cons_quote hq] at hf hc
  obtain ⟨z, hz, -⟩ := exists_next hc hf
  obtain ⟨hm, -⟩ := next_literal.1 hz
  simpa [hb] using hm

end Rules

end TableFeed.Sql
