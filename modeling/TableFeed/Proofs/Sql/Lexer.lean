import TableFeed.Proofs.Sql.Quoted

/-!
# Cuts that keep a text in step

The lexer cuts one piece after the other off a text. A cut is to keep the text in step: what it
leaves is in step again, and the piece is no semicolon. Characters that open neither a literal nor a
quoted name nor a comment, in whichever dialect, can always be cut off: words, operators and numbers
are made of them.
-/

namespace TableFeed.Sql

open TableFeed
open TableFeed.Script (lexemes throughQuote isQuote Bare)
open Lexer (chars)

/-! ### What all dialects have in common -/

/-- The characters that open a literal, a quoted name or a comment in some dialect. -/
def openers : List Char := ['\'', '"', Char.ofNat 96, '[', '#']

namespace Rules

variable {r : Rules}

theorem idle_of_not_mem_openers (hn : ∀ c ∈ r.nameQuotes, c ∈ openers) {c : Char}
    (hc : c ∉ openers) : r.idle c = true := by
  have hm : c ∉ r.nameQuotes := fun h => hc (hn c h)
  have hq : isQuote c = false := by
    rw [isQuote, Bool.or_eq_false_iff, beq_eq_false_iff_ne, beq_eq_false_iff_ne]
    exact ⟨by rintro rfl; exact hc (by decide), by rintro rfl; exact hc (by decide)⟩
  have hh : c ≠ '#' := by rintro rfl; exact hc (by decide)
  simp [idle, marks, hq, hm, hh]

/-- What the marks of a dialect have to do with each other. -/
structure Regular (r : Rules) : Prop where
  nameQuotes : ∀ c ∈ r.nameQuotes, c ∈ ['"', Char.ofNat 96, '[']
  inName : ∀ c, r.inName c = true → r.idle c = true
  inOperator : r.customOperators = true → ∀ c, Lexer.inOperator c = true → r.idle c = true
  /-- Backslashes do not escape where double quotes are for names. -/
  doubleQuotes : '"' ∈ r.nameQuotes → r.backslashEscapes = false
  rawStrings : r.rawStrings = true → r.backslashEscapes = false
  hashComments : r.hashComments = true → r.returnEndsComment = false

theorem Regular.idle (hr : r.Regular) {c : Char} (h : c ∉ openers) : r.idle c = true :=
  idle_of_not_mem_openers (fun d hd => by
    have hm := hr.nameQuotes d hd
    simp only [openers, List.mem_cons] at hm ⊢
    tauto) h

theorem Regular.idle_hash (hr : r.Regular) (h : r.hashComments = false) : r.idle '#' = true := by
  have hm : '#' ∉ r.nameQuotes := fun hm => absurd (hr.nameQuotes _ hm) (by decide)
  simp [Rules.idle, marks, h, hm, isQuote]

end Rules

theorem Dialect.mem_openers (d : Dialect) : ∀ c ∈ d.rules.nameQuotes, c ∈ openers := by
  cases d <;> decide

/-- Only openers need to be looked at to see that some characters are idle. -/
theorem Dialect.idle_of_forall_openers {d : Dialect} {p : Char → Bool}
    (h : ∀ c ∈ openers, p c = true → d.rules.idle c = true) (c : Char) (hc : p c = true) :
    d.rules.idle c = true := by
  by_cases ho : c ∈ openers
  · exact h c ho hc
  · exact Rules.idle_of_not_mem_openers d.mem_openers ho

theorem Dialect.regular (d : Dialect) : d.rules.Regular where
  nameQuotes := by cases d <;> decide
  inName := idle_of_forall_openers (by cases d <;> decide)
  inOperator hc := idle_of_forall_openers (by revert hc; cases d <;> decide)
  doubleQuotes := by cases d <;> decide
  rawStrings := by cases d <;> decide
  hashComments := by cases d <;> decide

/-! ### Cuts that keep a text in step -/

/-- A piece that begins no other statement: no semicolon, and no comment that is read and holds
one. -/
def Piece.Plain : Piece → Prop
  | .token t => t ≠ .symbol ";"
  | .gap text => ∀ cs, Lexer.hint text = some cs → ';' ∉ cs

namespace Lexer

variable {r : Rules}

/-- A cut that, if it succeeds, cuts off a plain piece and leaves a text in step. -/
def Keeps (r : Rules) (c : Cut) : Prop :=
  ∀ p rest, c = .ok (p, rest) → p.Plain ∧ r.InStep (chars rest)

theorem keeps_ok {p : Piece} {rest : List Glyph} (hp : p.Plain)
    (h : r.InStep (chars rest)) : Keeps r (.ok (p, rest)) := by
  intro p' rest' he
  cases he
  exact ⟨hp, h⟩

theorem keeps_cut {t : Token} {rest : List Glyph} (ht : t ≠ .symbol ";")
    (h : r.InStep (chars rest)) : Keeps r (cut t rest) :=
  keeps_ok ht h

theorem keeps_symbol {text : String} {rest : List Glyph} (ht : text ≠ ";")
    (h : r.InStep (chars rest)) : Keeps r (cut (.symbol text) rest) :=
  keeps_cut (by simpa using ht) h

/-- A gap that is no comment to be read. -/
theorem keeps_gap {text : String} {rest : List Glyph} (ht : hint text = none)
    (h : r.InStep (chars rest)) : Keeps r (.ok (.gap text, rest)) :=
  keeps_ok (fun cs hc => by rw [ht] at hc; cases hc) h

theorem keeps_error (e : SyntaxError) : Keeps r (.error e) := by
  intro p rest he
  cases he

theorem keeps_fail (text : String) (place : Place) : Keeps r (fail text place) :=
  keeps_error _

theorem keeps_ite {p : Prop} [Decidable p] {c d : Cut} (hc : p → Keeps r c) (hd : ¬p → Keeps r d) :
    Keeps r (if p then c else d) :=
  iteInduction hc hd

/-! ### Runs of idle characters -/

/-- Characters that are no openers are idle. -/
theorem idle_of_forall_openers (hr : r.Regular) {p : Char → Bool}
    (h : ∀ c ∈ openers, p c = false) (c : Char) (hc : p c = true) : r.idle c = true :=
  hr.idle fun ho => Bool.false_ne_true ((h c ho).symm.trans hc)

theorem chars_take_append_drop (n : Nat) (gs : List Glyph) :
    chars (gs.take n) ++ chars (gs.drop n) = chars gs := by
  rw [chars, chars, chars, ← List.map_append, List.take_append_drop]

theorem chars_drop_of_take {n : Nat} {gs : List Glyph} {front tail : List Char}
    (h : chars (gs.take n) = front ++ tail) : chars gs = front ++ chars (gs.drop front.length) := by
  have hd : chars (gs.drop front.length) = (chars gs).drop front.length := List.map_drop ..
  rw [hd, ← chars_take_append_drop n gs, h, List.append_assoc, List.drop_left]

/-- A text is in step behind some of its first characters, if they are idle. -/
theorem inStep_drop {n : Nat} {gs : List Glyph} (front : List Char) {tail : List Char}
    (h : r.InStep (chars gs)) (ht : chars (gs.take n) = front ++ tail)
    (hf : ∀ c ∈ front, r.idle c = true) : r.InStep (chars (gs.drop front.length)) := by
  rw [chars_drop_of_take ht] at h
  exact h.of_append hf

theorem inStep_drop_one {gs : List Glyph} {c : Char} (h : r.InStep (chars gs))
    (ht : chars (gs.take 1) = [c]) (hc : r.idle c = true) : r.InStep (chars (gs.drop 1)) :=
  inStep_drop [c] h (by rw [ht, List.append_nil]) (by simpa using hc)

theorem inStep_of_eq {x : List Char × List Glyph} {cs : List Char} {rest : List Glyph}
    (he : x = (cs, rest)) (h : r.InStep (chars x.2)) : r.InStep (chars rest) := by
  rwa [he] at h

theorem inStep_spanGlyphs {p : Char → Bool} (hp : ∀ c, p c = true → r.idle c = true)
    {gs : List Glyph} (h : r.InStep (chars gs)) : r.InStep (chars (spanGlyphs p gs).2) := by
  induction gs with
  | nil => exact h
  | cons g gs ih =>
    rw [spanGlyphs]
    split
    · next hg => exact ih (h.tail (hp _ hg))
    · exact h

theorem keeps_word (hr : r.Regular) (start : List Char) {rest : List Glyph}
    (h : r.InStep (chars rest)) : Keeps r (word r start rest) :=
  keeps_cut (by simp) (inStep_spanGlyphs hr.inName h)

/-! ### Operators -/

theorem keeps_operator (hr : r.Regular) {finish : Place} {taken : Nat} {text : String}
    {ending : Ending} {gs : List Glyph} (ht : text ≠ ";") (h : r.InStep (chars (gs.drop taken))) :
    Keeps r (operator r finish taken text ending gs) := by
  have hs : r.InStep (chars (if r.customOperators then spanGlyphs inOperator (gs.drop taken)
      else ([], gs.drop taken)).2) := by
    split
    · next hc => exact inStep_spanGlyphs (hr.inOperator hc) h
    · exact h
  unfold operator
  simp only
  split
  · exact keeps_symbol ht h
  · split
    · next rest he =>
      rw [he] at hs
      split
      · exact keeps_fail _ _
      · exact keeps_symbol ht hs
    · next more rest _ he =>
      rw [he] at hs
      exact keeps_cut (by simp) hs

/-- The characters that operators have behind their first one. -/
def inMark (c : Char) : Bool :=
  ['>', '/', '|', '&', '=', '!', '~', '*', '<', '-', '^', '@', ':'].contains c

theorem not_mem_openers_of_inMark {c : Char} (h : inMark c = true) : c ∉ openers := by
  intro hc
  have hall : ∀ c ∈ openers, inMark c = false := by decide
  rw [hall c hc] at h
  cases h

/-- What an operator is and takes: marks of operators behind its first character, and any character
behind `&>`. -/
def Takes (geometric : Bool) (cs : List Char) : Option (Nat × String × Ending) → Prop
  | none => True
  | some (n, text, _) =>
    (cs.head? ≠ some ';' → text ≠ ";") ∧ 0 < n ∧ n ≤ 4 ∧
      ((∀ c ∈ (cs.take n).tail, inMark c = true) ∨ ['&', '>'] <+: cs ∧ geometric = true ∧ n = 3)

theorem takes_operatorAt (geometric intDivision pipes : Bool) (cs : List Char) :
    Takes geometric cs (operatorAt geometric intDivision pipes cs) := by
  fun_cases operatorAt geometric intDivision pipes cs
  case case52 c cs h =>
    obtain ⟨-, rfl⟩ := h
    exact ⟨by simp, by decide, by decide, .inl (by simp [inMark])⟩
  case case72 cs h => exact ⟨by simp, by decide, by decide, .inr ⟨by simp, h, rfl⟩⟩
  all_goals first
    | trivial
    | exact ⟨by simp, by decide, by decide, .inl (by simp [inMark])⟩

/-! ### Numbers -/

theorem idle_of_isDigit (hr : r.Regular) (c : Char) (h : c.isDigit = true) : r.idle c = true :=
  idle_of_forall_openers hr (by decide) c h

/-- The first glyph is a digit, or an underscore among digits, or none is taken. -/
theorem spanDigits_cons (r : Rules) (p : Char → Bool) (g : Glyph) (gs : List Glyph) :
    (p g.char = true ∨ g.char = '_') ∧ (spanDigits r p (g :: gs)).2 = (spanDigits r p gs).2 ∨
      (spanDigits r p (g :: gs)).2 = g :: gs := by
  have hif (b : Bool) (hb : b = true → p g.char = true ∨ g.char = '_') :
      (p g.char = true ∨ g.char = '_') ∧
          (if b then (g.char :: (spanDigits r p gs).1, (spanDigits r p gs).2)
            else ([], g :: gs)).2 = (spanDigits r p gs).2 ∨
        (if b then (g.char :: (spanDigits r p gs).1, (spanDigits r p gs).2)
          else ([], g :: gs)).2 = g :: gs := by
    cases b with
    | true => exact .inl ⟨hb rfl, rfl⟩
    | false => exact .inr rfl
  refine hif _ fun hb => ?_
  simp only [Bool.or_eq_true, Bool.and_eq_true, beq_iff_eq] at hb
  exact hb.imp_right fun hb => hb.1.2

theorem inStep_spanDigits (hr : r.Regular) {p : Char → Bool}
    (hp : ∀ c, p c = true → r.idle c = true) {gs : List Glyph} (h : r.InStep (chars gs)) :
    r.InStep (chars (spanDigits r p gs).2) := by
  induction gs with
  | nil => exact h
  | cons g gs ih =>
    rcases spanDigits_cons r p g gs with ⟨hg, hs⟩ | hs
    · have hi : r.idle g.char = true := hg.elim (hp _) fun hg => hg ▸ hr.idle (by decide)
      rw [hs]
      exact ih (h.tail hi)
    · rwa [hs]

theorem inStep_exponent (hr : r.Regular) {gs : List Glyph} (hm : isMarked gs = true)
    (h : r.InStep (chars gs)) : r.InStep (chars (exponent gs).2) := by
  cases gs with
  | nil => exact h
  | cons mark inner =>
    have hi : r.idle mark.char = true := by
      have hm : mark.char = 'e' ∨ mark.char = 'E' := by simpa [isMarked] using hm
      rcases hm with hm | hm <;> exact hm ▸ hr.idle (by decide)
    have digits {gs : List Glyph} (h : r.InStep (chars gs)) :
        r.InStep (chars (spanGlyphs Char.isDigit gs).2) := inStep_spanGlyphs (idle_of_isDigit hr) h
    rw [chars_cons] at h
    unfold exponent
    simp only
    split
    · exact h
    next more rest _ he =>
    refine inStep_of_eq he (digits ?_)
    split
    · split
      · next s more hs =>
        rw [chars_cons] at h
        exact (h.tail hi).tail (hs.elim (fun hs => hs ▸ hr.idle (by decide)) fun hs =>
          hs ▸ hr.idle (by decide))
      · exact h.tail hi
    · exact h.tail hi

theorem keeps_decimal (hr : r.Regular) {before : Option Token} {afterWord : Bool}
    {gs : List Glyph} (h : r.InStep (chars gs)) : Keeps r (decimal r before afterWord gs) := by
  unfold decimal
  split
  next whole rest he =>
  have h := inStep_of_eq he (inStep_spanDigits hr (idle_of_isDigit hr) h)
  split
  · next hx =>
    split
    next hex rest' he =>
    refine keeps_cut (by simp) (inStep_of_eq he ?_)
    exact inStep_spanDigits hr (idle_of_forall_openers hr (by decide))
      (inStep_drop_one h hx.2 (hr.idle (by decide)))
  split
  next whole rest he =>
  have h : r.InStep (chars rest) := by
    split at he
    · next hd =>
      cases he
      exact inStep_drop_one h hd (hr.idle (by decide))
    · cases he
      exact h
  split
  · exact keeps_symbol (by decide) h
  split
  next fraction rest he =>
  have h := inStep_of_eq he (inStep_spanDigits hr (idle_of_isDigit hr) h)
  extract_lets mantissa marked
  split
  · exact keeps_symbol (by decide) h
  split
  next exp rest he =>
  have h : r.InStep (chars rest) := by
    split at he
    · next hm => exact inStep_of_eq he (inStep_exponent hr hm h)
    · cases he
      exact h
  extract_lets text
  split
  next more after he =>
  have hafter : r.InStep (chars after) := by
    split at he
    · exact inStep_of_eq he (inStep_spanGlyphs hr.inName h)
    · cases he
      exact h
  split
  · exact keeps_cut (by simp) hafter
  split
  · exact keeps_cut (by simp) h
  split
  · next hl => exact keeps_cut (by simp) (inStep_drop_one h hl (hr.idle (by decide)))
  · exact keeps_cut (by simp) h

theorem keeps_number (hr : r.Regular) {before : Option Token} {g : Glyph} {gs : List Glyph}
    (h : r.InStep (chars (g :: gs))) : Keeps r (number r before (g :: gs)) := by
  unfold number
  extract_lets afterWord
  split
  · next dot under rest he =>
    split
    · next hd =>
      split
      · cases he
        rw [chars_cons] at h
        exact keeps_symbol (by decide) (h.tail (hd.1 ▸ hr.idle (by decide)))
      · exact keeps_fail _ _
    · exact keeps_decimal hr h
  · exact keeps_decimal hr h

end Lexer

end TableFeed.Sql
