import TableFeed.Proofs.Sql.Lexer

/-!
# Pieces of a text in step

A text in step stays so piece by piece: what a piece leaves behind is in step, and the piece is no
semicolon. The lexer tells the pieces apart by their first character, and every kind has its lemma
here. Where a piece takes characters whatever they are, nothing that matters can follow them: a text
in which a quote or a mark stands there is not in step, unless no semicolon is left in it.

    InStep (g :: gs) ── piece ──▶ token, InStep rest ── piece ──▶ … ──▶ []
-/

namespace TableFeed.Sql

open TableFeed
open TableFeed.Script (lexemes throughQuote isQuote Bare)
open Lexer (chars)

namespace Rules

variable {r : Rules}

/-! ### What is swallowed -/

/-- A lexeme opens something if its first character does. -/
theorem exists_opens {c : Char} {cs : List Char} (hb : Bare (c :: cs)) :
    ∃ l ls, lexemes (c :: cs) = l :: ls ∧ r.opens l = !r.idle c := by
  cases hq : isQuote c with
  | true => exact ⟨_, _, Script.lexemes_cons_quote hq cs, by simp [opens, idle, hq]⟩
  | false => exact ⟨_, _, (lexemes_cons_of_bare hb hq).1, by simp [opens, idle, hq]⟩

/-- A character and the one behind it are taken at once: if the second one opens something, the
first one swallows it. -/
theorem InStep.skip {c d : Char} {cs : List Char} (h : r.InStep (c :: d :: cs))
    (hc : r.idle c = true)
    (hs : ∀ l ls, Bare (d :: cs) → lexemes (d :: cs) = l :: ls → r.opens l = true →
      r.swallows c (l :: ls) = true) : r.InStep cs := by
  cases hi : r.idle d with
  | true => exact (h.tail hc).tail hi
  | false =>
    have hq : Quiet (d :: cs) := h.quiet hc fun hb => by
      obtain ⟨l, ls, hl, ho⟩ := exists_opens (r := r) hb
      rw [hl]
      exact hs l ls hb hl (by rw [ho, hi]; rfl)
    exact hq.tail.inStep

/-- So are two idle characters and the one behind them. -/
theorem InStep.skip_two {c d e : Char} {cs : List Char} (h : r.InStep (c :: d :: e :: cs))
    (hc : r.idle c = true) (hd : r.idle d = true)
    (hs : ∀ l ls, r.opens l = true → r.swallows c (.ordinary d :: l :: ls) = true) :
    r.InStep cs := by
  cases hi : r.idle e with
  | true => exact ((h.tail hc).tail hd).tail hi
  | false =>
    have hq : Quiet (d :: e :: cs) := h.quiet hc fun hb => by
      obtain ⟨hl, hb, -⟩ := lexemes_cons_of_bare hb (isQuote_of_idle hd)
      obtain ⟨l, ls, hl', ho⟩ := exists_opens (r := r) hb
      rw [hl, hl']
      exact hs l ls (by rw [ho, hi]; rfl)
    exact hq.tail.tail.inStep

end Rules

namespace Lexer

variable {r : Rules}

theorem exists_of_take_one {gs : List Glyph} {n : Nat} {c : Char} {cs : List Char}
    (h : chars (gs.take (n + 1)) = c :: cs) :
    ∃ g gs', gs = g :: gs' ∧ g.char = c ∧ chars (gs'.take n) = cs := by
  cases gs with
  | nil => cases h
  | cons g gs => exact ⟨g, gs, rfl, List.cons.inj h⟩

theorem exists_of_take {g : Glyph} {gs : List Glyph} {n : Nat} {b c : Char} {cs : List Char}
    (h : chars ((g :: gs).take (n + 2)) = b :: c :: cs) :
    ∃ g' gs', gs = g' :: gs' ∧ g'.char = c ∧ chars (gs'.take n) = cs :=
  exists_of_take_one (List.cons.inj h).2

theorem inStep_behind {g : Glyph} {gs : List Glyph} (h : r.InStep (chars (g :: gs)))
    (hg : r.idle g.char = true) {n : Nat} {c : Char} (front : List Char) {tail : List Char}
    (ht : chars ((g :: gs).take n) = c :: (front ++ tail)) (hf : ∀ c ∈ front, r.idle c = true) :
    r.InStep (chars ((g :: gs).drop (front.length + 1))) := by
  have hc : g.char = c := by
    cases n with
    | zero => cases ht
    | succ n => exact (List.cons.inj ht).1
  exact inStep_drop (c :: front) h ht (List.forall_mem_cons.2 ⟨hc ▸ hg, hf⟩)

theorem keeps_operator_behind (hr : r.Regular) {g : Glyph} {gs : List Glyph}
    (h : r.InStep (chars (g :: gs))) (hg : r.idle g.char = true) {n : Nat} {c : Char}
    (front : List Char) {tail : List Char} (ht : chars ((g :: gs).take n) = c :: (front ++ tail))
    (hf : ∀ c ∈ front, c ∉ openers) {finish : Place} {text : String} {ending : Ending}
    (htext : text ≠ ";") : Keeps r (operator r finish (front.length + 1) text ending (g :: gs)) :=
  keeps_operator hr htext (inStep_behind h hg front ht fun c hc => hr.idle (hf c hc))

theorem keeps_hash (hr : r.Regular) (hh : r.hashComments = false) {finish : Place} {g : Glyph}
    (hg : g.char = '#') {gs : List Glyph} (h : r.InStep (chars (g :: gs))) :
    Keeps r (hash r finish (g :: gs)) := by
  have hi : r.idle g.char = true := hg ▸ hr.idle_hash hh
  unfold hash
  split
  · next he => exact keeps_operator_behind hr h hi ['-'] he (by decide) (by decide)
  · next he => exact keeps_operator_behind hr h hi ['>', '>'] he (by decide) (by decide)
  · next he => exact keeps_operator_behind hr h hi ['>'] he (by decide) (by decide)
  · exact keeps_operator hr (by decide) (h.tail hi)
  · next c tail _ _ _ he =>
    split
    · next hc =>
      refine keeps_operator hr (by decide) (inStep_behind h hi ['#'] (hc.1 ▸ he) ?_)
      simpa using hr.idle_hash hh
    · split
      · next hn =>
        obtain ⟨g', gs, rfl, -, -⟩ := exists_of_take he
        rw [chars_cons, hg] at h
        refine keeps_word hr _ (h.skip (hr.idle_hash hh) fun l ls _ _ ho => ?_)
        simp [Rules.swallows, hn, ho]
      · exact keeps_operator hr (by decide) (h.tail hi)
  · exact keeps_operator hr (by decide) (h.tail hi)

theorem swallows_at {c : Char} {ls : List Script.Lexeme} (hn : r.beginsName '@' = true)
    (hc : c ≠ Char.ofNat 96) (hm : r.marks c = true) (ha : c ≠ '@') :
    r.swallows '@' (.ordinary c :: ls) = true := by
  unfold Rules.swallows
  split <;> simp_all

theorem keeps_atName (hr : r.Regular) {finish : Place} {g g' : Glyph} (hg : g.char = '@')
    {gs : List Glyph} (h : r.InStep (chars (g :: g' :: gs))) (hq : isQuote g'.char = false)
    (hb : g'.char ≠ Char.ofNat 96) : Keeps r (atName r finish g'.char (g :: g' :: gs)) := by
  have hi : r.idle '@' = true := hr.idle (by decide)
  unfold atName
  split
  · next hn =>
    rw [chars_cons, hg, chars_cons] at h
    refine keeps_word hr _ (h.skip hi fun l ls hbare hl ho => ?_)
    rw [(Rules.lexemes_cons_of_bare hbare hq).1] at hl
    obtain ⟨rfl, -⟩ := List.cons.inj hl
    refine swallows_at hn hb ho ?_
    intro ha
    have hm : r.marks '@' = true := ha ▸ ho
    simp [Rules.idle, hm] at hi
  · rw [chars_cons, hg] at h
    exact keeps_operator hr (by decide) (h.tail hi)

theorem keeps_atSign (hr : r.Regular) {finish : Place} {g : Glyph} (hg : g.char = '@')
    {gs : List Glyph} (h : r.InStep (chars (g :: gs))) : Keeps r (atSign r finish (g :: gs)) := by
  have hi : r.idle g.char = true := hg ▸ hr.idle (by decide)
  unfold atSign
  split
  · next third he =>
    have two : Keeps r (operator r finish 2 "@@" .closed (g :: gs)) :=
      keeps_operator_behind hr h hi ['@'] he (by decide) (by decide)
    split
    · exact two
    · split
      · exact two
      · next c tail _ =>
        split
        · next hn =>
          obtain ⟨g', gs, rfl, hg', he⟩ := exists_of_take he
          obtain ⟨g'', gs, rfl, -, -⟩ := exists_of_take_one he
          rw [chars_cons, hg, chars_cons, hg', chars_cons] at h
          refine keeps_word hr _ (h.skip_two (hr.idle (by decide)) (hr.idle (by decide)) ?_)
          intro l ls ho
          simp [Rules.swallows, hn, ho]
        · exact two
      · exact two
  · next third he =>
    split
    · split
      · next ht =>
        subst ht
        exact keeps_operator_behind hr h hi ['-', '@'] he (by decide) (by decide)
      · exact keeps_operator_behind hr h hi ['-'] he (by decide) (by decide)
    · obtain ⟨g', gs, rfl, hg', -⟩ := exists_of_take he
      rw [← hg']
      exact keeps_atName hr hg h (hg' ▸ by decide) (hg' ▸ by decide)
  · next he => exact keeps_operator_behind hr h hi ['>'] he (by decide) (by decide)
  · next he => exact keeps_operator_behind hr h hi ['?'] he (by decide) (by decide)
  · next c tail _ _ _ _ he =>
    split
    · exact keeps_operator hr (by decide) (h.tail hi)
    · next hc =>
      obtain ⟨g', gs, rfl, rfl, -⟩ := exists_of_take he
      simp only [List.contains_cons, List.contains_nil, Bool.or_false, Bool.or_eq_true, beq_iff_eq,
        not_or] at hc
      exact keeps_atName hr hg h (by simp [isQuote, hc.2.1, hc.2.2.1]) hc.2.2.2
  · exact keeps_operator hr (by decide) (h.tail hi)

/-! ### Placeholders and dollar quotes -/

theorem keeps_question (hr : r.Regular) {g : Glyph} (hg : g.char = '?') {gs : List Glyph}
    (h : r.InStep (chars (g :: gs))) : Keeps r (question r (g :: gs)) := by
  have hi : r.idle g.char = true := hg ▸ hr.idle (by decide)
  have mark {text : String} (front : List Char) {tail : List Char} {c : Char}
      (ht : chars ((g :: gs).take 3) = c :: (front ++ tail)) (hf : ∀ c ∈ front, r.idle c = true)
      (htext : text ≠ ";") : Keeps r (cut (.symbol text) ((g :: gs).drop (front.length + 1))) :=
    keeps_symbol htext (inStep_behind h hi front ht hf)
  have idle {front : List Char} (hf : ∀ c ∈ front, c ∉ openers) : ∀ c ∈ front, r.idle c = true :=
    fun c hc => hr.idle (hf c hc)
  unfold question
  split
  · next hc =>
    split
    · next he => exact mark ['|', '|'] he (idle (by decide)) (by decide)
    · next he => exact mark ['|'] he (idle (by decide)) (by decide)
    · next he => exact mark ['&'] he (idle (by decide)) (by decide)
    · next he => exact mark ['-', '|'] he (idle (by decide)) (by decide)
    · next he => exact mark ['-'] he (idle (by decide)) (by decide)
    · next he => exact mark ['#'] he (by simpa using hr.inOperator hc '#' (by decide)) (by decide)
    · refine keeps_symbol (by decide) ?_
      match gs with
      | [] => exact Rules.inStep_nil
      | g' :: gs =>
        rw [chars_cons, hg] at h
        exact h.skip (hr.idle (by decide)) fun l ls _ _ ho => by simp [Rules.swallows, hc, ho]
  · refine keeps_cut (by simp) (inStep_spanGlyphs ?_ (h.tail hi))
    exact idle_of_forall_openers hr (by decide)

/-- The lexemes behind a tag are those behind its characters. -/
theorem head?_dropWhile_isTag {p : Char → Bool}
    (hp : ∀ c, p c = true → isQuote c = false ∧ Rules.isTag (.ordinary c) = true) {gs : List Glyph}
    (hb : Bare (chars gs)) (hd : chars ((spanGlyphs p gs).2.take 1) = ['$']) :
    ((lexemes (chars gs)).dropWhile Rules.isTag).head? = some (.ordinary '$') := by
  induction gs with
  | nil => cases hd
  | cons g gs ih =>
    rw [spanGlyphs] at hd
    rw [chars_cons] at hb ⊢
    split at hd
    · next hg =>
      obtain ⟨hq, ht⟩ := hp _ hg
      obtain ⟨hl, hb, -⟩ := Rules.lexemes_cons_of_bare hb hq
      rw [hl, List.dropWhile_cons_of_pos ht]
      exact ih hb hd
    · have hg : g.char = '$' := (List.cons.inj hd).1
      rw [hg] at hb ⊢
      rw [(Rules.lexemes_cons_of_bare hb (by decide)).1, List.dropWhile_cons_of_neg (by decide)]
      rfl

theorem keeps_dollar (hr : r.Regular) (hn : r.beginsName '$' = false) {finish : Place} {g : Glyph}
    (hg : g.char = '$') {gs : List Glyph} (h : r.InStep (chars (g :: gs))) :
    Keeps r (dollar r finish (g :: gs)) := by
  have hi : r.idle '$' = true := hr.idle (by decide)
  rw [chars_cons, hg] at h
  -- behind an opening mark everything is swallowed
  have quiet (hd : r.dollarPlaceholders = false)
      (hl : Bare (chars gs) →
        ((lexemes (chars gs)).dropWhile Rules.isTag).head? = some (.ordinary '$')) :
      Rules.Quiet (chars gs) := h.quiet hi fun hb => by simp [Rules.swallows, hn, hd, hl hb]
  have tag (c : Char) (hc : (Text.isAlphanumeric c || c == '_') = true) : r.idle c = true :=
    idle_of_forall_openers hr (p := fun c => Text.isAlphanumeric c || c == '_') (by decide) c hc
  unfold dollar
  simp only [List.drop_succ_cons, List.drop_zero]
  split
  · next hc =>
    obtain ⟨hd, hh⟩ : r.dollarPlaceholders = false ∧ chars (gs.take 1) = ['$'] := by simpa using hc
    split
    · next text rest hrest =>
      have hs : (spanGlyphs (fun _ => false) gs).2 = gs := by cases gs <;> rfl
      have hq := quiet hd fun hb =>
        head?_dropWhile_isTag (p := fun _ => false) (by simp) hb (by rwa [hs])
      have htail : chars rest <:+ chars gs :=
        (suffix_readDollars hrest).trans ((List.drop_suffix 1 gs).map _)
      exact keeps_cut (by simp) (hq.of_suffix htail).inStep
    · exact keeps_fail _ _
  · split
    · next hc =>
      obtain ⟨hd, hh⟩ : r.dollarPlaceholders = false ∧ _ = _ := by simpa using hc
      split
      · next text rest hrest =>
        have hq := quiet hd fun hb => head?_dropWhile_isTag (fun c hc => ?_) hb hh
        · have htail : chars rest <:+ chars gs := (suffix_readTagged hrest).trans
            (((List.drop_suffix 1 _).map _).trans (suffix_spanGlyphs _ gs))
          exact keeps_cut (by simp) (hq.of_suffix htail).inStep
        · have hc : (Text.isAlphanumeric c || c == '_') = true := by simpa [hd] using hc
          exact ⟨Rules.isQuote_of_idle (tag c hc), hc⟩
      · exact keeps_fail _ _
    · refine keeps_cut (by simp) (inStep_spanGlyphs (fun c hc => ?_) (h.tail hi))
      rcases Bool.or_eq_true_iff.1 hc with hc | hc
      · exact tag c hc
      · obtain ⟨rfl, -⟩ : c = '$' ∧ _ := by simpa using hc
        exact hi

/-! ### Literals and names -/

/-- Whether some of the literals at the start of a text holds its own quote. -/
def mixes (cs : List Char) : Bool := ((lexemes cs).takeWhile isLiteral).any isMixed

/-- A literal leaves the text behind it in step, if its backslashes escape, or if none of the
literals that begin there holds its own quote; so it is where backslashes never escape. -/
theorem inStep_readQuoted {q : Char} (hq : isQuote q = true) {escapes wildcards : Bool}
    {gs rest : List Glyph} {t : List Char} (h : r.InStep (q :: chars gs))
    (he : escapes = true ∨ r.backslashEscapes = false ∨
      (';' ∈ chars gs → mixes (q :: chars gs) = false))
    (hread : readQuoted q escapes wildcards gs = some (t, rest)) : r.InStep (chars rest) := by
  intro hs
  refine Rules.InStep.passes hq ?_ h hs
  cases escapes with
  | true => exact passes_readQuoted_escaping hq hread
  | false =>
    rcases he with he | hb | hm
    · cases he
    · refine passes_readQuoted_plain (I := fun cs => r.InStep (q :: cs)) (fun cs h hs => ?_) _
        (Nat.le_refl _) h hread hs
      exact ⟨h.not_holdsQuote hq hb hs, fun ds hd => hd ▸ h.behind_quote hq⟩
    · refine passes_readQuoted_plain (I := fun cs => mixes (q :: cs) = false) (fun cs h _ => ?_) _
        (Nat.le_refl _) (hm ((suffix_readQuoted hread).subset hs)) hread hs
      rw [mixes, Script.lexemes_cons_quote hq, List.takeWhile_cons_of_pos rfl, List.any_cons,
        Bool.or_eq_false_iff] at h
      exact ⟨h.1, fun ds hd => hd ▸ h.2⟩

theorem keeps_literal {g : Glyph} (hq : isQuote g.char = true) {escapes : Bool} {gs : List Glyph}
    (h : r.InStep (chars (g :: gs)))
    (he : escapes = true ∨ r.backslashEscapes = false ∨
      (';' ∈ chars gs → mixes (chars (g :: gs)) = false))
    {finish : Place} {quoting : Quoting} :
    Keeps r (literal r finish escapes quoting (g :: gs)) := by
  unfold literal
  simp only [List.head?_cons, Option.map_some, Option.getD_some, List.drop_succ_cons,
    List.drop_zero]
  split
  · next hread => exact keeps_cut (by simp) (inStep_readQuoted hq h he hread)
  · exact keeps_fail _ _

/-- A literal of the dialect's own kind. -/
theorem keeps_literal_backslashEscapes {g : Glyph} (hq : isQuote g.char = true) {gs : List Glyph}
    (h : r.InStep (chars (g :: gs))) {finish : Place} {quoting : Quoting} :
    Keeps r (literal r finish r.backslashEscapes quoting (g :: gs)) := by
  refine keeps_literal hq h ?_
  cases r.backslashEscapes <;> simp

/-- Behind a mark of raw literals three quotes are swallowed. -/
theorem swallows_triple {c q : Char} (hc : c.toUpper = 'R') (hr : r.rawStrings = true)
    (hq : isQuote q = true) (cs : List Char) :
    r.swallows c (lexemes (q :: q :: q :: cs)) = true := by
  rw [Script.lexemes_cons_quote hq, throughQuote_quote hq, Script.lexemes_cons_quote hq]
  unfold Rules.swallows
  split
  case h_7 => simp [hc, hr]
  all_goals exact absurd hc (by decide)

theorem keeps_rawLiteral {c : Char} (hc : c.toUpper = 'R') (hi : r.idle c = true)
    (hr : r.rawStrings = true) (hb : r.backslashEscapes = false) {g : Glyph}
    (hq : isQuote g.char = true) {gs : List Glyph} (h : r.InStep (c :: chars (g :: gs)))
    {finish : Place} {short long : Quoting} :
    Keeps r (rawLiteral r finish short long (g :: gs)) := by
  have hg := h.tail hi
  have single : Keeps r (singleRaw r finish short g.char (g :: gs)) := by
    unfold singleRaw
    split
    · next hread => exact keeps_cut (by simp) (inStep_readQuoted hq hg (.inr (.inl hb)) hread)
    · exact keeps_fail _ _
  unfold rawLiteral
  extract_lets quote
  have hquote : quote = g.char := rfl
  clear_value quote
  subst hquote
  split
  · next b third he =>
    split
    · next hbq =>
      subst hbq
      obtain ⟨g', gs, rfl, hg', he⟩ := exists_of_take he
      rw [chars_cons, chars_cons, hg'] at h hg
      split
      · next ht =>
        obtain ⟨g'', gs, rfl, hg'', -⟩ := exists_of_take_one (he.trans ht)
        rw [chars_cons, hg''] at h
        have hquiet := h.quiet hi fun _ => swallows_triple hc hr hq (chars gs)
        split
        · next hread =>
          have hrest := hquiet.tail.tail.tail.of_suffix (suffix_readTriple hread)
          exact keeps_cut (by simp) hrest.inStep
        · exact keeps_fail _ _
      · have hrest := hg.behind_quote hq
        rw [throughQuote_quote hq] at hrest
        exact keeps_cut (by simp) hrest
    · exact single
  · exact single

theorem keeps_quotedName (hr : r.Regular) {c : Char} (hc : c ∈ r.nameQuotes) {g : Glyph}
    {gs : List Glyph} (h : r.InStep (c :: chars gs)) : Keeps r (quotedName c g gs) := by
  have inMarks {c : Char} (hc : c ∈ r.nameQuotes) (hq : isQuote c = false)
      (hcl : isQuote (closingMark c) = false) (h : r.InStep (c :: chars gs)) {t : List Char}
      {rest : List Glyph} (hread : readName (closingMark c) gs = some (t, rest)) :
      r.InStep (chars rest) := by
    have hf := h.enter hq
    rw [Rules.enter, List.contains_iff_mem.2 hc, if_pos rfl] at hf
    exact Rules.inStep_readName hcl hread hf
  unfold quotedName
  split
  · next t rest hread =>
    refine keeps_cut (by simp) ?_
    have hm := hr.nameQuotes c hc
    simp only [List.mem_cons, List.not_mem_nil, or_false] at hm
    rcases hm with rfl | rfl | rfl
    · rw [readName_eq_readQuoted] at hread
      exact inStep_readQuoted (by decide) h (.inr (.inl (hr.doubleQuotes hc))) hread
    · exact inMarks hc (by decide) (by decide) h hread
    · exact inMarks hc (by decide) (by decide) h hread
  · exact keeps_fail _ _

/-! ### Gaps -/

theorem keeps_lineComment (hr : r.Regular) (hh : r.hashComments = true) {g : Glyph}
    (hg : g.char = '#') {gs : List Glyph} (h : r.InStep (chars (g :: gs))) :
    Keeps r (lineComment r "#" (g :: gs)) := by
  have hn : '#' ∉ r.nameQuotes := fun hm => absurd (hr.nameQuotes _ hm) (by decide)
  rw [chars_cons, hg] at h
  have hf := h.enter (by decide)
  have he : r.enter '#' = .comment := by simp [Rules.enter, hn, hh]
  rw [he] at hf
  unfold lineComment
  rw [hr.hashComments hh]
  exact keeps_gap (by simp [hint]) (Rules.inStep_readLine hf)

/-- Two characters that open a comment are followed by no semicolon. -/
theorem quiet_of_mark {gs : List Glyph} {n : Nat} (front tail : List Char)
    (h : r.InStep (chars gs)) (ht : chars (gs.take n) = front ++ tail)
    (hf : front = ['-', '-'] ∨ front = ['/', '*']) : Rules.Quiet (chars gs) := by
  intro hs
  have hb := (h hs).1
  rw [chars_drop_of_take ht] at hb
  rcases hf with rfl | rfl <;>
    exact Script.not_bare_opensComment (by simp [Script.opensComment]) hb

theorem keeps_isLineComment {gs : List Glyph} (h : r.InStep (chars gs))
    (hl : isLineComment r gs = true) : Keeps r (lineComment r "--" gs) := by
  unfold isLineComment at hl
  split at hl
  · next third he =>
    have hq := quiet_of_mark ['-', '-'] third h he (.inl rfl)
    have hrest : chars (readLine r.returnEndsComment (gs.drop 2)).2 <:+ chars gs :=
      (suffix_readLine _ _).trans ((List.drop_suffix 2 gs).map _)
    exact keeps_gap (by simp [hint]) (hq.of_suffix hrest).inStep
  · cases hl

theorem hint_subset {text : String} {cs : List Char} (h : hint text = some cs) :
    cs ⊆ text.toList := by
  unfold hint at h
  split at h
  · next inner ht =>
    cases h
    rw [ht]
    intro c hc
    have hc := List.mem_of_mem_take ((List.dropWhile_sublist _).subset hc)
    exact List.mem_cons_of_mem _ (List.mem_cons_of_mem _ (List.mem_cons_of_mem _ hc))
  · cases h

theorem keeps_blockComment {gs : List Glyph} (h : r.InStep (chars gs))
    (hc : chars (gs.take 2) = ['/', '*']) {finish : Place} :
    Keeps r (blockComment r finish gs) := by
  have hq := quiet_of_mark ['/', '*'] [] h hc (.inr rfl)
  have hdrop : chars (gs.drop 2) <:+ chars gs := (List.drop_suffix 2 gs).map _
  unfold blockComment
  split
  · next text rest hread =>
    obtain ⟨ht, hrest⟩ := subset_readComment hread
    refine keeps_ok (fun cs hcs hs => hq (hdrop.subset (ht ?_)))
      (hq.of_suffix (hrest.trans hdrop)).inStep
    simpa using hint_subset hcs hs
  · exact keeps_fail _ _

/-! ### One piece -/

/-- Behind a mark of bit literals the literals hold no quotes of their own. -/
theorem mixes_of_bits {c q : Char} (hc : c.toUpper = 'B') (hi : r.idle c = true)
    (hb : r.bitStrings = true) {cs : List Char} (h : r.InStep (c :: q :: cs)) :
    r.backslashEscapes = false ∨ (';' ∈ cs → mixes (q :: cs) = false) := by
  cases he : r.backslashEscapes with
  | false => exact .inl rfl
  | true =>
    refine .inr fun hs => ?_
    by_contra hm
    refine h.quiet hi (fun _ => ?_) (List.mem_cons_of_mem q hs)
    have hm : mixes (q :: cs) = true := by simpa using hm
    unfold Rules.swallows
    split
    case h_7 =>
      simp only [hc, hb, he, beq_self_eq_true, Bool.true_and]
      exact Bool.or_eq_true_iff.2 (.inl hm)
    all_goals exact absurd hc (by decide)

/-- A cut that may not be there. -/
def KeepsSome (r : Rules) (x : Option Cut) : Prop := ∀ c, x = some c → Keeps r c

theorem keepsSome_none : KeepsSome r none := fun _ h => nomatch h

theorem keepsSome_some {c : Cut} (h : Keeps r c) : KeepsSome r (some c) := by
  intro c' hc
  cases hc
  exact h

theorem keepsSome_ite {p : Prop} [Decidable p] {x y : Option Cut} (hx : p → KeepsSome r x)
    (hy : ¬p → KeepsSome r y) : KeepsSome r (if p then x else y) :=
  iteInduction hx hy

theorem keepsSome_marked (hr : r.Regular) {finish : Place} {g : Glyph} {gs : List Glyph}
    (h : r.InStep (chars (g :: gs))) : KeepsSome r (marked r finish g gs) := by
  have idle (hu : g.char.toUpper.isAlpha = true) : r.idle g.char = true :=
    idle_of_forall_openers hr (p := fun c => c.toUpper.isAlpha) (by decide) _ hu
  have name (hu : g.char.toUpper.isAlpha = true) : KeepsSome r (some (word r [g.char] gs)) :=
    keepsSome_some (keeps_word hr _ (h.tail (idle hu)))
  have quote {q : Char} (hq : isQuote q = true) (hn : chars (gs.take 1) = [q]) :
      ∃ g' gs', gs = g' :: gs' ∧ isQuote g'.char = true := by
    obtain ⟨g', gs', rfl, hg', -⟩ := exists_of_take_one hn
    exact ⟨g', gs', rfl, hg' ▸ hq⟩
  unfold marked
  extract_lets next
  split
  -- `B`, bits
  · next hu =>
    have hi := idle (hu ▸ by decide)
    have bits {quoting : Quoting} {q : Char} (hb : r.bitStrings = true) (hq : isQuote q = true)
        (hn : next = [q]) : KeepsSome r (some (literal r finish false quoting gs)) := by
      obtain ⟨g', gs, rfl, hq⟩ := quote hq hn
      exact keepsSome_some (keeps_literal hq (h.tail hi) (.inr (mixes_of_bits hu hi hb h)))
    refine keepsSome_ite (fun hb => ?_) fun _ => keepsSome_none
    refine keepsSome_ite (bits hb (by decide)) fun _ => ?_
    exact keepsSome_ite (bits hb (by decide)) fun _ => name (hu ▸ by decide)
  -- `R`, raw texts
  · next hu =>
    have hi := idle (hu ▸ by decide)
    have raw {short long : Quoting} {q : Char} (hb : r.rawStrings = true) (hq : isQuote q = true)
        (hn : next = [q]) : KeepsSome r (some (rawLiteral r finish short long gs)) := by
      obtain ⟨g', gs, rfl, hq⟩ := quote hq hn
      exact keepsSome_some (keeps_rawLiteral hu hi hb (hr.rawStrings hb) hq h)
    refine keepsSome_ite (fun hb => ?_) fun _ => keepsSome_none
    refine keepsSome_ite (raw hb (by decide)) fun _ => ?_
    exact keepsSome_ite (raw hb (by decide)) fun _ => name (hu ▸ by decide)
  -- `N`, national characters
  · next hu =>
    have hi := idle (hu ▸ by decide)
    refine keepsSome_ite (fun hn => ?_) fun _ => name (hu ▸ by decide)
    obtain ⟨g', gs, rfl, hq⟩ := quote (by decide) hn
    exact keepsSome_some (keeps_literal_backslashEscapes hq (h.tail hi))
  -- `E`, escapes of its own
  · next hu =>
    have hi := idle (hu ▸ by decide)
    refine keepsSome_ite (fun _ => ?_) fun _ => keepsSome_none
    refine keepsSome_ite (fun hn => ?_) fun _ => name (hu ▸ by decide)
    obtain ⟨g', gs, rfl, hg', -⟩ := exists_of_take_one hn
    split
    · next hread =>
      refine keepsSome_some (keeps_cut (by simp) ?_)
      exact Rules.InStep.passes (by decide) (passes_readEscaped hread) (hg' ▸ h.tail hi)
    · exact keepsSome_some (keeps_fail _ _)
  -- `U&`, code points
  · next hu =>
    have hi := idle (hu ▸ by decide)
    refine keepsSome_ite (fun _ => ?_) fun _ => keepsSome_none
    refine keepsSome_ite (fun hn => ?_) fun _ => name (hu ▸ by decide)
    obtain ⟨g', gs, rfl, hg', hn⟩ := exists_of_take_one hn
    obtain ⟨g'', gs, rfl, hg'', -⟩ := exists_of_take_one hn
    split
    · next hread =>
      refine keepsSome_some (keeps_cut (by simp) ?_)
      rw [chars_cons, chars_cons, hg', chars_cons, hg''] at h
      exact Rules.InStep.passes (by decide) (passes_readUnicode hread)
        ((h.tail hi).tail (hr.idle (by decide)))
    · exact keepsSome_some (keeps_error _)
  -- `X`, hexadecimal digits
  · next hu =>
    have hi := idle (hu ▸ by decide)
    refine keepsSome_ite (fun hn => ?_) fun _ => name (hu ▸ by decide)
    obtain ⟨g', gs, rfl, hq⟩ := quote (by decide) hn
    exact keepsSome_some (keeps_literal hq (h.tail hi) (.inl rfl))
  · exact keepsSome_none

theorem keeps_operatorAt (hr : r.Regular) {g : Glyph} {gs : List Glyph}
    (h : r.InStep (chars (g :: gs))) (hg : r.idle g.char = true) (ht : g.char ≠ ';')
    {intDivision pipes : Bool} {taken : Nat} {text : String} {ending : Ending}
    (ho : operatorAt r.customOperators intDivision pipes (chars ((g :: gs).take 4)) =
      some (taken, text, ending)) {finish : Place} :
    Keeps r (operator r finish taken text ending (g :: gs)) := by
  have htakes := takes_operatorAt r.customOperators intDivision pipes (chars ((g :: gs).take 4))
  rw [ho] at htakes
  obtain ⟨htext, hpos, hle, hmarks | ⟨hamp, hc, rfl⟩⟩ := htakes
  · obtain ⟨n, rfl⟩ : ∃ n, taken = n + 1 := ⟨taken - 1, by omega⟩
    have hfront : (chars ((g :: gs).take 4)).take (n + 1) = g.char :: chars (gs.take n) := by
      rw [chars, ← List.map_take, List.take_take, Nat.min_eq_left hle]
      rfl
    rw [hfront] at hmarks
    rw [← chars_take_append_drop (n + 1)] at h
    refine keeps_operator hr (htext (by simpa using ht)) (h.of_append ?_)
    exact List.forall_mem_cons.2 ⟨hg, fun c hc => hr.idle (not_mem_openers_of_inMark (hmarks c hc))⟩
  · refine keeps_operator hr (htext (by simpa using ht)) ?_
    obtain ⟨tail, hamp⟩ := hamp
    have hg : g.char = '&' := (List.cons.inj hamp).1.symm
    obtain ⟨g', gs, rfl, hg', -⟩ := exists_of_take hamp.symm
    cases gs with
    | nil => exact Rules.inStep_nil
    | cons g'' gs =>
      rw [chars_cons, hg, chars_cons, hg', chars_cons] at h
      refine h.skip_two (hr.idle (by decide)) (hr.idle (by decide)) fun l ls hl => ?_
      simp [Rules.swallows, hc, hl]

/-- A piece of a text in step is no semicolon, and leaves a text in step. -/
theorem keeps_piece (hr : r.Regular) {finish : Place} {before : Option Token} {g : Glyph}
    {gs : List Glyph} (h : r.InStep (chars (g :: gs))) :
    Keeps r (piece r finish before g gs) := by
  have blank {c : Char} (hc : g.char = c) (ho : c ∉ openers) : r.InStep (chars gs) := by
    rw [chars_cons, hc] at h
    exact h.tail (hr.idle ho)
  unfold piece
  refine keeps_ite (fun hc => ?_) fun _ => keeps_ite (fun hc => ?_) fun _ => ?_
  · rcases hc with hc | hc | hc
    all_goals
      exact keeps_gap (by simp [hc, hint]) (blank hc (by decide))
  · refine keeps_gap (by simp [hint]) ?_
    have hgs := blank hc (by decide)
    split
    · next hn => exact inStep_drop_one hgs hn (hr.idle (by decide))
    · exact hgs
  split
  · next cut hm => exact keepsSome_marked hr h cut hm
  refine keeps_ite (fun hc => ?_) fun hquote => keeps_ite (fun hc => ?_) fun hname => ?_
  · exact keeps_literal_backslashEscapes (hc ▸ by decide) h
  · exact keeps_quotedName hr (by simpa using hc) h
  refine keeps_ite (fun hc => ?_) fun hdouble => keeps_ite (fun hc => ?_) fun _ => ?_
  · exact keeps_literal_backslashEscapes (hc ▸ by decide) h
  · exact keeps_number hr h
  refine keeps_ite (fun hc => ?_) fun _ => keeps_ite (fun hc => ?_) fun _ => ?_
  · exact keeps_isLineComment h hc
  · exact keeps_blockComment h hc
  refine keeps_ite (fun hc => ?_) fun hhash => ?_
  · exact keeps_ite (fun hh => keeps_lineComment hr hh hc h)
      fun hh => keeps_hash hr (by simpa using hh) hc h
  refine keeps_ite (fun hc => keeps_atSign hr hc h) fun _ => ?_
  refine keeps_ite (fun hc => keeps_question hr hc h) fun _ => ?_
  have hi : r.idle g.char = true := by
    simp_all [Rules.idle, Rules.marks, isQuote]
  have ht := h.ne_terminator
  split
  · next taken text ending ho => exact keeps_operatorAt hr h hi ht ho
  refine keeps_ite (fun _ => keeps_word hr _ (h.tail hi)) fun hn => ?_
  refine keeps_ite (fun hc => keeps_dollar hr (by simpa [hc] using hn) hc h) fun _ => ?_
  refine keeps_ite (fun _ => ?_) fun _ => ?_
  · exact keeps_gap (by simp [hint]) (h.tail hi)
  · refine keeps_symbol (fun hs => ht ?_) (h.tail hi)
    simpa using congrArg String.toList hs

/-! ### All pieces -/

/-- No semicolon has been read. -/
def Unbroken (p : Progress) : Prop := ∀ l ∈ p.done, l.token ≠ .symbol ";"

theorem unbroken_noteGap {text : String} {place : Place} {p p' : Progress}
    (h : noteGap text place p = .ok p') (hp : Unbroken p) : Unbroken p' := by
  unfold noteGap at h
  obtain ⟨done, before⟩ := p
  cases done with
  | nil =>
    cases h
    exact List.forall_mem_nil _
  | cons l ls =>
    obtain ⟨hl, hls⟩ := List.forall_mem_cons.1 hp
    cases h
    refine List.forall_mem_cons.2 ⟨?_, hls⟩
    split <;> exact hl

/-- A run over a text in step reads no semicolon, if the comments that are read in it hold none. -/
theorem unbroken_run (hr : r.Regular) {onGap : GapRule}
    (hgap : ∀ text place p p', (Piece.gap text).Plain → onGap text place p = .ok p' → Unbroken p →
      Unbroken p')
    {finish : Place} (fuel : Nat) {p p' : Progress} {gs : List Glyph} (h : r.InStep (chars gs))
    (hp : Unbroken p) (hrun : run r onGap finish fuel p gs = .ok p') : Unbroken p' := by
  induction fuel generalizing p gs with
  | zero =>
    cases hrun
    exact hp
  | succ fuel ih =>
    cases gs with
    | nil =>
      cases hrun
      exact hp
    | cons g gs =>
      rw [run] at hrun
      cases hcut : piece r finish p.before g gs with
      | error e =>
        rw [hcut] at hrun
        cases hrun
      | ok cut =>
        obtain ⟨found, rest⟩ := cut
        obtain ⟨hplain, hrest⟩ := keeps_piece hr h found rest hcut
        rw [hcut] at hrun
        cases found with
        | token t =>
          refine ih hrest (fun l hl => ?_) hrun
          rcases List.mem_cons.1 hl with rfl | hl
          · exact hplain
          · exact hp l hl
        | gap text =>
          simp only [bind, Except.bind] at hrun
          split at hrun
          · cases hrun
          · next p'' hg => exact ih hrest (hgap _ _ _ _ hplain hg hp) hrun

theorem chars_glyphs (place : Place) (cs : List Char) : chars (glyphs place cs) = cs := by
  induction cs generalizing place with
  | nil => rfl
  | cons c cs ih => exact congrArg (c :: ·) (ih _)

theorem unbroken_expandHint (hr : r.Regular) {text : String} (ht : (Piece.gap text).Plain)
    {place : Place} {p p' : Progress} (h : expandHint r text place p = .ok p') (hp : Unbroken p) :
    Unbroken p' := by
  unfold expandHint at h
  split at h
  · cases h
    exact hp
  · next cs _ hc =>
    have hq : Rules.Quiet (chars (glyphs place cs)) := by
      rw [chars_glyphs]
      exact ht cs hc
    exact unbroken_run hr (fun _ _ _ _ _ => unbroken_noteGap) _ hq.inStep hp h
  · exact unbroken_noteGap h hp

end Lexer

/-- No token of a text in step is a semicolon. -/
theorem tokens_ne_terminator {r : Rules} (hr : r.Regular) {text : String} (h : r.InStep text.toList)
    {ls : List Lexeme} (hls : tokens r text = .ok ls) : ∀ l ∈ ls, l.token ≠ .symbol ";" := by
  unfold tokens at hls
  simp only at hls
  split at hls
  · next p hrun =>
    cases hls
    have start : Lexer.Unbroken { done := [], before := none } := List.forall_mem_nil _
    have hu : Lexer.Unbroken p := by
      refine Lexer.unbroken_run hr ?_ _ (by rwa [Lexer.chars_glyphs]) start hrun
      intro text place p p' ht hg
      split at hg
      · exact Lexer.unbroken_expandHint hr ht hg
      · exact Lexer.unbroken_noteGap hg
    intro l hl
    exact hu l (List.mem_reverse.1 hl)
  · cases hls

end TableFeed.Sql
