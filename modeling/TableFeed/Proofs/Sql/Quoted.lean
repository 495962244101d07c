import TableFeed.Proofs.Sql.InStep

/-!
# What is left behind a quotation

A dialect reads a literal from its opening quote to a closing one that no other quote follows. If it
agrees with the segmenter on where the literals of this stretch end, what is left behind them is in
step. It agrees if its backslashes escape, as they do for the segmenter, or if no literal of the
stretch holds its own quote; the escapes of further kinds of literals take digits only.

    ' … '' … ' rest      literal literal │ rest         for the segmenter
    └─────────┘          one literal     │ rest         for the dialect

Names in marks of their own and comments to the end of the line hold no literals where a text is in
step, so that the segmenter reads them as the characters that they are.
-/

namespace TableFeed.Sql

open TableFeed.Script (lexemes throughQuote isQuote Bare)
open Lexer (chars)

@[simp] theorem chars_nil : chars [] = [] := rfl

@[simp] theorem chars_cons (g : Glyph) (gs : List Glyph) : chars (g :: gs) = g.char :: chars gs :=
  rfl

/-! ### Readers take what is in front -/

theorem eq_some_of_consRead {c : Char} {x : Option (List Char × List Glyph)} {t : List Char}
    {rest : List Glyph} (h : consRead c x = some (t, rest)) :
    ∃ t', x = some (t', rest) ∧ t = c :: t' := by
  cases x with
  | none => cases h
  | some p =>
    cases h
    exact ⟨_, rfl, rfl⟩

theorem eq_ok_of_readThen {c : Char} {x : Except SyntaxError (List Char × List Glyph)}
    {t : List Char} {rest : List Glyph} (h : readThen c x = .ok (t, rest)) :
    ∃ t', x = .ok (t', rest) := by
  cases x with
  | error e => cases h
  | ok p =>
    cases h
    exact ⟨_, rfl⟩

theorem suffix_spanGlyphs (p : Char → Bool) (gs : List Glyph) :
    chars (spanGlyphs p gs).2 <:+ chars gs := by
  induction gs with
  | nil => exact List.suffix_rfl
  | cons g gs ih =>
    rw [spanGlyphs]
    split
    · exact ih.trans (List.suffix_cons _ _)
    · exact List.suffix_rfl

theorem suffix_readQuoted {q : Char} {escapes wildcards : Bool} {gs rest : List Glyph}
    {t : List Char} (h : readQuoted q escapes wildcards gs = some (t, rest)) :
    chars rest <:+ chars gs := by
  fun_induction readQuoted q escapes wildcards gs generalizing t with
  | case1 => cases h
  | case2 g hg =>
    cases h
    exact List.nil_suffix
  | case3 g hg => cases h
  | case4 g g' gs hg hg' ih =>
    obtain ⟨t', h, -⟩ := eq_some_of_consRead h
    exact (ih h).trans ⟨[g.char, g'.char], rfl⟩
  | case5 g g' gs hg hg' =>
    cases h
    exact List.suffix_cons _ _
  | case6 g g' gs hg hb hw ih =>
    obtain ⟨t', h, -⟩ := eq_some_of_consRead h
    obtain ⟨t', h, -⟩ := eq_some_of_consRead h
    exact (ih h).trans ⟨[g.char, g'.char], rfl⟩
  | case7 g g' gs hg hb hw ih =>
    obtain ⟨t', h, -⟩ := eq_some_of_consRead h
    exact (ih h).trans ⟨[g.char, g'.char], rfl⟩
  | case8 g g' gs hg hb ih =>
    obtain ⟨t', h, -⟩ := eq_some_of_consRead h
    exact (ih h).trans (List.suffix_cons _ _)

theorem suffix_readTriple {q : Char} {gs rest : List Glyph} {t : List Char}
    (h : readTriple q gs = some (t, rest)) : chars rest <:+ chars gs := by
  fun_induction readTriple q gs generalizing t with
  | case1 a b c gs hq =>
    cases h
    exact ⟨[a.char, b.char, c.char], rfl⟩
  | case2 a b c gs hq ih =>
    obtain ⟨t', h, -⟩ := eq_some_of_consRead h
    exact (ih h).trans (List.suffix_cons _ _)
  | case3 => cases h

theorem suffix_readDollars {afterDollar : Bool} {gs rest : List Glyph} {t : List Char}
    (h : readDollars afterDollar gs = some (t, rest)) : chars rest <:+ chars gs := by
  fun_induction readDollars afterDollar gs generalizing t with
  | case1 => cases h
  | case2 g gs hg =>
    cases h
    exact List.suffix_cons _ _
  | case3 g gs hg ih =>
    obtain ⟨t', h, -⟩ := eq_some_of_consRead h
    obtain ⟨t', h, -⟩ := eq_some_of_consRead h
    exact (ih h).trans (List.suffix_cons _ _)
  | case4 a g gs ha hg ih => exact (ih h).trans (List.suffix_cons _ _)
  | case5 a g gs ha hg ih =>
    obtain ⟨t', h, -⟩ := eq_some_of_consRead h
    exact (ih h).trans (List.suffix_cons _ _)

theorem suffix_readTagged {mark : List Char} {gs rest : List Glyph} {t : List Char}
    (h : readTagged mark gs = some (t, rest)) : chars rest <:+ chars gs := by
  induction gs generalizing t with
  | nil => cases h
  | cons g gs ih =>
    rw [readTagged] at h
    split at h
    · cases h
      exact (List.drop_suffix _ _).map _
    · obtain ⟨t', h, -⟩ := eq_some_of_consRead h
      exact (ih h).trans (List.suffix_cons _ _)

theorem suffix_readLine (returnEnds : Bool) (gs : List Glyph) :
    chars (readLine returnEnds gs).2 <:+ chars gs := by
  induction gs with
  | nil => exact List.suffix_rfl
  | cons g gs ih =>
    rw [readLine]
    split
    · exact List.suffix_cons _ _
    · exact ih.trans (List.suffix_cons _ _)

/-- The text of a block comment and what is left behind it are parts of what was read. -/
theorem subset_readComment {nests : Bool} {depth : Nat} {gs rest : List Glyph} {t : List Char}
    (h : readComment nests depth gs = some (t, rest)) :
    t ⊆ chars gs ∧ chars rest <:+ chars gs := by
  fun_induction readComment nests depth gs generalizing t with
  | case1 => cases h
  | case2 => cases h
  | case3 depth g g' gs hopen ih =>
    obtain ⟨t₁, h₁, rfl⟩ := eq_some_of_consRead h
    obtain ⟨t₂, h₂, rfl⟩ := eq_some_of_consRead h₁
    obtain ⟨ht, hr⟩ := ih h₂
    rw [chars_cons, chars_cons, hopen.2.1, hopen.2.2]
    exact ⟨List.cons_subset_cons _ (List.cons_subset_cons _ ht), hr.trans ⟨['/', '*'], rfl⟩⟩
  | case4 g g' gs _ hclose =>
    cases h
    exact ⟨List.nil_subset _, ⟨[g.char, g'.char], rfl⟩⟩
  | case5 g g' gs _ hclose depth ih =>
    obtain ⟨t₁, h₁, rfl⟩ := eq_some_of_consRead h
    obtain ⟨t₂, h₂, rfl⟩ := eq_some_of_consRead h₁
    obtain ⟨ht, hr⟩ := ih h₂
    rw [chars_cons, chars_cons, hclose.1, hclose.2]
    exact ⟨List.cons_subset_cons _ (List.cons_subset_cons _ ht), hr.trans ⟨['*', '/'], rfl⟩⟩
  | case6 depth g g' gs _ _ ih =>
    obtain ⟨t₁, h₁, rfl⟩ := eq_some_of_consRead h
    obtain ⟨ht, hr⟩ := ih h₁
    exact ⟨List.cons_subset_cons _ ht, hr.trans (List.suffix_cons _ _)⟩

/-! ### Literals that follow one another -/

/-- What is left behind an opening quote and the literals that follow one another there. -/
inductive Passes (q : Char) : List Char → List Char → Prop where
  | atEnd (cs : List Char) : Passes q cs []
  | stop {cs rest : List Char} : (throughQuote q cs).2 = rest → Passes q cs rest
  | again {cs ds rest : List Char} : (throughQuote q cs).2 = q :: ds → Passes q ds rest →
    Passes q cs rest

namespace Passes

variable {q : Char}

/-- Only where the first literal ends matters. -/
theorem congr {cs ds rest : List Char} (h : (throughQuote q cs).2 = (throughQuote q ds).2)
    (hp : Passes q ds rest) : Passes q cs rest := by
  cases hp with
  | atEnd => exact .atEnd cs
  | stop hr => exact .stop (h.trans hr)
  | again hr hp => exact .again (h.trans hr) hp

end Passes

/-- Behind literals that follow one another a text is in step. -/
theorem Rules.InStep.passes {r : Rules} {q : Char} (hq : isQuote q = true) {cs rest : List Char}
    (hp : Passes q cs rest) (h : r.InStep (q :: cs)) : r.InStep rest := by
  induction hp with
  | atEnd => exact Rules.inStep_nil
  | stop hr => exact hr ▸ h.behind_quote hq
  | again hr hp ih => exact ih (hr ▸ h.behind_quote hq)

/-! ### Literals whose backslashes escape -/

theorem throughQuote_quote {q : Char} (hq : isQuote q = true) (cs : List Char) :
    throughQuote q (q :: cs) = ([q], cs) := by
  rw [Script.throughQuote_cons (Script.isQuote_ne_backslash hq), if_pos rfl]

theorem throughQuote_other {q c : Char} (hb : c ≠ '\\') (hc : c ≠ q) (cs : List Char) :
    (throughQuote q (c :: cs)).2 = (throughQuote q cs).2 := by
  rw [Script.throughQuote_cons hb, if_neg hc]

/-- A literal whose backslashes escape ends where the segmenter ends it. -/
theorem passes_readQuoted_escaping {q : Char} (hq : isQuote q = true) {wildcards : Bool}
    {gs rest : List Glyph} {t : List Char} (h : readQuoted q true wildcards gs = some (t, rest)) :
    Passes q (chars gs) (chars rest) := by
  fun_induction readQuoted q true wildcards gs generalizing t with
  | case1 => cases h
  | case2 g hg =>
    cases h
    exact .atEnd _
  | case3 g hg => cases h
  | case4 g g' gs hg hg' ih =>
    obtain ⟨t', h, -⟩ := eq_some_of_consRead h
    refine .again ?_ (ih h)
    rw [chars_cons, hg, throughQuote_quote hq, chars_cons, hg']
  | case5 g g' gs hg hg' =>
    cases h
    refine .stop ?_
    rw [chars_cons, hg, throughQuote_quote hq]
  | case6 g g' gs hg hb hw ih =>
    obtain ⟨t', h, -⟩ := eq_some_of_consRead h
    obtain ⟨t', h, -⟩ := eq_some_of_consRead h
    have hb : g.char = '\\' := by simpa using hb
    refine .congr ?_ (ih h)
    rw [chars_cons, chars_cons, hb, Script.throughQuote_escape]
  | case7 g g' gs hg hb hw ih =>
    obtain ⟨t', h, -⟩ := eq_some_of_consRead h
    have hb : g.char = '\\' := by simpa using hb
    refine .congr ?_ (ih h)
    rw [chars_cons, chars_cons, hb, Script.throughQuote_escape]
  | case8 g g' gs hg hb ih =>
    obtain ⟨t', h, -⟩ := eq_some_of_consRead h
    have hb : g.char ≠ '\\' := by simpa using hb
    exact .congr (throughQuote_other hb hg _) (ih h)

/-! ### Literals without escapes -/

theorem readQuoted_cons_other {q : Char} {wildcards : Bool} {g : Glyph} (hg : g.char ≠ q)
    {gs : List Glyph} (hn : gs ≠ []) :
    readQuoted q false wildcards (g :: gs) = consRead g.char (readQuoted q false wildcards gs) := by
  obtain ⟨h, rest, rfl⟩ := List.exists_cons_of_ne_nil hn
  rw [readQuoted, if_neg hg]
  simp

/-- A literal without escapes ends at its first quote, unless that is doubled. -/
theorem readQuoted_plain {q : Char} {wildcards : Bool} {front tail : List Char} (hf : q ∉ front)
    {gs rest : List Glyph} {t : List Char} (hgs : chars gs = front ++ q :: tail)
    (h : readQuoted q false wildcards gs = some (t, rest)) :
    chars rest = tail ∨ ∃ gs' t', tail = q :: chars gs' ∧ gs'.length < gs.length ∧
      readQuoted q false wildcards gs' = some (t', rest) := by
  induction front generalizing gs t with
  | nil =>
    match gs with
    | [] => cases hgs
    | [g] =>
      obtain ⟨hg, rfl⟩ := List.cons.inj hgs
      rw [readQuoted, if_pos hg] at h
      cases h
      exact .inl rfl
    | g :: g' :: gs =>
      obtain ⟨hg, rfl⟩ := List.cons.inj hgs
      rw [readQuoted, if_pos hg] at h
      split at h
      · next hg' =>
        obtain ⟨t', h, -⟩ := eq_some_of_consRead h
        exact .inr ⟨gs, t', by rw [← hg']; rfl, by simp only [List.length_cons]; omega, h⟩
      · cases h
        exact .inl rfl
  | cons c front ih =>
    match gs with
    | [] => cases hgs
    | g :: gs =>
      obtain ⟨hg, hgs⟩ := List.cons.inj hgs
      obtain ⟨hc, hf⟩ := not_or.1 (mt List.mem_cons.2 hf)
      have hn : gs ≠ [] := by
        rintro rfl
        simp at hgs
      rw [readQuoted_cons_other (fun h => hc (h.symm.trans hg)) hn] at h
      obtain ⟨t', h, -⟩ := eq_some_of_consRead h
      refine (ih hf hgs h).imp_right ?_
      rintro ⟨gs', t', ht, hl, h⟩
      exact ⟨gs', t', ht, Nat.lt_succ_of_lt hl, h⟩

theorem readQuoted_eq_none {q : Char} {wildcards : Bool} {gs : List Glyph} (h : q ∉ chars gs) :
    readQuoted q false wildcards gs = none := by
  induction gs with
  | nil => rfl
  | cons g gs ih =>
    obtain ⟨hg, h⟩ := not_or.1 (mt List.mem_cons.2 h)
    cases gs with
    | nil => rw [readQuoted, if_neg (Ne.symm hg)]
    | cons g' gs => rw [readQuoted_cons_other (Ne.symm hg) (by simp), ih h, consRead]

/-- Where something is behind a literal, the literal ends with its quote. -/
theorem exists_of_throughQuote {q : Char} {cs : List Char} (h : (throughQuote q cs).2 ≠ []) :
    ∃ front, (throughQuote q cs).1 = front ++ [q] := by
  fun_induction throughQuote q cs with
  | case1 => exact absurd rfl h
  | case2 d cs ih =>
    obtain ⟨front, hf⟩ := ih h
    exact ⟨'\\' :: d :: front, by rw [hf]; rfl⟩
  | case3 cs _ => exact ⟨[], rfl⟩
  | case4 c cs _ _ ih =>
    obtain ⟨front, hf⟩ := ih h
    exact ⟨c :: front, by rw [hf]; rfl⟩

/-- A literal that does not hold its own quote ends at its first one, or has none and runs to the
end of the text. -/
theorem throughQuote_of_not_holdsQuote {q : Char} {cs : List Char}
    (h : holdsQuote (q :: (throughQuote q cs).1) = false) :
    (∃ front, q ∉ front ∧ cs = front ++ q :: (throughQuote q cs).2) ∨ q ∉ cs := by
  have hd := List.takeWhile_append_dropWhile (p := (· != q)) (l := (throughQuote q cs).1)
  have hf : q ∉ (throughQuote q cs).1.takeWhile (· != q) := fun hm => by
    simpa using List.mem_takeWhile_imp hm
  have hcs := Script.throughQuote_append q cs
  cases hw : (throughQuote q cs).1.dropWhile (· != q) with
  | nil =>
    rw [hw, List.append_nil] at hd
    rw [hd] at hf
    refine .inr ?_
    have ht : (throughQuote q cs).2 = [] := by
      by_contra ht
      obtain ⟨front, hq⟩ := exists_of_throughQuote ht
      exact hf (by simp [hq])
    rwa [← hcs, ht, List.append_nil]
  | cons c ds =>
    have hc : c = q := by
      have hh := List.head_dropWhile_not (· != q) (l := (throughQuote q cs).1) (by simp [hw])
      simpa [hw] using hh
    have hl : ds = [] := by
      rw [holdsQuote, hw] at h
      simpa using h
    subst hc hl
    refine .inl ⟨_, hf, ?_⟩
    rw [hw] at hd
    conv_lhs => rw [← hcs, ← hd]
    simp

/-- A literal without escapes ends where the segmenter ends it, as long as semicolons follow, if
none of the literals that follow one another there holds its own quote; `I` is what is known where
each of them begins. -/
theorem passes_readQuoted_plain {q : Char} {wildcards : Bool} {I : List Char → Prop}
    (hI : ∀ cs, I cs → ';' ∈ cs → holdsQuote (q :: (throughQuote q cs).1) = false ∧
      ∀ ds, (throughQuote q cs).2 = q :: ds → I ds)
    (n : Nat) {gs rest : List Glyph} (hn : gs.length ≤ n) {t : List Char} (hgs : I (chars gs))
    (h : readQuoted q false wildcards gs = some (t, rest)) (hs : ';' ∈ chars rest) :
    Passes q (chars gs) (chars rest) := by
  induction n generalizing gs t with
  | zero =>
    obtain rfl := List.length_eq_zero_iff.1 (Nat.le_zero.1 hn)
    cases h
  | succ n ih =>
    obtain ⟨hq, hagain⟩ := hI _ hgs ((suffix_readQuoted h).subset hs)
    rcases throughQuote_of_not_holdsQuote hq with ⟨front, hf, hfront⟩ | hnot
    · rcases readQuoted_plain hf hfront h with hr | ⟨gs', t', ht, hl, h⟩
      · exact .stop hr.symm
      · exact .again ht (ih (by omega) (hagain _ ht) h)
    · rw [readQuoted_eq_none hnot] at h
      cases h

/-! ### Literals with escapes of their own -/

/-- A character that neither ends nor escapes anything in a literal between single quotes. -/
def isInner (c : Char) : Bool := c != '\'' && c != '\\'

theorem throughQuote_inner {cs ds : List Char} (h : ∀ c ∈ cs, isInner c = true) :
    (throughQuote '\'' (cs ++ ds)).2 = (throughQuote '\'' ds).2 := by
  induction cs with
  | nil => rfl
  | cons c cs ih =>
    rw [List.forall_mem_cons] at h
    obtain ⟨hq, hb⟩ : c ≠ '\'' ∧ c ≠ '\\' := by simpa [isInner] using h.1
    rw [List.cons_append, throughQuote_other hb hq, ih h.2]

theorem isInner_of_digitValue? {base : Nat} (hb : base ≤ 16) {c : Char}
    (h : (digitValue? base c).isSome = true) : isInner c = true := by
  by_contra hc
  have hc : c = '\'' ∨ c = '\\' := by simpa [isInner, or_iff_not_imp_left] using hc
  rcases hc with rfl | rfl <;> simp [digitValue?] at h <;> omega

/-- Digits at the start of a text. -/
structure Digits (gs rest : List Glyph) (ds : List Char) : Prop where
  front : chars gs = ds ++ chars rest
  inner : ∀ c ∈ ds, isInner c = true

theorem digits_nil (gs : List Glyph) : Digits gs gs [] := ⟨rfl, by simp⟩

theorem digits_someDigits {base : Nat} (hb : base ≤ 16) (n : Nat) (gs : List Glyph) :
    Digits gs (someDigits base n gs).2 (someDigits base n gs).1 := by
  fun_induction someDigits base n gs with
  | case1 gs => exact digits_nil gs
  | case2 => exact digits_nil []
  | case3 n g gs hg cs rest hs ih =>
    rw [hs] at ih
    refine ⟨congrArg (g.char :: ·) ih.front, ?_⟩
    exact List.forall_mem_cons.2 ⟨isInner_of_digitValue? hb hg, ih.inner⟩
  | case4 n g gs hg => exact digits_nil _

theorem isInner_of_digitsValue? {cs : List Char} {n : Nat} (h : digitsValue? 16 cs = some n) :
    ∀ c ∈ cs, isInner c = true := by
  have fold (cs : List Char) : ∀ start, cs.foldlM (fun n c => (digitValue? 16 c).map (n * 16 + ·))
      start = some n → ∀ c ∈ cs, isInner c = true := by
    induction cs with
    | nil => simp
    | cons c cs ih =>
      intro start h
      rw [List.foldlM_cons] at h
      cases hd : digitValue? 16 c with
      | none =>
        rw [hd] at h
        cases h
      | some d =>
        rw [hd] at h
        exact List.forall_mem_cons.2
          ⟨isInner_of_digitValue? (Nat.le_refl 16) (by rw [hd]; rfl), ih _ h⟩
  unfold digitsValue? at h
  split at h
  · simp
  · exact fold cs 0 h

theorem isInner_of_fixedHex? {cs : List Char} {n : Nat} (h : fixedHex? cs = some n) :
    ∀ c ∈ cs, isInner c = true := by
  unfold fixedHex? at h
  split at h
  · exact List.forall_mem_cons.2 ⟨by decide, isInner_of_digitsValue? h⟩
  · exact isInner_of_digitsValue? h

theorem digits_fixedCodePoint {n : Nat} {gs rest : List Glyph} {c : Char}
    (h : fixedCodePoint n gs = some (c, rest)) : Digits gs rest (chars (gs.take n)) := by
  unfold fixedCodePoint at h
  split at h
  · cases h
  · obtain ⟨d, hd, hr⟩ := Option.map_eq_some_iff.1 h
    obtain ⟨m, hm, -⟩ := Option.bind_eq_some_iff.1 hd
    cases hr
    exact ⟨by rw [chars, chars, chars, ← List.map_append, List.take_append_drop],
      isInner_of_fixedHex? hm⟩

/-- An escape takes one character, and digits behind it. -/
theorem digits_readEscape {g : Glyph} {gs rest : List Glyph} {c : Char}
    (h : readEscape (g :: gs) = some (c, rest)) : ∃ ds, Digits gs rest ds := by
  simp only [readEscape] at h
  split at h
  case h_6 => exact ⟨_, digits_fixedCodePoint h⟩
  case h_7 => exact ⟨_, digits_fixedCodePoint h⟩
  case h_8 =>
    have hd := digits_someDigits (Nat.le_refl 16) 2 gs
    split at h
    · cases h
      exact ⟨_, digits_nil gs⟩
    · next ds rest' _ hs =>
      obtain ⟨d, -, hr⟩ := Option.map_eq_some_iff.1 h
      cases hr
      rw [hs] at hd
      exact ⟨_, hd⟩
  case h_9 =>
    split at h
    · obtain ⟨d, -, hr⟩ := Option.map_eq_some_iff.1 h
      cases hr
      exact ⟨_, digits_someDigits (by decide : 8 ≤ 16) 2 gs⟩
    · cases h
      exact ⟨_, digits_nil gs⟩
  all_goals
    cases h
    exact ⟨_, digits_nil gs⟩

/-- Behind a backslash, the character after it and digits a literal goes on. -/
theorem Digits.passes {gs tail rest : List Glyph} {ds : List Char} (hd : Digits gs tail ds)
    (c : Char) (hp : Passes '\'' (chars tail) (chars rest)) :
    Passes '\'' ('\\' :: c :: chars gs) (chars rest) := by
  refine .congr ?_ hp
  rw [Script.throughQuote_escape, hd.front, throughQuote_inner hd.inner]

theorem passes_readEscaped {fuel : Nat} {gs rest : List Glyph} {t : List Char}
    (h : readEscaped fuel gs = some (t, rest)) : Passes '\'' (chars gs) (chars rest) := by
  have hq : isQuote '\'' = true := by decide
  fun_induction readEscaped fuel gs generalizing t with
  | case1 => cases h
  | case2 => cases h
  | case3 fuel g hg g' gs hg' ih =>
    obtain ⟨t', h, -⟩ := eq_some_of_consRead h
    refine .again ?_ (ih h)
    rw [chars_cons, hg, throughQuote_quote hq, chars_cons, hg']
  | case4 fuel g hg g' gs hg' =>
    cases h
    refine .stop ?_
    rw [chars_cons, hg, throughQuote_quote hq]
  | case5 fuel g hg =>
    cases h
    exact .atEnd _
  | case6 fuel g gs hg hb c tail he hc => cases h
  | case7 fuel g gs hg hb c tail he hc ih =>
    obtain ⟨t', h, -⟩ := eq_some_of_consRead h
    match gs with
    | [] => cases he
    | g' :: gs =>
      obtain ⟨ds, hd⟩ := digits_readEscape he
      rw [chars_cons, chars_cons, hb]
      exact hd.passes g'.char (ih h)
  | case8 fuel g gs hg hb he => cases h
  | case9 fuel g gs hg hb ih =>
    obtain ⟨t', h, -⟩ := eq_some_of_consRead h
    exact .congr (throughQuote_other hb hg _) (ih h)

theorem digits_readCodePoint {finish : Place} {n value : Nat} {gs rest : List Glyph} {c : Char}
    (h : readCodePoint finish n value gs = .ok (c, rest)) :
    ∃ ds, Digits gs rest ds ∧ ds.length = n := by
  fun_induction readCodePoint finish n value gs with
  | case1 value gs c' hc =>
    cases h
    exact ⟨[], digits_nil rest, rfl⟩
  | case2 => cases h
  | case3 => cases h
  | case4 value n g gs d hd ih =>
    obtain ⟨ds, hds, hl⟩ := ih h
    refine ⟨g.char :: ds, ⟨congrArg (g.char :: ·) hds.front, ?_⟩, congrArg (· + 1) hl⟩
    exact List.forall_mem_cons.2
      ⟨isInner_of_digitValue? (Nat.le_refl 16) (by rw [hd]; rfl), hds.inner⟩
  | case5 => cases h

/-- The digits of a code point stand behind the character after the backslash, or begin with
it. -/
theorem digits_readCodePoint_of_escape {finish : Place} {g : Glyph} {gs start rest : List Glyph}
    {n : Nat} {c : Char} (hs : (if g.char = '+' then (6, gs) else (4, g :: gs)) = (n, start))
    (h : readCodePoint finish n 0 start = .ok (c, rest)) : ∃ ds, Digits gs rest ds := by
  split at hs
  · cases hs
    obtain ⟨ds, hd, -⟩ := digits_readCodePoint h
    exact ⟨ds, hd⟩
  · cases hs
    obtain ⟨ds, hd, hl⟩ := digits_readCodePoint h
    obtain ⟨d, ds, rfl⟩ := List.exists_cons_of_length_eq_add_one hl
    exact ⟨ds, (List.cons.inj hd.front).2, (List.forall_mem_cons.1 hd.inner).2⟩

theorem passes_readUnicode {finish : Place} {fuel : Nat} {gs rest : List Glyph} {t : List Char}
    (h : readUnicode finish fuel gs = .ok (t, rest)) : Passes '\'' (chars gs) (chars rest) := by
  have hq : isQuote '\'' = true := by decide
  induction fuel generalizing gs t with
  | zero => cases h
  | succ fuel ih =>
    match gs with
    | [] => cases h
    | g :: gs =>
      unfold readUnicode at h
      simp only at h
      split at h
      · next hg =>
        rw [chars_cons, hg]
        match gs with
        | [] =>
          cases h
          exact .atEnd _
        | g' :: gs =>
          simp only at h
          split at h
          · next hg' =>
            obtain ⟨t', h⟩ := eq_ok_of_readThen h
            refine .again ?_ (ih h)
            rw [throughQuote_quote hq, chars_cons, hg']
          · cases h
            exact .stop (by rw [throughQuote_quote hq])
      · next hg =>
        split at h
        · next hb =>
          rw [chars_cons, hb]
          match gs with
          | [] =>
            cases h
          | g' :: gs =>
            simp only at h
            split at h
            · obtain ⟨t', h⟩ := eq_ok_of_readThen h
              exact (digits_nil gs).passes g'.char (ih h)
            · split at h
              · next c tail hc =>
                obtain ⟨t', h⟩ := eq_ok_of_readThen h
                obtain ⟨ds, hd⟩ := digits_readCodePoint_of_escape rfl hc
                exact hd.passes g'.char (ih h)
              · cases h
        · next hb =>
          obtain ⟨t', h⟩ := eq_ok_of_readThen h
          exact .congr (throughQuote_other hb hg _) (ih h)

/-! ### Names and comments -/

/-- Between double quotes a name is a literal without escapes. -/
theorem readName_eq_readQuoted (close : Char) (gs : List Glyph) :
    readName close gs = readQuoted close false false gs := by
  fun_induction readName close gs with
  | case1 => rfl
  | case2 g hg => rw [readQuoted, if_pos hg]
  | case3 g hg => rw [readQuoted, if_neg hg]
  | case4 g g' gs hg hg' ih => rw [readQuoted, if_pos hg, if_pos hg', ih]
  | case5 g g' gs hg hg' => rw [readQuoted, if_pos hg, if_neg hg']
  | case6 g g' gs hg ih => rw [readQuoted_cons_other hg (by simp), ih]

namespace Rules

variable {r : Rules}

/-- A character leads on as a lexeme of its own, unless it opens a literal where there is room for
one. -/
theorem Follows.tail {z z' : Zone} {c : Char} {cs : List Char} (h : r.Follows z (c :: cs))
    (hquote : isQuote c = true → ∀ text ls, r.next z (.literal text) ls = none)
    (hnext : ∀ ls, r.next z (.ordinary c) ls = some z') : r.Follows z' cs := by
  intro hs
  obtain ⟨hb, hf⟩ := h (List.mem_cons_of_mem c hs)
  cases hq : isQuote c with
  | true =>
    have hc := not_calm (List.mem_cons_of_mem c hs)
    rw [Script.lexemes_cons_quote hq] at hf hc
    obtain ⟨z'', hz, -⟩ := exists_next hc hf
    rw [hquote hq] at hz
    cases hz
  | false =>
    obtain ⟨hl, hb, -⟩ := lexemes_cons_of_bare hb hq
    rw [hl] at hf
    obtain ⟨z'', hz, hf⟩ := exists_next (not_calm_cons hs) hf
    rw [hnext] at hz
    cases hz
    exact ⟨hb, hf⟩

theorem Follows.tail_name {close c : Char} {cs : List Char}
    (h : r.Follows (.name close) (c :: cs)) :
    r.Follows (if c = close then .behind close else .name close) cs :=
  h.tail (fun _ _ _ => rfl) fun _ => by simp [next, isLiteral]

theorem Follows.tail_comment {c : Char} {cs : List Char} (h : r.Follows .comment (c :: cs)) :
    r.Follows (if c = '\n' then .outside else .comment) cs :=
  h.tail (fun _ _ _ => rfl) fun _ => by simp [next, isLiteral]

/-- Behind a name its closing mark opens it again. -/
theorem Follows.again {close : Char} {cs : List Char} (h : r.Follows (.behind close) (close :: cs))
    (hq : isQuote close = false) : r.Follows (.name close) cs :=
  h.tail (fun hq' => absurd hq' (by simp [hq])) fun _ => if_pos rfl

/-- Any other character behind a name stands outside. -/
theorem Follows.inStep {close c : Char} {cs : List Char} (h : r.Follows (.behind close) (c :: cs))
    (hc : c ≠ close) : r.InStep (c :: cs) := by
  have outside {l : Script.Lexeme} (ls : List Script.Lexeme) (hl : l ≠ .ordinary close) :
      r.follows (.behind close) (l :: ls) = r.follows .outside (l :: ls) := by
    have hnext : r.next (.behind close) l ls = r.next .outside l ls := if_neg hl
    rw [follows, follows, hnext]
  intro hs
  obtain ⟨hb, hf⟩ := h hs
  refine ⟨hb, ?_⟩
  cases hq : isQuote c with
  | true =>
    rw [Script.lexemes_cons_quote hq] at hf ⊢
    rwa [outside _ (by simp)] at hf
  | false =>
    rw [(lexemes_cons_of_bare hb hq).1] at hf ⊢
    rwa [outside _ (by simpa using hc)] at hf

/-- A name in marks of its own leaves the text behind it in step. -/
theorem inStep_readName {close : Char} (hc : isQuote close = false) {gs rest : List Glyph}
    {t : List Char} (hread : readName close gs = some (t, rest))
    (h : r.Follows (.name close) (chars gs)) : r.InStep (chars rest) := by
  fun_induction readName close gs generalizing t with
  | case1 => cases hread
  | case2 g hg =>
    cases hread
    exact inStep_nil
  | case3 g hg => cases hread
  | case4 g g' gs hg hg' ih =>
    obtain ⟨t', hread, -⟩ := eq_some_of_consRead hread
    rw [chars_cons] at h
    have h := h.tail_name
    rw [if_pos hg, chars_cons, hg'] at h
    exact ih hread (h.again hc)
  | case5 g g' gs hg hg' =>
    cases hread
    rw [chars_cons] at h
    have h := h.tail_name
    rw [if_pos hg, chars_cons] at h
    exact h.inStep hg'
  | case6 g g' gs hg ih =>
    obtain ⟨t', hread, -⟩ := eq_some_of_consRead hread
    rw [chars_cons] at h
    have h := h.tail_name
    rw [if_neg hg] at h
    exact ih hread h

/-- So does a comment that ends with its line. -/
theorem inStep_readLine {gs : List Glyph} (h : r.Follows .comment (chars gs)) :
    r.InStep (chars (readLine false gs).2) := by
  induction gs with
  | nil => exact inStep_nil
  | cons g gs ih =>
    rw [chars_cons] at h
    have h := h.tail_comment
    by_cases hg : g.char = '\n'
    · rw [if_pos hg] at h
      rw [readLine, if_pos (.inl hg)]
      exact h
    · rw [if_neg hg] at h
      rw [readLine, if_neg (by simp [hg])]
      exact ih h

end Rules

end TableFeed.Sql
