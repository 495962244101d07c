import TableFeed.Proofs.Sql.Separators
import TableFeed.Sql.Arithmetic

/-!
# Expressions that begin with a text

An expression whose first token is a text in quotes has no value: the operand that is read first is
that text or a form around it, and whatever operators follow, that operand stays on the left of all
of them. So the property of having no value is carried from the operand through every round of
reading operators; what is read on the right of an operator does not matter.

    'a' || 1 + 2   ⟶   +( ||( 'a' , 1 ) , 2 )        'a' || 'b'   ⟶   ||( 'a' , 'b' )
-/

namespace TableFeed.Sql

namespace Read

variable {α β : Type} {P : α → Prop}

/-! ### What a reader gives -/

/-- Whatever a reader gives has some property, wherever it starts. -/
def Yields (P : α → Prop) (p : Read α) : Prop :=
  ∀ env start a finish, p env start = (.ok a, finish) → P a

theorem Yields.bind_of {Q : β → Prop} {p : Read β} {f : β → Read α} (hp : Yields Q p)
    (h : ∀ b, Q b → Yields P (f b)) : Yields P (p >>= f) := by
  intro env start a finish ha
  obtain ⟨b, middle, hb, ha⟩ := bind_eq_ok ha
  exact h b (hp env start b middle hb) env middle a finish ha

theorem Yields.bind {p : Read β} {f : β → Read α} (h : ∀ b, Yields P (f b)) :
    Yields P (p >>= f) :=
  Yields.bind_of (fun _ _ _ _ _ => trivial) fun b _ => h b

theorem Yields.pure {a : α} (h : P a) : Yields P (Pure.pure a) := by
  intro env start b finish hb
  exact (pure_eq_ok hb).1 ▸ h

theorem Yields.throw {e : SyntaxError} : Yields P (throw e) := by
  intro env start b finish hb
  cases hb

theorem Yields.failAt {text : String} {tokens : List Lexeme} : Yields P (Read.failAt text tokens) :=
  Yields.throw

theorem Yields.expected {what : String} : Yields P (Read.expected what) :=
  Yields.bind fun _ => Yields.failAt

/-- An attempt that fails takes no token. -/
theorem attempt_eq_none {p : Read α} {env : Env} {start finish : Nat}
    (h : attempt p env start = (.ok none, finish)) : finish = start := by
  unfold attempt at h
  split at h <;> cases h
  rfl

theorem attempt_eq_some {p : Read α} {env : Env} {start finish : Nat} {a : α}
    (h : attempt p env start = (.ok (some a), finish)) : p env start = (.ok a, finish) := by
  unfold attempt at h
  split at h <;> cases h
  assumption

/-- The next token is known, and looking at it changes nothing. -/
theorem peek_eq_ok {env : Env} {start finish : Nat} {t : Option Token}
    (h : peek 0 env start = (.ok t, finish)) :
    t = (env.tokens[start]?).map (·.token) ∧ finish = start := by
  have hp : peek 0 env start = (.ok (((env.tokens.drop start)[0]?).map (·.token)), start) := rfl
  rw [hp, List.getElem?_drop, Nat.add_zero] at h
  cases h
  exact ⟨rfl, rfl⟩

end Read

open Read

/-! ### Expressions without a value -/

/-- An expression has no value. -/
def NoNumber (e : Expr) : Prop := e.number? = none

theorem noNumber_form (p : Phrase) : NoNumber p.form := rfl

theorem noNumber_quoted (q : Quoting) (s : String) : NoNumber (.literal (.quoted q s)) := rfl

theorem noNumber_binary {l : Expr} (h : NoNumber l) (op : BinaryOp) (r : Expr) :
    NoNumber (.binary l op r) := by
  rw [NoNumber, Expr.number?, h]

namespace ExprReader

/-- Fields and subscripts give no value to an operand. -/
theorem noNumber_linked {root : Expr} (h : NoNumber root) (links : List Link) :
    NoNumber (linked root links) := by
  unfold linked
  split
  · exact h
  · split
    · rfl
    · split <;> rfl
  · rfl

variable {g : Grammar} {left : Expr}

/-! ### Operators -/

theorem yields_binary (h : NoNumber left) (op : BinaryOp) (precedence : Nat)
    (start : List Lexeme) : Yields NoNumber (binary g left op precedence start) := by
  unfold binary
  refine .bind fun quantifier => ?_
  split
  · refine .bind fun operand => ?_
    dsimp only
    split
    · exact .pure (noNumber_form _)
    · exact .bind fun _ => .pure (noNumber_form _)
  · exact .bind fun right => .pure (noNumber_binary h op right)

theorem yields_isForm : Yields NoNumber (isForm g left) := by
  unfold isForm
  refine .bind fun test => ?_
  split
  · exact .pure (noNumber_form _)
  · refine .bind fun distinct => ?_
    split
    · exact .bind fun _ => .pure (noNumber_form _)
    · refine .bind fun notDistinct => ?_
      split
      · exact .bind fun _ => .pure (noNumber_form _)
      · refine .bind fun normal => ?_
        split
        · exact .pure (noNumber_form _)
        · exact .expected

theorem yields_inForm (negation : String) : Yields NoNumber (inForm g left negation) := by
  unfold inForm
  refine .bind fun unnest => ?_
  split
  · exact .bind fun _ => .pure (noNumber_form _)
  · refine .bind fun _ => .bind fun query => ?_
    dsimp only
    split
    · exact .bind fun _ => .bind fun _ => .pure (noNumber_form _)
    · refine .bind fun empty => ?_
      split
      · exact .bind fun _ => .bind fun _ => .bind fun _ => .pure (noNumber_form _)
      · exact .bind fun _ => .bind fun _ => .bind fun _ => .pure (noNumber_form _)

theorem yields_pattern (words : String) : Yields NoNumber (pattern g left words) :=
  .bind fun _ => .bind fun _ => .bind fun _ => .bind fun _ => .pure (noNumber_form _)

theorem yields_testForm : Yields NoNumber (testForm g left) := by
  unfold testForm
  refine .bind fun negated => .bind fun regexp => .bind fun rlike => .bind fun column => ?_
  dsimp only
  split
  all_goals
    refine .bind fun null => ?_
    split
    · exact .bind fun _ => .bind fun _ => .pure (noNumber_form _)
    · split
      · exact .pure (noNumber_form _)
      · refine .bind fun isIn => ?_
        split
        · exact yields_inForm _
        · refine .bind fun isBetween => ?_
          split
          · exact .bind fun _ => .bind fun _ => .bind fun _ => .bind fun _ => .bind fun _ =>
              .pure (noNumber_form _)
          · refine .bind fun isLike => ?_
            split
            · exact yields_pattern _
            · refine .bind fun isILike => ?_
              split
              · exact yields_pattern _
              · refine .bind fun isSimilar => ?_
                split
                · exact .bind fun _ => .bind fun _ => .bind fun _ => .pure (noNumber_form _)
                · exact .expected

theorem yields_wordForm (h : NoNumber left) (w : Word) (precedence : Nat) (start : List Lexeme) :
    Yields NoNumber (wordForm g left w precedence start) := by
  unfold wordForm
  refine .bind fun rules => ?_
  dsimp only
  split
  · split
    · exact .bind fun right => .pure (noNumber_binary h _ right)
    · exact .failAt
  · split
    · exact .bind fun name => yields_binary h _ precedence start
    · exact .failAt
  · exact yields_isForm
  · exact .bind fun _ => .bind fun _ => .pure (noNumber_form _)
  · split
    · exact .bind fun right => .pure (noNumber_binary h _ right)
    · exact .bind fun _ => yields_testForm
  iterate 7 exact .bind fun _ => yields_testForm
  · split
    · exact .bind fun right => .pure (noNumber_binary h _ right)
    · exact .failAt
  · exact .pure (noNumber_form _)
  · refine .bind fun isOf => ?_
    split
    · exact .bind fun _ => .pure (noNumber_form _)
    · exact .expected
  · exact .failAt

/-- An operator behind an operand without a value gives none. -/
theorem yields_infixed (h : NoNumber left) (precedence : Nat) :
    Yields NoNumber (infixed g left precedence) := by
  unfold infixed
  refine .bind fun start => .bind fun token => ?_
  split
  · exact .pure h
  · refine .bind fun rules => ?_
    split
    · exact yields_binary h _ precedence start
    · split
      · exact yields_wordForm h _ precedence start
      · exact .bind fun _ => .pure (noNumber_form _)
      · refine .bind fun isOpen => ?_
        split
        · exact .pure rfl
        · exact .failAt
      · exact .failAt

/-! ### The first operand -/

theorem yields_compound {root : Expr} (h : NoNumber root) : Yields NoNumber (compound g root) := by
  unfold compound
  refine .bind fun chain => ?_
  dsimp only
  split
  · split
    · exact .pure rfl
    · exact .expected
  · exact .pure (noNumber_linked h _)

theorem yields_intervalEnd (start : Phrase) : Yields NoNumber (FormReader.intervalEnd start) := by
  unfold FormReader.intervalEnd
  refine .bind fun isTo => ?_
  split
  · refine .bind fun last => ?_
    dsimp only
    split
    · exact .bind fun _ => .pure (noNumber_form _)
    · exact .bind fun _ => .pure (noNumber_form _)
  · exact .pure (noNumber_form _)

theorem yields_interval : Yields NoNumber (FormReader.interval g) := by
  unfold FormReader.interval
  refine .bind fun qualified => ?_
  dsimp only
  cases qualified
  all_goals
    refine .bind fun amount => .bind fun unit => ?_
    split
    · refine .bind fun _ => ?_
      split
      · refine .bind fun places => ?_
        split <;> exact .pure (noNumber_form _)
      · exact .bind fun _ => yields_intervalEnd _
    · first
      | exact .bind fun _ => .failAt
      | exact .bind fun _ => yields_intervalEnd _

theorem yields_typed : Yields NoNumber (typed g) := by
  unfold typed
  refine .bind fun here => .bind fun type => ?_
  split
  · exact yields_interval
  · split
    · exact .failAt
    · exact .bind fun _ => .pure (noNumber_form _)

/-- A text in quotes is a value. -/
theorem value_of_quoted {env : Env} {start finish : Nat} {s : String} {v : Literal}
    (ht : (env.tokens[start]?).map (·.token) = some (.quoted .single s))
    (h : value env start = (.ok v, finish)) : ∃ t, v = .quoted .single t := by
  unfold value at h
  obtain ⟨t, middle, hp, h⟩ := bind_eq_ok h
  obtain ⟨rfl, rfl⟩ := peek_eq_ok hp
  rw [ht] at h
  obtain ⟨_, middle, -, h⟩ := bind_eq_ok h
  obtain ⟨joined, middle, -, h⟩ := bind_eq_ok h
  exact ⟨joined, (pure_eq_ok h).1.symm⟩

theorem simple_of_quoted {env : Env} {start finish : Nat} {s : String} {e : Expr}
    (ht : (env.tokens[start]?).map (·.token) = some (.quoted .single s))
    (h : simple g env start = (.ok e, finish)) : NoNumber e := by
  unfold simple at h
  obtain ⟨t, middle, hp, h⟩ := bind_eq_ok h
  obtain ⟨rfl, rfl⟩ := peek_eq_ok hp
  rw [ht] at h
  obtain ⟨v, middle, hv, h⟩ := bind_eq_ok h
  obtain ⟨t, rfl⟩ := value_of_quoted ht hv
  obtain ⟨rfl, -⟩ := pure_eq_ok h
  exact noNumber_quoted .single t

theorem yields_collated {e : Expr} (h : NoNumber e) (collates : Bool) :
    Yields NoNumber (do
      let inColumn ← isWithin .column
      if ← only (collates && !inColumn) (keyword "COLLATE") then
        let name ← objectName
        return Phrase.form (.expr e ++ .text (" COLLATE " ++ renderName name))
      return e) := by
  refine .bind fun inColumn => .bind fun collated => ?_
  split
  · exact .bind fun _ => .pure (noNumber_form _)
  · exact .pure h

/-- The operand that begins with a text has no value. -/
theorem primary_of_quoted {env : Env} {start finish : Nat} {s : String} {e : Expr}
    (ht : (env.tokens[start]?).map (·.token) = some (.quoted .single s))
    (h : primary g env start = (.ok e, finish)) : NoNumber e := by
  obtain ⟨tried, middle, ha, hrest⟩ := bind_eq_ok h
  cases tried with
  | some found =>
    obtain ⟨rfl, -⟩ := pure_eq_ok hrest
    exact yields_typed env start found middle (attempt_eq_some ha)
  | none =>
    rw [attempt_eq_none ha] at hrest
    obtain ⟨t, middle, hp, hrest⟩ := bind_eq_ok hrest
    obtain ⟨rfl, rfl⟩ := peek_eq_ok hp
    rw [ht] at hrest
    obtain ⟨operand, middle, hs, hrest⟩ := bind_eq_ok hrest
    exact yields_collated (simple_of_quoted ht hs) true env middle e finish hrest

/-- One round of reading operators, behind an operand without a value. -/
theorem yields_round (h : NoNumber left) (precedence : Nat) :
    Yields (fun found : Option Expr => ∀ e ∈ found, NoNumber e) (do
      let next ← nextPrecedence
      if precedence ≥ next then return none
      if ← isSymbol "." then return none
      return some (← infixed g left next)) := by
  refine .bind fun next => ?_
  split
  · exact .pure nofun
  · refine .bind fun isPeriod => ?_
    split
    · exact .pure nofun
    · refine .bind_of (yields_infixed h next) fun e he => .pure ?_
      rintro _ ⟨⟩
      exact he

/-- No expression that begins with a text has a value. -/
theorem expr_of_quoted {env : Env} {start finish : Nat} {s : String} {e : Expr} {precedence : Nat}
    (ht : (env.tokens[start]?).map (·.token) = some (.quoted .single s))
    (h : expr g precedence env start = (.ok e, finish)) : NoNumber e := by
  unfold expr nest at h
  split at h
  · cases h
  · next depth hd =>
    have ht' : (({ env with depth := depth }).tokens[start]?).map (·.token) =
        some (.quoted .single s) := ht
    obtain ⟨operand, middle, hp, h⟩ := bind_eq_ok h
    have hoperand : NoNumber operand := primary_of_quoted ht' hp
    obtain ⟨linked, middle', hc, h⟩ := bind_eq_ok h
    have hlinked : NoNumber linked := yields_compound hoperand _ _ _ _ hc
    refine iterate_invariant (fun a b start finish ha hstep => ?_) hlinked h
    exact yields_round ha precedence _ start (some b) finish hstep b rfl

end ExprReader

/-! ### Texts -/

namespace Lexer

variable {r : Rules} {finish : Place} {t : Token} {p p' : Progress}

/-- A quote begins a text, in every dialect. -/
theorem piece_of_quote {before : Option Token} {g : Glyph} {gs rest : List Glyph} {found : Piece}
    (hg : g.char = '\'') (h : piece r finish before g gs = .ok (found, rest)) :
    ∃ s, found = .token (.quoted .single s) := by
  have hm : marked r finish g gs = none := by
    unfold marked
    rw [hg]
    rfl
  have hp : piece r finish before g gs = literal r finish r.backslashEscapes .single (g :: gs) := by
    unfold piece
    simp only [hg, hm]
    rfl
  rw [hp] at h
  unfold literal at h
  simp only at h
  split at h
  · cases h
    exact ⟨_, rfl⟩
  · cases h

/-- The first token that has been read. -/
def BeginsWith (t : Token) (p : Progress) : Prop := (p.done.getLast?).map (·.token) = some t

theorem beginsWith_noteGap {text : String} {place : Place}
    (h : noteGap text place p = .ok p') (hp : BeginsWith t p) : BeginsWith t p' := by
  obtain ⟨done, before⟩ := p
  cases done with
  | nil => cases hp
  | cons l ls =>
    cases h
    cases ls with
    | nil =>
      dsimp only [BeginsWith] at hp ⊢
      split <;> exact hp
    | cons l' ls => exact hp

/-- A run cuts off one piece and goes on behind it. -/
theorem run_cons_eq_ok {onGap : GapRule} {fuel : Nat} {g : Glyph} {gs : List Glyph}
    (h : run r onGap finish (fuel + 1) p (g :: gs) = .ok p') :
    ∃ found rest q, piece r finish p.before g gs = .ok (found, rest) ∧
      (match found with
        | .gap text => onGap text g.place p
        | .token t =>
          .ok { done := { token := t, place := g.place } :: p.done, before := some t }) = .ok q ∧
      run r onGap finish fuel q rest = .ok p' := by
  rw [run] at h
  cases hcut : piece r finish p.before g gs with
  | error e =>
    rw [hcut] at h
    cases h
  | ok cut =>
    obtain ⟨found, rest⟩ := cut
    rw [hcut] at h
    cases found with
    | token t => exact ⟨.token t, rest, _, rfl, rfl, h⟩
    | gap text =>
      simp only [bind, Except.bind] at h
      split at h
      · cases h
      · next q hq => exact ⟨.gap text, rest, q, rfl, hq, h⟩

/-- The first token stays the first one. -/
theorem beginsWith_run (fuel : Nat) {gs : List Glyph} (hp : BeginsWith t p)
    (h : run r noteGap finish fuel p gs = .ok p') : BeginsWith t p' := by
  induction fuel generalizing p gs with
  | zero =>
    cases h
    exact hp
  | succ fuel ih =>
    cases gs with
    | nil =>
      cases h
      exact hp
    | cons g gs =>
      obtain ⟨found, rest, q, -, hq, h⟩ := run_cons_eq_ok h
      refine ih ?_ h
      cases found with
      | gap text => exact beginsWith_noteGap hq hp
      | token t' =>
        cases hq
        obtain ⟨done, before⟩ := p
        cases done with
        | nil => cases hp
        | cons l ls => exact hp

end Lexer

/-- The first token of a text that begins with a quote is a text in quotes. -/
theorem tokens_of_quote {r : Rules} (hr : r.commentHints = false) {text : String} {cs : List Char}
    (ht : text.toList = '\'' :: cs) {ls : List Lexeme} (h : tokens r text = .ok ls) :
    ∃ s, (ls[0]?).map (·.token) = some (.quoted .single s) := by
  unfold tokens at h
  simp only [hr, Bool.false_eq_true, if_false] at h
  split at h
  · next p hrun =>
    cases h
    rw [Lexer.runFrom, ht, glyphs] at hrun
    obtain ⟨found, rest, q, hcut, hq, hrun⟩ := Lexer.run_cons_eq_ok hrun
    obtain ⟨s, rfl⟩ := Lexer.piece_of_quote rfl hcut
    cases hq
    refine ⟨s, ?_⟩
    rw [← List.head?_eq_getElem?, List.head?_reverse]
    refine Lexer.beginsWith_run _ ?_ hrun
    rfl
  · cases h

/-- What is read from a text that begins with a quote has no value. -/
theorem noNumber_expression {r : Rules} (hr : r.commentHints = false) {text : String}
    {cs : List Char} (ht : text.toList = '\'' :: cs) {e : Expr} {rest : List Lexeme}
    (h : expression r text = .ok (e, rest)) : NoNumber e := by
  unfold expression readWith at h
  cases hl : tokens r text with
  | error e =>
    rw [hl] at h
    cases h
  | ok ls =>
    obtain ⟨s, hs⟩ := tokens_of_quote hr ht hl
    rw [hl] at h
    simp only [bind, Except.bind] at h
    split at h
    · next found pos hp =>
      cases h
      -- A text has some room, so that its grammar is not the empty one.
      obtain ⟨m, hm⟩ : ∃ m, 8 * (ls.length + 8) = m + 1 := ⟨8 * ls.length + 63, by omega⟩
      rw [hm] at hp
      have hp' : ExprReader.expr (grammar m) 0
          { rules := r, tokens := ls, depth := maxDepth, bound := ls.length + 8 } 0 =
            (.ok e, pos) := hp
      exact ExprReader.expr_of_quoted hs hp'
    · cases h

end TableFeed.Sql
