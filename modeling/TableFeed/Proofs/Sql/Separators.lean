import TableFeed.Sql.Single

/-!
# Texts without separators

Readers go about the tokens of a text, but they do not change them. Where no token is a semicolon,
none is read, so that no second statement is ever begun: such a text holds one statement at most.

    behind a statement ── ; ──▶ before the next one
                       ── anything else ──▶ refused
-/

namespace TableFeed.Sql

namespace Read

variable {α β : Type}

/-- A reader that succeeds has read both its parts. -/
theorem bind_eq_ok {p : Read α} {f : α → Read β} {env : Env} {start finish : Nat} {b : β}
    (h : (p >>= f) env start = (.ok b, finish)) :
    ∃ a middle, p env start = (.ok a, middle) ∧ f a env middle = (.ok b, finish) := by
  have hb : (p >>= f) env start = (ExceptT.bind (p env) fun a => f a env) start := rfl
  rw [hb] at h
  simp only [ExceptT.bind, ExceptT.mk, bind, StateT.bind] at h
  rcases hp : p env start with ⟨e | a, middle⟩
  · rw [hp] at h
    cases h
  · rw [hp] at h
    exact ⟨a, middle, rfl, h⟩

theorem pure_eq_ok {a b : α} {env : Env} {start finish : Nat}
    (h : (pure a : Read α) env start = (.ok b, finish)) : a = b ∧ start = finish := by
  have hp : (pure a : Read α) env start = (.ok a, start) := rfl
  rw [hp] at h
  cases h
  exact ⟨rfl, rfl⟩

/-- What every round of a repetition keeps is kept by all of them. -/
theorem repeatedly_invariant {step : α → Read (Option α)} {env : Env} {P : α → Prop}
    (hstep : ∀ a b start finish, P a → step a env start = (.ok (some b), finish) → P b) :
    ∀ (n : Nat) {a b : α} {start finish : Nat}, P a →
      repeatedly step n a env start = (.ok b, finish) → P b := by
  intro n
  induction n with
  | zero =>
    intro a b start finish ha h
    obtain ⟨rfl, -⟩ := pure_eq_ok h
    exact ha
  | succ n ih =>
    intro a b start finish ha h
    obtain ⟨next, middle, hs, h⟩ := bind_eq_ok h
    cases next with
    | none =>
      obtain ⟨rfl, -⟩ := pure_eq_ok h
      exact ha
    | some c => exact ih (hstep a c start middle ha hs) h

theorem iterate_invariant {step : α → Read (Option α)} {env : Env} {P : α → Prop}
    (hstep : ∀ a b start finish, P a → step a env start = (.ok (some b), finish) → P b)
    {a b : α} {start finish : Nat} (ha : P a)
    (h : iterate a step env start = (.ok b, finish)) : P b := by
  obtain ⟨e, middle, -, h⟩ := bind_eq_ok h
  exact repeatedly_invariant hstep _ ha h

/-- A mark that is no token of the text is not taken. -/
theorem symbol_eq_ok {env : Env} {s : String} (h : ∀ l ∈ env.tokens, l.token ≠ .symbol s)
    {start finish : Nat} {b : Bool} (hb : symbol s env start = (.ok b, finish)) : b = false := by
  obtain ⟨here, middle, hs, hb⟩ := bind_eq_ok hb
  have hh : here = false := by
    obtain ⟨t, place, hp, hs⟩ := bind_eq_ok hs
    have hd : peek 0 env start =
        (.ok (((env.tokens.drop start)[0]?).map fun l => l.token), start) := rfl
    rw [hd] at hp
    cases hp
    obtain ⟨rfl, -⟩ := pure_eq_ok hs
    cases hg : (env.tokens.drop start)[0]? with
    | none => rfl
    | some l =>
      have hm := h l (List.mem_of_mem_drop (List.mem_of_getElem? hg))
      simp only [Option.map_some]
      split
      · next x heq =>
        rw [beq_eq_false_iff_ne]
        rintro rfl
        exact hm (Option.some.inj heq)
      · rfl
  subst hh
  exact (pure_eq_ok hb).1.symm

theorem expected_ne_ok {what : String} {env : Env} {start finish : Nat} {a : α} :
    (expected what : Read α) env start ≠ (.ok a, finish) := by
  intro h
  obtain ⟨left, middle, -, h⟩ := bind_eq_ok h
  cases h

end Read

/-- A round reads a statement only where none is left open before it. -/
theorem length_statementRound {g : Grammar} {env : Env}
    (h : ∀ l ∈ env.tokens, l.token ≠ .symbol ";") (a b : List Statement × Bool × Bool)
    (start finish : Nat) (ha : a.1.length ≤ a.2.1.toNat)
    (hb : statementRound g a env start = (.ok (some b), finish)) : b.1.length ≤ b.2.1.toNat := by
  obtain ⟨done, behind, finished⟩ := a
  unfold statementRound at hb
  cases finished with
  | true => exact absurd (Read.pure_eq_ok hb).1 (by simp)
  | false =>
    obtain ⟨semicolon, middle, hs, hb⟩ := Read.bind_eq_ok hb
    obtain rfl := Read.symbol_eq_ok h hs
    obtain ⟨ended, middle, -, hb⟩ := Read.bind_eq_ok hb
    cases ended with
    | true => exact absurd (Read.pure_eq_ok hb).1 (by simp)
    | false =>
      cases behind with
      | true =>
        obtain ⟨last, middle, -, hb⟩ := Read.bind_eq_ok hb
        cases last with
        | true =>
          obtain ⟨hb, -⟩ := Read.pure_eq_ok hb
          cases hb
          exact ha
        | false =>
          obtain ⟨_, middle, he, -⟩ := Read.bind_eq_ok hb
          exact absurd he Read.expected_ne_ok
      | false =>
        obtain ⟨found, middle, -, hb⟩ := Read.bind_eq_ok hb
        obtain ⟨hb, -⟩ := Read.pure_eq_ok hb
        cases hb
        simpa using ha

theorem length_script {g : Grammar} {env : Env} (h : ∀ l ∈ env.tokens, l.token ≠ .symbol ";")
    {start finish : Nat} {found : List Statement}
    (hf : script g env start = (.ok found, finish)) : found.length ≤ 1 := by
  obtain ⟨state, middle, hi, hf⟩ := Read.bind_eq_ok hf
  obtain ⟨rfl, -⟩ := Read.pure_eq_ok hf
  have h0 : ([] : List Statement).length ≤ false.toNat := Nat.le_refl 0
  have hl : state.1.length ≤ state.2.1.toNat := Read.iterate_invariant
    (P := fun a : List Statement × Bool × Bool => a.1.length ≤ a.2.1.toNat)
    (length_statementRound h) h0 hi
  rw [List.length_reverse]
  exact Nat.le_trans hl (Bool.toNat_le _)

/-- A text without semicolons holds one statement at most. -/
theorem length_statements_le_one {rules : Rules} {text : String} {ls : List Lexeme}
    (hls : tokens rules text = .ok ls) (h : ∀ l ∈ ls, l.token ≠ .symbol ";")
    {found : List Statement} (hf : statements rules text = .ok found) : found.length ≤ 1 := by
  unfold statements readWith at hf
  rw [hls] at hf
  simp only [bind, Except.bind, pure, Except.pure] at hf
  split at hf
  · cases hf
  · next result hr =>
    split at hr
    · next found' finish hs =>
      cases hr
      cases hf
      exact length_script h hs
    · cases hr

/-- So it is one statement or none, if it can be read at all. -/
theorem parse_ne_multiple {d : Dialect} {text : String}
    (h : ∀ ls, tokens d.rules text = .ok ls → ∀ l ∈ ls, l.token ≠ .symbol ";") (n : Nat) :
    parse d text ≠ .error (.multiple n) := by
  intro hp
  unfold parse at hp
  split at hp
  · next found hf =>
    cases hls : tokens d.rules text with
    | error e =>
      unfold statements readWith at hf
      rw [hls] at hf
      cases hf
    | ok ls =>
      have hl := length_statements_le_one hls (h ls hls) hf
      match found, hl with
      | [], _ => cases hp
      | [s], _ => cases hp
  · cases hp

end TableFeed.Sql
