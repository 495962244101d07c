import TableFeed.Proofs.Model.Columns
import TableFeed.Proofs.Sql.LeadingText
import TableFeed.Sql.Single

/-!
# The defaults of columns

A default is recorded as it is shown, without a quote at either end. That is the text of a literal
only if the literal shows its quotes as they are, and it is no longer the whole expression if the
quotes at the ends belong to two literals.

    DEFAULT 'pending'      shown  'pending'      recorded  pending
    DEFAULT 'it''s'        shown  'it''s'        recorded  it''s
    DEFAULT 'a' || 'b'     shown  'a' || 'b'     recorded  a' || 'b

What is left is replaced by its value, if it has one. No value is written with a quote, and no text
that begins with a quote has a value, so that a text with quotes is never taken for another one by
its value.
-/

namespace TableFeed.Model

open TableFeed Sql

/-- A text as a default: its value if it has one, and else the text itself. -/
def recordedText (text : String) : String :=
  match numericValue text with
  | some v => Decimal.floatText v
  | none => text

/-- A text stands between two single quotes. -/
def InSingleQuotes (text : String) : Prop := ∃ inner, text = "'" ++ inner ++ "'"

/-- A text is recorded alike whether the quotes in it are doubled or not: none of them is, or the
text has a value and keeps it. -/
def SurvivesDoubling (s : String) : Prop :=
  inQuotes '\'' s = s ∨ ∃ v w, numericValue (inQuotes '\'' s) = some v ∧
    numericValue s = some w ∧ Decimal.floatText v = Decimal.floatText w

/-! ### Values as they are written -/

theorem quote_notMem_toDigits (n : Nat) : '\'' ∉ Nat.toDigits 10 n := fun h =>
  absurd (Nat.isDigit_of_mem_toDigits (by decide) (by decide) h) (by decide)

theorem quote_notMem_render (d : Decimal.Digits) : '\'' ∉ d.render.toList := by
  have hd := quote_notMem_toDigits d.digits
  have hz (n : Nat) : '\'' ∉ List.replicate n '0' := fun h =>
    absurd (List.eq_of_mem_replicate h) (by decide)
  unfold Decimal.Digits.render
  dsimp only
  split
  · rw [String.toList_ofList]
    split
    · decide
    · rw [List.mem_append, not_or]
      exact ⟨hd, hz _⟩
  · generalize hp : List.replicate _ '0' ++ Nat.toDigits 10 d.digits = padded
    -- the digits on either side of the dot are some of the padded ones
    have hpadded : '\'' ∉ padded := by
      rw [← hp, List.mem_append, not_or]
      exact ⟨hz _, hd⟩
    have hfraction (cs : List Char) (hcs : '\'' ∉ cs) :
        '\'' ∉ (cs.reverse.dropWhile (· == '0')).reverse := fun h =>
      hcs (List.mem_reverse.1 ((List.dropWhile_sublist _).subset (List.mem_reverse.1 h)))
    rw [String.toList_ofList, List.mem_append, not_or]
    refine ⟨fun h => hpadded (List.mem_of_mem_take h), ?_⟩
    split
    · exact List.not_mem_nil
    · rw [List.mem_cons, not_or]
      exact ⟨by decide, hfraction _ fun h => hpadded (List.mem_of_mem_drop h)⟩

/-- No value is written with a quote. -/
theorem quote_notMem_floatText (x : Float) : '\'' ∉ (Decimal.floatText x).toList := by
  unfold Decimal.floatText
  split
  · rw [String.toList_append, List.mem_append, not_or]
    constructor
    · split <;> decide
    · split
      · decide
      · exact quote_notMem_render _
  · split
    · decide
    · split <;> decide

/-! ### Texts that begin with a quote -/

theorem numericValue_of_quote {text : String} {cs : List Char} (ht : text.toList = '\'' :: cs) :
    numericValue text = none := by
  unfold numericValue
  split
  · rfl
  · split
    · next e he =>
      have hn : e.number? = none := noNumber_expression rfl ht he
      rw [hn]
      rfl
    · rfl

theorem recordedText_of_none {text : String} (h : numericValue text = none) :
    recordedText text = text := by
  rw [recordedText, h]

theorem recordedText_of_some {text : String} {v : Float} (h : numericValue text = some v) :
    recordedText text = Decimal.floatText v := by
  rw [recordedText, h]

/-- A text with a quote is recorded for no other text, unless both have a value. -/
theorem recordedText_eq_iff {a b : String} (ha : '\'' ∈ a.toList) (hb : '\'' ∈ b.toList) :
    recordedText a = recordedText b ↔ a = b ∨ ∃ v w, numericValue a = some v ∧
      numericValue b = some w ∧ Decimal.floatText v = Decimal.floatText w := by
  have hne (x : Float) {text : String} (ht : '\'' ∈ text.toList) : Decimal.floatText x ≠ text :=
    fun h => quote_notMem_floatText x (h ▸ ht)
  cases hv : numericValue a with
  | none =>
    rw [recordedText_of_none hv]
    cases hw : numericValue b with
    | none => simp [recordedText_of_none hw]
    | some w =>
      have hab : a ≠ b := fun h => by
        rw [h, hw] at hv
        cases hv
      simp [recordedText_of_some hw, (hne w ha).symm, hab]
  | some v =>
    rw [recordedText_of_some hv]
    cases hw : numericValue b with
    | none =>
      have hab : a ≠ b := fun h => by
        rw [h, hw] at hv
        cases hv
      simp [recordedText_of_none hw, hne v hb, hab]
    | some w =>
      rw [recordedText_of_some hw]
      constructor
      · exact fun h => .inr ⟨v, w, rfl, rfl, h⟩
      · rintro (rfl | ⟨_, _, ⟨⟩, ⟨⟩, h⟩)
        · rw [hv] at hw
          cases hw
          rfl
        · exact h

/-! ### Dropping the quotes -/

theorem unquoted_between (cs : List Char) : unquoted ('\'' :: (cs ++ ['\''])) = cs := by
  simp [unquoted]

theorem unquoted_eq_self {cs : List Char} (h : ∀ inner, cs ≠ '\'' :: (inner ++ ['\''])) :
    unquoted cs = cs := by
  unfold unquoted
  split
  · next rest =>
    refine if_neg fun hl => ?_
    obtain ⟨inner, rfl⟩ := List.getLast?_eq_some_iff.1 hl
    exact h inner rfl
  · rfl

theorem normalizeDefault_between (inner : String) :
    normalizeDefault ("'" ++ inner ++ "'") = recordedText inner := by
  have hl : ("'" ++ inner ++ "'").toList = '\'' :: (inner.toList ++ ['\'']) := by simp
  unfold normalizeDefault
  rw [hl, unquoted_between, String.ofList_toList]
  rfl

theorem normalizeDefault_of_not_inSingleQuotes {text : String} (h : ¬InSingleQuotes text) :
    normalizeDefault text = recordedText text := by
  have hu : unquoted text.toList = text.toList := by
    refine unquoted_eq_self fun inner hi => h ⟨String.ofList inner, ?_⟩
    rw [← String.toList_inj, hi]
    simp
  unfold normalizeDefault
  rw [hu, String.ofList_toList]
  rfl

/-- An expression is recorded as it is shown unless it is shown between quotes. -/
theorem normalizeDefault_eq_recordedText_iff (text : String) :
    normalizeDefault text = recordedText text ↔ ¬InSingleQuotes text := by
  refine ⟨?_, normalizeDefault_of_not_inSingleQuotes⟩
  rintro h ⟨inner, rfl⟩
  have hl : ("'" ++ inner ++ "'").toList = '\'' :: (inner.toList ++ ['\'']) := by simp
  rw [normalizeDefault_between, recordedText_of_none (numericValue_of_quote hl)] at h
  cases hv : numericValue inner with
  | none =>
    rw [recordedText_of_none hv] at h
    have hn := congrArg (fun s : String => s.toList.length) h
    simp at hn
    omega
  | some v =>
    rw [recordedText_of_some hv] at h
    refine quote_notMem_floatText v ?_
    rw [h, hl]
    exact List.mem_cons_self

/-! ### The quotes of a literal -/

theorem doubledQuotes_of_notMem {q : Char} (before : Char) {cs : List Char} (h : q ∉ cs) :
    doubledQuotes q before cs = cs := by
  fun_induction doubledQuotes q before cs <;> simp_all

theorem mem_doubledQuotes {q : Char} (before : Char) {cs : List Char} (h : q ∈ cs) :
    q ∈ doubledQuotes q before cs := by
  fun_induction doubledQuotes q before cs <;> grind

theorem inQuotes_eq_self {s : String} (h : '\'' ∉ s.toList) : inQuotes '\'' s = s := by
  rw [inQuotes, doubledQuotes_of_notMem _ h, String.ofList_toList]

/-- A literal is recorded as its text exactly if that survives doubling. -/
theorem normalizeDefault_quotedText_eq_iff (s : String) :
    normalizeDefault (quotedText s) = recordedText s ↔ SurvivesDoubling s := by
  rw [quotedText, normalizeDefault_between]
  by_cases hs : '\'' ∈ s.toList
  · have hq : '\'' ∈ (inQuotes '\'' s).toList := by
      rw [inQuotes, String.toList_ofList]
      exact mem_doubledQuotes _ hs
    exact recordedText_eq_iff hq hs
  · have hi := inQuotes_eq_self hs
    exact iff_of_true (congrArg recordedText hi) (.inl hi)

/-! ### The table -/

/-- Every default is recorded as the expression is shown, or as the value of that, exactly if it is
not shown between quotes. A literal in single quotes, which an insertion records as its text, is
recorded as that text, or as the value of it, exactly if the text survives doubling; a text without
single quotes does. -/
theorem ofSql_defaults {t : CreateTable} (ht : Supported t) :
    ∃ n, NewTable.ofSql t = .ok n ∧ ∀ (i : Nat) (d : Sql.Column) (e : Expr),
      t.columns[i]? = some d → (d.options.filterMap defaultOf?).getLast? = some e →
      ∃ c : Column, n.columns[i]? = some c ∧
        (c.default = some (recordedText e.render) ↔ ¬InSingleQuotes e.render) ∧
        ∀ s, e = .literal (.quoted .single s) → entryValues e = [some s] ∧
          (c.default = some (recordedText s) ↔ SurvivesDoubling s) ∧
          ('\'' ∉ s.toList → SurvivesDoubling s) := by
  refine ⟨_, NewTable.ofSql_eq_marked ht, fun i d e hd he => ?_⟩
  obtain ⟨c, hc, hr⟩ := records_marked hd
  have hdefault : c.default = some (normalizeDefault e.render) := by rw [hr.default, he]; rfl
  refine ⟨c, hc, ?_, ?_⟩
  · rw [hdefault, Option.some_inj, normalizeDefault_eq_recordedText_iff]
  · rintro s rfl
    refine ⟨rfl, ?_, fun hs => .inl (inQuotes_eq_self hs)⟩
    rw [hdefault, Option.some_inj]
    exact normalizeDefault_quotedText_eq_iff s

/-- `CREATE TABLE t (a TEXT DEFAULT 'it''s', b TEXT DEFAULT 'a' || 'b', c TEXT DEFAULT 'pending')` -/
def quotedTable : CreateTable where
  name := [{ text := "t" }]
  columns :=
    [{ name := { text := "a" }, dataType := "TEXT", phrase := {},
       options := [.default (.literal (.quoted .single "it's"))] },
     { name := { text := "b" }, dataType := "TEXT", phrase := {},
       options := [.default (.binary (.literal (.quoted .single "a")) (.other "||")
         (.literal (.quoted .single "b")))] },
     { name := { text := "c" }, dataType := "TEXT", phrase := {},
       options := [.default (.literal (.quoted .single "pending"))] }]
  constraints := []

/-- Only the third default is recorded as it is shown. -/
theorem ofSql_quotedTable :
    Supported quotedTable ∧ ∃ n, NewTable.ofSql quotedTable = .ok n ∧
      (∃ a, n.columns[0]? = some a ∧ a.default ≠ some "it's") ∧
      (∃ b, n.columns[1]? = some b ∧ b.default ≠ some "'a' || 'b'") ∧
      ∃ c, n.columns[2]? = some c ∧ c.default = some "pending" := by
  have hs : Supported quotedTable := ⟨by simp [quotedTable], by simp [quotedTable]⟩
  have text_of_isNone {text : String} (h : (numericValue text).isNone = true) :
      recordedText text = text := recordedText_of_none (Option.isNone_iff_eq_none.1 h)
  have hits : recordedText "it's" = "it's" := text_of_isNone (by decide +kernel)
  have hpending : recordedText "pending" = "pending" := text_of_isNone (by decide +kernel)
  have hab : recordedText "'a' || 'b'" = "'a' || 'b'" := text_of_isNone (by decide +kernel)
  obtain ⟨n, hn, h⟩ := ofSql_defaults hs
  obtain ⟨a, ha, -, hliteral⟩ := h 0 _ (.literal (.quoted .single "it's")) rfl rfl
  obtain ⟨b, hb, hshown, -⟩ := h 1 _ (.binary (.literal (.quoted .single "a")) (.other "||")
    (.literal (.quoted .single "b"))) rfl rfl
  obtain ⟨c, hc, -, hplain⟩ := h 2 _ (.literal (.quoted .single "pending")) rfl rfl
  refine ⟨hs, n, hn, ⟨a, ha, fun hd => ?_⟩, ⟨b, hb, fun hd => ?_⟩, c, hc, ?_⟩
  · obtain ⟨-, hiff, -⟩ := hliteral "it's" rfl
    rw [hits] at hiff
    rcases hiff.1 hd with hi | ⟨v, w, -, hw, -⟩
    · exact absurd hi (by decide +kernel)
    · rw [recordedText_of_some hw] at hits
      exact quote_notMem_floatText w (by simp [hits])
  · have hr : Expr.render (.binary (.literal (.quoted .single "a")) (.other "||")
        (.literal (.quoted .single "b"))) = "'a' || 'b'" := by decide +kernel
    rw [hr, hab] at hshown
    exact hshown.1 hd ⟨"a' || 'b", by decide +kernel⟩
  · obtain ⟨-, hiff, hkept⟩ := hplain "pending" rfl
    rw [hpending] at hiff
    exact hiff.2 (hkept (by decide))

/-- A quote in a literal is recorded twice, although an insertion records it once; and between two
literals, the outer quotes are dropped. The table is what its text is read as. -/
theorem ofSql_doubledQuotes :
    (NewTable.ofSql quotedTable).toOption.map (fun n => n.columns.map (·.default)) =
        some [some "it''s", some "a' || 'b", some "pending"] ∧
      entryValues (.literal (.quoted .single "it's")) = [some "it's"] ∧
      (numericValue "it's").isNone ∧ (numericValue "'a' || 'b'").isNone ∧
      (parse .generic ("CREATE TABLE t (a TEXT DEFAULT 'it''s', b TEXT DEFAULT 'a' || 'b', " ++
          "c TEXT DEFAULT 'pending')")).toOption.bind (fun s => (ofStatement s).toOption) =
        some ((NewTable.ofSql quotedTable).toOption.map .createTable) := by
  decide +kernel

end TableFeed.Model
