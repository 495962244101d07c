import Mathlib.Data.Nat.Digits.Defs
import Mathlib.Tactic.Ring
import TableFeed.Sql.Arithmetic

/-!
# Whole numbers of 64 bits and exact ones

Over all integers an expression has an *exact* value, unless a divisor is zero: quotients go toward
zero, and a remainder has the sign of its dividend. The arithmetic of 64 bits gives that value as
long as every part of the expression fits, and without divisions it gives what is left of it modulo
`2^64`.

                     every part fits       some part does not fit, no division
    a + b, a - b     exact                 exact modulo 2^64
    a * b            exact                 exact modulo 2^64
    -a               exact                 none if a is -2^63 modulo 2^64
    a / b            exact
    a % b            exact, but none for -2^63 % -1

A value is missing only where a node *blocks*: it has none although its operands do. A node above it
has none either. So what is to be known are the blocking nodes (`number?_eq_none_iff`), and the
value where none of them blocks (`exactValue?_of_number?`).
-/

namespace TableFeed.Decimal

/-- The number that a text of digits writes, of any size. -/
def digits? (text : String) : Option ℕ :=
  if text.toList ≠ [] ∧ text.toList.all Char.isDigit then
    some (Nat.ofDigits 10 (text.toList.reverse.map fun c => c.toNat - 48))
  else none

theorem digitsValue_nil (n : ℕ) : digitsValue n [] = n := rfl

theorem digitsValue_cons (n : ℕ) (c : Char) (cs : List Char) :
    digitsValue n (c :: cs) = digitsValue (n * 10 + (c.toNat - 48)) cs := by
  -- comparing the two sides as they stand would compute with the difference
  delta digitsValue
  rfl

theorem digitsValue_eq (n : ℕ) (cs : List Char) :
    digitsValue n cs =
      Nat.ofDigits 10 (cs.reverse.map fun c => c.toNat - 48) + 10 ^ cs.length * n := by
  induction cs generalizing n with
  | nil => simp [digitsValue_nil]
  | cons c cs ih =>
    rw [digitsValue_cons, ih, List.reverse_cons, List.map_append, Nat.ofDigits_append]
    simp only [List.map_cons, List.map_nil, Nat.ofDigits_singleton, List.length_map,
      List.length_reverse, List.length_cons]
    ring

/-- Digits are a whole number of 64 bits exactly if the number that they write is less than
`2^63`. -/
theorem whole?_eq_some_iff {text : String} {v : Int64} :
    whole? text = some v ↔ ∃ n, digits? text = some n ∧ n < 2 ^ 63 ∧ v.toInt = n := by
  have hv := digitsValue_eq 0 text.toList
  rw [Nat.mul_zero, Nat.add_zero] at hv
  unfold whole? digits?
  dsimp only
  rw [hv]
  split
  · generalize Nat.ofDigits 10 _ = n
    constructor
    · intro h
      split at h
      · next hn =>
        cases h
        exact ⟨n, rfl, hn, Int64.toInt_ofNat_of_lt hn⟩
      · cases h
    · rintro ⟨n, ⟨⟩, hn, hvn⟩
      refine (if_pos hn).trans ?_
      rw [Option.some_inj, ← Int64.toInt_inj, hvn, Int64.toInt_ofNat_of_lt hn]
  · simp

end TableFeed.Decimal

namespace TableFeed.Sql

open TableFeed

/-! ### Exact values -/

/-- An integer fits into 64 bits. -/
def Fits (n : ℤ) : Prop := -2 ^ 63 ≤ n ∧ n < 2 ^ 63

instance (n : ℤ) : Decidable (Fits n) := inferInstanceAs (Decidable (_ ∧ _))

/-- Quotients and remainders. -/
def BinaryOp.Divides (op : BinaryOp) : Prop := op = .div ∨ op = .rem

/-- An operator applied to integers of any size. -/
def BinaryOp.exactValue? (op : BinaryOp) (m n : ℤ) : Option ℤ :=
  match op with
  | .add => some (m + n)
  | .sub => some (m - n)
  | .mul => some (m * n)
  | .div => if n = 0 then none else some (m.tdiv n)
  | .rem => if n = 0 then none else some (m.tmod n)
  | .other _ => none

/-- The value of an expression in integers of any size. -/
def Expr.exactValue? : Expr → Option ℤ
  | .literal (.number digits _) => (Decimal.digits? digits).map Nat.cast
  | .nested e => e.exactValue?
  | .unary .minus e => e.exactValue?.map Neg.neg
  | .unary .plus e => e.exactValue?
  | .binary l op r => l.exactValue?.bind fun m => r.exactValue?.bind fun n => op.exactValue? m n
  | _ => none

/-- Expressions of number literals whose texts are as `p` says, parentheses, signs and the five
operators. -/
inductive Expr.Arithmetic (p : String → Prop) : Expr → Prop
  | literal {digits : String} {long : Bool} (h : p digits) :
    Arithmetic p (.literal (.number digits long))
  | nested {e : Expr} (he : Arithmetic p e) : Arithmetic p (.nested e)
  | plus {e : Expr} (he : Arithmetic p e) : Arithmetic p (.unary .plus e)
  | minus {e : Expr} (he : Arithmetic p e) : Arithmetic p (.unary .minus e)
  | binary {l r : Expr} {op : BinaryOp} (hop : ∀ sign, op ≠ .other sign) (hl : Arithmetic p l)
    (hr : Arithmetic p r) : Arithmetic p (.binary l op r)

/-- A text writes a whole number of 64 bits. -/
def WritesWhole (text : String) : Prop := (Decimal.whole? text).isSome = true

/-- A text writes a number: a whole one, or one with a fraction, an exponent or more digits. -/
def WritesNumber (text : String) : Prop := WritesWhole text ∨ (Decimal.float? text).isSome = true

/-! ### The nodes of an expression -/

theorem mem_walk_self (e : Expr) : e ∈ e.walk := by
  cases e <;> simp [Expr.walk]

mutual

theorem walk_subset {s : Expr} : (e : Expr) → s ∈ e.walk → s.walk ⊆ e.walk
  | .literal _, h | .identifier _, h | .compound _, h | .wildcard _, h => by
    rw [Expr.walk, List.mem_singleton] at h
    rw [h]
    exact List.Subset.refl _
  | .nested e, h | .unary _ e, h => by
    rw [Expr.walk] at h ⊢
    rcases List.mem_cons.mp h with rfl | h
    · rw [Expr.walk]
      exact List.Subset.refl _
    · exact List.subset_cons_of_subset _ (walk_subset e h)
  | .binary l op r, h => by
    rw [Expr.walk] at h ⊢
    rcases List.mem_cons.mp h with rfl | h
    · rw [Expr.walk]
      exact List.Subset.refl _
    · refine List.subset_cons_of_subset _ ?_
      rcases List.mem_append.mp h with h | h
      · exact List.subset_append_of_subset_left _ (walk_subset l h)
      · exact List.subset_append_of_subset_right _ (walk_subset r h)
  | .tuple items, h | .form _ _ items, h => by
    rw [Expr.walk] at h ⊢
    rcases List.mem_cons.mp h with rfl | h
    · rw [Expr.walk]
      exact List.Subset.refl _
    · exact List.subset_cons_of_subset _ (walkAll_subset items h)

theorem walkAll_subset {s : Expr} : (es : List Expr) → s ∈ Expr.walkAll es →
    s.walk ⊆ Expr.walkAll es
  | [], h => by
    rw [Expr.walkAll] at h
    cases h
  | e :: es, h => by
    rw [Expr.walkAll] at h ⊢
    rcases List.mem_append.mp h with h | h
    · exact List.subset_append_of_subset_left _ (walk_subset e h)
    · exact List.subset_append_of_subset_right _ (walkAll_subset es h)

end

namespace Expr

theorem operands_mem_walk {e l r : Expr} {op : BinaryOp} (h : .binary l op r ∈ e.walk) :
    l ∈ e.walk ∧ r ∈ e.walk := by
  have hsub := walk_subset e h
  rw [walk] at hsub
  constructor
  · exact hsub (List.mem_cons_of_mem _ (List.mem_append_left _ (mem_walk_self l)))
  · exact hsub (List.mem_cons_of_mem _ (List.mem_append_right _ (mem_walk_self r)))

theorem operand_mem_walk {e s : Expr} {op : UnaryOp} (h : .unary op s ∈ e.walk) : s ∈ e.walk := by
  have hsub := walk_subset e h
  rw [walk] at hsub
  exact hsub (List.mem_cons_of_mem _ (mem_walk_self s))

theorem Arithmetic.of_mem {p : String → Prop} {e s : Expr} (he : e.Arithmetic p)
    (hs : s ∈ e.walk) : s.Arithmetic p := by
  induction he with
  | literal h =>
    rw [walk, List.mem_singleton] at hs
    rw [hs]
    exact .literal h
  | nested he ih =>
    rcases List.mem_cons.mp hs with rfl | hs
    · exact .nested he
    · exact ih hs
  | plus he ih =>
    rcases List.mem_cons.mp hs with rfl | hs
    · exact .plus he
    · exact ih hs
  | minus he ih =>
    rcases List.mem_cons.mp hs with rfl | hs
    · exact .minus he
    · exact ih hs
  | binary hop hl hr ihl ihr =>
    rw [walk, List.mem_cons, List.mem_append] at hs
    rcases hs with rfl | hs | hs
    · exact .binary hop hl hr
    · exact ihl hs
    · exact ihr hs

/-! ### Values of nodes -/

theorem number?_binary (l : Expr) (op : BinaryOp) (r : Expr) :
    (binary l op r).number? =
      l.number?.bind fun a => r.number?.bind fun b => Number.apply op a b := by
  rw [number?]
  cases l.number? <;> cases r.number? <;> rfl

/-- An expression with a part that has no value has none. -/
theorem number?_eq_none_of_mem {e s : Expr} (h : s ∈ e.walk) (hs : s.number? = none) :
    e.number? = none := by
  fun_induction number? e with
  | case1 digits long =>
    rw [walk, List.mem_singleton] at h
    rwa [h] at hs
  | case2 e ih =>
    rw [walk, List.mem_cons] at h
    rcases h with rfl | h
    · exact hs
    · exact ih h
  | case3 e ih =>
    rw [walk, List.mem_cons] at h
    rcases h with rfl | h
    · exact hs
    · rw [ih h]
      rfl
  | case4 e ih =>
    rw [walk, List.mem_cons] at h
    rcases h with rfl | h
    · exact hs
    · exact ih h
  | case5 l op r a b hb ha ihl ihr =>
    rw [walk, List.mem_cons, List.mem_append] at h
    rcases h with rfl | h | h
    · rwa [number?_binary, ha, hb] at hs
    · rw [ihl h] at ha
      cases ha
    · rw [ihr h] at hb
      cases hb
  | case6 l op r h ihl ihr => rfl
  | case7 t hliteral hnested hminus hplus hbinary => rfl

/-- Only arithmetic has a value. -/
theorem arithmetic_of_number? {e : Expr} {x : Number} (h : e.number? = some x) :
    e.Arithmetic WritesNumber := by
  fun_induction number? e generalizing x with
  | case1 digits long =>
    refine .literal ?_
    unfold Number.ofLiteral at h
    split at h
    · obtain ⟨v, hv, -⟩ := Option.map_eq_some_iff.mp h
      exact .inr (Option.isSome_of_eq_some hv)
    · split at h
      · next v hv => exact .inl (Option.isSome_of_eq_some hv)
      · obtain ⟨v, hv, -⟩ := Option.map_eq_some_iff.mp h
        exact .inr (Option.isSome_of_eq_some hv)
  | case2 e ih => exact .nested (ih h)
  | case3 e ih =>
    obtain ⟨y, hy, -⟩ := Option.bind_eq_some_iff.mp h
    exact .minus (ih hy)
  | case4 e ih => exact .plus (ih h)
  | case5 l op r a b hb ha ihl ihr =>
    refine .binary ?_ (ihl ha) (ihr hb)
    rintro sign rfl
    cases a <;> cases b <;> cases h
  | case6 l op r h ihl ihr => cases h
  | case7 t hliteral hnested hminus hplus hbinary => cases h

theorem ofLiteral_of_whole? {text : String} {v : Int64} (h : Decimal.whole? text = some v) :
    Number.ofLiteral text = some (.whole v) := by
  have hd : text.toList.all Char.isDigit = true := by
    unfold Decimal.whole? at h
    dsimp only at h
    split at h
    · next hc => exact hc.2
    · cases h
  unfold Number.ofLiteral
  rw [if_neg, h]
  -- neither the dot nor a mark of an exponent is a digit
  intro ha
  obtain ⟨c, hc, hm⟩ := List.any_eq_true.mp ha
  have hdigit := List.all_eq_true.mp hd c hc
  rcases of_decide_eq_true hm with rfl | rfl | rfl <;> cases hdigit

/-- Where an operator gives no whole number. -/
theorem applyWhole_eq_none_iff {op : BinaryOp} (hop : ∀ sign, op ≠ .other sign) (a b : Int64) :
    Number.applyWhole op a b = none ↔
      op.Divides ∧ (b = 0 ∨ a = Int64.minValue ∧ b = -1) := by
  have hd : Number.divides a b = false ↔ b = 0 ∨ a = Int64.minValue ∧ b = -1 := by
    by_cases hb : b = 0 <;> simp [Number.divides, hb]
  cases op with
  | add | sub | mul => simp [Number.applyWhole, BinaryOp.Divides]
  | div | rem => simp [Number.applyWhole, BinaryOp.Divides, ← hd]
  | other sign => exact absurd rfl (hop sign)

/-- Whole numbers make whole numbers. -/
theorem exists_whole {e : Expr} (he : e.Arithmetic WritesWhole) {x : Number}
    (hx : e.number? = some x) :
    ∃ v, x = .whole v := by
  induction he generalizing x with
  | literal h =>
    obtain ⟨v, hv⟩ := Option.isSome_iff_exists.mp h
    rw [number?, ofLiteral_of_whole? hv] at hx
    exact ⟨v, (Option.some.inj hx).symm⟩
  | nested he ih | plus he ih => exact ih hx
  | minus he ih =>
    obtain ⟨y, hy, hn⟩ := Option.bind_eq_some_iff.mp hx
    obtain ⟨v, rfl⟩ := ih hy
    rw [Number.negate] at hn
    split at hn
    · cases hn
    · exact ⟨-v, (Option.some.inj hn).symm⟩
  | binary hop hl hr ihl ihr =>
    rw [number?_binary] at hx
    obtain ⟨y, hy, hx⟩ := Option.bind_eq_some_iff.mp hx
    obtain ⟨z, hz, hx⟩ := Option.bind_eq_some_iff.mp hx
    obtain ⟨a, rfl⟩ := ihl hy
    obtain ⟨b, rfl⟩ := ihr hz
    obtain ⟨v, -, rfl⟩ := Option.map_eq_some_iff.mp hx
    exact ⟨v, rfl⟩

/-- A node has no value although its operands have one: the least number is negated or divided by
`-1`, or something is divided by zero. -/
def Blocks : Expr → Prop
  | .unary .minus e => e.number? = some (.whole Int64.minValue)
  | .binary l op r => op.Divides ∧ ∃ a b, l.number? = some (.whole a) ∧
      r.number? = some (.whole b) ∧ (b = 0 ∨ a = Int64.minValue ∧ b = -1)
  | _ => False

theorem number?_eq_none_of_blocks {s : Expr} (h : s.Blocks) : s.number? = none := by
  match s, h with
  | .unary .minus e, h =>
    have hv : e.number? = some (.whole Int64.minValue) := h
    rw [number?, hv]
    rfl
  | .binary l op r, h =>
    obtain ⟨hdiv, a, b, ha, hb, hab⟩ := h
    have hop : ∀ sign, op ≠ .other sign := by
      rcases hdiv with rfl | rfl <;> exact nofun
    rw [number?_binary, ha, hb]
    simp [Number.apply, (applyWhole_eq_none_iff hop a b).mpr ⟨hdiv, hab⟩]

/-- Arithmetic on whole numbers has no value exactly if one of its nodes blocks. -/
theorem number?_eq_none_iff {e : Expr} (he : e.Arithmetic WritesWhole) :
    e.number? = none ↔ ∃ s ∈ e.walk, s.Blocks := by
  refine ⟨fun hn => ?_, fun ⟨s, hs, hb⟩ => ?_⟩
  · induction he with
    | literal h =>
      obtain ⟨v, hv⟩ := Option.isSome_iff_exists.mp h
      rw [number?, ofLiteral_of_whole? hv] at hn
      cases hn
    | nested he ih | plus he ih =>
      obtain ⟨s, hs, hb⟩ := ih hn
      exact ⟨s, List.mem_cons_of_mem _ hs, hb⟩
    | @minus e he ih =>
      cases hx : e.number? with
      | none =>
        obtain ⟨s, hs, hb⟩ := ih hx
        exact ⟨s, List.mem_cons_of_mem _ hs, hb⟩
      | some x =>
        obtain ⟨v, rfl⟩ := exists_whole he hx
        refine ⟨.unary .minus e, mem_walk_self _, ?_⟩
        rw [number?, hx, Option.bind_some, Number.negate] at hn
        split at hn
        · next hv =>
          subst hv
          exact hx
        · cases hn
    | @binary l r op hop hl hr ihl ihr =>
      cases hx : l.number? with
      | none =>
        obtain ⟨s, hs, hb⟩ := ihl hx
        exact ⟨s, List.mem_cons_of_mem _ (List.mem_append_left _ hs), hb⟩
      | some x =>
        cases hy : r.number? with
        | none =>
          obtain ⟨s, hs, hb⟩ := ihr hy
          exact ⟨s, List.mem_cons_of_mem _ (List.mem_append_right _ hs), hb⟩
        | some y =>
          obtain ⟨a, rfl⟩ := exists_whole hl hx
          obtain ⟨b, rfl⟩ := exists_whole hr hy
          rw [number?_binary, hx, hy] at hn
          have hn' : Number.applyWhole op a b = none := Option.map_eq_none_iff.mp hn
          obtain ⟨hdiv, hab⟩ := (applyWhole_eq_none_iff hop a b).mp hn'
          exact ⟨.binary l op r, mem_walk_self _, hdiv, a, b, hx, hy, hab⟩
  · exact number?_eq_none_of_mem hs (number?_eq_none_of_blocks hb)

/-! ### Values and exact values -/

/-- What is divided in an expression, and what it is divided by, fits. -/
def DividesInRange (e : Expr) : Prop :=
  ∀ l op r, .binary l op r ∈ e.walk → op.Divides →
    (∀ m, l.exactValue? = some m → Fits m) ∧ ∀ n, r.exactValue? = some n → Fits n

theorem DividesInRange.of_mem {e s : Expr} (he : e.DividesInRange) (hs : s ∈ e.walk) :
    s.DividesInRange :=
  fun l op r h => he l op r (walk_subset e hs h)

theorem toInt_ofInt_of_fits {n : ℤ} (h : Fits n) : (Int64.ofInt n).toInt = n :=
  Int64.toInt_ofInt_of_le h.1 h.2

theorem toInt_ofInt (n : ℤ) : (Int64.ofInt n).toInt = n.bmod (2 ^ 64) := Int64.toInt_ofInt

theorem bounds_of_fits {n : ℤ} (h : Fits n) :
    Int64.minValue.toInt ≤ n ∧ n ≤ Int64.maxValue.toInt := by
  rw [Int64.toInt_minValue, Int64.toInt_maxValue]
  exact ⟨h.1, Int.le_sub_one_of_lt h.2⟩

/-- An operator keeps to the exact value, if what is divided fits. -/
theorem exactValue?_of_applyWhole {op : BinaryOp} {m n : ℤ} {v : Int64}
    (hf : op.Divides → Fits m ∧ Fits n)
    (h : Number.applyWhole op (Int64.ofInt m) (Int64.ofInt n) = some v) :
    ∃ k, op.exactValue? m n = some k ∧ v = Int64.ofInt k := by
  -- a divisor that is not zero in 64 bits is not zero
  have hzero (hd : Number.divides (Int64.ofInt m) (Int64.ofInt n) = true) : n ≠ 0 := by
    rintro rfl
    cases hd
  cases op with
  | add => exact ⟨m + n, rfl, (Option.some.inj h).symm.trans (Int64.ofInt_add m n).symm⟩
  | sub => exact ⟨m - n, rfl, (Option.some.inj h).symm.trans (Int64.ofInt_sub m n).symm⟩
  | mul => exact ⟨m * n, rfl, (Option.some.inj h).symm.trans (Int64.ofInt_mul m n).symm⟩
  | div =>
    obtain ⟨hm, hn⟩ := hf (.inl rfl)
    obtain ⟨hm₁, hm₂⟩ := bounds_of_fits hm
    obtain ⟨hn₁, hn₂⟩ := bounds_of_fits hn
    rw [Number.applyWhole] at h
    split at h
    · next hd =>
      refine ⟨m.tdiv n, if_neg (hzero hd), ?_⟩
      rw [Int64.ofInt_tdiv hm₁ hm₂ hn₁ hn₂]
      exact (Option.some.inj h).symm
    · cases h
  | rem =>
    obtain ⟨hm, hn⟩ := hf (.inr rfl)
    obtain ⟨hm₁, hm₂⟩ := bounds_of_fits hm
    obtain ⟨hn₁, hn₂⟩ := bounds_of_fits hn
    rw [Number.applyWhole] at h
    split at h
    · next hd =>
      refine ⟨m.tmod n, if_neg (hzero hd), ?_⟩
      rw [Int64.ofInt_tmod hm₁ hm₂ hn₁ hn₂]
      exact (Option.some.inj h).symm
    · cases h
  | other sign => cases h

/-- A value is the exact one in 64 bits, if what is divided fits. -/
theorem exactValue?_of_number? {e : Expr} (he : e.Arithmetic WritesWhole) (hd : e.DividesInRange)
    {x : Number} (hx : e.number? = some x) :
    ∃ n, e.exactValue? = some n ∧ x = .whole (Int64.ofInt n) := by
  induction he generalizing x with
  | literal h =>
    obtain ⟨v, hv⟩ := Option.isSome_iff_exists.mp h
    obtain ⟨n, hn, -, hvn⟩ := Decimal.whole?_eq_some_iff.mp hv
    rw [number?, ofLiteral_of_whole? hv] at hx
    refine ⟨n, by rw [exactValue?, hn]; rfl, ?_⟩
    rw [← hvn, Int64.ofInt_toInt]
    exact (Option.some.inj hx).symm
  | nested he ih => exact ih (hd.of_mem (List.mem_cons_of_mem _ (mem_walk_self _))) hx
  | plus he ih => exact ih (hd.of_mem (operand_mem_walk (mem_walk_self _))) hx
  | minus he ih =>
    obtain ⟨y, hy, hneg⟩ := Option.bind_eq_some_iff.mp hx
    obtain ⟨n, hn, rfl⟩ := ih (hd.of_mem (operand_mem_walk (mem_walk_self _))) hy
    rw [Number.negate] at hneg
    split at hneg
    · cases hneg
    · refine ⟨-n, by rw [exactValue?, hn]; rfl, ?_⟩
      rw [Int64.ofInt_neg]
      exact (Option.some.inj hneg).symm
  | @binary l r op hop hl hr ihl ihr =>
    obtain ⟨hml, hmr⟩ := operands_mem_walk (mem_walk_self (.binary l op r))
    rw [number?_binary] at hx
    obtain ⟨y, hy, hx⟩ := Option.bind_eq_some_iff.mp hx
    obtain ⟨z, hz, hx⟩ := Option.bind_eq_some_iff.mp hx
    obtain ⟨m, hm, rfl⟩ := ihl (hd.of_mem hml) hy
    obtain ⟨n, hn, rfl⟩ := ihr (hd.of_mem hmr) hz
    obtain ⟨v, hv, rfl⟩ := Option.map_eq_some_iff.mp hx
    have hf (h : op.Divides) : Fits m ∧ Fits n := by
      obtain ⟨hfl, hfr⟩ := hd l op r (mem_walk_self _) h
      exact ⟨hfl m hm, hfr n hn⟩
    obtain ⟨k, hk, rfl⟩ := exactValue?_of_applyWhole hf hv
    exact ⟨k, by rw [exactValue?, hm, hn]; exact hk, rfl⟩

/-! ### Everything fits -/

/-- Every part of an expression has an exact value that fits. -/
def AllFit (e : Expr) : Prop := ∀ s ∈ e.walk, ∃ n ∈ s.exactValue?, Fits n

instance (e : Expr) : Decidable e.AllFit := inferInstanceAs (Decidable (∀ s ∈ e.walk, _))

/-- The remainder of the least number by `-1` is taken somewhere. -/
def TakesLeastRemainder (e : Expr) : Prop :=
  ∃ l r, .binary l .rem r ∈ e.walk ∧ l.exactValue? = some (-2 ^ 63) ∧ r.exactValue? = some (-1)

theorem AllFit.fits {e s : Expr} (hf : e.AllFit) (hs : s ∈ e.walk) {n : ℤ}
    (hn : s.exactValue? = some n) : Fits n := by
  obtain ⟨m, hm, hfit⟩ := hf s hs
  rw [hn] at hm
  cases hm
  exact hfit

theorem AllFit.dividesInRange {e : Expr} (hf : e.AllFit) : e.DividesInRange := by
  intro l op r h _
  obtain ⟨hl, hr⟩ := operands_mem_walk h
  exact ⟨fun m hm => hf.fits hl hm, fun n hn => hf.fits hr hn⟩

/-- Where everything fits, the parts have their exact values. -/
theorem AllFit.exactValue? {e s : Expr} (hf : e.AllFit) (he : e.Arithmetic WritesWhole)
    (hs : s ∈ e.walk) {v : Int64} (hv : s.number? = some (.whole v)) :
    s.exactValue? = some v.toInt := by
  obtain ⟨n, hn, hvn⟩ := exactValue?_of_number? (he.of_mem hs) (hf.dividesInRange.of_mem hs) hv
  cases hvn
  rw [hn, toInt_ofInt_of_fits (hf.fits hs hn)]

/-- Where everything fits, only the remainder of the least number by `-1` blocks. -/
theorem AllFit.takesLeastRemainder {e s : Expr} (hf : e.AllFit) (he : e.Arithmetic WritesWhole)
    (hs : s ∈ e.walk) (hb : s.Blocks) : e.TakesLeastRemainder := by
  have hleast : Int64.minValue.toInt = -2 ^ 63 := Int64.toInt_minValue
  match s, hb with
  | .unary .minus t, hb =>
    have ht := hf.exactValue? he (operand_mem_walk hs) hb
    have hn : (unary .minus t).exactValue? = some (2 ^ 63) := by
      rw [Expr.exactValue?, ht, hleast]
      rfl
    exact absurd (hf.fits hs hn).2 (lt_irrefl _)
  | .binary l op r, hb =>
    obtain ⟨hdiv, a, b, ha, hb, hab⟩ := hb
    obtain ⟨hl, hr⟩ := operands_mem_walk hs
    have hm := hf.exactValue? he hl ha
    have hn := hf.exactValue? he hr hb
    obtain ⟨k, hk, hfit⟩ := hf _ hs
    rw [Expr.exactValue?, hm, hn, Option.bind_some, Option.bind_some] at hk
    rcases hab with rfl | ⟨rfl, rfl⟩
    · -- nothing is divided by zero
      rcases hdiv with rfl | rfl <;> cases hk
    · rcases hdiv with rfl | rfl
      · -- the quotient is 2^63
        cases hk
        exact absurd hfit.2 (by decide)
      · exact ⟨l, r, hs, hleast ▸ hm, hn⟩

theorem AllFit.number?_eq_none {e : Expr} (hf : e.AllFit) (he : e.Arithmetic WritesWhole)
    (ht : e.TakesLeastRemainder) : e.number? = none := by
  obtain ⟨l, r, hs, hl, hr⟩ := ht
  obtain ⟨hml, hmr⟩ := operands_mem_walk hs
  refine number?_eq_none_of_mem hs ?_
  rw [number?_binary]
  cases ha : l.number? with
  | none => rfl
  | some x =>
    cases hb : r.number? with
    | none => rfl
    | some y =>
      have hd := hf.dividesInRange
      obtain ⟨m, hm, rfl⟩ := exactValue?_of_number? (he.of_mem hml) (hd.of_mem hml) ha
      obtain ⟨n, hn, rfl⟩ := exactValue?_of_number? (he.of_mem hmr) (hd.of_mem hmr) hb
      rw [hl] at hm
      rw [hr] at hn
      cases hm
      cases hn
      rfl

/-! ### Division by zero, and no division -/

theorem number?_eq_none_of_zero {e l r : Expr} {op : BinaryOp} (he : e.Arithmetic WritesWhole)
    (hs : .binary l op r ∈ e.walk) (hop : op.Divides) (hr : r.number? = some (.whole 0)) :
    e.number? = none := by
  refine number?_eq_none_of_mem hs ?_
  cases ha : l.number? with
  | none =>
    rw [number?_binary, ha]
    rfl
  | some x =>
    obtain ⟨a, rfl⟩ := exists_whole (he.of_mem (operands_mem_walk hs).1) ha
    exact number?_eq_none_of_blocks ⟨hop, a, 0, ha, hr, .inl rfl⟩

/-- Without a division there is an exact value. -/
theorem exists_exactValue? {e : Expr} (he : e.Arithmetic WritesWhole)
    (hd : ∀ l op r, .binary l op r ∈ e.walk → ¬op.Divides) : ∃ n, e.exactValue? = some n := by
  induction he with
  | literal h =>
    obtain ⟨v, hv⟩ := Option.isSome_iff_exists.mp h
    obtain ⟨n, hn, -⟩ := Decimal.whole?_eq_some_iff.mp hv
    exact ⟨n, by rw [exactValue?, hn]; rfl⟩
  | nested he ih | plus he ih => exact ih fun l op r h => hd l op r (List.mem_cons_of_mem _ h)
  | minus he ih =>
    obtain ⟨n, hn⟩ := ih fun l op r h => hd l op r (List.mem_cons_of_mem _ h)
    exact ⟨-n, by rw [exactValue?, hn]; rfl⟩
  | @binary l r op hop hl hr ihl ihr =>
    obtain ⟨m, hm⟩ := ihl fun l' op' r' h =>
      hd l' op' r' (List.mem_cons_of_mem _ (List.mem_append_left _ h))
    obtain ⟨n, hn⟩ := ihr fun l' op' r' h =>
      hd l' op' r' (List.mem_cons_of_mem _ (List.mem_append_right _ h))
    have hdiv := hd l op r (mem_walk_self _)
    rw [exactValue?, hm, hn]
    cases op with
    | add | sub | mul => exact ⟨_, rfl⟩
    | div => exact absurd (.inl rfl) hdiv
    | rem => exact absurd (.inr rfl) hdiv
    | other sign => exact absurd rfl (hop sign)

/-- The opposite of a number is taken that is `-2^63` modulo `2^64`. -/
def NegatesLeast (e : Expr) : Prop :=
  ∃ s m, .unary .minus s ∈ e.walk ∧ s.exactValue? = some m ∧ m.bmod (2 ^ 64) = -2 ^ 63

/-- Without a division a value is missing only where the opposite of the least number is taken. -/
theorem number?_eq_none_iff_negatesLeast {e : Expr} (he : e.Arithmetic WritesWhole)
    (hd : ∀ l op r, .binary l op r ∈ e.walk → ¬op.Divides) :
    e.number? = none ↔ e.NegatesLeast := by
  have hleast : Int64.minValue.toInt = -2 ^ 63 := Int64.toInt_minValue
  have hr : e.DividesInRange := fun l op r h hop => absurd hop (hd l op r h)
  constructor
  · intro hn
    obtain ⟨s, hs, hb⟩ := (number?_eq_none_iff he).mp hn
    match s, hb with
    | .unary .minus t, hb =>
      have ht := operand_mem_walk hs
      obtain ⟨m, hm, hv⟩ := exactValue?_of_number? (he.of_mem ht) (hr.of_mem ht) hb
      refine ⟨t, m, hs, hm, ?_⟩
      rw [← toInt_ofInt, ← Number.whole.inj hv, hleast]
    | .binary l op r, hb => exact absurd hb.1 (hd l op r hs)
  · rintro ⟨t, m, hs, hm, hmod⟩
    have ht := operand_mem_walk hs
    refine number?_eq_none_of_mem hs ?_
    cases hx : t.number? with
    | none =>
      rw [number?, hx]
      rfl
    | some x =>
      obtain ⟨n, hn, rfl⟩ := exactValue?_of_number? (he.of_mem ht) (hr.of_mem ht) hx
      rw [hm] at hn
      cases hn
      have hv : Int64.ofInt m = Int64.minValue := by
        rw [← Int64.toInt_inj, toInt_ofInt, hmod, hleast]
      have hb : (unary .minus t).Blocks := by
        rw [hv] at hx
        exact hx
      exact number?_eq_none_of_blocks hb

end Expr

/-! ### The main result -/

/-- The values of expressions in 64 bits. Arithmetic on whole numbers of which every part fits has
its exact value, and none if the remainder of the least number by `-1` is taken. With a divisor of
value zero there is no value. Without divisions the value is the exact one modulo `2^64`, and
missing exactly where the opposite of a number is taken that is the least one modulo `2^64`. Nothing
but arithmetic on numbers has a value. -/
theorem number?_sound (e : Expr) :
    (e.Arithmetic WritesWhole →
      (e.AllFit →
        (¬e.TakesLeastRemainder →
          ∃ v, e.number? = some (.whole v) ∧ e.exactValue? = some v.toInt) ∧
        (e.TakesLeastRemainder → e.number? = none)) ∧
      (∀ l op r, .binary l op r ∈ e.walk → op.Divides → r.number? = some (.whole 0) →
        e.number? = none) ∧
      ((∀ l op r, .binary l op r ∈ e.walk → ¬op.Divides) →
        (∃ n, e.exactValue? = some n ∧ ∀ x, e.number? = some x →
          ∃ v, x = .whole v ∧ v.toInt = n.bmod (2 ^ 64)) ∧
        (e.number? = none ↔ e.NegatesLeast))) ∧
    (¬e.Arithmetic WritesNumber → e.number? = none) := by
  refine ⟨fun he => ⟨fun hf => ⟨fun ht => ?_, hf.number?_eq_none he⟩, ?_, fun hd => ⟨?_, ?_⟩⟩, ?_⟩
  · cases hx : e.number? with
    | none =>
      obtain ⟨s, hs, hb⟩ := (Expr.number?_eq_none_iff he).mp hx
      exact absurd (hf.takesLeastRemainder he hs hb) ht
    | some x =>
      obtain ⟨v, rfl⟩ := Expr.exists_whole he hx
      exact ⟨v, rfl, hf.exactValue? he (mem_walk_self e) hx⟩
  · intro l op r hs hop hr
    exact Expr.number?_eq_none_of_zero he hs hop hr
  · obtain ⟨n, hn⟩ := Expr.exists_exactValue? he hd
    have hr : e.DividesInRange := fun l op r h hop => absurd hop (hd l op r h)
    refine ⟨n, hn, fun x hx => ?_⟩
    obtain ⟨m, hm, rfl⟩ := Expr.exactValue?_of_number? he hr hx
    rw [hn] at hm
    cases hm
    exact ⟨Int64.ofInt n, rfl, Expr.toInt_ofInt n⟩
  · exact Expr.number?_eq_none_iff_negatesLeast he hd
  · intro hn
    by_contra hx
    obtain ⟨x, hx⟩ := Option.ne_none_iff_exists'.mp hx
    exact hn (Expr.arithmetic_of_number? hx)

/-- A whole number as a literal. -/
def wholeLiteral (digits : String) : Expr := .literal (.number digits false)

/-- `(-9223372036854775807 - 1) % -1` -/
def leastRemainder : Expr :=
  .binary
    (.nested (.binary (.unary .minus (wholeLiteral "9223372036854775807")) .sub (wholeLiteral "1")))
    .rem (.unary .minus (wholeLiteral "1"))

/-- `-(9223372036854775807 + 2) * 3` -/
def wrappedProduct : Expr :=
  .binary
    (.unary .minus
      (.nested (.binary (wholeLiteral "9223372036854775807") .add (wholeLiteral "2"))))
    .mul (wholeLiteral "3")

/-- `5 % (2 - 2)` -/
def zeroDivisor : Expr :=
  .binary (wholeLiteral "5") .rem
    (.nested (.binary (wholeLiteral "2") .sub (wholeLiteral "2")))

/-- In the first expression every part fits, and still it has no value. The second one has no value
that fits, but its parts have values. In the third one the divisor has the value zero. -/
theorem number?_leastRemainder :
    (leastRemainder.AllFit ∧ leastRemainder.exactValue? = some 0 ∧ leastRemainder.number? = none) ∧
      (wrappedProduct.exactValue? = some (-27670116110564327427) ∧
        ∃ v, wrappedProduct.number? = some (.whole v) ∧ v.toInt = 9223372036854775805) ∧
      zeroDivisor.number? = none := by
  have literal {digits : String} (h : (Decimal.whole? digits).isSome = true) :
      (wholeLiteral digits).Arithmetic WritesWhole := .literal h
  have hleast : leastRemainder.Arithmetic WritesWhole :=
    .binary nofun (.nested (.binary nofun (.minus (literal (by decide))) (literal (by decide))))
      (.minus (literal (by decide)))
  have hwrapped : wrappedProduct.Arithmetic WritesWhole :=
    .binary nofun (.minus (.nested (.binary nofun (literal (by decide)) (literal (by decide)))))
      (literal (by decide))
  have hzero : zeroDivisor.Arithmetic WritesWhole :=
    .binary nofun (literal (by decide))
      (.nested (.binary nofun (literal (by decide)) (literal (by decide))))
  refine ⟨?_, ?_, ?_⟩
  · have hf : leastRemainder.AllFit := by decide +kernel
    have ht : leastRemainder.TakesLeastRemainder :=
      ⟨_, _, mem_walk_self _, by decide +kernel, by decide +kernel⟩
    exact ⟨hf, by decide +kernel, (((number?_sound _).1 hleast).1 hf).2 ht⟩
  · have hx : wrappedProduct.exactValue? = some (-27670116110564327427) := by decide +kernel
    have hd : ∀ l op r, .binary l op r ∈ wrappedProduct.walk → ¬op.Divides := by
      intro l op r h
      simp only [wrappedProduct, wholeLiteral, Expr.walk, List.cons_append, List.nil_append,
        List.mem_cons, List.not_mem_nil, reduceCtorEq, Expr.binary.injEq, false_or, or_false] at h
      rcases h with ⟨-, rfl, -⟩ | ⟨-, rfl, -⟩ <;> exact nofun
    obtain ⟨⟨n, hn, hv⟩, hnone⟩ := ((number?_sound _).1 hwrapped).2.2 hd
    rw [hx] at hn
    cases hn
    cases hw : wrappedProduct.number? with
    | none =>
      -- the one operand of a minus is not the least number, not even modulo 2^64
      obtain ⟨t, m, ht, hm, hmod⟩ := hnone.mp hw
      simp only [wrappedProduct, wholeLiteral, Expr.walk, List.cons_append, List.nil_append,
        List.mem_cons, List.not_mem_nil, reduceCtorEq, Expr.unary.injEq, true_and, false_or,
        or_false] at ht
      subst ht
      have ht : Expr.exactValue? (.nested (.binary (wholeLiteral "9223372036854775807") .add
          (wholeLiteral "2"))) = some 9223372036854775809 := by decide +kernel
      rw [wholeLiteral, wholeLiteral, hm] at ht
      cases ht
      exact absurd hmod (by decide)
    | some x =>
      obtain ⟨v, rfl, hmod⟩ := hv x hw
      exact ⟨hx, v, rfl, hmod.trans (by decide)⟩
  · refine ((number?_sound _).1 hzero).2.1 _ _ _ (mem_walk_self _) (.inr rfl) ?_
    rfl

end TableFeed.Sql
