import Mathlib.Tactic.SplitIfs
import TableFeed.Text.Utf8

/-!
# Reading what was written

Reading bytes as characters is the inverse of writing characters as bytes, and the bytes that can
be read are those that the core library calls UTF-8.

    decode bytes = .ok cs   ⟺   bytes = encode cs

Both directions go through the numbers that the bytes of one character *spell*.
-/

namespace TableFeed.Text

open TableFeed

/-! ### Bytes as numbers -/

theorem isContinuation_iff (b : UInt8) :
    isContinuation b = true ↔ 0x80 ≤ b.toNat ∧ b.toNat ≤ 0xBF := by
  simp [isContinuation, UInt8.le_iff_toNat_le]

theorem maySecond_iff (a b : UInt8) :
    maySecond a b = true ↔
      (0x80 ≤ b.toNat ∧ b.toNat ≤ 0xBF) ∧
        (a.toNat = 0xE0 → 0xA0 ≤ b.toNat) ∧ (a.toNat = 0xED → b.toNat ≤ 0x9F) ∧
        (a.toNat = 0xF0 → 0x90 ≤ b.toNat) ∧ (a.toNat = 0xF4 → b.toNat ≤ 0x8F) := by
  unfold maySecond
  simp only [beq_iff_eq, ← UInt8.toNat_inj, UInt8.reduceToNat]
  split_ifs with h1 h2 h3 h4 <;>
    simp only [isContinuation_iff, Bool.and_eq_true, decide_eq_true_eq, UInt8.le_iff_toNat_le,
      UInt8.reduceToNat] <;> omega

/-- The number of a character is no surrogate and not too large. -/
theorem toNat_valid (c : Char) : c.toNat < 0xD800 ∨ 0xDFFF < c.toNat ∧ c.toNat < 0x110000 := c.valid

theorem toNat_ofNat {n : Nat} (h : n < 0xD800 ∨ 0xDFFF < n ∧ n < 0x110000) :
    (Char.ofNat n).toNat = n := by
  have hv : n.isValidChar := h
  rw [Char.ofNat, dif_pos hv]
  rfl

/-! ### Spelling -/

/-- A first byte and those behind it spell a number. -/
inductive Spells (n : Nat) : UInt8 → List UInt8 → Prop where
  | one {a : UInt8} (hn : n < 0x80) (ha : a.toNat = n) : Spells n a []
  | two {a b : UInt8} (hn : 0x80 ≤ n ∧ n < 0x800) (ha : a.toNat = 0xC0 + n / 64)
      (hb : b.toNat = 0x80 + n % 64) : Spells n a [b]
  | three {a b c : UInt8} (hn : 0x800 ≤ n ∧ n < 0x10000) (hs : n < 0xD800 ∨ 0xDFFF < n)
      (ha : a.toNat = 0xE0 + n / 4096) (hb : b.toNat = 0x80 + n / 64 % 64)
      (hc : c.toNat = 0x80 + n % 64) : Spells n a [b, c]
  | four {a b c d : UInt8} (hn : 0x10000 ≤ n ∧ n < 0x110000) (ha : a.toNat = 0xF0 + n / 262144)
      (hb : b.toNat = 0x80 + n / 4096 % 64) (hc : c.toNat = 0x80 + n / 64 % 64)
      (hd : d.toNat = 0x80 + n % 64) : Spells n a [b, c, d]

theorem Spells.valid {n : Nat} {a : UInt8} {tail : List UInt8} (h : Spells n a tail) :
    n < 0xD800 ∨ 0xDFFF < n ∧ n < 0x110000 := by
  cases h <;> omega

/-- The bytes that spell a number are read as its character. -/
theorem leading_of_spells {n : Nat} {a : UInt8} {tail : List UInt8} (h : Spells n a tail)
    (rest : List UInt8) : leading a (tail ++ rest) = .char (Char.ofNat n) (tail.length + 1) := by
  unfold leading
  simp only [UInt8.lt_iff_toNat_lt, UInt8.le_iff_toNat_le, UInt8.reduceToNat, Bool.and_eq_true,
    decide_eq_true_eq]
  cases h with
  | one hn ha => rw [if_pos (by omega), ha]; rfl
  | @two b hn ha hb =>
    have hb' : isContinuation b = true := by rw [isContinuation_iff]; omega
    have hc : (a.toNat - 0xC0) * 64 + b.toNat % 64 = n := by omega
    rw [if_neg (by omega), if_pos (by omega)]
    simp [hb', carried, hc]
  | @three b c hn hs ha hb hc =>
    have hb' : maySecond a b = true := by rw [maySecond_iff]; omega
    have hc' : isContinuation c = true := by rw [isContinuation_iff]; omega
    have hn' : ((a.toNat - 0xE0) * 64 + b.toNat % 64) * 64 + c.toNat % 64 = n := by omega
    rw [if_neg (by omega), if_neg (by omega), if_pos (by omega)]
    simp [hb', hc', carried, hn']
  | @four b c d hn ha hb hc hd =>
    have hb' : maySecond a b = true := by rw [maySecond_iff]; omega
    have hc' : isContinuation c = true := by rw [isContinuation_iff]; omega
    have hd' : isContinuation d = true := by rw [isContinuation_iff]; omega
    have hn' : (((a.toNat - 0xF0) * 64 + b.toNat % 64) * 64 + c.toNat % 64) * 64 + d.toNat % 64
        = n := by omega
    rw [if_neg (by omega), if_neg (by omega), if_neg (by omega), if_pos (by omega)]
    simp [hb', hc', hd', carried, hn']

/-- What is read as a character spells its number. -/
theorem spells_of_leading {a : UInt8} {rest : List UInt8} {c : Char} {size : Nat}
    (h : leading a rest = .char c size) :
    ∃ n tail behind, Spells n a tail ∧ c = Char.ofNat n ∧ size = tail.length + 1 ∧
      rest = tail ++ behind := by
  unfold leading at h
  simp only [UInt8.lt_iff_toNat_lt, UInt8.le_iff_toNat_le, UInt8.reduceToNat, Bool.and_eq_true,
    decide_eq_true_eq] at h
  split_ifs at h with h1 h2 h3 h4
  · cases h
    exact ⟨_, [], rest, .one h1 rfl, rfl, rfl, rfl⟩
  · rcases rest with _ | ⟨b, rest⟩
    · cases h
    simp only at h
    split_ifs at h with hb
    cases h
    rw [isContinuation_iff] at hb
    refine ⟨_, [b], rest, .two ?_ ?_ ?_, rfl, rfl, rfl⟩ <;>
      simp only [carried, List.foldl] <;> omega
  · rcases rest with _ | ⟨b, rest⟩
    · cases h
    simp only at h
    split_ifs at h with hb
    rcases rest with _ | ⟨c, rest⟩
    · cases h
    simp only at h
    split_ifs at h with hc
    cases h
    simp only [maySecond_iff, isContinuation_iff] at hb hc
    refine ⟨_, [b, c], rest, .three ?_ ?_ ?_ ?_ ?_, rfl, rfl, rfl⟩ <;>
      simp only [carried, List.foldl] <;> omega
  · rcases rest with _ | ⟨b, rest⟩
    · cases h
    simp only at h
    split_ifs at h with hb
    rcases rest with _ | ⟨c, rest⟩
    · cases h
    simp only at h
    split_ifs at h with hc
    rcases rest with _ | ⟨d, rest⟩
    · cases h
    simp only at h
    split_ifs at h with hd
    cases h
    simp only [maySecond_iff, isContinuation_iff] at hb hc hd
    refine ⟨_, [b, c, d], rest, .four ?_ ?_ ?_ ?_ ?_, rfl, rfl, rfl⟩ <;>
      simp only [carried, List.foldl] <;> omega

theorem toNat_byte {n : Nat} (h : n < 256) : (UInt8.ofNat n).toNat = n := by
  rw [UInt8.toNat_ofNat']
  omega

/-- A character is written in bytes that spell its number. -/
theorem exists_spells_encodeChar (c : Char) :
    ∃ a tail, encodeChar c = a :: tail ∧ Spells c.toNat a tail := by
  have hv := toNat_valid c
  simp only [encodeChar]
  split_ifs with h1 h2 h3
  · exact ⟨_, _, rfl, .one h1 (toNat_byte (by omega))⟩
  · refine ⟨_, _, rfl, .two (by omega) (toNat_byte (by omega)) ?_⟩
    rw [toNat_byte (by omega), Nat.div_one]
  · refine ⟨_, _, rfl, .three (by omega) (by omega) (toNat_byte (by omega))
      (toNat_byte (by omega)) ?_⟩
    rw [toNat_byte (by omega), Nat.div_one]
  · refine ⟨_, _, rfl, .four (by omega) (toNat_byte (by omega)) (toNat_byte (by omega))
      (toNat_byte (by omega)) ?_⟩
    rw [toNat_byte (by omega), Nat.div_one]

theorem Spells.unique {n : Nat} {a b : UInt8} {tail tail' : List UInt8} (h : Spells n a tail)
    (h' : Spells n b tail') : a :: tail = b :: tail' := by
  cases h <;> cases h' <;> simp only [List.cons.injEq, ← UInt8.toNat_inj, and_true] <;> omega

/-! ### Reading and writing -/

@[simp] theorem encode_nil : encode [] = [] := rfl

@[simp] theorem encode_cons (c : Char) (cs : List Char) :
    encode (c :: cs) = encodeChar c ++ encode cs := rfl

@[simp] theorem encode_append (cs ds : List Char) : encode (cs ++ ds) = encode cs ++ encode ds :=
  List.flatMap_append

theorem encode_eq_nil {cs : List Char} : encode cs = [] ↔ cs = [] := by
  cases cs with
  | nil => simp
  | cons c cs =>
    obtain ⟨a, tail, he, -⟩ := exists_spells_encodeChar c
    simp [he]

theorem decodeFrom_encode (cs : List Char) (fuel start : Nat) (h : (encode cs).length ≤ fuel) :
    decodeFrom fuel start (encode cs) = .ok cs := by
  induction cs generalizing fuel start with
  | nil => cases fuel <;> rfl
  | cons c cs ih =>
    obtain ⟨a, tail, he, hs⟩ := exists_spells_encodeChar c
    rw [encode_cons, he] at h ⊢
    obtain ⟨fuel, rfl⟩ : ∃ k, fuel = k + 1 := Nat.exists_eq_add_one.mpr (by simp at h; omega)
    have hl : (encode cs).length ≤ fuel := by simp at h; omega
    simp only [List.cons_append, decodeFrom, leading_of_spells hs, Char.ofNat_toNat]
    simp [ih fuel _ hl, Except.map]

theorem eq_encode_of_decodeFrom {fuel start : Nat} {bytes : List UInt8} {cs : List Char}
    (hl : bytes.length ≤ fuel) (h : decodeFrom fuel start bytes = .ok cs) : bytes = encode cs := by
  induction fuel generalizing start bytes cs with
  | zero =>
    cases List.eq_nil_of_length_eq_zero (Nat.le_zero.mp hl)
    cases h
    rfl
  | succ fuel ih =>
    rcases bytes with _ | ⟨a, rest⟩
    · cases h
      rfl
    unfold decodeFrom at h
    split at h
    · next c size hc =>
      obtain ⟨n, tail, behind, hs, rfl, rfl, rfl⟩ := spells_of_leading hc
      cases hd : decodeFrom fuel (start + (tail.length + 1)) behind with
      | error e => simp [hd, Except.map] at h
      | ok ds =>
        have hb := ih (by simp at hl; omega) hd
        simp [hd, Except.map] at h
        obtain ⟨b, tail', he, hs'⟩ := exists_spells_encodeChar (Char.ofNat n)
        rw [toNat_ofNat hs.valid] at hs'
        rw [← h, encode_cons, he, ← hs.unique hs', hb]
        rfl
    · cases h

/-- Reading is the inverse of writing. -/
theorem decode_eq_ok_iff {bytes : List UInt8} {cs : List Char} :
    decode bytes = .ok cs ↔ bytes = encode cs := by
  constructor
  · exact eq_encode_of_decodeFrom (Nat.le_refl _)
  · rintro rfl
    exact decodeFrom_encode cs _ 0 (Nat.le_refl _)

theorem decode_encode (cs : List Char) : decode (encode cs) = .ok cs := decode_eq_ok_iff.mpr rfl

/-! ### Valid bytes -/

/-- Whether bytes are UTF-8, as the core library says. -/
def IsUtf8 (bytes : List UInt8) : Prop := bytes.toByteArray.IsValidUTF8

/-- The text that bytes are, as the core library reads them. -/
def textOf? (bytes : List UInt8) : Option String := String.fromUTF8? bytes.toByteArray

theorem encodeChar_eq_utf8EncodeChar (c : Char) : encodeChar c = String.utf8EncodeChar c := by
  have hv := toNat_valid c
  have hc : c.val.toNat = c.toNat := rfl
  simp only [encodeChar, String.utf8EncodeChar, hc]
  split_ifs
  -- the branches in which the two tests disagree are empty
  all_goals
    first
    | omega
    | simp only [List.cons.injEq, ← UInt8.toNat_inj, UInt8.toNat_ofNat', and_true]
  all_goals omega

theorem toByteArray_encode (cs : List Char) : (encode cs).toByteArray = cs.utf8Encode := by
  have h : encodeChar = String.utf8EncodeChar := funext encodeChar_eq_utf8EncodeChar
  rw [encode, h, List.utf8Encode]

theorem toByteArray_injective {xs ys : List UInt8} (h : xs.toByteArray = ys.toByteArray) :
    xs = ys := by
  have := congrArg (fun b => b.data.toList) h
  simpa using this

theorem isUtf8_iff {bytes : List UInt8} : IsUtf8 bytes ↔ ∃ cs, bytes = encode cs := by
  constructor
  · rintro ⟨cs, h⟩
    exact ⟨cs, toByteArray_injective (h.trans (toByteArray_encode cs).symm)⟩
  · rintro ⟨cs, rfl⟩
    exact ⟨cs, toByteArray_encode cs⟩

theorem textOf?_encode (cs : List Char) : textOf? (encode cs) = some (String.ofList cs) := by
  have hv : (encode cs).toByteArray.IsValidUTF8 := isUtf8_iff.mpr ⟨cs, rfl⟩
  rw [textOf?, String.fromUTF8?, dif_pos hv, Option.some_inj, ← String.toByteArray_inj,
    String.toByteArray_ofList]
  exact toByteArray_encode cs

theorem textOf?_eq_none {bytes : List UInt8} (h : ¬IsUtf8 bytes) : textOf? bytes = none :=
  dif_neg h

end TableFeed.Text
