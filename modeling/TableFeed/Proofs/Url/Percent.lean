import TableFeed.Proofs.Text.Utf8
import TableFeed.Url.Path

/-!
# Escapes and dots

Taking escapes back gives the bytes of the text that was escaped, so that different texts are
escaped differently. As one segment of a path, a name is spelled in exactly one way. Where dots and
digits stand for themselves no escape stands for a dot; an escaped text is a segment of dots only if
the text itself is.

    "a b/é"   ──escaped──▶   "a%20b%2F%C3%A9"   ──unescaped──▶   61 20 62 2F C3 A9
    ".."      ──escaped──▶   ".."
-/

namespace TableFeed.Url

open TableFeed

/-! ### One byte -/

theorem hexValue?_hexDigit {n : Nat} (h : n < 16) : hexValue? (hexDigit n) = some n := by
  have hall : ∀ n < 16, hexValue? (hexDigit n) = some n := by decide
  exact hall n h

theorem unescaped_escapedByte (b : UInt8) (rest : List Char) :
    unescaped (escapedByte b ++ rest) = b :: unescaped rest := by
  have hb : b.toNat < 256 := b.toNat_lt
  have hbyte : UInt8.ofNat (b.toNat / 16 * 16 + b.toNat % 16) = b := by
    rw [Nat.div_add_mod', UInt8.ofNat_toNat]
  simp only [escapedByte, List.cons_append, List.nil_append, unescaped,
    hexValue?_hexDigit (show b.toNat / 16 < 16 by omega),
    hexValue?_hexDigit (show b.toNat % 16 < 16 by omega), hbyte]

theorem unescaped_flatMap_escapedByte (bs : List UInt8) (rest : List Char) :
    unescaped (bs.flatMap escapedByte ++ rest) = bs ++ unescaped rest := by
  induction bs with
  | nil => rfl
  | cons b bs ih =>
    rw [List.flatMap_cons, List.append_assoc, unescaped_escapedByte, ih, List.cons_append]

theorem unescaped_cons_of_ne {c : Char} (hc : c ≠ '%') (rest : List Char) :
    unescaped (c :: rest) = Text.encodeChar c ++ unescaped rest := by
  rw [unescaped]
  rintro a b rest rfl
  exact absurd rfl hc

/-! ### Texts -/

theorem escaped_cons (keeps : Char → Bool) (c : Char) (cs : List Char) :
    escaped keeps (c :: cs) = escapedChar keeps c ++ escaped keeps cs := rfl

theorem ne_of_keeps {keeps : Char → Bool} {c d : Char} (hd : keeps d = false)
    (hc : keeps c = true) : c ≠ d := by
  rintro rfl
  rw [hd] at hc
  cases hc

theorem unescaped_escapedChar {keeps : Char → Bool} (hk : keeps '%' = false) (c : Char)
    (rest : List Char) :
    unescaped (escapedChar keeps c ++ rest) = Text.encodeChar c ++ unescaped rest := by
  unfold escapedChar
  split
  · next hc => exact unescaped_cons_of_ne (ne_of_keeps hk hc) rest
  · exact unescaped_flatMap_escapedByte _ rest

/-- Taking escapes back gives the bytes of the text. -/
theorem unescaped_escaped {keeps : Char → Bool} (hk : keeps '%' = false) (cs : List Char) :
    unescaped (escaped keeps cs) = Text.encode cs := by
  induction cs with
  | nil => rfl
  | cons c cs ih => rw [escaped_cons, unescaped_escapedChar hk, ih, Text.encode_cons]

/-- Different texts are escaped differently. -/
theorem escaped_injective {keeps : Char → Bool} (hk : keeps '%' = false) {cs ds : List Char}
    (h : escaped keeps cs = escaped keeps ds) : cs = ds := by
  have hu : Text.encode cs = Text.encode ds := by
    rw [← unescaped_escaped hk, h, unescaped_escaped hk]
  have hd := Text.decode_encode cs
  rw [hu, Text.decode_encode] at hd
  exact (Except.ok.inj hd).symm

theorem escaped_of_forall {keeps : Char → Bool} {cs : List Char}
    (h : ∀ c ∈ cs, keeps c = true) : escaped keeps cs = cs := by
  induction cs with
  | nil => rfl
  | cons c cs ih =>
    obtain ⟨hc, hcs⟩ := List.forall_mem_cons.1 h
    rw [escaped_cons, escapedChar, if_pos hc, ih hcs, List.singleton_append]

/-! ### Characters of escapes -/

/-- A property of the characters that are kept, of the percent sign and of the digits is one of
all characters of an escaped text. -/
theorem forall_mem_escaped {keeps p : Char → Bool} (hk : ∀ c, keeps c = true → p c = true)
    (hp : p '%' = true) (hd : ∀ n < 16, p (hexDigit n) = true) {cs : List Char} {c : Char}
    (h : c ∈ escaped keeps cs) : p c = true := by
  obtain ⟨d, -, hc⟩ := List.mem_flatMap.1 h
  unfold escapedChar at hc
  split at hc
  · next hkd =>
    obtain rfl := List.mem_singleton.1 hc
    exact hk c hkd
  · obtain ⟨b, -, hc⟩ := List.mem_flatMap.1 hc
    have hb : b.toNat < 256 := b.toNat_lt
    simp only [escapedByte, List.mem_cons, List.not_mem_nil, or_false] at hc
    rcases hc with rfl | rfl | rfl
    · exact hp
    · exact hd _ (by omega)
    · exact hd _ (by omega)

/-- A character that stands for itself in a segment of a path. -/
def keptInSegment (c : Char) : Bool := keptInPath c && !isSlash c

theorem isAlphanum_iff (c : Char) :
    c.isAlphanum = true ↔ (0x41 ≤ c.toNat ∧ c.toNat ≤ 0x5A ∨ 0x61 ≤ c.toNat ∧ c.toNat ≤ 0x7A) ∨
      0x30 ≤ c.toNat ∧ c.toNat ≤ 0x39 := by
  have hc : c.isAlphanum =
      ((decide (0x41 ≤ c.val ∧ c.val ≤ 0x5A) || decide (0x61 ≤ c.val) && decide (c.val ≤ 0x7A)) ||
        decide (0x30 ≤ c.val) && decide (c.val ≤ 0x39)) := rfl
  have hv : c.toNat = c.val.toNat := rfl
  rw [hc, hv]
  simp only [Bool.or_eq_true, Bool.and_eq_true, decide_eq_true_eq, UInt32.le_iff_toNat_le,
    UInt32.reduceToNat]

theorem isGraphic_of_isUnreserved {c : Char} (h : isUnreserved c = true) : isGraphic c = true := by
  simp only [isUnreserved, Bool.or_eq_true, beq_iff_eq, isAlphanum_iff] at h
  simp only [isGraphic, Bool.and_eq_true, decide_eq_true_eq]
  rcases h with (((h | rfl) | rfl) | rfl) | rfl
  · omega
  · decide
  · decide
  · decide
  · decide

theorem keptInSegment_of_isUnreserved {c : Char} (h : isUnreserved c = true) :
    keptInSegment c = true := by
  have hne (ds : List Char) (hds : ∀ d ∈ ds, isUnreserved d = false) : ds.contains c = false := by
    rw [List.contains_eq_mem, decide_eq_false_iff_not]
    exact fun hc => ne_of_keeps (hds c hc) h rfl
  have hq := hne ['"', '#', '<', '>', '?', '^', Char.ofNat 96, '\x7b', '\x7d'] (by decide)
  have hs : isSlash c = false := by
    have hs := hne ['/', '\\'] (by decide)
    simpa [isSlash] using hs
  rw [keptInSegment, keptInPath, isGraphic_of_isUnreserved h, hq, hs]
  rfl

theorem keptInSegment_of_mem_escaped {cs : List Char} {c : Char}
    (h : c ∈ escaped isUnreserved cs) : keptInSegment c = true := by
  have hp : keptInSegment '%' = true := by decide
  have hd : ∀ n < 16, keptInSegment (hexDigit n) = true := by decide
  exact forall_mem_escaped (p := keptInSegment) (fun _ => keptInSegment_of_isUnreserved) hp hd h

/-! ### Names as segments -/

/-- A character that a name keeps as one segment of a path. -/
def StandsForItself (c : Char) : Prop := c.isAlphanum = true ∨ c ∈ ['-', '_', '.', '~']

/-- A byte by a percent sign and its two digits to the base sixteen, the letters as capitals. -/
def spelledByte (b : UInt8) : List Char :=
  let digits := "0123456789ABCDEF".toList
  ['%', digits.getD (b.toNat / 16) '0', digits.getD (b.toNat % 16) '0']

/-- How a name is spelled as one segment of a path. A character that does not stand for itself is
spelled by its bytes in UTF-8. -/
inductive SpelledAs : List Char → List Char → Prop
  | nil : SpelledAs [] []
  | itself {c : Char} {cs s : List Char} (hc : StandsForItself c) (hs : SpelledAs cs s) :
    SpelledAs (c :: cs) (c :: s)
  | bytes {c : Char} {cs s : List Char} (hc : ¬StandsForItself c) (hs : SpelledAs cs s) :
    SpelledAs (c :: cs) ((String.utf8EncodeChar c).flatMap spelledByte ++ s)

theorem standsForItself_iff (c : Char) : StandsForItself c ↔ isUnreserved c = true := by
  simp [StandsForItself, isUnreserved, or_assoc]

theorem spelledByte_eq (b : UInt8) : spelledByte b = escapedByte b := by
  have hb : b.toNat < 256 := b.toNat_lt
  have hdigit : ∀ n < 16, "0123456789ABCDEF".toList.getD n '0' = hexDigit n := by decide
  rw [spelledByte, escapedByte, hdigit _ (by omega), hdigit _ (by omega)]

theorem spelledAs_escaped (cs : List Char) : SpelledAs cs (escaped isUnreserved cs) := by
  induction cs with
  | nil => exact .nil
  | cons c cs ih =>
    rw [escaped_cons, escapedChar]
    split
    · next hc => exact .itself ((standsForItself_iff c).2 hc) ih
    · next hc =>
      rw [Text.encodeChar_eq_utf8EncodeChar, ← funext spelledByte_eq]
      exact .bytes (fun h => hc ((standsForItself_iff c).1 h)) ih

theorem SpelledAs.eq_escaped {cs s : List Char} (h : SpelledAs cs s) :
    s = escaped isUnreserved cs := by
  induction h with
  | nil => rfl
  | @itself c cs s hc _ ih =>
    rw [escaped_cons, escapedChar, if_pos ((standsForItself_iff c).1 hc), ← ih,
      List.singleton_append]
  | @bytes c cs s hc _ ih =>
    rw [escaped_cons, escapedChar, if_neg fun h => hc ((standsForItself_iff c).2 h), ← ih,
      Text.encodeChar_eq_utf8EncodeChar, funext spelledByte_eq]

/-- Escaping spells every name, and nothing else does. -/
theorem spelledAs_iff {cs s : List Char} : SpelledAs cs s ↔ s = escaped isUnreserved cs := by
  constructor
  · exact SpelledAs.eq_escaped
  · rintro rfl
    exact spelledAs_escaped cs

/-! ### Dots -/

/-- Only a dot is written with the byte of a dot. -/
theorem eq_dot_of_mem_encodeChar {c : Char} (h : (0x2E : UInt8) ∈ Text.encodeChar c) : c = '.' := by
  obtain ⟨a, tail, he, hs⟩ := Text.exists_spells_encodeChar c
  rw [he] at h
  have hn : c.toNat = 0x2E := by
    cases hs <;> simp only [List.mem_cons, List.not_mem_nil, or_false, ← UInt8.toNat_inj,
      UInt8.reduceToNat] at h <;> omega
  exact Char.toNat_inj.1 hn

theorem withDots_cons_of_ne {c : Char} (hc : c ≠ '%') (rest : List Char) :
    withDots (c :: rest) = c :: withDots rest := by
  rw [withDots]
  rintro d rest rfl
  exact absurd rfl hc

theorem withDots_percent {a b : Char} (ha : a ≠ '%') (hb : b ≠ '%')
    (h : ¬(a = '2' ∧ (b = 'e' ∨ b = 'E'))) (rest : List Char) :
    withDots ('%' :: a :: b :: rest) = '%' :: a :: b :: withDots rest := by
  by_cases h2 : a = '2'
  · subst h2
    rw [withDots, if_neg fun hb => h ⟨rfl, hb⟩]
  · rw [withDots, withDots_cons_of_ne ha, withDots_cons_of_ne hb]
    exact fun c rest _ h => h2 (List.cons.inj h).1

/-- The escape of any other byte does not stand for a dot. -/
theorem withDots_escapedByte {b : UInt8} (hb : b ≠ 0x2E) (rest : List Char) :
    withDots (escapedByte b ++ rest) = escapedByte b ++ withDots rest := by
  have hlt : b.toNat < 256 := b.toNat_lt
  have hne : ∀ n < 16, hexDigit n ≠ '%' := by decide
  have h2 : ∀ n < 16, hexDigit n = '2' → n = 2 := by decide
  have hE : ∀ n < 16, hexDigit n = 'e' ∨ hexDigit n = 'E' → n = 14 := by decide
  refine withDots_percent (hne _ (by omega)) (hne _ (by omega)) ?_ rest
  rintro ⟨hhigh, hlow⟩
  have hhigh := h2 _ (by omega) hhigh
  have hlow := hE _ (by omega) hlow
  have hdot : (0x2E : UInt8).toNat = 2 * 16 + 14 := rfl
  exact hb (UInt8.toNat_inj.1 (by omega))

theorem withDots_flatMap_escapedByte {bs : List UInt8} (hbs : (0x2E : UInt8) ∉ bs)
    (rest : List Char) :
    withDots (bs.flatMap escapedByte ++ rest) = bs.flatMap escapedByte ++ withDots rest := by
  induction bs with
  | nil => rfl
  | cons b bs ih =>
    rw [List.mem_cons, not_or] at hbs
    rw [List.flatMap_cons, List.append_assoc, withDots_escapedByte (Ne.symm hbs.1), ih hbs.2,
      List.append_assoc]

/-- Where dots stand for themselves, no escape stands for a dot. -/
theorem withDots_escaped {keeps : Char → Bool} (hk : keeps '%' = false) (hd : keeps '.' = true)
    (cs : List Char) : withDots (escaped keeps cs) = escaped keeps cs := by
  induction cs with
  | nil => rfl
  | cons c cs ih =>
    rw [escaped_cons, escapedChar]
    split
    · next hc => rw [List.singleton_append, withDots_cons_of_ne (ne_of_keeps hk hc), ih]
    · next hc =>
      have hb : (0x2E : UInt8) ∉ Text.encodeChar c := fun hm =>
        hc (eq_dot_of_mem_encodeChar hm ▸ hd)
      rw [withDots_flatMap_escapedByte hb, ih]

/-- An escaped name is a segment of dots only if the name itself is. -/
theorem withDots_escaped_eq_iff {cs dots : List Char} (hd : ∀ c ∈ dots, c = '.') :
    withDots (escaped isUnreserved cs) = dots ↔ cs = dots := by
  have hdots : escaped isUnreserved dots = dots := by
    refine escaped_of_forall fun c hc => ?_
    rw [hd c hc]
    decide
  have hk : isUnreserved '%' = false := by decide
  rw [withDots_escaped hk (by decide)]
  constructor
  · intro h
    exact escaped_injective hk (h.trans hdots.symm)
  · rintro rfl
    exact hdots

theorem isHere_escaped (cs : List Char) :
    isHere (escaped isUnreserved cs) = true ↔ cs = ['.'] := by
  rw [isHere, beq_iff_eq, withDots_escaped_eq_iff (by simp)]

theorem isUp_escaped (cs : List Char) :
    isUp (escaped isUnreserved cs) = true ↔ cs = ['.', '.'] := by
  rw [isUp, beq_iff_eq, withDots_escaped_eq_iff (by simp)]

end TableFeed.Url
