import TableFeed.Proofs.Text.Utf8
import TableFeed.Text.Lines

/-!
# Lines of bytes and lines of characters

A line feed is written in one byte, and that byte is part of no other character. So bytes can be
cut at it before they are read: the pieces are those of the text, and bytes are UTF-8 exactly when
every piece is.

    characters ──cut──▶ pieces
        │                 │
      encode            encode
        ▼                 ▼
      bytes ────cut────▶ pieces
-/

namespace TableFeed.Text

open TableFeed

/-! ### Cutting -/

section Cut

variable {α : Type}

/-- Pieces with more elements in front of all. -/
def inFront (ys : List α) : List (List α) × List α → List (List α) × List α
  | ([], rest) => ([], ys ++ rest)
  | (p :: ps, rest) => ((ys ++ p) :: ps, rest)

theorem inFront_nil (r : List (List α) × List α) : inFront [] r = r := by
  rcases r with ⟨_ | ⟨p, ps⟩, rest⟩ <;> rfl

theorem inFront_append (xs ys : List α) (r : List (List α) × List α) :
    inFront xs (inFront ys r) = inFront (xs ++ ys) r := by
  rcases r with ⟨_ | ⟨p, ps⟩, rest⟩ <;> simp [inFront]

variable [DecidableEq α] {stop : α}

theorem cutAfter_cons_stop (xs : List α) :
    cutAfter stop (stop :: xs) = ([] :: (cutAfter stop xs).1, (cutAfter stop xs).2) := by
  simp [cutAfter]

theorem cutAfter_cons_ne {x : α} (h : x ≠ stop) (xs : List α) :
    cutAfter stop (x :: xs) = inFront [x] (cutAfter stop xs) := by
  simp only [cutAfter, if_neg h]
  rcases cutAfter stop xs with ⟨_ | ⟨p, ps⟩, rest⟩ <;> rfl

/-- What does not hold the stop stays in one piece. -/
theorem cutAfter_append {ys : List α} (h : stop ∉ ys) (xs : List α) :
    cutAfter stop (ys ++ xs) = inFront ys (cutAfter stop xs) := by
  induction ys with
  | nil => rw [List.nil_append, inFront_nil]
  | cons y ys ih =>
    obtain ⟨hy, hys⟩ := not_or.mp (mt List.mem_cons.mpr h)
    rw [List.cons_append, cutAfter_cons_ne (Ne.symm hy), ih hys, inFront_append]
    rfl

theorem cutAfter_concat {piece : List α} (h : stop ∉ piece) :
    cutAfter stop (piece ++ [stop]) = ([piece], []) := by
  rw [cutAfter_append h, cutAfter_cons_stop]
  simp [cutAfter, inFront]

/-- The pieces with their stops, and the rest, are everything. -/
theorem flatten_cutAfter (stop : α) (xs : List α) :
    (cutAfter stop xs).1.flatMap (· ++ [stop]) ++ (cutAfter stop xs).2 = xs := by
  induction xs with
  | nil => rfl
  | cons x xs ih =>
    by_cases hx : x = stop
    · subst hx
      rw [cutAfter_cons_stop]
      simpa using ih
    · rw [cutAfter_cons_ne hx]
      rcases hc : cutAfter stop xs with ⟨_ | ⟨p, ps⟩, rest⟩ <;> simpa [hc, inFront] using ih

theorem notMem_of_mem_cutAfter (xs : List α) : ∀ piece ∈ (cutAfter stop xs).1, stop ∉ piece := by
  induction xs with
  | nil => simp [cutAfter]
  | cons x xs ih =>
    by_cases hx : x = stop
    · subst hx
      rw [cutAfter_cons_stop]
      simpa using ih
    · rw [cutAfter_cons_ne hx]
      rcases hc : cutAfter stop xs with ⟨_ | ⟨p, ps⟩, rest⟩
      · simp [inFront]
      · rw [hc, List.forall_mem_cons] at ih
        simp only [inFront, List.forall_mem_cons]
        exact ⟨by simp [Ne.symm hx, ih.1], ih.2⟩

theorem notMem_cutAfter_snd (xs : List α) : stop ∉ (cutAfter stop xs).2 := by
  induction xs with
  | nil => simp [cutAfter]
  | cons x xs ih =>
    by_cases hx : x = stop
    · subst hx
      rw [cutAfter_cons_stop]
      exact ih
    · rw [cutAfter_cons_ne hx]
      rcases hc : cutAfter stop xs with ⟨_ | ⟨p, ps⟩, rest⟩ <;>
        simpa [hc, inFront, Ne.symm hx] using ih

theorem dropMark_subset (mark : α) (xs : List α) : dropMark mark xs ⊆ xs := by
  unfold dropMark
  split
  · exact (List.dropLast_sublist xs).subset
  · exact List.Subset.refl xs

end Cut

/-- No line holds a line feed. -/
theorem lineFeed_notMem_lines {text line : String} (h : line ∈ lines text) :
    '\n' ∉ line.toList := by
  obtain ⟨cs, hc, rfl⟩ := List.mem_map.1 h
  rw [String.toList_ofList]
  unfold linesBy at hc
  rcases List.mem_append.1 hc with hc | hc
  · obtain ⟨piece, hp, rfl⟩ := List.mem_map.1 hc
    exact fun hm => notMem_of_mem_cutAfter _ piece hp (dropMark_subset _ _ hm)
  · split at hc
    · exact absurd hc List.not_mem_nil
    · rw [List.mem_singleton.1 hc]
      exact notMem_cutAfter_snd _

/-! ### Bytes of characters -/

/-- The byte of a line feed belongs to no other character. -/
theorem ten_mem_encodeChar {c : Char} : 10 ∈ encodeChar c ↔ c = '\n' := by
  constructor
  · intro h
    obtain ⟨a, tail, he, hs⟩ := exists_spells_encodeChar c
    rw [he] at h
    have hn : c.toNat = 10 := by
      cases hs <;> simp only [List.mem_cons, List.not_mem_nil, or_false] at h <;>
        simp only [← UInt8.toNat_inj, UInt8.reduceToNat] at h <;> omega
    rw [← Char.ofNat_toNat c, hn]
  · rintro rfl
    decide

/-- Bytes are cut where the characters are. -/
theorem cutAfter_encode (cs : List Char) :
    cutAfter 10 (encode cs) = ((cutAfter '\n' cs).1.map encode, encode (cutAfter '\n' cs).2) := by
  induction cs with
  | nil => rfl
  | cons c cs ih =>
    by_cases hc : c = '\n'
    · subst hc
      have h : encode ('\n' :: cs) = 10 :: encode cs := rfl
      rw [h, cutAfter_cons_stop, cutAfter_cons_stop, ih]
      rfl
    · rw [encode_cons, cutAfter_append (mt ten_mem_encodeChar.mp hc), ih, cutAfter_cons_ne hc]
      rcases cutAfter '\n' cs with ⟨_ | ⟨p, ps⟩, rest⟩ <;> rfl

/-- Bytes are UTF-8 exactly when every piece of them is. -/
theorem isUtf8_iff_cutAfter (bytes : List UInt8) :
    IsUtf8 bytes ↔
      (∀ piece ∈ (cutAfter 10 bytes).1, IsUtf8 piece) ∧ IsUtf8 (cutAfter 10 bytes).2 := by
  constructor
  · intro h
    obtain ⟨cs, rfl⟩ := isUtf8_iff.mp h
    rw [cutAfter_encode]
    refine ⟨?_, isUtf8_iff.mpr ⟨_, rfl⟩⟩
    intro piece hp
    obtain ⟨ds, -, rfl⟩ := List.mem_map.mp hp
    exact isUtf8_iff.mpr ⟨ds, rfl⟩
  · rintro ⟨hp, hr⟩
    obtain ⟨last, hl⟩ := isUtf8_iff.mp hr
    have hf : ∃ cs, (cutAfter 10 bytes).1.flatMap (· ++ [10]) = encode cs := by
      generalize (cutAfter 10 bytes).1 = pieces at hp
      induction pieces with
      | nil => exact ⟨[], rfl⟩
      | cons p ps ih =>
        rw [List.forall_mem_cons] at hp
        obtain ⟨cs, hc⟩ := ih hp.2
        obtain ⟨ds, rfl⟩ := isUtf8_iff.mp hp.1
        refine ⟨ds ++ '\n' :: cs, ?_⟩
        rw [List.flatMap_cons, hc, encode_append]
        simp [encodeChar]
    obtain ⟨cs, hc⟩ := hf
    have h := flatten_cutAfter 10 bytes
    rw [hc, hl, ← encode_append] at h
    exact isUtf8_iff.mpr ⟨_, h.symm⟩

/-- The line feed behind a piece decides nothing. -/
theorem isUtf8_concat_ten {piece : List UInt8} (h : 10 ∉ piece) :
    IsUtf8 (piece ++ [10]) ↔ IsUtf8 piece := by
  have hn : IsUtf8 [] := isUtf8_iff.mpr ⟨[], rfl⟩
  rw [isUtf8_iff_cutAfter, cutAfter_concat h]
  simp [hn]

end TableFeed.Text
