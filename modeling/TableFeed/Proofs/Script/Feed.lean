import Mathlib.Logic.Basic
import TableFeed.Proofs.Text.Lines
import TableFeed.Script.Input

/-!
# What reading gives

Reading an input gives its lines. Where it fails, it gives the complete lines before the first
one that is not UTF-8, and then the failure; a line without its end counts for nothing there.

    a \n b \n ?? \n c      ──▶   a, b, failure        ?? is not UTF-8
    a \n b \n c, failure   ──▶   a, b, failure
-/

namespace TableFeed.Script

open TableFeed Text

/-- The texts of complete lines before the first one that is not UTF-8. -/
def goodLines : List (List UInt8) → List String
  | [] => []
  | piece :: pieces =>
    match textOf? piece with
    | none => []
    | some text => String.ofList (dropMark '\r' text.toList) :: goodLines pieces

/-- The complete lines of an input before the first one that is not UTF-8. -/
def Input.goodLines (i : Input) : List String := Script.goodLines (cutAfter lineFeed i.bytes).1

/-- Whether reading an input fails: at its end, or at a line that is not UTF-8. -/
def Input.Fails (i : Input) : Prop :=
  i.failure.isSome ∨ (∃ piece ∈ (cutAfter lineFeed i.bytes).1, ¬IsUtf8 piece) ∨
    ¬IsUtf8 (cutAfter lineFeed i.bytes).2

/-- Reading to the end fails exactly on bytes that are not UTF-8. -/
theorem Input.fails_iff {i : Input} (h : i.failure = none) : i.Fails ↔ ¬IsUtf8 i.bytes := by
  have hl : lineFeed = 10 := rfl
  simp only [Fails, h, hl, isUtf8_iff_cutAfter i.bytes, not_and_or, not_forall, exists_prop]
  simp

/-! ### Lines -/

theorem endedLine_encode (cs : List Char) :
    endedLine (encode cs) = .ok (String.ofList (dropMark '\r' cs)) := by
  have h : encode cs ++ [lineFeed] = encode (cs ++ ['\n']) := by simp [lineFeed, encodeChar]
  rw [endedLine, h, decode_encode]
  simp

theorem endedLine_eq_error {piece : List UInt8} (hn : 10 ∉ piece) (h : ¬IsUtf8 piece) :
    ∃ text, endedLine piece = .error text := by
  cases hd : decode (piece ++ [lineFeed]) with
  | error m => exact ⟨m.message, by rw [endedLine, hd]⟩
  | ok cs =>
    have hu : IsUtf8 (piece ++ [10]) := isUtf8_iff.mpr ⟨cs, decode_eq_ok_iff.mp hd⟩
    exact absurd ((isUtf8_concat_ten hn).mp hu) h

theorem lastLine_encode (cs : List Char) : lastLine (encode cs) = .ok (String.ofList cs) := by
  rw [lastLine, decode_encode]

theorem lastLine_eq_error {bytes : List UInt8} (h : ¬IsUtf8 bytes) :
    ∃ text, lastLine bytes = .error text := by
  cases hd : decode bytes with
  | error m => exact ⟨m.message, by rw [lastLine, hd]⟩
  | ok cs => exact absurd (isUtf8_iff.mpr ⟨cs, decode_eq_ok_iff.mp hd⟩) h

theorem goodLines_cons_encode (cs : List Char) (pieces : List (List UInt8)) :
    goodLines (encode cs :: pieces) = String.ofList (dropMark '\r' cs) :: goodLines pieces := by
  simp [goodLines, textOf?_encode]

theorem goodLines_cons_of_not {piece : List UInt8} (h : ¬IsUtf8 piece)
    (pieces : List (List UInt8)) : goodLines (piece :: pieces) = [] := by
  simp [goodLines, textOf?_eq_none h]

/-! ### Pieces -/

/-- Pieces that are UTF-8 are all read. -/
theorem untilFailure_of_isUtf8 {pieces : List (List UInt8)} (h : ∀ piece ∈ pieces, IsUtf8 piece)
    (ending : Feed) :
    untilFailure (pieces.map endedLine ++ ending) =
      (goodLines pieces).map .ok ++ untilFailure ending := by
  induction pieces with
  | nil => rfl
  | cons piece pieces ih =>
    rw [List.forall_mem_cons] at h
    obtain ⟨cs, rfl⟩ := isUtf8_iff.mp h.1
    rw [List.map_cons, endedLine_encode, goodLines_cons_encode, List.map_cons, List.cons_append,
      List.cons_append, untilFailure, ih h.2]

/-- Pieces are read up to the first one that is not UTF-8. -/
theorem untilFailure_of_not_isUtf8 {pieces : List (List UInt8)}
    (hn : ∀ piece ∈ pieces, 10 ∉ piece) (h : ∃ piece ∈ pieces, ¬IsUtf8 piece) (ending : Feed) :
    ∃ text, untilFailure (pieces.map endedLine ++ ending) =
      (goodLines pieces).map .ok ++ [.error text] := by
  induction pieces with
  | nil => simp at h
  | cons piece pieces ih =>
    rw [List.forall_mem_cons] at hn
    by_cases hp : IsUtf8 piece
    · obtain ⟨cs, rfl⟩ := isUtf8_iff.mp hp
      obtain ⟨text, ht⟩ := ih hn.2 (by simpa [hp] using h)
      refine ⟨text, ?_⟩
      rw [List.map_cons, endedLine_encode, goodLines_cons_encode, List.map_cons, List.cons_append,
        List.cons_append, untilFailure, ht]
    · obtain ⟨text, ht⟩ := endedLine_eq_error hn.1 hp
      refine ⟨text, ?_⟩
      rw [List.map_cons, ht, goodLines_cons_of_not hp]
      rfl

/-! ### Whole inputs -/

theorem Input.ending_eq_error {i : Input}
    (h : i.failure.isSome ∨ ¬IsUtf8 (cutAfter lineFeed i.bytes).2) :
    ∃ text, i.ending (cutAfter lineFeed i.bytes).2 = [.error text] := by
  cases hf : i.failure with
  | some text => exact ⟨text, by simp [ending, hf]⟩
  | none =>
    have hu : ¬IsUtf8 (cutAfter lineFeed i.bytes).2 := by simpa [hf] using h
    have hne : (cutAfter lineFeed i.bytes).2 ≠ [] := by
      intro he
      exact hu (he ▸ isUtf8_iff.mpr ⟨[], rfl⟩)
    obtain ⟨text, ht⟩ := lastLine_eq_error hu
    exact ⟨text, by simp [ending, hf, hne, ht]⟩

theorem Input.feed_eq (i : Input) :
    i.feed = untilFailure ((cutAfter lineFeed i.bytes).1.map endedLine ++
      i.ending (cutAfter lineFeed i.bytes).2) := rfl

/-- Where reading fails, the good lines come first and then the failure. -/
theorem Input.feed_of_fails {i : Input} (h : i.Fails) :
    ∃ text, i.feed = i.goodLines.map .ok ++ [.error text] := by
  rw [feed_eq]
  by_cases hp : ∃ piece ∈ (cutAfter lineFeed i.bytes).1, ¬IsUtf8 piece
  · exact untilFailure_of_not_isUtf8 (notMem_of_mem_cutAfter i.bytes) hp _
  · obtain ⟨text, ht⟩ := ending_eq_error (h.imp_right fun h => h.resolve_left hp)
    refine ⟨text, ?_⟩
    simp only [not_exists, not_and, not_not] at hp
    rw [ht]
    exact untilFailure_of_isUtf8 hp _

theorem goodLines_map_encode (css : List (List Char)) :
    goodLines (css.map encode) = css.map fun cs => String.ofList (dropMark '\r' cs) := by
  induction css with
  | nil => rfl
  | cons cs css ih => rw [List.map_cons, goodLines_cons_encode, ih, List.map_cons]

/-- What comes behind the last line feed of a text. -/
theorem untilFailure_ending_ofText (text : String) (cs : List Char) :
    untilFailure ((Input.ofText text).ending (encode cs)) =
      (if cs = [] then [] else [cs]).map fun cs => .ok (String.ofList cs) := by
  by_cases hc : cs = []
  · subst hc
    rfl
  · have he : (encode cs).isEmpty = false := by simpa [encode_eq_nil] using hc
    simp [Input.ending, Input.ofText, he, hc, lastLine_encode, untilFailure]

/-- The input that a text is gives the lines of the text. -/
theorem Input.feed_ofText (text : String) :
    (Input.ofText text).feed = (Text.lines text).map .ok := by
  have hu : ∀ piece ∈ (cutAfter '\n' text.toList).1.map encode, IsUtf8 piece := by
    simp only [List.forall_mem_map]
    exact fun cs _ => isUtf8_iff.mpr ⟨cs, rfl⟩
  have hc : cutAfter lineFeed (Input.ofText text).bytes = _ := cutAfter_encode text.toList
  rw [feed_eq, hc, untilFailure_of_isUtf8 hu, goodLines_map_encode, untilFailure_ending_ofText]
  simp [Text.lines, linesBy, Function.comp_def]

/-- An input that can be read gives lines only. -/
theorem Input.feed_of_not_fails {i : Input} (h : ¬i.Fails) :
    ∃ lines : List String, i.feed = lines.map .ok := by
  obtain ⟨bytes, failure⟩ := i
  obtain rfl : failure = none := by simpa using (not_or.mp h).1
  rw [fails_iff rfl, not_not] at h
  obtain ⟨cs, rfl⟩ := isUtf8_iff.mp h
  have ht := feed_ofText (String.ofList cs)
  rw [ofText, String.toList_ofList] at ht
  exact ⟨_, ht⟩

end TableFeed.Script
