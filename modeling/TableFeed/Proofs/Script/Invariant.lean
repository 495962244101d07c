import Mathlib.Data.List.TakeWhile
import Mathlib.Tactic.SplitIfs
import TableFeed.Proofs.Script.LineModes

/-!
# What the region says of the buffer

The scan takes the newest character back when a comment opens, and what it takes back has to be the
first character of the comment mark. So where a character is looked back at, it is the newest one
that has been kept. And inside a literal the quote that opened it has been kept, with what has been
read of the literal since, so that the pending statement is not blank.

    region                 buffer, newest first
    plain, after c         c …
    literal opened by q    characters of the literal, q …
    any other one          nothing is said

Every step keeps this (`fits_step`), hence every line (`fits_run`, `fits_pushLine`) and every list
of lines (`fits_after`). So no literal is open where nothing is pending (`region_ne_literal`).
-/

namespace TableFeed.Script

open TableFeed

/-! ### The quote that opened a literal -/

/-- The quote that opened a literal has been kept, and behind it the characters read since: together
with these, all that comes is read as the rest of this literal. -/
def OpenedBy (quote : Char) (escaped : Bool) (buffer : List Char) : Prop :=
  ∃ inner front, buffer = inner ++ quote :: front ∧ ∀ cs,
    throughQuote quote (inner.reverse ++ cs) =
      (inner.reverse ++ (literalRest quote escaped cs).1, (literalRest quote escaped cs).2)

namespace OpenedBy

variable {quote : Char} {escaped : Bool} {buffer : List Char}

/-- A quote opens a literal. -/
theorem opening (quote : Char) (buffer : List Char) : OpenedBy quote false (quote :: buffer) :=
  ⟨[], buffer, rfl, fun cs => by simp [literalRest]⟩

/-- A character that does not close a literal is kept behind its opening quote. -/
theorem cons (h : OpenedBy quote escaped buffer) {c : Char} (hc : ¬(c = quote ∧ escaped = false)) :
    OpenedBy quote (c == '\\' && !escaped) (c :: buffer) := by
  obtain ⟨inner, front, rfl, hrest⟩ := h
  refine ⟨c :: inner, front, rfl, fun cs => ?_⟩
  rw [List.reverse_cons, List.append_assoc, List.singleton_append, hrest, literalRest_cons hc,
    List.append_assoc, List.singleton_append]

theorem mem (h : OpenedBy quote escaped buffer) : quote ∈ buffer := by
  obtain ⟨inner, front, rfl, -⟩ := h
  simp

end OpenedBy

/-! ### Regions and buffers -/

/-- What a region says of the characters kept, newest first. -/
def Region.Fits (buffer : List Char) : Region → Prop
  | .plain (some c) => buffer.head? = some c
  | .literal quote escaped => isQuote quote = true ∧ OpenedBy quote escaped buffer
  | .plain none | .lineComment | .blockComment _ => True

theorem isBlank_of_isQuote {c : Char} (h : isQuote c = true) : Text.isBlank c = false := by
  unfold isQuote at h
  rcases Bool.or_eq_true_iff.mp h with h | h
  · rw [eq_of_beq h]
    rfl
  · rw [eq_of_beq h]
    rfl

namespace Scan

/-- Where nothing is pending, nothing but blanks has been kept. -/
theorem isBlank_of_statement?_eq_none {buffer : List Char} (h : statement? buffer = none) :
    ∀ c ∈ buffer, Text.isBlank c = true := by
  have ht : Text.trim buffer.reverse = [] := by
    unfold statement? at h
    split at h
    · next ht => exact ht
    · cases h
  have hs : Text.trimStart buffer.reverse = [] := by
    -- what is left in front would begin with a character that is not blank
    have hd := List.dropWhile_eq_nil_iff.mp (List.reverse_eq_nil_iff.mp ht)
    have hh := List.head?_dropWhile_not Text.isBlank buffer.reverse
    unfold Text.trimStart at hd ⊢
    generalize buffer.reverse.dropWhile Text.isBlank = rest at hd hh
    cases rest with
    | nil => rfl
    | cons c rest =>
      have hc := hd c (by simp)
      simp only [List.head?_cons] at hh
      rw [hc] at hh
      cases hh
  intro c hc
  exact List.dropWhile_eq_nil_iff.mp hs c (List.mem_reverse.mpr hc)

/-- The region of a scan fits its buffer. -/
def Fits (s : Scan) : Prop := s.region.Fits s.buffer

/-- A character kept outside literals is the one to look back at. -/
theorem fits_keep_plain (s : Scan) (c : Char) : (s.keep c (.plain (some c))).Fits := rfl

/-- Outside literals and comments every character leads to a region that fits. -/
theorem fits_plainStep (s : Scan) (previous : Option Char) (c : Char) :
    (s.plainStep previous c).Fits := by
  unfold plainStep
  split_ifs with hq
  · exact ⟨hq, .opening c s.buffer⟩
  · trivial
  · trivial
  · trivial
  · exact s.fits_keep_plain c

/-- What follows in a literal is kept behind the quote that opened it. -/
theorem fits_literalStep {s : Scan} {quote : Char} {escaped : Bool} (hq : isQuote quote = true)
    (ho : OpenedBy quote escaped s.buffer) (c : Char) : (s.literalStep quote escaped c).Fits := by
  unfold literalStep
  split_ifs with hc
  · exact s.fits_keep_plain c
  · exact ⟨hq, ho.cons hc⟩

theorem fits_blockStep (s : Scan) (afterStar : Bool) (c : Char) :
    (s.blockStep afterStar c).Fits := by
  unfold blockStep
  split_ifs <;> trivial

/-- A step keeps the region fitting. -/
theorem fits_step {s : Scan} (hs : s.Fits) (c : Char) : (s.step c).Fits := by
  unfold step
  split
  · next previous h => exact s.fits_plainStep previous c
  · next quote escaped h =>
    unfold Fits at hs
    rw [h] at hs
    obtain ⟨hq, ho⟩ := hs
    exact fits_literalStep hq ho c
  · exact hs
  · next afterStar h => exact s.fits_blockStep afterStar c

theorem fits_run {s : Scan} (hs : s.Fits) (cs : List Char) : (s.run cs).Fits := by
  induction cs generalizing s with
  | nil => exact hs
  | cons c cs ih => exact ih (fits_step hs c)

end Scan

namespace Segmenter

/-- In continuous mode the end of a line leaves the region fitting: an open literal goes on behind
the line feed that is kept. -/
theorem fits_lineBreak {g : Segmenter} (hm : g.mode = .continuous) (hg : g.scan.Fits) :
    g.lineBreak.scan.Fits := by
  obtain ⟨mode, region, buffer, begun⟩ := g
  subst hm
  cases region with
  | plain previous => trivial
  | literal quote escaped =>
    obtain ⟨hq, ho⟩ := hg
    have hne : '\n' ≠ quote := by
      rintro rfl
      exact absurd hq (by decide)
    exact ⟨hq, ho.cons fun hc => hne hc.1⟩
  | lineComment => trivial
  | blockComment afterStar => trivial

theorem fits_lineStart {g : Segmenter} (hg : g.scan.Fits) : g.lineStart.Fits := by
  cases hm : g.mode with
  | resetPerLine =>
    have hr : g.lineStart.region = .start := by
      cases hb : g.begun <;> simp [lineStart, hb, hm]
    unfold Scan.Fits
    rw [hr]
    trivial
  | continuous =>
    cases hb : g.begun with
    | true =>
      rw [lineStart_continuous hb hm]
      exact fits_lineBreak hm hg
    | false =>
      have hs : g.lineStart = g.scan := by simp [lineStart, hb, hm, scan]
      rw [hs]
      exact hg

theorem fits_pushLine {g : Segmenter} (hg : g.scan.Fits) (line : String) :
    (g.pushLine line).2.scan.Fits :=
  Scan.fits_run (fits_lineStart hg) line.toList

theorem fits_pushLines {g : Segmenter} (hg : g.scan.Fits) (lines : List String) :
    (g.pushLines lines).2.scan.Fits := by
  induction lines generalizing g with
  | nil => exact hg
  | cons line lines ih => exact ih (fits_pushLine hg line)

theorem fits_start (mode : LineMode) : (start mode).scan.Fits := trivial

/-- Behind every list of lines the region fits the pending statement. -/
theorem fits_after (mode : LineMode) (lines : List String) : (after mode lines).scan.Fits :=
  fits_pushLines (fits_start mode) lines

/-- Where nothing is pending, no literal is open. -/
theorem region_ne_literal {g : Segmenter} (hg : g.scan.Fits) (hp : g.finish = none) (quote : Char)
    (escaped : Bool) : g.region ≠ .literal quote escaped := by
  intro hr
  have hfit : g.region.Fits g.buffer := hg
  rw [hr] at hfit
  obtain ⟨hq, ho⟩ := hfit
  have hb := Scan.isBlank_of_statement?_eq_none hp quote ho.mem
  rw [isBlank_of_isQuote hq] at hb
  cases hb

end Segmenter

end TableFeed.Script
