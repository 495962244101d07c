import TableFeed.Proofs.Script.OnDemand
import TableFeed.Proofs.Script.Segmentation

/-!
# Where the line modes agree

The modes differ only in what they make of the end of a line, and only if a literal or a block
comment is open there: one mode leaves it, the other goes on inside it. A script whose lines leave
neither open is read in the same way in both, call by call.

    end of the line       reset per line     continuous
    plain                 start              start
    -- …                  start              start
    '…                    start              literal
    /* …                  start              block comment

What the modes share between two lines is kept by a line (`pushLine_agrees`), hence by all of them
(`agrees_after`).
-/

namespace TableFeed.Script

open TableFeed

/-- Whether a literal or a block comment is open. -/
def Region.isOpen : Region → Bool
  | .literal _ _ | .blockComment _ => true
  | .plain _ | .lineComment => false

namespace Segmenter

/-- The segmenter that has read some lines. -/
def after (mode : LineMode) (lines : List String) : Segmenter := ((start mode).pushLines lines).2

theorem pushLines_append (g : Segmenter) (front back : List String) :
    (g.pushLines (front ++ back)).2 = ((g.pushLines front).2.pushLines back).2 := by
  induction front generalizing g with
  | nil => rfl
  | cons line front ih => exact ih (g.pushLine line).2

theorem after_take_succ (mode : LineMode) {lines : List String} {n : Nat} (hn : n < lines.length) :
    after mode (lines.take (n + 1)) = ((after mode (lines.take n)).pushLine lines[n]).2 := by
  rw [List.take_succ_eq_append_getElem hn, after, pushLines_append]
  rfl

/-- What the segmenters of the two modes share between two lines: everything but their regions. -/
structure Agrees (g h : Segmenter) : Prop where
  resets : g.mode = .resetPerLine
  carries : h.mode = .continuous
  buffer : g.buffer = h.buffer
  begun : g.begun = h.begun
  /-- Before the first line nothing is open. -/
  fresh : h.begun = false → h.region = .start

/-- Where nothing is open, both modes start the next line alike. -/
theorem lineStart_eq_of_agrees {g h : Segmenter} (hgh : Agrees g h)
    (ho : h.region.isOpen = false) : g.lineStart = h.lineStart := by
  obtain ⟨hg, hh, hbuffer, hbegun, hfresh⟩ := hgh
  cases hb : h.begun with
  | false =>
    have hgb : g.begun = false := hbegun.trans hb
    simp [lineStart, hg, hh, hb, hgb, hbuffer, hfresh hb]
  | true =>
    rw [lineStart_resetPerLine (hbegun.trans hb) hg, lineStart_continuous hb hh, hbuffer]
    obtain ⟨mode, region, buffer, begun⟩ := h
    subst hh
    cases region with
    | plain previous => rfl
    | lineComment => rfl
    | literal quote escaped => cases ho
    | blockComment afterStar => cases ho

/-- A line completes the same statements in both modes, and they agree behind it. -/
theorem pushLine_agrees {g h : Segmenter} (hgh : Agrees g h) (ho : h.region.isOpen = false)
    (line : String) :
    (g.pushLine line).1 = (h.pushLine line).1 ∧ Agrees (g.pushLine line).2 (h.pushLine line).2 := by
  have hs : g.lineStart = h.lineStart := lineStart_eq_of_agrees hgh ho
  refine ⟨by rw [pushLine, pushLine, hs], ?_⟩
  constructor
  · exact hgh.resets
  · exact hgh.carries
  · rw [pushLine, pushLine, hs]
  · rfl
  · intro hb
    cases hb

theorem agrees_start : Agrees (start .resetPerLine) (start .continuous) :=
  ⟨rfl, rfl, rfl, rfl, fun _ => rfl⟩

/-- The modes agree behind every line, as long as no line before leaves anything open. -/
theorem agrees_after {lines : List String}
    (hl : ∀ n < lines.length, (after .continuous (lines.take n)).region.isOpen = false) {n : Nat}
    (hn : n ≤ lines.length) :
    Agrees (after .resetPerLine (lines.take n)) (after .continuous (lines.take n)) := by
  induction n with
  | zero =>
    rw [List.take_zero]
    exact agrees_start
  | succ n ih =>
    rw [after_take_succ .resetPerLine hn, after_take_succ .continuous hn]
    exact (pushLine_agrees (ih (Nat.le_of_succ_le hn)) (hl n hn) _).2

end Segmenter

open Segmenter in
/-- If no line but the last leaves a literal or a block comment open in continuous mode, then every
line completes the same statements in both modes, and the same statement is pending at the end. -/
theorem pushLine_modes_eq {lines : List String}
    (hl : ∀ n < lines.length, (after .continuous (lines.take n)).region.isOpen = false) :
    (∀ (n : Nat) (hn : n < lines.length),
      ((after .resetPerLine (lines.take n)).pushLine lines[n]).1 =
        ((after .continuous (lines.take n)).pushLine lines[n]).1) ∧
      pending .resetPerLine lines = pending .continuous lines := by
  constructor
  · intro n hn
    exact (pushLine_agrees (agrees_after hl (Nat.le_of_lt hn)) (hl n hn) lines[n]).1
  · have h : Agrees (after .resetPerLine lines) (after .continuous lines) := by
      have ha := agrees_after hl (Nat.le_refl _)
      rwa [List.take_length] at ha
    show (after .resetPerLine lines).finish = (after .continuous lines).finish
    rw [finish, finish, h.buffer]

/-- Lines that end in a comment, behind closed literals and comments, and at last in a literal. -/
def closedLines : List String :=
  ["a 'x;\\'' -- it's", "b; /* c; */ d", "e \"f\" --", "g; 'h"]

open Segmenter in
theorem pushLine_closedLines :
    (∀ n < closedLines.length, (after .continuous (closedLines.take n)).region.isOpen = false) ∧
      (∀ (n : Nat) (hn : n < closedLines.length),
        ((after .resetPerLine (closedLines.take n)).pushLine closedLines[n]).1 =
          ((after .continuous (closedLines.take n)).pushLine closedLines[n]).1) ∧
      pending .resetPerLine closedLines = some "'h" := by
  have hl : ∀ n < closedLines.length,
      (after .continuous (closedLines.take n)).region.isOpen = false := by decide
  obtain ⟨hc, hp⟩ := pushLine_modes_eq hl
  exact ⟨hl, hc, hp.trans (by decide)⟩

end TableFeed.Script
