import TableFeed.Proofs.Script.Answers
import TableFeed.Proofs.Script.Invariant

/-!
# Scripts joined at a boundary

Where nothing is pending and no block comment goes on, a script can be cut in two, and each part
read by itself. The segmenter behind the first part is not a new one all the same: blanks and line
feeds may have been kept, and they stay in front of what is kept from then on.

    behind the first part     blanks
    then, line by line        blanks ++ c₁ c₂ …
    in a new segmenter                  c₁ c₂ …

Two scans that differ by such blanks (`Trails`) do so after every step, until a terminator drops
them; so each line completes the same statements in both, and the same one is pending at the end.
-/

namespace TableFeed.Script

open TableFeed

/-! ### Blanks in front -/

/-- A buffer that is another one behind blanks; newest first, so the blanks come last. -/
def Padded (padded buffer : List Char) : Prop :=
  ∃ blanks : List Char, (∀ c ∈ blanks, Text.isBlank c = true) ∧ padded = buffer ++ blanks

namespace Padded

variable {padded buffer : List Char}

theorem of_blank (h : ∀ c ∈ padded, Text.isBlank c = true) : Padded padded [] := ⟨padded, h, rfl⟩

theorem nil : Padded [] [] := of_blank fun _ hc => absurd hc List.not_mem_nil

theorem cons (h : Padded padded buffer) (c : Char) : Padded (c :: padded) (c :: buffer) := by
  obtain ⟨blanks, hb, rfl⟩ := h
  exact ⟨blanks, hb, rfl⟩

/-- The newest character can be taken back from both, if it is not one of the blanks. -/
theorem tail (h : Padded padded buffer) (hne : buffer ≠ []) : Padded padded.tail buffer.tail := by
  obtain ⟨blanks, hb, rfl⟩ := h
  refine ⟨blanks, hb, ?_⟩
  rw [List.tail_append_of_ne_nil hne]

/-- Blanks make no difference to the statement that a buffer holds. -/
theorem statement?_eq (h : Padded padded buffer) :
    Scan.statement? padded = Scan.statement? buffer := by
  obtain ⟨blanks, hb, rfl⟩ := h
  exact statement?_append_blank hb buffer

/-- The line feed at the end of a line is one more blank if nothing else has been kept. -/
theorem joined (h : Padded padded buffer) :
    Padded (Segmenter.joined padded) (Segmenter.joined buffer) := by
  obtain ⟨blanks, hb, rfl⟩ := h
  cases buffer with
  | cons c buffer => exact ⟨blanks, hb, rfl⟩
  | nil =>
    cases blanks with
    | nil => exact nil
    | cons c blanks => exact of_blank (List.forall_mem_cons.mpr ⟨rfl, hb⟩)

end Padded

namespace Scan

/-- Scans that are alike, but for blanks that one of them has kept in front. -/
structure Trails (s t : Scan) : Prop where
  region : s.region = t.region
  buffer : Padded s.buffer t.buffer
  done : s.done = t.done

variable {s t : Scan}

theorem Trails.keep (h : Trails s t) (c : Char) (region : Region) :
    Trails (s.keep c region) (t.keep c region) :=
  ⟨rfl, h.buffer.cons c, h.done⟩

theorem Trails.enterComment (h : Trails s t) (hne : t.buffer ≠ []) (region : Region) :
    Trails (s.enterComment region) (t.enterComment region) :=
  ⟨rfl, h.buffer.tail hne, h.done⟩

/-- A terminator drops the blanks, which are no part of the statement. -/
theorem Trails.terminate (h : Trails s t) : Trails s.terminate t.terminate := by
  refine ⟨rfl, Padded.nil, ?_⟩
  unfold Scan.terminate
  rw [h.buffer.statement?_eq, h.done]

/-- A character that is looked back at has been kept. -/
theorem buffer_ne_nil {c : Char} (ht : t.Fits) (hr : t.region = .plain (some c)) :
    t.buffer ≠ [] := by
  unfold Fits at ht
  rw [hr] at ht
  intro hb
  rw [hb] at ht
  cases ht

theorem trails_plainStep (h : Trails s t) {previous : Option Char} (hr : t.region = .plain previous)
    (ht : t.Fits) (c : Char) : Trails (s.plainStep previous c) (t.plainStep previous c) := by
  unfold plainStep
  split_ifs with hq hb hl hc
  · exact h.keep c _
  · exact h.enterComment (buffer_ne_nil ht (hr.trans (congrArg _ hb.1))) _
  · exact h.enterComment (buffer_ne_nil ht (hr.trans (congrArg _ hl.1))) _
  · exact h.terminate
  · exact h.keep c _

theorem trails_literalStep (h : Trails s t) (quote : Char) (escaped : Bool) (c : Char) :
    Trails (s.literalStep quote escaped c) (t.literalStep quote escaped c) := by
  unfold literalStep
  split_ifs
  · exact h.keep c _
  · exact h.keep c _

theorem trails_blockStep (h : Trails s t) (afterStar : Bool) (c : Char) :
    Trails (s.blockStep afterStar c) (t.blockStep afterStar c) := by
  unfold blockStep
  split_ifs
  · exact ⟨rfl, h.buffer, h.done⟩
  · exact ⟨rfl, h.buffer, h.done⟩

/-- A step leaves the blanks as the only difference. -/
theorem trails_step (h : Trails s t) (ht : t.Fits) (c : Char) : Trails (s.step c) (t.step c) := by
  unfold step
  rw [h.region]
  cases hr : t.region with
  | plain previous => exact trails_plainStep h hr ht c
  | literal quote escaped => exact trails_literalStep h quote escaped c
  | lineComment => exact h
  | blockComment afterStar => exact trails_blockStep h afterStar c

theorem trails_run (h : Trails s t) (ht : t.Fits) (cs : List Char) :
    Trails (s.run cs) (t.run cs) := by
  induction cs generalizing s t with
  | nil => exact h
  | cons c cs ih => exact ih (trails_step h ht c) (fits_step ht c)

end Scan

namespace Segmenter

/-- Segmenters that have read a line and are alike, but for blanks that one of them has kept in
front. -/
structure Trails (g h : Segmenter) : Prop where
  mode : g.mode = h.mode
  begun : g.begun = true ∧ h.begun = true
  scan : g.scan.Trails h.scan

variable {g h : Segmenter}

theorem trails_lineBreak (hgh : Trails g h) (hm : h.mode = .continuous) :
    g.lineBreak.scan.Trails h.lineBreak.scan := by
  obtain ⟨hmode, -, hregion, hbuffer, -⟩ := hgh
  obtain ⟨mode, region, buffer, begun⟩ := h
  obtain ⟨mode', region', buffer', begun'⟩ := g
  obtain rfl : mode' = mode := hmode
  obtain rfl : region' = region := hregion
  obtain rfl : mode' = .continuous := hm
  cases region' with
  | plain previous => exact ⟨rfl, hbuffer.joined, rfl⟩
  | literal quote escaped => exact ⟨rfl, hbuffer.cons '\n', rfl⟩
  | lineComment => exact ⟨rfl, hbuffer.joined, rfl⟩
  | blockComment afterStar => exact ⟨rfl, hbuffer, rfl⟩

theorem trails_lineStart (hgh : Trails g h) : g.lineStart.Trails h.lineStart := by
  obtain ⟨hg, hh⟩ := hgh.begun
  cases hm : h.mode with
  | continuous =>
    rw [lineStart_continuous hg (hgh.mode.trans hm), lineStart_continuous hh hm]
    exact trails_lineBreak hgh hm
  | resetPerLine =>
    rw [lineStart_resetPerLine hg (hgh.mode.trans hm), lineStart_resetPerLine hh hm]
    exact ⟨rfl, hgh.scan.buffer.joined, rfl⟩

/-- Where the scans of a line start alike but for blanks in front, the line completes the same
statements, and the blanks are the only difference behind it. -/
theorem trails_pushLine (hs : g.lineStart.Trails h.lineStart) (hm : g.mode = h.mode)
    (hfit : h.scan.Fits) (line : String) :
    (g.pushLine line).1 = (h.pushLine line).1 ∧ Trails (g.pushLine line).2 (h.pushLine line).2 := by
  obtain ⟨hregion, hbuffer, hdone⟩ := Scan.trails_run hs (fits_lineStart hfit) line.toList
  exact ⟨congrArg List.reverse hdone, hm, ⟨rfl, rfl⟩, hregion, hbuffer, rfl⟩

/-- All that segmenters give for lines, from those that are completed to the pending one. -/
theorem trails_pushLines (hgh : Trails g h) (hfit : h.scan.Fits) (lines : List String) :
    (g.pushLines lines).1 ++ (g.pushLines lines).2.finish.toList =
      (h.pushLines lines).1 ++ (h.pushLines lines).2.finish.toList := by
  induction lines generalizing g h with
  | nil =>
    have hf : g.finish = h.finish := hgh.scan.buffer.statement?_eq
    show g.finish.toList = h.finish.toList
    rw [hf]
  | cons line lines ih =>
    obtain ⟨hd, hgh'⟩ := trails_pushLine (trails_lineStart hgh) hgh.mode hfit line
    rw [pushLines_cons, pushLines_cons, hd, ih hgh' (fits_pushLine hfit line)]

/-- Where nothing is pending and no block comment goes on, the next line starts like a first one,
but for blanks. -/
theorem trails_lineStart_start (hfit : g.scan.Fits) (hb : g.begun = true) (hp : g.finish = none)
    (hc : g.mode = .continuous → ∀ afterStar, g.region ≠ .blockComment afterStar) :
    g.lineStart.Trails (start g.mode).lineStart := by
  have hblank : Padded (joined g.buffer) (joined []) :=
    (Padded.of_blank (Scan.isBlank_of_statement?_eq_none hp)).joined
  cases hm : g.mode with
  | resetPerLine =>
    rw [lineStart_resetPerLine hb hm]
    exact ⟨rfl, hblank, rfl⟩
  | continuous =>
    have hliteral := region_ne_literal hfit hp
    have hblock := hc hm
    rw [lineStart_continuous hb hm]
    obtain ⟨mode, region, buffer, begun⟩ := g
    obtain rfl : mode = .continuous := hm
    cases region with
    | plain previous => exact ⟨rfl, hblank, rfl⟩
    | literal quote escaped => exact absurd rfl (hliteral quote escaped)
    | lineComment => exact ⟨rfl, hblank, rfl⟩
    | blockComment afterStar => exact absurd rfl (hblock afterStar)

theorem mode_pushLines (g : Segmenter) (lines : List String) :
    (g.pushLines lines).2.mode = g.mode := by
  induction lines generalizing g with
  | nil => rfl
  | cons line lines ih => exact ih (g.pushLine line).2

theorem begun_pushLines (hb : g.begun = true) (lines : List String) :
    (g.pushLines lines).2.begun = true := by
  induction lines generalizing g with
  | nil => exact hb
  | cons line lines ih => exact ih rfl

end Segmenter

open Segmenter in
/-- What lines give behind others that leave nothing pending, and in continuous mode no block
comment open, is what they give by themselves. -/
theorem pushLines_after {mode : LineMode} {front : List String} (hp : pending mode front = none)
    (hc : mode = .continuous → ∀ afterStar, (after mode front).region ≠ .blockComment afterStar)
    (back : List String) :
    ((after mode front).pushLines back).1 ++ ((after mode front).pushLines back).2.finish.toList =
      segment mode back := by
  cases front with
  | nil => rfl
  | cons first front =>
    cases back with
    | nil =>
      have hn : (after mode (first :: front)).finish = none := hp
      show (after mode (first :: front)).finish.toList = []
      rw [hn]
      rfl
    | cons line back =>
      have hb : (after mode (first :: front)).begun = true := begun_pushLines rfl front
      have hm : (after mode (first :: front)).mode = mode := mode_pushLines _ _
      have hs := trails_lineStart_start (fits_after mode (first :: front)) hb hp (hm.symm ▸ hc)
      rw [hm] at hs
      obtain ⟨hd, hgh⟩ := trails_pushLine hs hm (fits_start mode) line
      show _ = (start mode |>.pushLines (line :: back)).1 ++ _
      rw [pushLines_cons, hd, trails_pushLines hgh (fits_pushLine (fits_start mode) line)]
      exact (pushLines_cons (start mode) line back).symm

/-- Scripts compose at statement boundaries: where nothing is pending behind the lines of the first
one, and in continuous mode no block comment is open there, the statements of both are those of the
first one and then those of the second one, read by a new segmenter. -/
theorem segment_append {mode : LineMode} {front : List String} (hp : pending mode front = none)
    (hc : mode = .continuous →
      ∀ afterStar, (Segmenter.after mode front).region ≠ .blockComment afterStar)
    (back : List String) :
    segment mode (front ++ back) = segment mode front ++ segment mode back := by
  have hfront : segment mode front = completed mode front := by
    show completed mode front ++ (pending mode front).toList = completed mode front
    rw [hp]
    exact List.append_nil _
  rw [hfront, ← pushLines_after hp hc back]
  show completed mode (front ++ back) ++ (pending mode (front ++ back)).toList = _
  rw [completed, pending, Segmenter.pushLines_append_fst, Segmenter.pushLines_append,
    List.append_assoc]
  rfl

/-- Blanks and a comment are left behind the last terminator of the lines in front. -/
theorem segment_append_blanks :
    pending .continuous ["a; ", "  -- b", "\t"] = none ∧
      segment .continuous (["a; ", "  -- b", "\t"] ++ ["c 'd;", "' -- e"]) =
        ["a"] ++ ["c 'd;\n'"] := by
  have hp : pending .continuous ["a; ", "  -- b", "\t"] = none := by decide
  have h := segment_append hp (by decide) ["c 'd;", "' -- e"]
  exact ⟨hp, h.trans (by decide)⟩

/-- In a block comment nothing is pending, and yet it goes on in the lines behind. -/
example :
    pending .continuous ["a; /*"] = none ∧
      segment .continuous (["a; /*"] ++ ["b */ c"]) = ["a", "c"] ∧
      segment .continuous ["a; /*"] ++ segment .continuous ["b */ c"] = ["a", "b */ c"] := by
  decide

end TableFeed.Script
