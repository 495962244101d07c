import Mathlib.Data.List.Induction
import Mathlib.Tactic.SplitIfs
import TableFeed.Proofs.Script.Boundary

/-!
# A scan in flags

A scan can also keep where it is in single flags: one for each kind of region, the quote that opened
a literal, whether a backslash escapes, and the character to look back at. Every character sets the
flags that it has to do with and leaves the others as they are. Nothing in the type keeps them from
contradicting each other; that they never do is the invariant (`Flags.Sound`).

    region            literal  line  block    quote    escape    previous
    plain                                     null     no        newest character, or none
    literal              x                    ' or "   any       any
    line comment                 x            null     no        any
    block comment                      x      null     no        any

A character keeps the flags sound (`sound_step`), and as long as they are, the scan in flags does
what the scan in regions does (`scan_step`); so do lines (`segmenter_pushLine`) and lists of them
(`segmenter_after`). What is known of regions and buffers is then known of the flags
(`sound_between`): the quote of an open literal has been kept, and a character that is looked back at
is the newest one, so that a comment takes back the first character of its own mark.
-/

namespace TableFeed.Script

open TableFeed

/-! ### Flags -/

/-- Where a scan is, flag by flag. -/
structure Flags where
  inLiteral : Bool := false
  /-- The quote that closes the literal. -/
  delimiter : Char := '\x00'
  /-- Whether a backslash escapes the next character. -/
  escape : Bool := false
  inBlockComment : Bool := false
  inLineComment : Bool := false
  /-- The character before, where it is looked back at. -/
  previous : Option Char := none
  deriving DecidableEq, Repr

namespace Flags

def plain (previous : Option Char) : Flags := { previous }

def literal (quote : Char) (escape : Bool) (previous : Option Char) : Flags :=
  { inLiteral := true, delimiter := quote, escape, previous }

def lineComment (previous : Option Char) : Flags := { inLineComment := true, previous }

def blockComment (previous : Option Char) : Flags := { inBlockComment := true, previous }

/-- Whether the flags say that a comment is open. -/
def inComment (f : Flags) : Bool := f.inLineComment || f.inBlockComment

/-- Whether the flags say that neither a literal nor a comment is open. -/
def isPlain (f : Flags) : Bool := !f.inLiteral && !f.inComment

/-- The region that the flags stand for. -/
def region (f : Flags) : Region :=
  if f.inLineComment then .lineComment
  else if f.inBlockComment then .blockComment (f.previous == some '*')
  else if f.inLiteral then .literal f.delimiter f.escape
  else .plain f.previous

/-- Flags that do not contradict each other. -/
structure Sound (f : Flags) : Prop where
  exclusive : [f.inLiteral, f.inLineComment, f.inBlockComment].count true ≤ 1
  isQuote_iff : isQuote f.delimiter = true ↔ f.inLiteral = true
  null : f.inLiteral = false → f.delimiter = '\x00'
  escape : f.escape = true → f.inLiteral = true

/-- Outside literals, flags are sound that say nothing of one. -/
theorem sound_outside {f : Flags} (hl : f.inLiteral = false) (hd : f.delimiter = '\x00')
    (he : f.escape = false) (hc : [f.inLineComment, f.inBlockComment].count true ≤ 1) :
    f.Sound := by
  have hnull : isQuote '\x00' = false := by decide
  constructor
  · rw [hl, List.count_cons_of_ne Bool.false_ne_true]
    exact hc
  · rw [hl, hd, hnull]
  · exact fun _ => hd
  · rw [he, hl]
    exact id

theorem sound_plain (p : Option Char) : (plain p).Sound :=
  sound_outside rfl rfl rfl (Nat.zero_le 1)

theorem sound_lineComment (p : Option Char) : (lineComment p).Sound :=
  sound_outside rfl rfl rfl (Nat.le_refl 1)

theorem sound_blockComment (p : Option Char) : (blockComment p).Sound :=
  sound_outside rfl rfl rfl (Nat.le_refl 1)

theorem sound_literal {q : Char} (hq : isQuote q = true) (e : Bool) (p : Option Char) :
    (literal q e p).Sound where
  exclusive := Nat.le_refl 1
  isQuote_iff := iff_of_true hq rfl
  null h := by cases h
  escape _ := rfl

/-- Sound flags are those of a region. -/
theorem Sound.eq_region {f : Flags} (h : f.Sound) :
    (∃ p, f = plain p) ∨ (∃ q e p, isQuote q = true ∧ f = literal q e p) ∨
      (∃ p, f = lineComment p) ∨ ∃ p, f = blockComment p := by
  obtain ⟨inLiteral, delimiter, escape, inBlockComment, inLineComment, previous⟩ := f
  obtain ⟨hone, hquote, hnull, hescape⟩ := h
  dsimp only at hone hquote hnull hescape
  cases inLiteral with
  | true =>
    have hnone : inLineComment = false ∧ inBlockComment = false := by
      revert hone
      cases inLineComment <;> cases inBlockComment <;> decide
    obtain ⟨rfl, rfl⟩ := hnone
    exact .inr (.inl ⟨delimiter, escape, previous, hquote.2 rfl, rfl⟩)
  | false =>
    obtain rfl : escape = false := Bool.eq_false_iff.2 fun h => Bool.false_ne_true (hescape h)
    obtain rfl := hnull rfl
    cases inLineComment with
    | false =>
      cases inBlockComment with
      | false => exact .inl ⟨previous, rfl⟩
      | true => exact .inr (.inr (.inr ⟨previous, rfl⟩))
    | true =>
      obtain rfl : inBlockComment = false := by
        revert hone
        cases inBlockComment <;> decide
      exact .inr (.inr (.inl ⟨previous, rfl⟩))

theorem region_of_isPlain {f : Flags} (hs : f.Sound) (hp : f.isPlain = true) :
    f.region = .plain f.previous := by
  obtain ⟨p, rfl⟩ | ⟨q, e, p, hq, rfl⟩ | ⟨p, rfl⟩ | ⟨p, rfl⟩ := hs.eq_region
  · rfl
  · cases hp
  · cases hp
  · cases hp

theorem region_of_inLiteral {f : Flags} (hs : f.Sound) (hl : f.inLiteral = true) :
    f.region = .literal f.delimiter f.escape := by
  obtain ⟨p, rfl⟩ | ⟨q, e, p, hq, rfl⟩ | ⟨p, rfl⟩ | ⟨p, rfl⟩ := hs.eq_region
  · cases hl
  · rfl
  · cases hl
  · cases hl

end Flags

/-! ### Scanning with flags -/

/-- A scan in flags. Characters and statements are held newest first. -/
structure FlagScan where
  flags : Flags := {}
  buffer : List Char := []
  done : List String := []
  deriving DecidableEq, Repr

namespace FlagScan

/-- One character of a line. A branch says only what it changes. -/
def step (s : FlagScan) (c : Char) : FlagScan :=
  let f := s.flags
  if f.inLineComment then s
  else if f.inBlockComment then
    if f.previous = some '*' ∧ c = '/' then
      { s with flags := { f with inBlockComment := false, previous := none } }
    else { s with flags := { f with previous := some c } }
  else if f.inLiteral then
    if c = f.delimiter ∧ f.escape = false then
      { s with
        flags := { f with inLiteral := false, delimiter := '\x00', previous := some c }
        buffer := c :: s.buffer }
    else
      { s with
        flags := { f with escape := c == '\\' && !f.escape, previous := some c }
        buffer := c :: s.buffer }
  else if isQuote c then
    { s with
      flags := { f with inLiteral := true, delimiter := c, previous := some c }
      buffer := c :: s.buffer }
  else if f.previous = some '/' ∧ c = '*' then
    { s with
      flags := { f with inBlockComment := true, previous := none }
      buffer := s.buffer.tail }
  else if f.previous = some '-' ∧ c = '-' then
    { s with
      flags := { f with inLineComment := true, previous := none }
      buffer := s.buffer.tail }
  else if c = ';' then
    { flags := { f with previous := none }
      buffer := []
      done := (Scan.statement? s.buffer).toList ++ s.done }
  else
    { s with flags := { f with previous := some c, escape := false }, buffer := c :: s.buffer }

/-- The characters of a line, one after the other. -/
def run (s : FlagScan) (cs : List Char) : FlagScan := cs.foldl step s

/-- The scan in regions that a scan in flags stands for. -/
def scan (s : FlagScan) : Scan := { region := s.flags.region, buffer := s.buffer, done := s.done }

/-! What a character does, by the kind of region. In a line comment it does nothing. -/

variable (p : Option Char) (b : List Char) (d : List String) (c : Char)

theorem step_plain : step ⟨.plain p, b, d⟩ c =
    if isQuote c then ⟨.literal c false (some c), c :: b, d⟩
    else if p = some '/' ∧ c = '*' then ⟨.blockComment none, b.tail, d⟩
    else if p = some '-' ∧ c = '-' then ⟨.lineComment none, b.tail, d⟩
    else if c = ';' then ⟨.plain none, [], (Scan.statement? b).toList ++ d⟩
    else ⟨.plain (some c), c :: b, d⟩ := rfl

theorem step_literal (q : Char) (e : Bool) : step ⟨.literal q e p, b, d⟩ c =
    if c = q ∧ e = false then ⟨{ Flags.plain (some c) with escape := e }, c :: b, d⟩
    else ⟨.literal q (c == '\\' && !e) (some c), c :: b, d⟩ := rfl

theorem step_blockComment : step ⟨.blockComment p, b, d⟩ c =
    if p = some '*' ∧ c = '/' then ⟨.plain none, b, d⟩
    else ⟨.blockComment (some c), b, d⟩ := rfl

variable {p b d c} {s : FlagScan}

/-- A character keeps the flags sound. -/
theorem sound_step (hs : s.flags.Sound) (c : Char) : (s.step c).flags.Sound := by
  obtain ⟨flags, b, d⟩ := s
  obtain ⟨p, rfl⟩ | ⟨q, e, p, hq, rfl⟩ | ⟨p, rfl⟩ | ⟨p, rfl⟩ := hs.eq_region
  · rw [step_plain]
    split_ifs with h
    · exact Flags.sound_literal h false _
    · exact Flags.sound_blockComment none
    · exact Flags.sound_lineComment none
    · exact Flags.sound_plain none
    · exact Flags.sound_plain (some c)
  · rw [step_literal]
    split_ifs with h
    · rw [h.2]
      exact Flags.sound_plain (some c)
    · exact Flags.sound_literal hq _ _
  · exact Flags.sound_lineComment p
  · rw [step_blockComment]
    split_ifs
    · exact Flags.sound_plain none
    · exact Flags.sound_blockComment (some c)

/-- With sound flags, a character does what it does to the scan in regions. -/
theorem scan_step (hs : s.flags.Sound) (c : Char) : (s.step c).scan = s.scan.step c := by
  obtain ⟨flags, b, d⟩ := s
  obtain ⟨p, rfl⟩ | ⟨q, e, p, hq, rfl⟩ | ⟨p, rfl⟩ | ⟨p, rfl⟩ := hs.eq_region
  · have hplain : (scan ⟨.plain p, b, d⟩).step c =
        (scan ⟨.plain p, b, d⟩).plainStep p c := rfl
    rw [hplain, step_plain]
    unfold Scan.plainStep
    split_ifs <;> rfl
  · have hliteral : (scan ⟨.literal q e p, b, d⟩).step c =
        (scan ⟨.literal q e p, b, d⟩).literalStep q e c := rfl
    rw [hliteral, step_literal]
    unfold Scan.literalStep
    split_ifs <;> rfl
  · rfl
  · have hblock : (scan ⟨.blockComment p, b, d⟩).step c =
        (scan ⟨.blockComment p, b, d⟩).blockStep (p == some '*') c := rfl
    rw [hblock, step_blockComment]
    unfold Scan.blockStep
    simp only [beq_iff_eq]
    split_ifs <;> rfl

theorem sound_run (hs : s.flags.Sound) (cs : List Char) : (s.run cs).flags.Sound := by
  induction cs generalizing s with
  | nil => exact hs
  | cons c cs ih => exact ih (sound_step hs c)

theorem scan_run (hs : s.flags.Sound) (cs : List Char) : (s.run cs).scan = s.scan.run cs := by
  induction cs generalizing s with
  | nil => rfl
  | cons c cs ih =>
    refine (ih (sound_step hs c)).trans ?_
    rw [scan_step hs]
    rfl

/-! ### The buffer -/

/-- A scan whose flags do not contradict each other, nor the buffer. -/
structure Sound (s : FlagScan) : Prop extends s.flags.Sound where
  opened : s.flags.inLiteral = true → OpenedBy s.flags.delimiter s.flags.escape s.buffer
  pending : s.flags.inLiteral = true → Scan.statement? s.buffer ≠ none
  newest : s.flags.isPlain = true → ∀ c, s.flags.previous = some c → s.buffer.head? = some c

/-- Sound flags agree with a buffer that their region fits. -/
theorem Sound.of_fits (hs : s.flags.Sound) (hfit : s.scan.Fits) : s.Sound := by
  have hfit : s.flags.region.Fits s.buffer := hfit
  have hopened (hl : s.flags.inLiteral = true) :
      OpenedBy s.flags.delimiter s.flags.escape s.buffer := by
    rw [Flags.region_of_inLiteral hs hl] at hfit
    exact hfit.2
  refine { hs with opened := hopened, pending := fun hl hnone => ?_, newest := fun hp c hc => ?_ }
  · have hblank := Scan.isBlank_of_statement?_eq_none hnone _ (hopened hl).mem
    rw [isBlank_of_isQuote (hs.isQuote_iff.2 hl)] at hblank
    cases hblank
  · rw [Flags.region_of_isPlain hs hp, hc] at hfit
    exact hfit

/-- A character that can be looked back at is the one just read, and has just been kept. -/
theorem kept_of_previous (hs : s.flags.Sound) {c m : Char} (hp : (s.step c).flags.isPlain = true)
    (hm : (s.step c).flags.previous = some m) : m = c ∧ (s.step c).buffer = c :: s.buffer := by
  obtain ⟨flags, b, d⟩ := s
  obtain ⟨p, rfl⟩ | ⟨q, e, p, hq, rfl⟩ | ⟨p, rfl⟩ | ⟨p, rfl⟩ := hs.eq_region
  · rw [step_plain] at hp hm ⊢
    split_ifs at hp hm ⊢
    · cases hp
    · cases hp
    · cases hp
    · cases hm
    · exact ⟨(Option.some.inj hm).symm, rfl⟩
  · rw [step_literal] at hp hm ⊢
    split_ifs at hp hm ⊢
    · exact ⟨(Option.some.inj hm).symm, rfl⟩
    · cases hp
  · cases hp
  · rw [step_blockComment] at hp hm ⊢
    split_ifs at hp hm ⊢
    · cases hm
    · cases hp

/-- A character that opens a comment takes back the first character of its mark. -/
theorem taken_back (hs : s.Sound) {c : Char} (hbefore : s.flags.inComment = false)
    (hbehind : (s.step c).flags.inComment = true) :
    s.flags.isPlain = true ∧ ∃ first, s.flags.previous = some first ∧
      opensComment (some first) [c] = true ∧ s.buffer = first :: (s.step c).buffer := by
  have hnewest := hs.newest
  obtain ⟨flags, b, d⟩ := s
  obtain ⟨p, rfl⟩ | ⟨q, e, p, hq, rfl⟩ | ⟨p, rfl⟩ | ⟨p, rfl⟩ := hs.toSound.eq_region
  · -- the character looked back at is the newest one, so that it is the one taken back
    have htaken {first : Char} (hp : p = some first) : b = first :: b.tail := by
      obtain ⟨rest, rfl⟩ := List.head?_eq_some_iff.1 (hnewest rfl first hp)
      rfl
    rw [step_plain] at hbehind ⊢
    split_ifs at hbehind ⊢ with _ hblock hline
    · cases hbehind
    · obtain ⟨hp, rfl⟩ := hblock
      exact ⟨rfl, '/', hp, rfl, htaken hp⟩
    · obtain ⟨hp, rfl⟩ := hline
      exact ⟨rfl, '-', hp, rfl, htaken hp⟩
    · cases hbehind
    · cases hbehind
  · rw [step_literal] at hbehind
    split_ifs at hbehind
    · cases hbehind
    · cases hbehind
  · cases hbefore
  · cases hbefore

end FlagScan

/-! ### Lines -/

namespace Segmenter

/-- Where a line starts, there is no character to look back at. -/
theorem previous_lineStart (mode : LineMode) (lines : List String) {previous : Option Char}
    (h : (after mode lines).lineStart.region = .plain previous) : previous = none := by
  cases lines with
  | nil =>
    have hstart : (after mode []).lineStart.region = .start := by cases mode <;> rfl
    rw [hstart] at h
    cases h
    rfl
  | cons line lines =>
    have hb : (after mode (line :: lines)).begun = true := begun_pushLines rfl lines
    generalize after mode (line :: lines) = g at h hb
    cases hm : g.mode with
    | resetPerLine =>
      rw [lineStart_resetPerLine hb hm] at h
      cases h
      rfl
    | continuous =>
      rw [lineStart_continuous hb hm] at h
      obtain ⟨mode, region, buffer, begun⟩ := g
      subst hm
      cases region with
      | plain p =>
        cases h
        rfl
      | literal quote escaped => cases h
      | lineComment =>
        cases h
        rfl
      | blockComment afterStar => cases h

end Segmenter

/-- A segmenter in flags, between two lines. -/
structure FlagSegmenter where
  mode : LineMode
  flags : Flags := {}
  buffer : List Char := []
  linesSeen : Nat := 0
  deriving DecidableEq, Repr

namespace FlagSegmenter

/-- The end of a line, read when the next line comes. -/
def lineBreak (g : FlagSegmenter) : FlagSegmenter :=
  let f := g.flags
  match g.mode with
  | .resetPerLine => { g with buffer := Segmenter.joined g.buffer }
  | .continuous =>
    if f.inLineComment then
      { g with
        flags := { f with inLineComment := false, previous := none }
        buffer := Segmenter.joined g.buffer }
    else if f.inBlockComment then { g with flags := { f with previous := some '\n' } }
    else if f.inLiteral then
      { g with
        flags := { f with escape := false, previous := some '\n' }
        buffer := '\n' :: g.buffer }
    else
      { g with
        flags := { f with escape := false, previous := none }
        buffer := Segmenter.joined g.buffer }

/-- The state in which the scan of the next line starts. -/
def lineStart (g : FlagSegmenter) : FlagScan :=
  let g := if 0 < g.linesSeen then g.lineBreak else g
  match g.mode with
  | .resetPerLine => { buffer := g.buffer }
  | .continuous => { flags := g.flags, buffer := g.buffer }

/-- Read one line: the statements that it completes, in order, and the segmenter after it. -/
def pushLine (g : FlagSegmenter) (line : String) : List String × FlagSegmenter :=
  let s := g.lineStart.run line.toList
  (s.done.reverse, { g with flags := s.flags, buffer := s.buffer, linesSeen := g.linesSeen + 1 })

/-- The segmenter behind several lines. -/
def pushLines (g : FlagSegmenter) (lines : List String) : FlagSegmenter :=
  lines.foldl (fun g line => (g.pushLine line).2) g

/-- The segmenter that has read some lines. -/
def after (mode : LineMode) (lines : List String) : FlagSegmenter := pushLines { mode } lines

/-- The scan between two characters: behind some lines, and behind some characters of the next. -/
def between (mode : LineMode) (lines : List String) (read : List Char) : FlagScan :=
  (after mode lines).lineStart.run read

/-- The segmenter in regions that a segmenter in flags stands for. -/
def segmenter (g : FlagSegmenter) : Segmenter :=
  { mode := g.mode, region := g.flags.region, buffer := g.buffer, begun := 0 < g.linesSeen }

variable {g : FlagSegmenter}

/-- In continuous mode the end of a line keeps the flags sound, and what they stand for. -/
theorem segmenter_lineBreak (hm : g.mode = .continuous) (hg : g.flags.Sound) :
    g.lineBreak.flags.Sound ∧ g.lineBreak.segmenter = g.segmenter.lineBreak := by
  obtain ⟨mode, flags, buffer, linesSeen⟩ := g
  subst hm
  obtain ⟨p, rfl⟩ | ⟨q, e, p, hq, rfl⟩ | ⟨p, rfl⟩ | ⟨p, rfl⟩ := hg.eq_region
  · exact ⟨Flags.sound_plain none, rfl⟩
  · exact ⟨Flags.sound_literal hq false _, rfl⟩
  · exact ⟨Flags.sound_plain none, rfl⟩
  · exact ⟨Flags.sound_blockComment _, rfl⟩

@[simp] theorem mode_lineBreak (g : FlagSegmenter) : g.lineBreak.mode = g.mode := by
  unfold lineBreak
  split
  · rfl
  · dsimp only
    split_ifs <;> rfl

/-- A line starts with sound flags, and where a line starts in regions. -/
theorem scan_lineStart (hg : g.flags.Sound) :
    g.lineStart.flags.Sound ∧ g.lineStart.scan = g.segmenter.lineStart := by
  cases hm : g.mode with
  | resetPerLine =>
    by_cases hn : 0 < g.linesSeen
    · have hstart : g.lineStart = { buffer := Segmenter.joined g.buffer } := by
        simp [lineStart, lineBreak, hn, hm]
      rw [hstart, Segmenter.lineStart_resetPerLine (decide_eq_true hn) hm]
      exact ⟨Flags.sound_plain none, rfl⟩
    · have hstart : g.lineStart = { buffer := g.buffer } := by simp [lineStart, hn, hm]
      have hregion : g.segmenter.lineStart = { buffer := g.buffer } := by
        simp [Segmenter.lineStart, segmenter, hn, hm]
      rw [hstart, hregion]
      exact ⟨Flags.sound_plain none, rfl⟩
  | continuous =>
    by_cases hn : 0 < g.linesSeen
    · obtain ⟨hsound, hbreak⟩ := segmenter_lineBreak hm hg
      have hstart : g.lineStart = { flags := g.lineBreak.flags, buffer := g.lineBreak.buffer } := by
        simp [lineStart, hn, hm]
      rw [hstart, Segmenter.lineStart_continuous (decide_eq_true hn) hm, ← hbreak]
      exact ⟨hsound, rfl⟩
    · have hstart : g.lineStart = { flags := g.flags, buffer := g.buffer } := by
        simp [lineStart, hn, hm]
      have hregion : g.segmenter.lineStart = g.segmenter.scan := by
        simp [Segmenter.lineStart, Segmenter.scan, segmenter, hn, hm]
      rw [hstart, hregion]
      exact ⟨hg, rfl⟩

/-- A line keeps the flags sound, and completes the statements that it completes in regions. -/
theorem segmenter_pushLine (hg : g.flags.Sound) (line : String) :
    (g.pushLine line).2.flags.Sound ∧ (g.pushLine line).1 = (g.segmenter.pushLine line).1 ∧
      (g.pushLine line).2.segmenter = (g.segmenter.pushLine line).2 := by
  obtain ⟨hsound, hstart⟩ := scan_lineStart hg
  have hrun : (g.lineStart.run line.toList).scan = g.segmenter.lineStart.run line.toList := by
    rw [FlagScan.scan_run hsound, hstart]
  refine ⟨FlagScan.sound_run hsound line.toList, ?_, ?_⟩
  · rw [Segmenter.pushLine, ← hrun]
    rfl
  · rw [Segmenter.pushLine, ← hrun]
    simp [segmenter, pushLine, FlagScan.scan]

theorem segmenter_pushLines (hg : g.flags.Sound) (lines : List String) :
    (g.pushLines lines).flags.Sound ∧
      (g.pushLines lines).segmenter = (g.segmenter.pushLines lines).2 := by
  induction lines generalizing g with
  | nil => exact ⟨hg, rfl⟩
  | cons line lines ih =>
    obtain ⟨hsound, -, hline⟩ := segmenter_pushLine hg line
    obtain ⟨hsound, hlines⟩ := ih hsound
    rw [hline] at hlines
    exact ⟨hsound, hlines⟩

/-- Behind all lists of lines the flags are sound, and stand for the region behind these lines. -/
theorem segmenter_after (mode : LineMode) (lines : List String) :
    (after mode lines).flags.Sound ∧ (after mode lines).segmenter = Segmenter.after mode lines :=
  segmenter_pushLines (Flags.sound_plain none) lines

/-! ### Between two characters -/

theorem between_concat (mode : LineMode) (lines : List String) (read : List Char) (c : Char) :
    between mode lines (read ++ [c]) = (between mode lines read).step c := by
  rw [between, FlagScan.run, List.foldl_append]
  rfl

/-- Between two characters the flags are sound, and the scan is where the scan in regions is. -/
theorem scan_between (mode : LineMode) (lines : List String) (read : List Char) :
    (between mode lines read).flags.Sound ∧
      (between mode lines read).scan = (Segmenter.after mode lines).lineStart.run read := by
  obtain ⟨hsound, hafter⟩ := segmenter_after mode lines
  obtain ⟨hsound, hstart⟩ := scan_lineStart hsound
  rw [hafter] at hstart
  refine ⟨FlagScan.sound_run hsound read, ?_⟩
  rw [between, FlagScan.scan_run hsound, hstart]

/-- Between two characters the flags agree with the buffer. -/
theorem sound_between (mode : LineMode) (lines : List String) (read : List Char) :
    (between mode lines read).Sound := by
  obtain ⟨hsound, hscan⟩ := scan_between mode lines read
  refine .of_fits hsound ?_
  rw [hscan]
  exact Scan.fits_run (Segmenter.fits_lineStart (Segmenter.fits_after mode lines)) read

/-- Between two characters, in either mode and behind all lines, the scan in flags is where the scan
in regions is, and its flags contradict neither each other nor the buffer. A character that opens a
comment takes back the character read before it, which is the first one of the mark, and leaves what
was kept before the mark. -/
theorem between_invariant (mode : LineMode) (lines : List String) (read : List Char) :
    (between mode lines read).scan = (Segmenter.after mode lines).lineStart.run read ∧
      (between mode lines read).Sound ∧
      ∀ c, (between mode lines read).flags.inComment = false →
        (between mode lines (read ++ [c])).flags.inComment = true →
        ∃ front first, read = front ++ [first] ∧ opensComment (some first) [c] = true ∧
          (between mode lines read).buffer = first :: (between mode lines (read ++ [c])).buffer ∧
          (between mode lines (read ++ [c])).buffer = (between mode lines front).buffer := by
  have hs := sound_between mode lines read
  have hscan := (scan_between mode lines read).2
  refine ⟨hscan, hs, fun c hbefore hbehind => ?_⟩
  rw [between_concat] at hbehind ⊢
  obtain ⟨hplain, first, hprevious, hopens, htaken⟩ := FlagScan.taken_back hs hbefore hbehind
  -- the character to look back at is the last one read, and there is one
  cases read using List.reverseRecOn with
  | nil =>
    have hregion : (Segmenter.after mode lines).lineStart.region = .plain (some first) := by
      rw [← hprevious, ← Flags.region_of_isPlain hs.toSound hplain]
      exact (congrArg Scan.region hscan).symm
    cases Segmenter.previous_lineStart mode lines hregion
  | append_singleton front last =>
    rw [between_concat] at hplain hprevious
    obtain ⟨rfl, hkept⟩ :=
      FlagScan.kept_of_previous (scan_between mode lines front).1 hplain hprevious
    rw [between_concat] at htaken ⊢
    refine ⟨front, first, rfl, hopens, htaken, ?_⟩
    exact (List.cons.inj (htaken.symm.trans hkept)).2

/-- Lines that leave a literal open behind a backslash, and then a block comment. -/
def openLines : List String := ["a 'x;\\", "';/*/ b;"]

/-- Behind a mark that another one overlaps, and behind a dash that is text. -/
theorem between_invariant_openLines :
    let s := between .continuous openLines "*/ c/-".toList
    let t := between .continuous openLines ("*/ c/-".toList ++ ['-'])
    s.Sound ∧ s.flags.inComment = false ∧ t.flags.inComment = true ∧
      s.buffer = '-' :: t.buffer ∧ t.buffer.reverse = " c/".toList := by
  intro s t
  obtain ⟨-, hs, htaken⟩ := between_invariant .continuous openLines "*/ c/-".toList
  have hbefore : s.flags.inComment = false := by decide
  have hbehind : t.flags.inComment = true := by decide
  obtain ⟨front, first, hread, -, hbuffer, hkept⟩ := htaken '-' hbefore hbehind
  obtain ⟨rfl, rfl⟩ : front = "*/ c/".toList ∧ first = '-' := by
    have hread : "*/ c/".toList ++ ['-'] = front ++ [first] := hread
    obtain ⟨hfront, hfirst⟩ := List.append_inj' hread rfl
    exact ⟨hfront.symm, (List.cons.inj hfirst).1.symm⟩
  exact ⟨hs, hbefore, hbehind, hbuffer, (congrArg List.reverse hkept).trans (by decide)⟩

end FlagSegmenter

end TableFeed.Script
