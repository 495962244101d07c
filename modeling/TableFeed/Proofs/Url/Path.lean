import Mathlib.Data.List.Induction
import Mathlib.Data.List.TakeWhile
import TableFeed.Proofs.Url.Percent
import TableFeed.Proofs.Url.Site

/-!
# Paths that are read back

A path of segments without slashes is cut into these segments again, and as far as its segments are
no dots it is read as it is written. Behind a site, such a path is the whole target of a request.

    ["v1", "tables", "a%20b", "rows"]  ──pathText──▶  /v1/tables/a%20b/rows  ──▶  the same
    ["v1", "tables", "..", "rows"]     ──pathText──▶  /v1/tables/../rows     ──▶  ["v1", "rows"]
-/

namespace TableFeed.Url

open TableFeed

/-! ### Pieces -/

theorem pieces_ne_nil (stops : Char → Bool) (cs : List Char) : pieces stops cs ≠ [] := by
  cases cs with
  | nil => simp [pieces]
  | cons c cs =>
    rw [pieces]
    split
    · simp
    · split <;> simp

theorem pieces_cons_of_not {stops : Char → Bool} {c : Char} (hc : stops c = false) {cs : List Char}
    {p : Segment} {ps : List Segment} (h : pieces stops cs = p :: ps) :
    pieces stops (c :: cs) = (c :: p) :: ps := by
  simp [pieces, h, hc]

theorem pieces_cons_of_stop {stops : Char → Bool} {c : Char} (hc : stops c = true)
    (cs : List Char) : pieces stops (c :: cs) = [] :: pieces stops cs := by
  obtain ⟨p, ps, h⟩ := List.exists_cons_of_ne_nil (pieces_ne_nil stops cs)
  simp [pieces, h, hc]

theorem pieces_append {stops : Char → Bool} {s : Segment} (hs : ∀ c ∈ s, stops c = false)
    {cs : List Char} {p : Segment} {ps : List Segment} (h : pieces stops cs = p :: ps) :
    pieces stops (s ++ cs) = (s ++ p) :: ps := by
  induction s with
  | nil => exact h
  | cons c s ih =>
    obtain ⟨hc, hs⟩ := List.forall_mem_cons.1 hs
    exact pieces_cons_of_not hc (ih hs)

/-- A path is cut at the slashes that were put into it. -/
theorem pieces_pathText {ss : List Segment} (h : ∀ s ∈ ss, ∀ c ∈ s, isSlash c = false) :
    pieces isSlash (pathText ss) = [] :: ss := by
  induction ss with
  | nil => rfl
  | cons s ss ih =>
    obtain ⟨hs, hss⟩ := List.forall_mem_cons.1 h
    have hp : pathText (s :: ss) = '/' :: (s ++ pathText ss) := rfl
    rw [hp, pieces_cons_of_stop (by decide), pieces_append hs (ih hss), List.append_nil]

/-- Different paths are written differently. -/
theorem pathText_injective {ss ts : List Segment} (hss : ∀ s ∈ ss, ∀ c ∈ s, isSlash c = false)
    (hts : ∀ s ∈ ts, ∀ c ∈ s, isSlash c = false) (h : pathText ss = pathText ts) : ss = ts := by
  have hs := pieces_pathText hss
  rw [h, pieces_pathText hts] at hs
  exact (List.cons.inj hs).2.symm

theorem pathText_append (ss ts : List Segment) :
    pathText (ss ++ ts) = pathText ss ++ pathText ts :=
  List.flatMap_append

/-! ### Segments that stand for themselves -/

/-- A segment that stands for itself in every address. -/
structure Plain (s : Segment) : Prop where
  nonempty : s ≠ []
  kept : ∀ c ∈ s, keptInSegment c = true
  here : isHere s = false
  up : isUp s = false

theorem keptInPath_of_keptInSegment {c : Char} (h : keptInSegment c = true) :
    keptInPath c = true := by
  rw [keptInSegment, Bool.and_eq_true] at h
  exact h.1

theorem isSlash_of_keptInSegment {c : Char} (h : keptInSegment c = true) : isSlash c = false := by
  rw [keptInSegment, Bool.and_eq_true, Bool.not_eq_true'] at h
  exact h.2

theorem keptInPath_of_mem_pathText {ss : List Segment}
    (h : ∀ s ∈ ss, ∀ c ∈ s, keptInSegment c = true) {c : Char} (hc : c ∈ pathText ss) :
    keptInPath c = true := by
  obtain ⟨s, hs, hc⟩ := List.mem_flatMap.1 hc
  rcases List.mem_cons.1 hc with rfl | hc
  · decide
  · exact keptInPath_of_keptInSegment (h s hs c hc)

theorem rooted_pathText (ss : List Segment) : Rooted (pathText ss) := by
  cases ss with
  | nil => simp [Rooted, pathText]
  | cons s ss => simp [Rooted, pathText]

/-- The segments of a path that is read are those that were written, up to dots. -/
theorem segmentsOf_pathText {ss : List Segment} (hne : ss ≠ [])
    (h : ∀ s ∈ ss, ∀ c ∈ s, keptInSegment c = true) : segmentsOf (pathText ss) = resolve [] ss := by
  obtain ⟨s, ss, rfl⟩ := List.exists_cons_of_ne_nil hne
  obtain ⟨hs, hss⟩ := List.forall_mem_cons.1 fun t ht c hc => isSlash_of_keptInSegment (h t ht c hc)
  have hkept : (s :: ss).map (escaped keptInPath) = s :: ss := by
    refine (List.map_congr_left fun t ht => ?_).trans (List.map_id _)
    exact escaped_of_forall fun c hc => keptInPath_of_keptInSegment (h t ht c hc)
  have hsegments : segmentsOf (pathText (s :: ss)) =
      resolve [] ((pieces isSlash (s ++ pathText ss)).map (escaped keptInPath)) := rfl
  rw [hsegments, pieces_append hs (pieces_pathText hss), List.append_nil, hkept]

/-! ### Dots -/

theorem resolve_cons {s : Segment} (hu : isUp s = false) (hh : isHere s = false)
    (path rest : List Segment) : resolve path (s :: rest) = resolve (path ++ [s]) rest := by
  cases rest with
  | nil => simp [resolve, hu, hh]
  | cons t rest => simp [resolve, hu, hh]

theorem resolve_cons_isHere {s : Segment} (hu : isUp s = false) (hh : isHere s = true)
    {rest : List Segment} (hr : rest ≠ []) (path : List Segment) :
    resolve path (s :: rest) = resolve path rest := by
  cases rest with
  | nil => exact absurd rfl hr
  | cons t rest => simp [resolve, hu, hh]

theorem resolve_cons_isUp {s : Segment} (hu : isUp s = true) {rest : List Segment} (hr : rest ≠ [])
    (path : List Segment) : resolve path (s :: rest) = resolve path.dropLast rest := by
  cases rest with
  | nil => exact absurd rfl hr
  | cons t rest => simp [resolve, hu]

/-- Plain segments are kept. -/
theorem resolve_append {front : List Segment} (hf : ∀ s ∈ front, Plain s)
    (path rest : List Segment) : resolve path (front ++ rest) = resolve (path ++ front) rest := by
  induction front generalizing path with
  | nil => rw [List.nil_append, List.append_nil]
  | cons s front ih =>
    obtain ⟨hs, hf⟩ := List.forall_mem_cons.1 hf
    rw [List.cons_append, resolve_cons hs.up hs.here, ih hf, List.append_assoc,
      List.singleton_append]

/-! ### Targets on a site -/

namespace Site

theorem isGraphic_of_keptInPath {c : Char} (h : keptInPath c = true) : isGraphic c = true := by
  rw [keptInPath, Bool.and_eq_true] at h
  exact h.1

theorem tidy_of_isGraphic {cs : List Char} (h : ∀ c ∈ cs, isGraphic c = true) : tidy cs = cs := by
  have hr : cs.reverse.dropWhile isTrimmed = cs.reverse :=
    List.dropWhile_eq_self_iff.2 fun hl => by
      rw [isTrimmed_of_isGraphic (h _ (List.mem_reverse.1 (List.getElem_mem hl)))]
      exact Bool.false_ne_true
  rw [tidy, hr, List.reverse_reverse, filter_of_isGraphic h]

/-- Behind a site, a path of segments without slashes is the whole target; it has no query. -/
theorem ofText?_pathText (site : Site) {ss : List Segment} (hne : ss ≠ [])
    (h : ∀ s ∈ ss, ∀ c ∈ s, keptInSegment c = true) :
    ∃ u, Url.ofText? (String.ofList (site.text ++ pathText ss)) = some u ∧
      u.target = String.ofList (pathText (resolve [] ss)) := by
  have hkept : ∀ c ∈ pathText ss, keptInPath c = true :=
    fun c hc => keptInPath_of_mem_pathText h hc
  have ht : tidy (pathText ss) = pathText ss :=
    tidy_of_isGraphic fun c hc => isGraphic_of_keptInPath (hkept c hc)
  have hne' {d : Char} (hd : keptInPath d = false) : ∀ c ∈ pathText ss, (c != d) = true :=
    fun c hc => bne_iff_ne.2 (ne_of_keeps hd (hkept c hc))
  have hhash : (pathText ss).takeWhile (· != '#') = pathText ss :=
    List.takeWhile_eq_self_iff.2 (hne' (by decide))
  have hquery : (pathText ss).takeWhile (· != '?') = pathText ss :=
    List.takeWhile_eq_self_iff.2 (hne' (by decide))
  have hnone : (pathText ss).dropWhile (· != '?') = [] :=
    List.dropWhile_eq_nil_iff.2 (hne' (by decide))
  refine ⟨_, site.ofText?_text_append (rooted_pathText ss), ?_⟩
  rw [ht, address, target, hhash, hquery, hnone, segmentsOf_pathText hne h]
  simp

/-- Slashes behind a path of plain segments are cut off, and nothing else. -/
theorem dropEnd_pathText (site : Site) {base : List Segment} (hb : ∀ s ∈ base, Plain s) (n : Nat) :
    ((site.text ++ pathText base ++ List.replicate n '/').reverse.dropWhile (· == '/')).reverse =
      site.text ++ pathText base := by
  have hslashes : ∀ c ∈ List.replicate n '/', (c == '/') = true := by simp
  rw [List.append_assoc, site.dropEnd_text_append fun _ _ he => beq_slash_of_endsHost he,
    List.reverse_append, List.reverse_replicate, List.dropWhile_append_of_pos hslashes]
  cases base using List.reverseRecOn with
  | nil => rfl
  | append_singleton front s =>
    have hs : Plain s := hb s (by simp)
    have hlast := List.dropLast_concat_getLast hs.nonempty
    have hz : (s.getLast hs.nonempty == '/') = false :=
      (Bool.or_eq_false_iff.1 (isSlash_of_keptInSegment (hs.kept _ (List.getLast_mem _)))).1
    have hp : pathText (front ++ [s]) =
        (pathText front ++ '/' :: s.dropLast) ++ s.getLast hs.nonempty :: [] := by
      have hone : pathText [s] = '/' :: s := List.append_nil _
      rw [pathText_append, hone, List.append_assoc, List.cons_append, hlast]
    rw [hp, dropEnd_append (p := (· == '/')) hz]
    rfl

end Site

end TableFeed.Url
