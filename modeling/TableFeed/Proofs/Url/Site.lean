import TableFeed.Text.Blank
import TableFeed.Url.Address

/-!
# Servers and the addresses on them

A *site* is a server as an address names it: the scheme, then the host with its port. Whatever
begins with a slash may follow it; the address is then one on that server, and the rest names the
path and the query.

    https://host:8080          /v1/tables?x=1
    └────── site ────┘         └─── rest ───┘
-/

namespace TableFeed.Url

open TableFeed

/-! ### Ends that are cut off -/

/-- Nothing is cut off from the end of a text up to a character that stays. -/
theorem dropEnd_append {p : Char → Bool} {z : Char} (hz : p z = false) (front rest : List Char) :
    ((front ++ z :: rest).reverse.dropWhile p).reverse =
      front ++ z :: (rest.reverse.dropWhile p).reverse := by
  rw [List.reverse_append, List.reverse_cons, List.append_assoc, List.dropWhile_append]
  split
  · next h => simp [hz, List.isEmpty_iff.1 h]
  · simp

/-- What may follow a site: nothing, or what begins with a slash. -/
def Rooted (cs : List Char) : Prop := ∀ c ∈ cs.head?, c = '/'

theorem rooted_of_isPrefixOf {cs ds : List Char} (hd : Rooted ds) (h : cs <+: ds) : Rooted cs := by
  obtain ⟨rest, rfl⟩ := h
  cases cs with
  | nil => simp [Rooted]
  | cons c cs => exact hd

theorem dropEnd_isPrefixOf (p : Char → Bool) (cs : List Char) :
    (cs.reverse.dropWhile p).reverse <+: cs := by
  have h := List.reverse_prefix.2 (List.dropWhile_suffix (l := cs.reverse) p)
  rwa [List.reverse_reverse] at h

theorem rooted_dropEnd {cs : List Char} (h : Rooted cs) (p : Char → Bool) :
    Rooted (cs.reverse.dropWhile p).reverse :=
  rooted_of_isPrefixOf h (dropEnd_isPrefixOf p cs)

theorem rooted_append {cs ds : List Char} (hc : Rooted cs) (hd : Rooted ds) : Rooted (cs ++ ds) := by
  cases cs with
  | nil => exact hd
  | cons c cs => exact hc

/-! ### Sites -/

/-- A server, as an address names it. -/
structure Site where
  secure : Bool
  /-- The host and the port as they are written. -/
  authority : List Char
  host : List Char
  port : Option Nat
  written : ∀ c ∈ authority, isGraphic c = true ∧ endsHost c = false
  named : hostAndPort? authority = some (host, port)

namespace Site

/-- How a site is written. -/
def text (s : Site) : List Char :=
  (if s.secure then "https://".toList else "http://".toList) ++ s.authority

/-- The address on a site that some characters name. -/
def address (s : Site) (cs : List Char) : Url :=
  { secure := s.secure
    host := s.host
    port := s.port
    path := segmentsOf ((cs.takeWhile (· != '#')).takeWhile (· != '?'))
    query := match (cs.takeWhile (· != '#')).dropWhile (· != '?') with
      | _ :: q => some (escaped keptInQuery q)
      | [] => none }

theorem authority_ne_nil (s : Site) : s.authority ≠ [] := by
  intro h
  have hn := s.named
  rw [h] at hn
  cases hn

/-- A site ends with a character of its host or port. -/
theorem exists_text_eq (s : Site) :
    ∃ front z, s.text = front ++ [z] ∧ isGraphic z = true ∧ endsHost z = false := by
  have h := List.dropLast_concat_getLast s.authority_ne_nil
  refine ⟨(if s.secure then "https://".toList else "http://".toList) ++ s.authority.dropLast,
    s.authority.getLast s.authority_ne_nil, ?_, s.written _ (List.getLast_mem _)⟩
  rw [List.append_assoc, h]
  rfl

/-- Cutting off the end of an address takes away nothing of the site, if no character of a host or
port is cut off. -/
theorem dropEnd_text_append (s : Site) {p : Char → Bool}
    (hp : ∀ c, isGraphic c = true → endsHost c = false → p c = false) (cs : List Char) :
    ((s.text ++ cs).reverse.dropWhile p).reverse = s.text ++ (cs.reverse.dropWhile p).reverse := by
  obtain ⟨front, z, h, hg, he⟩ := s.exists_text_eq
  rw [h, List.append_assoc, List.append_assoc]
  exact dropEnd_append (hp z hg he) front cs

theorem dropWhile_text_append (s : Site) {p : Char → Bool} (hp : p 'h' = false) (cs : List Char) :
    (s.text ++ cs).dropWhile p = s.text ++ cs := by
  have hh : ∃ rest, s.text = 'h' :: rest := by
    unfold text
    cases s.secure <;> exact ⟨_, rfl⟩
  obtain ⟨rest, h⟩ := hh
  rw [h, List.cons_append, List.dropWhile_cons_of_neg (by simp [hp])]

theorem isGraphic_bounds {c : Char} (h : isGraphic c = true) : 0x20 < c.toNat ∧ c.toNat < 0x7F := by
  simpa [isGraphic] using h

theorem isTrimmed_of_isGraphic {c : Char} (h : isGraphic c = true) : isTrimmed c = false := by
  have hb := isGraphic_bounds h
  simp only [isTrimmed, decide_eq_false_iff_not]
  omega

theorem isBlank_of_isGraphic {c : Char} (h : isGraphic c = true) : Text.isBlank c = false := by
  have hb := isGraphic_bounds h
  simp only [Text.isBlank, Bool.or_eq_false_iff, Bool.and_eq_false_iff, decide_eq_false_iff_not,
    beq_eq_false_iff_ne]
  omega

/-- No graphic character is a tab or a line end. -/
theorem filter_of_isGraphic {cs : List Char} (h : ∀ c ∈ cs, isGraphic c = true) :
    (cs.filter fun c => c != '\t' && c != '\n' && c != '\r') = cs := by
  refine List.filter_eq_self.2 fun c hc => ?_
  have hb := isGraphic_bounds (h c hc)
  have ne {d : Char} (hd : d.toNat ≤ 0x20) : (c != d) = true := by
    rw [bne_iff_ne]
    rintro rfl
    omega
  simp [ne (d := '\t') (by decide), ne (d := '\n') (by decide), ne (d := '\r') (by decide)]

/-- No character of a host or port is a slash. -/
theorem beq_slash_of_endsHost {c : Char} (h : endsHost c = false) : (c == '/') = false := by
  refine beq_false_of_ne ?_
  rintro rfl
  exact absurd h (by decide)

theorem mem_text {s : Site} {c : Char} (h : c ∈ s.text) : isGraphic c = true := by
  have hs : ∀ c ∈ "https://".toList, isGraphic c = true := by decide
  have hn : ∀ c ∈ "http://".toList, isGraphic c = true := by decide
  rcases List.mem_append.1 h with h | h
  · split at h
    · exact hs c h
    · exact hn c h
  · exact (s.written c h).1

/-! ### Addresses on a site -/

/-- What is read of the end of an address. -/
def tidy (cs : List Char) : List Char :=
  (cs.reverse.dropWhile isTrimmed).reverse.filter fun c => c != '\t' && c != '\n' && c != '\r'

theorem rooted_tidy {cs : List Char} (h : Rooted cs) : Rooted (tidy cs) := by
  have hd := rooted_dropEnd h isTrimmed
  unfold tidy
  cases hcs : (cs.reverse.dropWhile isTrimmed).reverse with
  | nil => simp [Rooted]
  | cons c ds =>
    rw [hcs] at hd
    obtain rfl : c = '/' := hd c rfl
    simp [Rooted]

theorem cleaned_text_append (s : Site) (cs : List Char) :
    cleaned (s.text ++ cs) = s.text ++ tidy cs := by
  rw [cleaned, dropWhile_text_append s (by decide),
    dropEnd_text_append s fun c hg _ => isTrimmed_of_isGraphic hg, List.filter_append,
    filter_of_isGraphic fun c hc => mem_text hc]
  rfl

theorem scheme?_text_append (s : Site) (cs : List Char) :
    scheme? (s.text ++ cs) = some (s.secure, '/' :: '/' :: (s.authority ++ cs)) := by
  unfold text
  cases s.secure <;> rfl

theorem dropWhile_authority (s : Site) (cs : List Char) :
    ('/' :: '/' :: (s.authority ++ cs)).dropWhile isSlash = s.authority ++ cs := by
  obtain ⟨c, ds, h⟩ := List.exists_cons_of_ne_nil s.authority_ne_nil
  have hc := (s.written c (by simp [h])).2
  have hn : isSlash c = false := by
    simp only [endsHost, Bool.or_eq_false_iff] at hc
    exact hc.1.1
  have hs : isSlash '/' = true := rfl
  rw [h, List.dropWhile_cons_of_pos hs, List.dropWhile_cons_of_pos hs, List.cons_append,
    List.dropWhile_cons_of_neg (by simp [hn])]

/-- What begins with a site, and goes on with a slash if at all, is an address on it. -/
theorem ofText?_text_append (s : Site) {cs : List Char} (h : Rooted cs) :
    Url.ofText? (String.ofList (s.text ++ cs)) = some (s.address (tidy cs)) := by
  have hr := rooted_tidy h
  have ha : ∀ c ∈ s.authority, (!endsHost c) = true := fun c hc => by simp [(s.written c hc).2]
  have ht : (s.authority ++ tidy cs).takeWhile (fun c => !endsHost c) = s.authority := by
    rw [List.takeWhile_append_of_pos ha]
    cases hcs : tidy cs with
    | nil => simp
    | cons c ds =>
      rw [hcs] at hr
      obtain rfl : c = '/' := hr c rfl
      simp [endsHost, isSlash]
  have hd : (s.authority ++ tidy cs).dropWhile (fun c => !endsHost c) = tidy cs := by
    rw [List.dropWhile_append_of_pos ha]
    cases hcs : tidy cs with
    | nil => rfl
    | cons c ds =>
      rw [hcs] at hr
      obtain rfl : c = '/' := hr c rfl
      simp [endsHost, isSlash]
  simp only [ofText?, String.toList_ofList, cleaned_text_append, scheme?_text_append,
    Option.bind_eq_bind, Option.bind_some, dropWhile_authority, ht, hd, s.named]
  rfl

end Site

end TableFeed.Url
