import TableFeed.Proofs.Service.Targets

/-!
# What a client keeps of its address

The address of a configuration without a fault begins with `http://` or `https://`. A client cuts
off the slashes at its end. These stand behind a server, unless nothing but slashes follows the
scheme: the *bare* address loses the slashes of its scheme too, and the first segment of a path is
then read as the server.

    address              client             request to make a table      server
    http://host/v1/      http://host/v1     http://host/v1/tables        host
    http:///             http:              http:/tables                 tables
-/

namespace TableFeed

open Service

/-! ### Schemes -/

namespace Url

/-- How a scheme is written, with its colon. -/
def schemeText (secure : Bool) : List Char :=
  if secure then "https:".toList else "http:".toList

theorem isGraphic_of_mem_schemeText {secure : Bool} {c : Char} (h : c ∈ schemeText secure) :
    isGraphic c = true := by
  have hs : ∀ secure, ∀ c ∈ schemeText secure, isGraphic c = true := by decide
  exact hs secure c h

theorem scheme?_schemeText_append (secure : Bool) (cs : List Char) :
    scheme? (schemeText secure ++ '/' :: cs) = some (secure, '/' :: cs) := by
  cases secure <;> rfl

theorem cleaned_of_isGraphic {cs : List Char} (h : ∀ c ∈ cs, isGraphic c = true) :
    cleaned cs = cs := by
  have hfront : cs.dropWhile isTrimmed = cs :=
    List.dropWhile_eq_self_iff.2 fun hl => by
      rw [Site.isTrimmed_of_isGraphic (h _ (List.getElem_mem hl))]
      exact Bool.false_ne_true
  have htidy : cleaned cs = Site.tidy (cs.dropWhile isTrimmed) := rfl
  rw [htidy, hfront, Site.tidy_of_isGraphic h]

/-- Behind a scheme one slash is read like two. -/
theorem ofText?_one_slash (secure : Bool) {cs : List Char} (h : ∀ c ∈ cs, isGraphic c = true) :
    ofText? (String.ofList (schemeText secure ++ '/' :: cs)) =
      ofText? (String.ofList (schemeText secure ++ '/' :: '/' :: cs)) := by
  have hslash : isGraphic '/' = true := by decide
  have hgraphic {ds : List Char} (hd : ∀ c ∈ ds, isGraphic c = true) :
      ∀ c ∈ schemeText secure ++ ds, isGraphic c = true :=
    List.forall_mem_append.2 ⟨fun c => isGraphic_of_mem_schemeText, hd⟩
  have hone := hgraphic (List.forall_mem_cons.2 ⟨hslash, h⟩)
  have htwo := hgraphic (List.forall_mem_cons.2 ⟨hslash, List.forall_mem_cons.2 ⟨hslash, h⟩⟩)
  simp only [ofText?, String.toList_ofList, cleaned_of_isGraphic hone, cleaned_of_isGraphic htwo,
    scheme?_schemeText_append, Option.bind_eq_bind, Option.bind_some]
  rfl

/-- The server that the paths of the table service name where no server stands before them. -/
def tablesSite (secure : Bool) : Site where
  secure := secure
  authority := "tables".toList
  host := "tables".toList
  port := none
  written := by decide
  named := by decide

theorem text_tablesSite (secure : Bool) :
    (tablesSite secure).text = schemeText secure ++ '/' :: '/' :: "tables".toList := by
  cases secure <;> rfl

end Url

/-! ### Bare addresses -/

namespace Config

/-- An address that has nothing but slashes behind its scheme. -/
def IsBare (address : String) : Prop :=
  ∃ secure n, address.toList = Url.schemeText secure ++ List.replicate n '/'

theorem isHttp_iff {address : String} : isHttp address = true ↔
    ∃ secure rest, address.toList = Url.schemeText secure ++ '/' :: '/' :: rest := by
  rw [isHttp, Bool.or_eq_true, List.isPrefixOf_iff_prefix, List.isPrefixOf_iff_prefix]
  constructor
  · rintro (⟨rest, h⟩ | ⟨rest, h⟩)
    · exact ⟨false, rest, h.symm⟩
    · exact ⟨true, rest, h.symm⟩
  · rintro ⟨secure, rest, h⟩
    cases secure with
    | false => exact .inl ⟨rest, h.symm⟩
    | true => exact .inr ⟨rest, h.symm⟩

theorem isHttp_append {address : String} (h : isHttp address = true) (path : String) :
    isHttp (address ++ path) = true := by
  obtain ⟨secure, rest, h⟩ := isHttp_iff.1 h
  refine isHttp_iff.2 ⟨secure, rest ++ path.toList, ?_⟩
  rw [String.toList_append, h, List.append_assoc]
  rfl

/-- The address of a configuration without a fault is one of HTTP. -/
theorem isHttp_address {c : Config} (hc : c.fault? = none) : isHttp c.address = true := by
  unfold fault? at hc
  split at hc
  · cases hc
  · split at hc
    · cases hc
    · next h => simpa using h

/-- All slashes are cut off a bare address. -/
theorem withoutSlashes_bare {address : String} {secure : Bool} {n : Nat}
    (h : address.toList = Url.schemeText secure ++ List.replicate n '/') :
    Client.withoutSlashes address = String.ofList (Url.schemeText secure) := by
  have hcolon : ∃ front, Url.schemeText secure = front ++ [':'] := by
    cases secure with
    | false => exact ⟨"http".toList, rfl⟩
    | true => exact ⟨"https".toList, rfl⟩
  obtain ⟨front, hf⟩ := hcolon
  have hslashes : (List.replicate n '/').reverse.dropWhile (· == '/') = [] := by
    rw [List.reverse_replicate, List.dropWhile_eq_nil_iff]
    simp
  rw [Client.withoutSlashes, h, hf, List.append_assoc, List.singleton_append,
    Url.dropEnd_append (by decide), hslashes]
  rfl

/-- Of any other address the scheme is kept with its slashes. -/
theorem isHttp_withoutSlashes {address : String} (h : isHttp address = true)
    (hb : ¬IsBare address) : isHttp (Client.withoutSlashes address) = true := by
  obtain ⟨secure, rest, h⟩ := isHttp_iff.1 h
  have hrest : ∃ z ∈ rest, z ≠ '/' := by
    by_contra hall
    push Not at hall
    refine hb ⟨secure, rest.length + 2, ?_⟩
    rw [h, List.replicate_succ, List.replicate_succ, ← List.eq_replicate_of_mem hall]
  obtain ⟨z, hz, hne⟩ := hrest
  obtain ⟨front, back, rfl⟩ := List.append_of_mem hz
  have hsplit : address.toList = (Url.schemeText secure ++ '/' :: '/' :: front) ++ z :: back := by
    rw [h, List.append_assoc]
    rfl
  -- nothing in front of `z` is cut off
  refine isHttp_iff.2 ⟨secure, front ++ z :: (back.reverse.dropWhile (· == '/')).reverse, ?_⟩
  rw [Client.withoutSlashes, hsplit, Url.dropEnd_append (p := (· == '/')) (beq_false_of_ne hne),
    String.toList_ofList, List.append_assoc]
  rfl

end Config

/-! ### Paths of models behind a bare scheme -/

namespace Service

/-- Every model goes to a path below `/tables`. -/
theorem exists_pathOf (m : Model) : ∃ rest, (pathOf m).toList = '/' :: ("tables".toList ++ rest) ∧
    Url.Rooted rest ∧ ∀ c ∈ rest, Url.isGraphic c = true := by
  cases m with
  | createTable t => exact ⟨[], by simp [pathOf], by simp [Url.Rooted], by simp⟩
  | dropTable r => exact ⟨"/drop".toList, by simp [pathOf], by simp [Url.Rooted], by decide⟩
  | insert i =>
    refine ⟨Url.pathText [Url.escaped Url.isUnreserved i.table.toList, "rows".toList],
      toList_rowsPath i.table, Url.rooted_pathText _, ?_⟩
    intro c hc
    have hk := keptInSegment_of_mem_addressSegments i.table
    exact Url.Site.isGraphic_of_keptInPath
      (Url.keptInPath_of_mem_pathText (fun s hs => hk s (List.mem_cons_of_mem _ hs)) hc)

/-- Behind a scheme alone, the path of a model names `tables` as the server. -/
theorem ofText?_schemeText_pathOf (secure : Bool) (m : Model) :
    ∃ url, Url.ofText? (String.ofList (Url.schemeText secure) ++ pathOf m) = some url ∧
      url.host = "tables".toList ∧ url.port = none := by
  obtain ⟨rest, hpath, hrooted, hgraphic⟩ := exists_pathOf m
  have hall : ∀ c ∈ "tables".toList ++ rest, Url.isGraphic c = true :=
    List.forall_mem_append.2 ⟨by decide, hgraphic⟩
  have hsite : Url.schemeText secure ++ '/' :: '/' :: ("tables".toList ++ rest) =
      (Url.tablesSite secure).text ++ rest := by
    rw [Url.text_tablesSite]
    simp
  refine ⟨(Url.tablesSite secure).address (Url.Site.tidy rest), ?_, rfl, rfl⟩
  rw [← String.ofList_toList (s := pathOf m), hpath, ← String.ofList_append,
    Url.ofText?_one_slash secure hall, hsite, Url.Site.ofText?_text_append _ hrooted]

end Service

namespace Config

theorem isHttp_schemeText (secure : Bool) :
    isHttp (String.ofList (Url.schemeText secure)) = false := by
  cases secure <;> decide

/-- The path of a model begins with one slash, not with two. -/
theorem isHttp_schemeText_pathOf (secure : Bool) (m : Model) :
    isHttp (String.ofList (Url.schemeText secure) ++ pathOf m) = false := by
  obtain ⟨rest, hpath, -, -⟩ := exists_pathOf m
  rw [Bool.eq_false_iff]
  intro h
  obtain ⟨secure', rest', h⟩ := isHttp_iff.1 h
  rw [String.toList_append, String.toList_ofList, hpath] at h
  cases secure <;> cases secure' <;> simp [Url.schemeText] at h

/-- The client of a processor keeps an address of HTTP, and so does every request that it makes,
unless the configured address is bare. The client of a bare address is left with its scheme, so that
no request for a model has an address of HTTP as it is written, and all of them go to a server that
is called `tables`. -/
theorem isHttp_client_iff {c : Config} (hc : c.fault? = none) :
    (∀ {m : Type → Type} [Monad m] (send : Transport m), c.processor? send =
      .ok { dialect := c.dialect, mode := c.mode, handlers := apiHandlers send c.client }) ∧
    (isHttp c.client.baseUrl = true ↔ ¬IsBare c.address) ∧
    (¬IsBare c.address → ∀ path, isHttp (c.client.baseUrl ++ path) = true) ∧
    (IsBare c.address →
      (c.client.baseUrl = "http:" ∨ c.client.baseUrl = "https:") ∧
      ∀ m : Model, isHttp (c.client.baseUrl ++ pathOf m) = false ∧
        ∃ url, Url.ofText? (c.client.baseUrl ++ pathOf m) = some url ∧
          url.host = "tables".toList ∧ url.port = none) := by
  have hkept (hb : ¬IsBare c.address) : isHttp c.client.baseUrl = true :=
    isHttp_withoutSlashes (isHttp_address hc) hb
  have hbare (hb : IsBare c.address) :
      ∃ secure, c.client.baseUrl = String.ofList (Url.schemeText secure) := by
    obtain ⟨secure, n, h⟩ := hb
    exact ⟨secure, withoutSlashes_bare h⟩
  refine ⟨fun send => ?_, ⟨fun h hb => ?_, hkept⟩, fun hb => isHttp_append (hkept hb), fun hb => ?_⟩
  · rw [processor?, hc]
  · obtain ⟨secure, hs⟩ := hbare hb
    rw [hs, isHttp_schemeText] at h
    cases h
  · obtain ⟨secure, hs⟩ := hbare hb
    rw [hs]
    refine ⟨?_, fun m => ⟨isHttp_schemeText_pathOf secure m, ofText?_schemeText_pathOf secure m⟩⟩
    cases secure with
    | false => exact .inl rfl
    | true => exact .inr rfl

/-- A path, slashes and blanks behind a server are no bare address. -/
theorem isHttp_client_server :
    let c : Config := { backend := { baseUrl := " https://host//v1/// " } }
    c.fault? = none ∧ ¬IsBare c.address ∧ c.client.baseUrl = "https://host//v1" ∧
      ∀ path, isHttp (c.client.baseUrl ++ path) = true := by
  intro c
  have hc : c.fault? = none := by decide
  have hkept : c.client.baseUrl = "https://host//v1" := by decide
  obtain ⟨-, hiff, hpaths, -⟩ := isHttp_client_iff hc
  have hb : ¬IsBare c.address := hiff.1 (by decide)
  exact ⟨hc, hb, hkept, hpaths hb⟩

/-- A scheme with its slashes is no fault, but its slashes are cut off. -/
theorem isHttp_client_bare :
    let c : Config := { backend := { baseUrl := "http://" } }
    let m : Model := .dropTable { tables := ["a"] }
    c.fault? = none ∧ c.client.baseUrl = "http:" ∧ isHttp c.client.baseUrl = false ∧
      isHttp (c.client.baseUrl ++ pathOf m) = false := by
  decide

end Config

end TableFeed
