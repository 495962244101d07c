import TableFeed.Proofs.Model.Wire
import TableFeed.Proofs.Url.Percent
import TableFeed.Proofs.Url.Site
import TableFeed.Run.Configured

/-!
# Models sent to a service

A configuration that names a path on a site, and a token that may stand in a header, has a client
that can send every model: the request goes to the site, its address is the path of the model behind
the client's own, and its body is the model but for the kind.

    site ++ path ──▶ client ──▶ site ++ path without slashes ++ path of the model

    model                     path
    create a new table        /tables
    insert into "my table"    /tables/my%20table/rows
    drop tables               /tables/drop
-/

namespace TableFeed

open Service

namespace Config

/-- A configuration for a service that is found under a path of a site. Its token may stand in a
header if it has no ASCII control character but tabs. -/
structure OnSite (c : Config) (site : Url.Site) (path : List Char) : Prop where
  address : c.backend.baseUrl = String.ofList (site.text ++ path)
  path : Url.Rooted path
  token : ∀ t ∈ c.backend.authToken, ∀ ch ∈ t.toList,
    ch = '\t' ∨ 0x20 ≤ ch.toNat ∧ ch.toNat ≠ 0x7F
  time : c.backend.timeoutSeconds ≠ 0

namespace OnSite

variable {c : Config} {site : Url.Site} {path : List Char} (hc : c.OnSite site path)
include hc

/-- Blanks are cut off from the path only. -/
theorem toList_address : c.address.toList = site.text ++ Text.trimEnd path := by
  have hs : Text.trimStart (site.text ++ path) = site.text ++ path :=
    site.dropWhile_text_append (by decide) path
  have he : Text.trimEnd (site.text ++ path) = site.text ++ Text.trimEnd path :=
    site.dropEnd_text_append (fun _ hg _ => Url.Site.isBlank_of_isGraphic hg) path
  rw [Config.address, hc.address, Text.trimmed, String.toList_ofList, String.toList_ofList,
    Text.trim, hs, he]

/-- A configuration for a site has no fault. -/
theorem fault?_eq_none : c.fault? = none := by
  have hl := hc.toList_address
  have hn : c.address ≠ "" := by
    intro h
    have ht : site.text = [] := by
      rw [h] at hl
      exact (List.append_eq_nil_iff.1 hl.symm).1
    rw [Url.Site.text, List.append_eq_nil_iff] at ht
    exact site.authority_ne_nil ht.2
  have hh : isHttp c.address = true := by
    rw [isHttp, hl, Url.Site.text]
    cases site.secure <;> rfl
  simp [fault?, hn, hh, hc.time]

theorem all_isHeaderChar : ∀ t ∈ c.client.token, t.toList.all Client.isHeaderChar = true := by
  intro t ht
  rw [List.all_eq_true]
  intro ch hch
  simpa [Client.isHeaderChar] using hc.token t ht ch hch

/-- A configuration for a site makes a processor. -/
theorem processor?_eq {m : Type → Type} [Monad m] (send : Transport m) :
    c.processor? send =
      .ok { dialect := c.dialect, mode := c.mode, handlers := apiHandlers send c.client } := by
  rw [processor?, hc.fault?_eq_none]

/-- The path that is kept of the address: without the blanks, then without the slashes at its
end. -/
theorem exists_baseUrl :
    ∃ base, Url.Rooted base ∧ c.client.baseUrl = String.ofList (site.text ++ base) := by
  refine ⟨((Text.trimEnd path).reverse.dropWhile (· == '/')).reverse,
    Url.rooted_dropEnd (Url.rooted_dropEnd hc.path _) _, ?_⟩
  rw [Config.client, Client.forService, Client.withoutSlashes, hc.toList_address,
    site.dropEnd_text_append fun _ _ he => Url.Site.beq_slash_of_endsHost he]

end OnSite

end Config

namespace Service

open Config

/-! ### Paths of models -/

/-- The path that a model goes to: new tables to the tables, rows to those of their table, and
tables to drop to a place of their own. -/
inductive GoesTo : Model → String → Prop
  | createTable (t : Model.NewTable) : GoesTo (.createTable t) "/tables"
  | insert (i : Model.Insertion) {name : List Char} (hn : Url.SpelledAs i.table.toList name) :
    GoesTo (.insert i) ("/tables/" ++ String.ofList name ++ "/rows")
  | dropTable (r : Model.Removal) : GoesTo (.dropTable r) "/tables/drop"

theorem goesTo_pathOf (m : Model) : GoesTo m (pathOf m) := by
  cases m with
  | createTable t => exact .createTable t
  | insert i => exact .insert i (Url.spelledAs_iff.2 rfl)
  | dropTable r => exact .dropTable r

theorem GoesTo.eq_pathOf {m : Model} {path : String} (h : GoesTo m path) : path = pathOf m := by
  cases h with
  | createTable t => rfl
  | insert i hn =>
    obtain rfl := Url.spelledAs_iff.1 hn
    rfl
  | dropTable r => rfl

/-! ### Requests for models -/

theorem rooted_pathOf (m : Model) : Url.Rooted (pathOf m).toList := by
  cases m with
  | createTable t => simp [Url.Rooted, pathOf]
  | insert i => simp [Url.Rooted, pathOf, rowsPath]
  | dropTable r => simp [Url.Rooted, pathOf]

/-- A client whose token may stand in a header can send to every path that makes an address. -/
theorem Client.request?_eq_some {c : Client} {path : String} {url : Url}
    (hu : Url.ofText? (c.baseUrl ++ path) = some url)
    (ht : ∀ t ∈ c.token, t.toList.all Client.isHeaderChar = true) (payload : Json) :
    c.request? path payload =
      some { url, authorization := c.token.map ("Bearer " ++ ·), body := payload } := by
  have hall : (c.token.all fun t => t.toList.all Client.isHeaderChar) = true := by
    cases h : c.token with
    | none => rfl
    | some t => exact ht t h
  simp only [Client.request?, hu, Option.bind_eq_bind, Option.bind_some, hall, if_true]
  rfl

/-- A request that carries a model to a site: its address is the path of the model behind the
address of the client, and with the kind of the model its body is read as that model. -/
structure Carries (c : Config) (site : Url.Site) (m : Model) (r : Request) : Prop where
  url : ∃ path, GoesTo m path ∧ Url.ofText? (c.client.baseUrl ++ path) = some r.url
  server : r.url.secure = site.secure ∧ r.url.host = site.host ∧ r.url.port = site.port
  authorization : r.authorization = c.backend.authToken.map ("Bearer " ++ ·)
  body : ∃ fields, r.body = .object fields ∧
    Model.ofJson? (.object (("resultKind", .text m.tag) :: fields)) = some m

/-- Every model can be sent. -/
theorem exists_carries {c : Config} {site : Url.Site} {path : List Char}
    (hc : c.OnSite site path) (m : Model) :
    ∃ r, c.client.request? (pathOf m) m.payload = some r ∧ Carries c site m r := by
  obtain ⟨base, hb, hurl⟩ := hc.exists_baseUrl
  have hu := site.ofText?_text_append (Url.rooted_append hb (rooted_pathOf m))
  rw [← List.append_assoc, String.ofList_append, String.ofList_toList, ← hurl] at hu
  have hr := Client.request?_eq_some hu hc.all_isHeaderChar m.payload
  exact ⟨_, hr, ⟨pathOf m, goesTo_pathOf m, hu⟩, ⟨rfl, rfl, rfl⟩, rfl, m.fields, rfl,
    Model.ofJson?_toJson m⟩

/-- The address of a request is known from the model that it carries. -/
theorem Carries.ofText?_eq {c : Config} {site : Url.Site} {m : Model} {r : Request}
    (h : Carries c site m r) : Url.ofText? (c.client.baseUrl ++ pathOf m) = some r.url := by
  obtain ⟨path, hpath, hu⟩ := h.url
  rw [← hpath.eq_pathOf, hu]

end Service

end TableFeed
