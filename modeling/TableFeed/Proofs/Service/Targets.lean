import Mathlib.Tactic.SplitIfs
import TableFeed.Proofs.Service.Delivery
import TableFeed.Proofs.Url.Path
import TableFeed.Service.Server

/-!
# Where rows are sent

Rows go to `/tables/<name>/rows` behind the path of the service, the name as one segment. Escaping
keeps slashes and percent signs out of that segment, but not dots, and a segment of one or two dots
is followed when the address is read. Of all names, these two are not named by the target.

    name     address                    target
    a/b      /v1/tables/a%2Fb/rows      /v1/tables/a%2Fb/rows
    .        /v1/tables/./rows          /v1/tables/rows
    ..       /v1/tables/../rows         /v1/rows
-/

namespace TableFeed.Service

open TableFeed Url

/-! ### What a target says -/

/-- A target names a table behind a path: in one segment, between `/tables/` and `/rows`. -/
def NamesTable (base : List Segment) (table target : String) : Prop :=
  ∃ s : Segment, '/' ∉ s ∧ unescaped s = Text.encode table.toList ∧
    target.toList = pathText base ++ "/tables/".toList ++ s ++ "/rows".toList

/-- A target lies below the tables behind a path. -/
def IsBelowTables (base : List Segment) (target : String) : Prop :=
  pathText base ++ "/tables/".toList <+: target.toList

/-- The segments behind the path of a service that rows of a table are addressed to. -/
def addressSegments (table : String) : List Segment :=
  ["tables".toList, escaped isUnreserved table.toList, "rows".toList]

/-- The segments behind the path of a service that rows of a table are sent to. -/
def targetSegments (table : String) : List Segment :=
  if table = ".." then ["rows".toList]
  else if table = "." then ["tables".toList, "rows".toList]
  else addressSegments table

/-- The target that rows of a table are sent to. -/
def rowsTarget (base : List Segment) (table : String) : String :=
  String.ofList (pathText (base ++ targetSegments table))

/-! ### Paths of tables -/

theorem toList_rowsPath (table : String) :
    (rowsPath table).toList = pathText (addressSegments table) := by
  simp [rowsPath, encodeSegment, pathText, addressSegments]

theorem plain_tables : Plain "tables".toList := ⟨by decide, by decide, by decide, by decide⟩

theorem plain_rows : Plain "rows".toList := ⟨by decide, by decide, by decide, by decide⟩

theorem isUp_escaped_toList (table : String) :
    isUp (escaped isUnreserved table.toList) = decide (table = "..") := by
  rw [Bool.eq_iff_iff, isUp_escaped, decide_eq_true_iff, ← String.toList_inj]
  rfl

theorem isHere_escaped_toList (table : String) :
    isHere (escaped isUnreserved table.toList) = decide (table = ".") := by
  rw [Bool.eq_iff_iff, isHere_escaped, decide_eq_true_iff, ← String.toList_inj]
  rfl

/-- Dots are followed, and every other name is a segment that stays. -/
theorem resolve_rows {base : List Segment} (hb : ∀ s ∈ base, Plain s) (table : String) :
    resolve [] (base ++ addressSegments table) = base ++ targetSegments table := by
  have hup := isUp_escaped_toList table
  have hhere := isHere_escaped_toList table
  rw [resolve_append hb, addressSegments, resolve_cons plain_tables.up plain_tables.here,
    List.nil_append, targetSegments, addressSegments]
  by_cases hu : table = ".."
  · rw [decide_eq_true hu] at hup
    rw [if_pos hu, resolve_cons_isUp hup (by simp), resolve_cons plain_rows.up plain_rows.here,
      List.dropLast_concat]
    rfl
  · rw [decide_eq_false hu] at hup
    by_cases hh : table = "."
    · rw [decide_eq_true hh] at hhere
      rw [if_neg hu, if_pos hh, resolve_cons_isHere hup hhere (by simp),
        resolve_cons plain_rows.up plain_rows.here, List.append_assoc]
      rfl
    · rw [decide_eq_false hh] at hhere
      rw [if_neg hu, if_neg hh, resolve_cons hup hhere,
        resolve_cons plain_rows.up plain_rows.here, List.append_assoc, List.append_assoc]
      rfl

theorem keptInSegment_of_mem_addressSegments (table : String) :
    ∀ s ∈ addressSegments table, ∀ c ∈ s, keptInSegment c = true := by
  simp only [addressSegments, List.forall_mem_cons]
  exact ⟨plain_tables.kept, fun c hc => keptInSegment_of_mem_escaped hc, plain_rows.kept, by simp⟩

theorem keptInSegment_of_mem_targetSegments (table : String) :
    ∀ s ∈ targetSegments table, ∀ c ∈ s, keptInSegment c = true := by
  unfold targetSegments
  split_ifs
  · exact List.forall_mem_singleton.2 plain_rows.kept
  · exact List.forall_mem_cons.2 ⟨plain_tables.kept, List.forall_mem_singleton.2 plain_rows.kept⟩
  · exact keptInSegment_of_mem_addressSegments table

/-- Different tables have different paths. -/
theorem targetSegments_injective {table table' : String}
    (h : targetSegments table = targetSegments table') : table = table' := by
  have hl := congrArg List.length h
  unfold targetSegments addressSegments at h hl
  split_ifs at h hl with hu hu' hh' hh hu' hh' <;> simp at hl
  · exact hu.trans hu'.symm
  · exact hh.trans hh'.symm
  · have hk : isUnreserved '%' = false := by decide
    have he := (List.cons.inj (List.cons.inj h).2).1
    exact String.toList_inj.1 (escaped_injective hk he)

/-! ### Targets of tables -/

theorem toList_rowsTarget (base : List Segment) (table : String) :
    (rowsTarget base table).toList = pathText base ++ pathText (targetSegments table) := by
  rw [rowsTarget, String.toList_ofList, pathText_append]

theorem namesTable_rowsTarget_iff (base : List Segment) (table : String) :
    NamesTable base table (rowsTarget base table) ↔ table ≠ "." ∧ table ≠ ".." := by
  constructor
  · rintro ⟨s, -, -, h⟩
    -- behind the path, a target of dots is shorter than `/tables/` and `/rows` together
    rw [toList_rowsTarget, List.append_assoc, List.append_assoc, List.append_cancel_left_eq] at h
    have hl := congrArg List.length h
    constructor
    · rintro rfl
      simp [targetSegments, pathText] at hl
    · rintro rfl
      simp [targetSegments, pathText] at hl
  · rintro ⟨hh, hu⟩
    refine ⟨escaped isUnreserved table.toList, ?_, unescaped_escaped (by decide) _, ?_⟩
    · intro hs
      exact absurd (isSlash_of_keptInSegment (keptInSegment_of_mem_escaped hs)) (by decide)
    · rw [toList_rowsTarget, targetSegments, if_neg hu, if_neg hh]
      simp [pathText, addressSegments]

theorem isBelowTables_rowsTarget_iff (base : List Segment) (table : String) :
    IsBelowTables base (rowsTarget base table) ↔ table ≠ ".." := by
  rw [IsBelowTables, toList_rowsTarget, List.prefix_append_right_inj]
  constructor
  · rintro h rfl
    exact absurd h (by decide)
  · intro hu
    rw [targetSegments, if_neg hu]
    split
    · exact ⟨_, rfl⟩
    · exact ⟨escaped isUnreserved table.toList ++ pathText ["rows".toList], rfl⟩

theorem rowsTarget_injective {base : List Segment} (hb : ∀ s ∈ base, Plain s)
    {table table' : String} (h : rowsTarget base table = rowsTarget base table') :
    table = table' := by
  have hslash (table : String) : ∀ s ∈ base ++ targetSegments table, ∀ c ∈ s, isSlash c = false :=
    List.forall_mem_append.2 ⟨fun s hs c hc => isSlash_of_keptInSegment ((hb s hs).kept c hc),
      fun s hs c hc =>
        isSlash_of_keptInSegment (keptInSegment_of_mem_targetSegments table s hs c hc)⟩
  have hp := pathText_injective (hslash table) (hslash table') (String.ofList_inj.1 h)
  exact targetSegments_injective (List.append_cancel_left hp)

/-! ### Requests -/

/-- A client for a service under a path on a site; slashes may stand behind the path. -/
def clientFor (site : Site) (base : List Segment) (slashes : Nat) (token : Option String) :
    Client :=
  .forService (String.ofList (site.text ++ pathText base ++ List.replicate slashes '/')) token

theorem baseUrl_clientFor (site : Site) {base : List Segment} (hb : ∀ s ∈ base, Plain s)
    (slashes : Nat) (token : Option String) :
    (clientFor site base slashes token).baseUrl = String.ofList (site.text ++ pathText base) := by
  rw [clientFor, Client.forService, Client.withoutSlashes, String.toList_ofList,
    site.dropEnd_pathText hb]

/-- Rows go to the path of their table behind that of the service. -/
theorem exists_rowsRequest (site : Site) {base : List Segment} (hb : ∀ s ∈ base, Plain s)
    (slashes : Nat) {token : Option String}
    (ht : ∀ t ∈ token, t.toList.all Client.isHeaderChar = true) (i : Model.Insertion) :
    ∃ r, (clientFor site base slashes token).request? (pathOf (.insert i))
        (Model.payload (.insert i)) = some r ∧
      r.url.target = rowsTarget base i.table := by
  have hne : base ++ addressSegments i.table ≠ [] := by simp [addressSegments]
  have hkept : ∀ s ∈ base ++ addressSegments i.table, ∀ c ∈ s, keptInSegment c = true :=
    List.forall_mem_append.2 ⟨fun s hs => (hb s hs).kept,
      keptInSegment_of_mem_addressSegments i.table⟩
  obtain ⟨u, hu, htarget⟩ := site.ofText?_pathText hne hkept
  have hpath : (pathOf (.insert i)).toList = pathText (addressSegments i.table) :=
    toList_rowsPath i.table
  have haddress : (clientFor site base slashes token).baseUrl ++ pathOf (.insert i) =
      String.ofList (site.text ++ pathText (base ++ addressSegments i.table)) := by
    rw [← String.toList_inj, String.toList_append, baseUrl_clientFor site hb, String.toList_ofList,
      String.toList_ofList, hpath, pathText_append, List.append_assoc]
  rw [← haddress] at hu
  exact ⟨_, Client.request?_eq_some hu ht _, by rw [htarget, resolve_rows hb, rowsTarget]⟩

/-- Rows of a table go to a target that names this table, unless its name is a dot or two dots: with
one the name is left out, with two the tables are left as well. Different tables never share a
target. -/
theorem rows_target (site : Site) {base : List Segment} (hb : ∀ s ∈ base, Plain s)
    (slashes : Nat) {token : Option String}
    (ht : ∀ t ∈ token, t.toList.all Client.isHeaderChar = true) :
    ∃ sent : Model.Insertion → Request,
      (∀ (m : Type → Type) [Monad m] (send : Transport m) (i : Model.Insertion),
        (apiHandler send (clientFor site base slashes token) .insert).handle (.insert i) false =
          (do return (← send (sent i)).reply)) ∧
      ∀ i : Model.Insertion,
        (NamesTable base i.table (sent i).url.target ↔ i.table ≠ "." ∧ i.table ≠ "..") ∧
        (i.table = "." → (sent i).url.target.toList = pathText base ++ "/tables/rows".toList) ∧
        (i.table = ".." → (sent i).url.target.toList = pathText base ++ "/rows".toList) ∧
        (IsBelowTables base (sent i).url.target ↔ i.table ≠ "..") ∧
        ∀ j : Model.Insertion, (sent i).url.target = (sent j).url.target → i.table = j.table := by
  choose sent hsent htarget using exists_rowsRequest site hb slashes ht
  refine ⟨sent, fun m _ send i => ?_, fun i => ⟨?_, ?_, ?_, ?_, ?_⟩⟩
  · simp [apiHandler, Model.kind, Client.post, hsent]
  · rw [htarget, namesTable_rowsTarget_iff]
  · intro h
    rw [htarget, toList_rowsTarget, h]
    rfl
  · intro h
    rw [htarget, toList_rowsTarget, h]
    rfl
  · rw [htarget, isBelowTables_rowsTarget_iff]
  · intro j h
    rw [htarget, htarget] at h
    exact rowsTarget_injective hb h

/-- A server on the web. -/
def hostSite : Site where
  secure := false
  authority := "host:8080".toList
  host := "host".toList
  port := some 8080
  written := by decide
  named := by decide

/-- A name with slashes and dots is one segment. -/
theorem rows_target_hostSite :
    (∀ s ∈ ["v1".toList], Plain s) ∧
      (∀ t ∈ some "s3cret", t.toList.all Client.isHeaderChar = true) ∧
      ∃ sent : Model.Insertion → Request,
        (∀ (m : Type → Type) [Monad m] (send : Transport m) (i : Model.Insertion),
          (apiHandler send (clientFor hostSite ["v1".toList] 2 (some "s3cret")) .insert).handle
            (.insert i) false = (do return (← send (sent i)).reply)) ∧
        ∀ i : Model.Insertion, i.table = "../a%2F" →
          NamesTable ["v1".toList] "../a%2F" (sent i).url.target := by
  have hb : ∀ s ∈ ["v1".toList], Plain s := by
    rw [List.forall_mem_singleton]
    exact ⟨by decide, by decide, by decide, by decide⟩
  have ht : ∀ t ∈ some "s3cret", t.toList.all Client.isHeaderChar = true := by decide
  obtain ⟨sent, hsent, h⟩ := rows_target hostSite hb 2 ht
  exact ⟨hb, ht, sent, hsent, fun i hi => hi ▸ (h i).1.2 (by rw [hi]; decide)⟩

/-- Rows of a table that is named by two dots leave the tables. -/
theorem rows_target_up :
    let c := Client.forService "http://host:8080/v1" none
    let i : Model.Insertion := { table := "..", columns := ["a"], rows := [[some "1"]] }
    let received := (((apiHandler Server.transport c .insert).handle (.insert i) false).run
      {}).2.received
    received.map (·.url.target) = ["/v1/rows"] ∧
      ∀ r ∈ received, ¬NamesTable ["v1".toList] ".." r.url.target ∧
        ¬IsBelowTables ["v1".toList] r.url.target := by
  intro c i received
  have ht : received.map (·.url.target) = ["/v1/rows"] := by decide +kernel
  have hup : "/v1/rows" = rowsTarget ["v1".toList] ".." := by decide
  refine ⟨ht, fun r hr => ?_⟩
  have hr : r.url.target = rowsTarget ["v1".toList] ".." := by
    have hm := List.mem_map_of_mem (f := (·.url.target)) hr
    rwa [ht, List.mem_singleton, hup] at hm
  rw [hr, namesTable_rowsTarget_iff, isBelowTables_rowsTarget_iff]
  decide

end TableFeed.Service
