import TableFeed.Sql.Parser.Role

/-!
# Rights

Rights are granted, denied and taken back: what may be done, on which objects, by whom.

    GRANT  SELECT (a), INSERT  ON TABLE t   TO ROLE r, s  WITH GRANT OPTION
           └──── rights ────┘  └ objects ┘  └ receivers ┘
-/

namespace TableFeed.Sql.GrantReader

open Read

/-! ### What may be done -/

/-- Rights that are written as some words and nothing else. -/
def wordedRights : List (List String) :=
  [["IMPORTED", "PRIVILEGES"], ["ADD", "SEARCH", "OPTIMIZATION"], ["ATTACH", "LISTING"],
    ["ATTACH", "POLICY"], ["BIND", "SERVICE", "ENDPOINT"], ["EVOLVE", "SCHEMA"],
    ["IMPORT", "SHARE"], ["MANAGE", "VERSIONS"], ["MANAGE", "RELEASES"],
    ["OVERRIDE", "SHARE", "RESTRICTIONS"], ["PURCHASE", "DATA", "EXCHANGE", "LISTING"],
    ["RESOLVE", "ALL"], ["READ", "SESSION"], ["APPLYBUDGET"], ["AUDIT"], ["CONNECT"], ["DELETE"],
    ["FAILOVER"], ["OPERATE"], ["READ"], ["REPLICATE"], ["TEMPORARY"], ["TRIGGER"],
    ["TRUNCATE"], ["USAGE"], ["OWNERSHIP"], ["DROP"]]

/-- What may be applied. -/
def applied : List (List String) :=
  [["AGGREGATION", "POLICY"], ["AUTHENTICATION", "POLICY"], ["JOIN", "POLICY"],
    ["MASKING", "POLICY"], ["PACKAGES", "POLICY"], ["PASSWORD", "POLICY"],
    ["PROJECTION", "POLICY"], ["ROW", "ACCESS", "POLICY"], ["SESSION", "POLICY"], ["TAG"]]

/-- What may be created. -/
def created : List (List String) :=
  [["APPLICATION", "PACKAGE"], ["COMPUTE", "POOL"], ["DATA", "EXCHANGE", "LISTING"],
    ["EXTERNAL", "VOLUME"], ["FAILOVER", "GROUP"], ["NETWORK", "POLICY"],
    ["ORGANIZATION", "LISTING"], ["REPLICATION", "GROUP"], ["ACCOUNT"], ["APPLICATION"],
    ["DATABASE"], ["INTEGRATION"], ["ROLE"], ["SCHEMA"], ["SHARE"], ["USER"], ["WAREHOUSE"]]

/-- What may be run. -/
def executed : List (List String) :=
  [["DATA", "METRIC", "FUNCTION"], ["MANAGED", "ALERT"], ["MANAGED", "TASK"], ["ALERT"], ["TASK"]]

/-- What may be managed. -/
def managed : List (List String) :=
  [["ACCOUNT", "SUPPORT", "CASES"], ["EVENT", "SHARING"], ["LISTING", "AUTO", "FULFILLMENT"],
    ["ORGANIZATION", "SUPPORT", "CASES"], ["USER", "SUPPORT", "CASES"], ["GRANTS"],
    ["WAREHOUSES"]]

/-- What may be changed. -/
def modified : List (List String) :=
  [["LOG", "LEVEL"], ["TRACE", "LEVEL"], ["SESSION", "LOG", "LEVEL"],
    ["SESSION", "TRACE", "LEVEL"]]

/-- What may be watched. -/
def monitored : List (List String) := [["EXECUTION"], ["SECURITY"], ["USAGE"]]

/-- A right. -/
def right : Read Unit := do
  if ← anyOf wordedRights then return
  let kind (words : List (List String)) : Read Unit := ignore (anyOf words)
  let demanded (words : List (List String)) (what : String) : Read Unit := do
    unless ← anyOf words do expected what
  let columns : Read Unit := ignore (columnNames true false)
  let found ← choose
    [(["DATABASE", "ROLE"], true, ignore objectName),
      (["APPLY"], true, demanded applied "GRANT APPLY type"), (["CREATE"], true, kind created),
      (["EXEC"], true, kind executed), (["EXECUTE"], true, kind executed),
      (["INSERT"], true, columns), (["MANAGE"], true, demanded managed "GRANT MANAGE type"),
      (["MODIFY"], true, kind modified), (["MONITOR"], true, kind monitored),
      (["REFERENCES"], true, columns), (["ROLE"], true, ignore objectName),
      (["SELECT"], true, columns), (["UPDATE"], true, columns)]
  if found.isNone then expected "a privilege keyword"

/-- All rights, or some of them. -/
def rights : Read Unit := do
  if ← keyword "ALL" then ignore (keyword "PRIVILEGES") else ignore (commaSeparated right)

/-! ### On which objects -/

/-- The words before objects of several words. -/
def groups : List (List String) :=
  [["ALL", "TABLES", "IN", "SCHEMA"], ["ALL", "EXTERNAL", "TABLES", "IN", "SCHEMA"],
    ["ALL", "VIEWS", "IN", "SCHEMA"], ["ALL", "MATERIALIZED", "VIEWS", "IN", "SCHEMA"],
    ["ALL", "FUNCTIONS", "IN", "SCHEMA"], ["FUTURE", "SCHEMAS", "IN", "DATABASE"],
    ["FUTURE", "TABLES", "IN", "SCHEMA"], ["FUTURE", "EXTERNAL", "TABLES", "IN", "SCHEMA"],
    ["FUTURE", "VIEWS", "IN", "SCHEMA"], ["FUTURE", "MATERIALIZED", "VIEWS", "IN", "SCHEMA"],
    ["ALL", "SEQUENCES", "IN", "SCHEMA"], ["FUTURE", "SEQUENCES", "IN", "SCHEMA"],
    ["RESOURCE", "MONITOR"], ["COMPUTE", "POOL"], ["FAILOVER", "GROUP"],
    ["REPLICATION", "GROUP"], ["EXTERNAL", "VOLUME"]]

/-- Objects, and whether any are named. -/
def objects (g : Grammar) : Read Bool := do
  unless ← keyword "ON" do return false
  let kind ← do
    if ← anyOf groups then pure none
    else oneOf ["SEQUENCE", "DATABASE", "SCHEMA", "TABLE", "VIEW", "WAREHOUSE", "INTEGRATION",
      "USER", "CONNECTION", "PROCEDURE", "FUNCTION"]
  ignore (commaSeparated objectPattern)
  if kind == some "PROCEDURE" || kind == some "FUNCTION" then
    if ← isSymbol "(" then ignore (inParens (commaSeparated0 g.fullType ")"))
  return true

/-! ### By whom -/

/-- The kind of a receiver, if it is given. -/
def receiverKind : Read (Option (List String)) :=
  firstOf [["ROLE"], ["USER"], ["SHARE"], ["GROUP"], ["PUBLIC"], ["DATABASE", "ROLE"],
    ["APPLICATION", "ROLE"], ["APPLICATION"]]

/-- Who gets the rights or loses them. A kind holds for all receivers up to the next kind, and
the public has no name. -/
def receivers : Read Unit := do
  let isRole ← allows Rules.publicRole
  ignore (iterate (some ([] : List String)) fun
    | none => return none
    | some kind => do
      let here ← rest
      let kind ← do
        match ← receiverKind with
        | none => pure kind
        | some ["PUBLIC"] =>
          if isRole then
            putBack here
            pure kind
          else pure ["PUBLIC"]
        | some found => pure found
      unless kind == ["PUBLIC"] do RoleReader.userName
      return some (if ← symbol "," then some kind else none))

/-! ### Statements -/

/-- What becomes of rights that depend on the ones taken back. -/
def behavior : Read Unit := ignore (oneOf ["CASCADE", "RESTRICT"])

/-- `GRANT` -/
def grant (g : Grammar) : Read Unit := do
  rights
  ignore (objects g)
  expectKeyword "TO"
  receivers
  ignore (keywords ["WITH", "GRANT", "OPTION"])
  ignore (anyOf [["COPY", "CURRENT", "GRANTS"], ["REVOKE", "CURRENT", "GRANTS"]])
  if ← keyword "AS" then ignore identifier
  if ← keywords ["GRANTED", "BY"] then ignore identifier

/-- `REVOKE` -/
def revoke (g : Grammar) : Read Unit := do
  rights
  ignore (objects g)
  expectKeyword "FROM"
  receivers
  if ← keywords ["GRANTED", "BY"] then ignore identifier
  behavior

/-- `DENY` -/
def deny (g : Grammar) : Read Unit := do
  rights
  unless ← objects g do failHere "DENY statements must specify an object"
  expectKeyword "TO"
  receivers
  behavior
  if ← keyword "AS" then ignore identifier

end TableFeed.Sql.GrantReader
