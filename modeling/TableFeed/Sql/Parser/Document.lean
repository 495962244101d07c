import TableFeed.Sql.Parser.Rename

/-!
# Tables made from documents

`JSON_TABLE`, `OPENJSON` and `XMLTABLE` take a document apart into rows. Each is read behind its
opening parenthesis, and each says by a path where the value of a column stands in the document.

    JSON_TABLE(d, '$[*]' COLUMNS(id FOR ORDINALITY, NESTED PATH '$.b' COLUMNS (c INT PATH '$.c')))
-/

namespace TableFeed.Sql.DocumentReader

open Read RenameReader

/-! ### JSON -/

/-- What becomes of a column whose path leads nowhere or whose value does not fit. -/
def fallback : Read (Option String) := do
  let kind ← do
    if ← keyword "NULL" then pure "NULL"
    else if ← keyword "ERROR" then pure "ERROR"
    else if ← keyword "DEFAULT" then pure ("DEFAULT " ++ (← value).render)
    else pure ""
  if kind == "" then return none
  expectKeyword "ON"
  unless ← keyword "EMPTY" do
    expectKeyword "ERROR"
    return some (" " ++ kind ++ " ON ERROR")
  return some (" " ++ kind ++ " ON EMPTY")

/-- A column of `JSON_TABLE`, in which at most so many lists of columns are open. -/
def jsonColumn (g : Grammar) : Nat → Read Phrase
  | 0 => throw .tooDeep
  | n + 1 => do
    if ← keyword "NESTED" then
      let _ ← keyword "PATH"
      let path ← value
      expectKeyword "COLUMNS"
      let columns ← inParens (commaSeparated (jsonColumn g n))
      return .text ("NESTED PATH " ++ path.render ++ " COLUMNS ") ++ .inParens (.commas columns)
    let name ← identifier
    if ← keyword "FOR" then
      expectKeyword "ORDINALITY"
      return .text (name.render ++ " FOR ORDINALITY")
    let t ← g.fullType
    let exists_ := if ← keyword "EXISTS" then " EXISTS" else ""
    expectKeyword "PATH"
    let path ← value
    let fallbacks ← many fallback
    return .text (name.render ++ " ") ++ t.phrase ++
      .text (exists_ ++ " PATH " ++ path.render ++ "".intercalate fallbacks)

/-- `JSON_TABLE` -/
def jsonTable (g : Grammar) : Read TableFactor := do
  let document ← g.anyExpr
  expectSymbol ","
  let path ← value
  expectKeyword "COLUMNS"
  let columns ← inParens (commaSeparated (jsonColumn g (← read).bound))
  expectSymbol ")"
  renamed g (.text "JSON_TABLE(" ++ .expr document ++ .text (", " ++ path.render ++ " COLUMNS(") ++
    .commas columns ++ .text "))")

/-- A column of `OPENJSON`. -/
def openJsonColumn (g : Grammar) : Read Phrase := do
  let name ← identifier
  let t ← g.fullType
  let path ← do
    match ← peek 0 with
    | some (.quoted .single s) =>
      skip
      pure (" '" ++ s ++ "'")
    | _ => pure ""
  let asJson ← keyword "AS"
  if asJson then expectKeyword "JSON"
  return .text (name.render ++ " ") ++ t.phrase ++ .text (path ++ if asJson then " AS JSON" else "")

/-- `OPENJSON` -/
def openJson (g : Grammar) : Read TableFactor := do
  let document ← g.anyExpr
  let path ← whenTaken (symbol ",") value
  expectSymbol ")"
  let columns ← do
    if ← keyword "WITH" then
      let found ← inParens (commaSeparated (openJsonColumn g))
      pure (Phrase.text " WITH " ++ .inParens (.commas found))
    else pure .empty
  let shown := (path.map fun p => ", " ++ p.render).getD ""
  renamed g (.text "OPENJSON(" ++ .expr document ++ .text (shown ++ ")") ++ columns)

/-! ### XML -/

/-- A namespace with its name. -/
def xmlNamespace (g : Grammar) : Read Phrase := do
  let uri ← g.anyExpr
  expectKeyword "AS"
  return .expr uri ++ .text (" AS " ++ (← identifier).render)

/-- A document that is taken apart. -/
def xmlArgument (g : Grammar) : Read Phrase := do
  let byValue ← both (keyword "BY") (keyword "VALUE")
  let e ← g.anyExpr
  return .text (if byValue then "BY VALUE " else "") ++ .expr e ++ showAlias (← explicitAlias)

/-- A column of `XMLTABLE`. -/
def xmlColumn (g : Grammar) : Read Phrase := do
  let name ← identifier
  if ← keyword "FOR" then
    expectKeyword "ORDINALITY"
    return .text (name.render ++ " FOR ORDINALITY")
  let t ← g.fullType
  let path ← whenTaken (keyword "PATH") g.anyExpr
  let default ← whenTaken (keyword "DEFAULT") g.anyExpr
  let notNull ← keywords ["NOT", "NULL"]
  unless notNull do ignore (keyword "NULL")
  return .text (name.render ++ " ") ++ t.phrase ++ .optional " PATH " (path.map .expr) ++
    .optional " DEFAULT " (default.map .expr) ++ .text (if notNull then " NOT NULL" else "")

/-- `XMLTABLE` -/
def xmlTable (g : Grammar) : Read TableFactor := do
  let namespaces ← do
    if ← keyword "XMLNAMESPACES" then
      let found ← inParens (commaSeparated (xmlNamespace g))
      expectSymbol ","
      pure (Phrase.text "XMLNAMESPACES" ++ .inParens (.commas found) ++ .text ", ")
    else pure .empty
  let row ← g.anyExpr
  let documents ← do
    if ← keyword "PASSING" then
      pure (Phrase.text " PASSING " ++ .commas (← commaSeparated (xmlArgument g)))
    else pure .empty
  expectKeyword "COLUMNS"
  let columns ← commaSeparated (xmlColumn g)
  expectSymbol ")"
  renamed g (.text "XMLTABLE(" ++ namespaces ++ .expr row ++ documents ++ .text " COLUMNS " ++
    .commas columns ++ .text ")")

end TableFeed.Sql.DocumentReader
