import TableFeed.Sql.Parser.Expression

/-!
# Other names

A table or a column may be renamed by a word behind it, with `AS` before the word or without.
Without it the word must not begin something else; the lists of reserved words say which do.
-/

namespace TableFeed.Sql.RenameReader

open Read

/-- The words that rename no table unless `AS` stands before them. -/
def reservedAliases : List String :=
  ["WITH", "EXPLAIN", "ANALYZE", "SELECT", "WHERE", "GROUP", "SORT", "HAVING", "ORDER", "PIVOT",
    "UNPIVOT", "TOP", "LATERAL", "VIEW", "LIMIT", "OFFSET", "FETCH", "UNION", "EXCEPT",
    "INTERSECT", "MINUS", "ON", "JOIN", "INNER", "CROSS", "FULL", "LEFT", "RIGHT", "NATURAL",
    "USING", "CLUSTER", "DISTRIBUTE", "GLOBAL", "ANTI", "SEMI", "RETURNING", "ASOF",
    "MATCH_CONDITION", "OUTER", "SET", "QUALIFY", "WINDOW", "END", "FOR", "PARTITION",
    "PREWHERE", "SETTINGS", "FORMAT", "START", "CONNECT", "MATCH_RECOGNIZE", "SAMPLE",
    "TABLESAMPLE", "FROM", "OPEN"]

/-- The words that rename no column unless `AS` stands before them. -/
def reservedColumnAliases : List String :=
  ["WITH", "EXPLAIN", "ANALYZE", "SELECT", "WHERE", "GROUP", "SORT", "HAVING", "ORDER", "TOP",
    "LATERAL", "VIEW", "LIMIT", "OFFSET", "FETCH", "UNION", "EXCEPT", "EXCLUDE", "INTERSECT",
    "MINUS", "CLUSTER", "DISTRIBUTE", "RETURNING", "FROM", "INTO", "END"]

/-- Another name, with or without `AS`. -/
def aliasUnless (reserved : List String) : Read (Option Ident) := do
  let explicit ← keyword "AS"
  match ← peek 0 with
  | some (.word w) =>
    if explicit || w.keyword == "" || !reserved.contains w.keyword then
      skip
      return some { text := w.text, quote := w.quote }
    return none
  | some (.quoted .single s) => do skip; return some { text := s, quote := some '\'' }
  | some (.quoted .double s) => do skip; return some { text := s, quote := some '"' }
  | _ => if explicit then expected "an identifier after AS" else return none

/-- Another name for a column that is selected. -/
def columnAlias : Read (Option Ident) := do
  if ← allows Rules.blockIf then aliasUnless ("IF" :: "ELSE" :: reservedColumnAliases)
  else aliasUnless reservedColumnAliases

/-- A name behind `AS`, if `AS` comes next. -/
def explicitAlias : Read (Option Ident) := whenTaken (keyword "AS") identifier

/-- A name behind `AS` as it is shown. -/
def showAlias : Option Ident → Phrase
  | some i => .text (" AS " ++ i.render)
  | none => .empty

/-- A column of a renamed table, with an optional type. -/
def aliasColumn (g : Grammar) : Read Phrase := do
  let name ← identifier
  let t ← attempt g.fullType
  return .text name.render ++ .optional " " (t.map (·.phrase))

/-- The columns of a renamed table. -/
def aliasColumns (g : Grammar) : Read Phrase := do
  if ← isSymbol "(" then
    let columns ← inParens (commaSeparated (aliasColumn g))
    return .text " " ++ .inParens (.commas columns)
  return .empty

/-- The words that rename no table in the dialect. -/
def tableReserved : Read (List String) := do
  if ← allows Rules.tableHints then
    return "USE" :: "IGNORE" :: "FORCE" :: "STRAIGHT_JOIN" :: reservedAliases
  return reservedAliases

/-- Another name for a table, with names for its columns. -/
def tableAlias (g : Grammar) : Read (Option Phrase) := do
  match ← aliasUnless (← tableReserved) with
  | some name => return some (.text name.render ++ (← aliasColumns g))
  | none => return none

/-- A table that is shown as one stretch, with its other name. -/
def renamed (g : Grammar) (p : Phrase) : Read TableFactor := do
  return .ofPhrase p (← tableAlias g)

end TableFeed.Sql.RenameReader
