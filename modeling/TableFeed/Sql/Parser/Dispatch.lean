import TableFeed.Sql.Parser.Command
import TableFeed.Sql.Parser.Create
import TableFeed.Sql.Parser.Drop

/-!
# Any statement

The first keyword of a statement decides how it is read. A word that begins no statement is
named in the message, even if a dialect other than the present one would know it.
-/

namespace TableFeed.Sql.StatementReader

open Read

/-- Reads on behind the next token. -/
def behind {α : Type} (p : Read α) : Read α := do
  skip
  p

/-- A statement of which only the first keyword counts, read behind that keyword. -/
def plain {α : Type} (keyword : String) (p : Read α) : Read Statement := do
  ignore p
  return .other keyword

/-- A statement that is known by how it is shown up to its first blank. -/
def shown (p : Read String) : Read Statement := do
  return .other (Text.raised (← p))

/-- A statement of which only the keyword counts. -/
def command (g : Grammar) (key : String) : Read Statement := do
  match (CommandReader.commands g (← rules)).find? (·.1 == key) with
  | some (_, p) => behind (plain (if key == "EXEC" then "EXECUTE" else key) p)
  | none => expected "an SQL statement"

/-- `REPLACE`, where it begins a statement. -/
def replace (g : Grammar) : Read Statement := do
  let rules ← rules
  if rules.replaceClause then ModifyReader.insert g
  else
    skip
    if rules.replacesRows then ModifyReader.insert g
    else failHere "Unsupported statement REPLACE"

/-- A statement that begins with a word. -/
def worded (g : Grammar) : Read Statement := do
  match ← keywordAt 0 with
  | "SELECT" | "WITH" | "VALUES" | "FROM" => return .query (← g.query)
  | "CREATE" => behind (CreateReader.create g)
  | "INSERT" => behind (ModifyReader.insert g)
  | "REPLACE" => replace g
  | "UPDATE" => behind (plain "UPDATE" (ModifyReader.update g))
  | "DELETE" => behind (plain "DELETE" (ModifyReader.delete g))
  | "MERGE" => behind (plain "MERGE" (ModifyReader.merge g))
  | "TRUNCATE" => behind (plain "TRUNCATE" (ModifyReader.truncate g))
  | "DROP" => behind (DropReader.drop g)
  | "UNLOAD" => behind (shown (CopyReader.unload g))
  | "RAISERROR" => behind (shown (CommandReader.raiseError g))
  | "CASE" => behind (plain "CASE" (BlockReader.caseOf g))
  | "IF" =>
    let ifForm := if ← allows Rules.blockIf then BlockReader.ifElse g else BlockReader.ifThen g
    behind (plain "IF" ifForm)
  | "WHILE" => behind (plain "WHILE" (BlockReader.whileLoop g))
  | key => command g key

/-- A statement. -/
def statement (g : Grammar) : Read Statement := nest do
  if ← isSymbol "(" then return .query (← g.query)
  if ← allows Rules.locksTables then
    if ← keywords ["LOCK", "TABLES"] then return ← plain "LOCK" CommandReader.lockTables
    if ← keywords ["UNLOCK", "TABLES"] then return .other "UNLOCK"
  worded g

end TableFeed.Sql.StatementReader
