import TableFeed.Sql.Parser.Role

/-!
# `ALTER TABLE`

A table is changed by several changes with commas between them. The first words of a change say
which one it is; some are taken before it is asked whether the dialect has the change.

    ALTER TABLE t  ADD COLUMN a INT FIRST,  DROP CONSTRAINT c CASCADE,  RENAME TO u
                   └───── change ──────┘   └────── change ────────┘   └ change ┘
-/

namespace TableFeed.Sql.AlterTableReader

open Read

/-- Changes by their first words, and whether the dialect has them. -/
abbrev Changes : Type := List (List String × Bool × Read Unit)

/-! ### Parts of changes -/

/-- Takes a name. -/
def named : Read Unit := ignore identifier

/-- What becomes of objects that need a dropped one. -/
def behavior : Read Unit := ignore (oneOf ["CASCADE", "RESTRICT"])

/-- Expressions in parentheses. -/
def expressions (g : Grammar) : Read Unit := ignore (inParens g.exprs)

/-- The place of a column among the others. -/
def position : Read Unit := do
  if ← allows Rules.columnPositions then
    unless ← keyword "FIRST" do
      if ← keyword "AFTER" then named

/-- A name and another one behind `TO`. -/
def renamed : Read Unit := do
  named
  expectKeyword "TO"
  named

/-- One of some words behind an optional sign. -/
def choice (words : List String) (what : String) : Read Unit := do
  ignore (symbol "=")
  if (← oneOf words).isNone then expected what

/-- How concurrently an index or a table is changed. -/
def concurrency : Changes :=
  [(["LOCK"], true, choice ["DEFAULT", "EXCLUSIVE", "NONE", "SHARED"]
      "DEFAULT, EXCLUSIVE, NONE or SHARED after LOCK [=]"),
    (["ALGORITHM"], true, choice ["DEFAULT", "INSTANT", "INPLACE", "COPY"]
      "DEFAULT, INSTANT, INPLACE, or COPY after ALGORITHM [=]")]

/-! ### Additions -/

/-- A projection of the rows, behind `PROJECTION`. -/
def projection (g : Grammar) : Read Unit := do
  ignore (keywords ["IF", "NOT", "EXISTS"])
  named
  ignore (inParens do
    expectKeyword "SELECT"
    ignore (QueryReader.items g)
    ignore (QueryReader.groupBy g)
    QueryReader.orderBy g)

/-- A column or parts of the table, behind `ADD`. -/
def addElement (g : Grammar) : Read Unit := do
  ignore (keywords ["IF", "NOT", "EXISTS"])
  let parts ← many (whenTaken (keyword "PARTITION") (expressions g))
  if parts.isEmpty then
    ignore (keyword "COLUMN")
    if ← allows Rules.conditionalColumns then ignore (keywords ["IF", "NOT", "EXISTS"])
    ignore (ColumnReader.column g)
    position

/-- What follows `ADD`. -/
def add (g : Grammar) : Read Unit := do
  if (← ConstraintReader.constraint g).isSome then ignore (keywords ["NOT", "VALID"])
  else if ← only (← allows Rules.tableParts) (keyword "PROJECTION") then projection g
  else addElement g

/-! ### Removals -/

/-- What follows `DROP`. -/
def drop (g : Grammar) : Read Unit := do
  let condition : Read Unit := ignore (keywords ["IF", "EXISTS"])
  let removals : Changes :=
    [(["IF", "EXISTS", "PARTITION"], true, expressions g), (["PARTITION"], true, expressions g),
      (["CONSTRAINT"], true, do condition; named; behavior),
      (["PRIMARY", "KEY"], true, behavior), (["FOREIGN", "KEY"], true, do named; behavior),
      (["INDEX"], true, named),
      (["PROJECTION"], ← allows Rules.tableParts, do condition; named),
      (["CLUSTERING", "KEY"], true, pure ())]
  if (← choose removals).isNone then
    ignore (keyword "COLUMN")
    condition
    named
    behavior

/-! ### Changes of names and columns -/

/-- What follows `RENAME`. -/
def rename : Read Unit := do
  if ← only (← allows Rules.renamesConstraints) (keyword "CONSTRAINT") then renamed
  else if (← oneOf ["TO", "AS"]).isSome then ignore objectName
  else
    ignore (keyword "COLUMN")
    renamed

/-- The type and the options of a column that is declared anew. -/
def redeclared (g : Grammar) : Read Unit := do
  ignore g.fullType
  ignore (many (ColumnReader.columnOption g))
  position

/-- A new type of a column. -/
def newType (g : Grammar) : Read Unit := do
  ignore g.fullType
  if ← only (← allows Rules.columnConversions) (keyword "USING") then ignore g.anyExpr

/-- A column that is filled from a sequence, behind `GENERATED`. -/
def generated : Read Unit := do
  ignore (anyOf [["ALWAYS"], ["BY", "DEFAULT"]])
  expectKeywords ["AS", "IDENTITY"]
  if ← isSymbol "(" then ignore (inParens ColumnReader.sequenceOptions)

/-- What follows `ALTER`. -/
def alterColumn (g : Grammar) : Read Unit := do
  ignore (keyword "COLUMN")
  named
  let changes : Changes :=
    [(["SET", "NOT", "NULL"], true, pure ()), (["DROP", "NOT", "NULL"], true, pure ()),
      (["SET", "DEFAULT"], true, ignore g.anyExpr), (["DROP", "DEFAULT"], true, pure ()),
      (["SET", "DATA", "TYPE"], true, newType g), (["TYPE"], true, newType g),
      (["ADD", "GENERATED"], true, generated)]
  if (← choose changes).isNone then
    if ← allows Rules.columnConversions then
      expected "SET/DROP NOT NULL, SET DEFAULT, SET DATA TYPE, or ADD GENERATED after ALTER COLUMN"
    else expected "SET/DROP NOT NULL, SET DEFAULT, or SET DATA TYPE after ALTER COLUMN"

/-! ### Rules, triggers and parts -/

/-- What follows `DISABLE`. -/
def disable : Read Unit := do
  if (← choose [(["ROW", "LEVEL", "SECURITY"], true, pure ()), (["RULE"], true, named),
      (["TRIGGER"], true, named)]).isNone then
    expected "ROW LEVEL SECURITY, RULE, or TRIGGER after DISABLE"

/-- What follows `ENABLE`. -/
def enable : Read Unit := do
  if (← choose [(["ALWAYS", "RULE"], true, named), (["ALWAYS", "TRIGGER"], true, named),
      (["ROW", "LEVEL", "SECURITY"], true, pure ()), (["REPLICA", "RULE"], true, named),
      (["REPLICA", "TRIGGER"], true, named), (["RULE"], true, named),
      (["TRIGGER"], true, named)]).isNone then
    expected "ALWAYS, REPLICA, ROW LEVEL SECURITY, RULE, or TRIGGER after ENABLE"

/-- A projection of a part of the table. -/
def projectionOfPart : Read Unit := do
  ignore (keywords ["IF", "EXISTS"])
  named
  if ← keywords ["IN", "PARTITION"] then named

/-- A part of the table. -/
def part (g : Grammar) : Read Unit := do
  ignore (expectOneOf ["PART", "PARTITION"])
  ignore g.anyExpr

/-- A part of the table that is kept under another name. -/
def keptPart (g : Grammar) : Read Unit := do
  part g
  if ← keyword "WITH" then
    expectKeyword "NAME"
    named

/-- A new key for a part of the table, behind `PARTITION`. -/
def renamePartition (g : Grammar) : Read Unit := do
  expressions g
  expectKeywords ["RENAME", "TO", "PARTITION"]
  expressions g

/-- What rows are known by where the table is copied. -/
def identity : Read Unit := do
  unless ← anyOf [["NOTHING"], ["FULL"], ["DEFAULT"]] do
    if ← keywords ["USING", "INDEX"] then named
    else
      expected "NOTHING, FULL, DEFAULT, or USING INDEX index_name after REPLICA IDENTITY"

/-! ### All of them -/

/-- The changes of a table by their first words. -/
def changes (g : Grammar) (rules : Rules) : Changes :=
  let parts : Changes := if rules.tableParts then
    [(["ATTACH"], true, part g), (["DETACH"], true, part g), (["FREEZE"], true, keptPart g),
      (["UNFREEZE"], true, keptPart g)] else []
  let owners : Changes := if rules.owners then [(["OWNER", "TO"], true, RoleReader.owner)] else []
  [(["ADD"], true, add g), (["RENAME"], true, rename), (["DISABLE"], true, disable),
    (["ENABLE"], true, enable), (["CLEAR", "PROJECTION"], rules.tableParts, projectionOfPart),
    (["MATERIALIZE", "PROJECTION"], rules.tableParts, projectionOfPart), (["DROP"], true, drop g),
    (["PARTITION"], true, renamePartition g),
    (["CHANGE"], true, do ignore (keyword "COLUMN"); named; named; redeclared g),
    (["MODIFY"], true, do ignore (keyword "COLUMN"); named; redeclared g),
    (["ALTER"], true, alterColumn g),
    (["SWAP"], true, do expectKeyword "WITH"; ignore objectName)] ++
  owners ++ parts ++
  [(["CLUSTER", "BY"], true, expressions g), (["SUSPEND", "RECLUSTER"], true, pure ()),
    (["RESUME", "RECLUSTER"], true, pure ())] ++
  concurrency ++
  [(["AUTO_INCREMENT"], true, do ignore (symbol "="); ignore numberValue),
    (["REPLICA", "IDENTITY"], true, identity), (["VALIDATE", "CONSTRAINT"], true, named),
    (["SET", "TBLPROPERTIES"], true, ignore (inParens (commaSeparated (PropertyReader.property g))))]

/-- A change of a table. -/
def change (g : Grammar) : Read Unit := do
  if (← choose (changes g (← rules))).isSome then return
  if (← PropertyReader.properties g ["SET"]).isEmpty then
    expected ("ADD, RENAME, PARTITION, SWAP, DROP, REPLICA IDENTITY, SET, or SET TBLPROPERTIES " ++
      "after ALTER TABLE")

/-- Changes of a table, behind `TABLE`. -/
def table (g : Grammar) : Read Unit := do
  ignore (keywords ["IF", "EXISTS"])
  ignore (keyword "ONLY")
  ignore objectName
  if ← keywords ["ON", "CLUSTER"] then named
  ignore (commaSeparated (change g))
  if ← anyOf [["LOCATION"], ["SET", "LOCATION"]] then named

end TableFeed.Sql.AlterTableReader
