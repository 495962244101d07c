import TableFeed.Sql.Parser.Grammar

/-!
# Blocks

Statements that contain statements. In a block each statement ends with a semicolon, and the
block ends before one of the words that may come next.

    IF a = 1 THEN  DELETE FROM t;  ELSE  DELETE FROM u;  END IF
                   └── block ───┘        └── block ───┘
-/

namespace TableFeed.Sql.BlockReader

open Read

/-- Statements up to one of some words. -/
def statements (g : Grammar) (stops : List String) : Read Unit := do
  let _ ← many do
    if (← atEnd) || stops.contains (← keywordAt 0) then return none
    let _ ← g.statement
    expectSymbol ";"
    return some ()

/-- Statements up to one of some words, between `BEGIN` and `END` or without them. -/
def block (g : Grammar) (stops : List String) : Read Unit := do
  if ← keyword "BEGIN" then
    statements g stops
    expectKeyword "END"
  else statements g stops

/-- A condition and its block, up to one of some words. -/
def guarded (g : Grammar) (stops : List String) : Read Unit := do
  let _ ← g.anyExpr
  expectKeyword "THEN"
  block g stops

/-- Some guarded blocks, each behind the same word. -/
def branches (g : Grammar) (word : String) (stops : List String) : Read Unit := do
  let _ ← many do
    if ← keyword word then
      guarded g stops
      return some ()
    return none

/-- The block behind `ELSE`, if there is one. -/
def otherwise (g : Grammar) : Read Unit := do
  if ← keyword "ELSE" then block g ["END"]

/-- `IF` with `THEN`. -/
def ifThen (g : Grammar) : Read Unit := do
  guarded g ["ELSE", "ELSEIF", "END"]
  branches g "ELSEIF" ["ELSEIF", "ELSE", "END"]
  otherwise g
  expectKeywords ["END", "IF"]

/-- `CASE` -/
def caseOf (g : Grammar) : Read Unit := do
  unless ← isKeyword "WHEN" do
    let _ ← g.anyExpr
  unless ← isKeyword "WHEN" do expected "WHEN"
  branches g "WHEN" ["WHEN", "ELSE", "END"]
  otherwise g
  expectKeyword "END"
  let _ ← keyword "CASE"

/-- `WHILE` -/
def whileLoop (g : Grammar) : Read Unit := do
  let _ ← g.anyExpr
  block g ["END"]

/-! ### Blocks without semicolons -/

/-- Any number of semicolons, and whether there are any. -/
def semicolons : Read Bool := do
  return !(← many do return if ← symbol ";" then some () else none).isEmpty

/-- A statement, or several between `BEGIN` and `END`. -/
def statementOrBlock (g : Grammar) : Read Unit := do
  if ← keyword "BEGIN" then
    let _ ← many do
      if (← atEnd) || (← isKeyword "END") then return none
      let _ ← g.statement
      let _ ← semicolons
      return some ()
    expectKeyword "END"
  else
    let _ ← g.statement

/-- `IF` without `THEN`. The semicolons before `ELSE` belong to it; if there is no `ELSE`, the
last one ends the statement. -/
def ifElse (g : Grammar) : Read Unit := do
  let _ ← g.anyExpr
  statementOrBlock g
  let here ← rest
  let _ ← semicolons
  if ← keyword "ELSE" then statementOrBlock g
  else goTo here

end TableFeed.Sql.BlockReader
