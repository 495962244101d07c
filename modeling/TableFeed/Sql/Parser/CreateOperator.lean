import TableFeed.Sql.Parser.Query

/-!
# New operators

An operator has properties in parentheses, each given once, and its function must be among them.
Operators and functions are gathered in classes, and classes in families.

    CREATE OPERATOR === (LEFTARG = INT, RIGHTARG = INT, FUNCTION = same, HASHES)
-/

namespace TableFeed.Sql.CreateOperatorReader

open Read

/-! ### Operators -/

/-- An operator that goes with the new one. -/
def related : Read Unit := do
  if ← keyword "OPERATOR" then inParens operatorName else operatorName

/-- The property that a keyword gives: `PROCEDURE` is another word for `FUNCTION`. -/
def propertyOf (key : String) : String := if key == "PROCEDURE" then "FUNCTION" else key

/-- A property behind its keyword. -/
def property (g : Grammar) (key : String) : Read Unit := do
  unless ["HASHES", "MERGES"].contains key do
    expectSymbol "="
    if ["LEFTARG", "RIGHTARG"].contains key then ignore g.fullType
    else if ["COMMUTATOR", "NEGATOR"].contains key then related
    else ignore objectName

/-- The properties of an operator: those that are given, newest first. -/
def properties (g : Grammar) : Read (List String) := do
  let (given, _) ← iterate ([], false) fun ((given : List String), finished) => do
    if finished then return none
    let key ← expectOneOf ["FUNCTION", "PROCEDURE", "LEFTARG", "RIGHTARG", "COMMUTATOR", "NEGATOR",
      "RESTRICT", "JOIN", "HASHES", "MERGES"]
    if given.contains (propertyOf key) then
      throw (.message ("Duplicate or unexpected keyword " ++ key ++ " in CREATE OPERATOR") none)
    property g key
    return some (propertyOf key :: given, !(← symbol ","))
  return given

/-- An operator. -/
def operator (g : Grammar) : Read Unit := do
  operatorName
  let given ← inParens (properties g)
  unless given.contains "FUNCTION" do
    throw (.message "CREATE OPERATOR requires FUNCTION parameter" none)

/-! ### Classes and families -/

/-- What an operator of a class is used for. -/
def purpose : Read Unit := do
  if ← keyword "FOR" then
    unless ← keyword "SEARCH" do
      if ← keywords ["ORDER", "BY"] then ignore objectName
      else expected "SEARCH or ORDER BY after FOR"

/-- An operator of a class, with the types of its operands. -/
def memberOperator (g : Grammar) : Read Unit := do
  ignore unsigned
  operatorName
  if ← isSymbol "(" then
    ignore (inParens do
      ignore g.fullType
      expectSymbol ","
      g.fullType)
  purpose

/-- Types up to a closing parenthesis. A comma may stand before it. -/
def types (g : Grammar) : Read Unit := do
  ignore (iterate false fun finished => do
    if finished || (← isSymbol ")") then return none
    ignore g.fullType
    return some (!(← symbol ",")))
  expectSymbol ")"

/-- A function of a class, with the types that it is for and those that it takes. -/
def memberFunction (g : Grammar) : Read Unit := do
  ignore unsigned
  if ← symbol "(" then
    unless ← isSymbol ")" do
      ignore (commaSeparated g.fullType)
      expectSymbol ")"
  ignore objectName
  if ← symbol "(" then types g

/-- A member of a class. -/
def member (g : Grammar) : Read (Option Unit) := do
  choose [(["OPERATOR"], true, memberOperator g), (["FUNCTION"], true, memberFunction g),
    (["STORAGE"], true, ignore g.fullType)]

/-- A class, behind `CLASS`. -/
def operatorClass (g : Grammar) : Read Unit := do
  ignore objectName
  ignore (keyword "DEFAULT")
  expectKeywords ["FOR", "TYPE"]
  ignore g.fullType
  expectKeyword "USING"
  ignore identifier
  if ← keyword "FAMILY" then ignore objectName
  expectKeyword "AS"
  ignore (iterate false fun finished => do
    if finished then return none
    match ← member g with
    | some _ => return some (!(← symbol ","))
    | none => return none)

/-- A family, behind `FAMILY`. -/
def operatorFamily : Read Unit := do
  ignore objectName
  expectKeyword "USING"
  ignore identifier

/-- An operator, or a class or family of operators, behind `OPERATOR`. -/
def create (g : Grammar) : Read Unit := do
  match ← oneOf ["FAMILY", "CLASS"] with
  | some "FAMILY" => operatorFamily
  | some _ => operatorClass g
  | none => operator g

end TableFeed.Sql.CreateOperatorReader
