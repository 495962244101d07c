import TableFeed.Sql.Parser.Grammar
import TableFeed.Sql.Parser.Transaction

/-!
# `SET`

Some settings have forms of their own; all others give values to variables. Depending on the
dialect, several variables may be set at once, variables may stand in parentheses, or the sign
before the value may be left out.

    SET LOCAL x = 1        SET a = 1, GLOBAL b = 2        SET (a, b) = (1, 2)
-/

namespace TableFeed.Sql.SettingReader

open Read

/-! ### Variables and values -/

/-- How far a setting reaches. -/
def scope : Read Bool := return (← oneOf ["SESSION", "LOCAL", "GLOBAL"]).isSome

/-- Takes the sign between a variable and its values, if it comes next. -/
def assigns : Read Bool := either (symbol "=") (keyword "TO")

/-- A value of a variable: a query without parentheses, or an expression. -/
def settingValue (g : Grammar) : Read Unit := do
  if (← isKeyword "SELECT") || (← isKeyword "WITH") then ignore g.query
  else if (← orNothing g.anyExpr).isNone then expected "variable value"

/-- The values of a variable. -/
def values (g : Grammar) : Read Unit := ignore (commaSeparated (settingValue g))

/-- A variable with its value. -/
def assignment (g : Grammar) : Read Unit := do
  ignore scope
  ignore objectName
  unless ← assigns do expected "assignment operator"
  ignore g.anyExpr

/-! ### Settings without a sign -/

/-- Words with commas between them. -/
def words (what : String) : Read Unit := do
  ignore (commaSeparated do
    match ← peek 0 with
    | some (.word _) => skip
    | _ => refuse what)

/-- The state of a switch. -/
def switch : Read Unit := do
  if (← oneOf ["ON", "OFF"]).isNone then expected "ON or OFF"

/-- A setting without a sign before its value. -/
def unsignedSetting (g : Grammar) : Read Unit := do
  if ← keyword "STATISTICS" then
    if (← oneOf ["IO", "PROFILE", "TIME", "XML"]).isNone then expected "IO, PROFILE, TIME or XML"
    switch
  else if ← keyword "IDENTITY_INSERT" then
    ignore objectName
    switch
  else if ← keyword "OFFSETS" then
    words "SQL keyword"
    switch
  else
    words "Session param name"
    ignore g.anyExpr

/-! ### Settings with forms of their own -/

/-- A role, or none. -/
def role : Read Unit := do
  expectKeyword "ROLE"
  unless ← keyword "NONE" do ignore identifier

/-- The time zone. -/
def timeZone (g : Grammar) : Read Unit := do
  if ← assigns then values g else ignore g.anyExpr

/-- The characters that are used. -/
def characterSet : Read Unit := do
  unless ← keyword "DEFAULT" do
    ignore identifier
    if ← keyword "COLLATE" then ignore literalString

/-- The modes of the transaction, or an earlier state that it sees. -/
def transaction : Read Unit := do
  if ← keyword "SNAPSHOT" then ignore value else TransactionReader.modes

/-- The user on whose behalf statements run. `here` are the tokens from the keyword on. -/
def authorization (hasScope : Bool) (here : List Lexeme) : Read Unit := do
  unless hasScope do
    expectedAt "SESSION, LOCAL, or other scope modifier before AUTHORIZATION" here
  unless ← keyword "DEFAULT" do ignore identifier

/-- A setting with a form of its own, if one comes next. -/
def special (g : Grammar) (hasScope : Bool) : Read Bool := do
  if (← attempt role).isSome then return true
  let here ← rest
  let forms : List (List String × Bool × Read Unit) :=
    [(["TIME", "ZONE"], true, timeZone g), (["TIMEZONE"], true, timeZone g)] ++
    (if ← allows Rules.setNames then [(["NAMES"], true, characterSet)] else []) ++
    [(["CHARACTERISTICS"], true, do expectKeywords ["AS", "TRANSACTION"]; TransactionReader.modes),
      (["TRANSACTION"], true, transaction), (["AUTHORIZATION"], true, authorization hasScope here)]
  return (← choose forms).isSome

/-! ### All of them -/

/-- Variables with their values. -/
def givenValues (g : Grammar) : Read Unit := do
  let before ← rest
  let several ← only (← allows Rules.parenthesizedVariables) (isSymbol "(")
  if several then ignore parenthesizedNames else ignore objectName
  if ← assigns then
    if several then inParens (values g) else values g
  else if ← allows Rules.setWithoutSign then
    putBack before
    unsignedSetting g
  else expected "equals sign or TO"

/-- `SET` -/
def setting (g : Grammar) : Read Unit := do
  let marked ← keyword "HIVEVAR"
  if marked then expectSymbol ":"
  let start ← rest
  let hasScope ← only (!marked) scope
  if ← special g hasScope then return
  if ← allows Rules.listedSettings then
    goTo start
    if (← attempt (commaSeparated (assignment g))).isSome then return
  givenValues g

end TableFeed.Sql.SettingReader
