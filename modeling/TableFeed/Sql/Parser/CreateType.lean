import TableFeed.Sql.Parser.Query

/-!
# New types

A type is an enumeration, a range, a compound of parts, or is made of functions that the
options name.

    CREATE TYPE mood AS ENUM ('sad', 'happy')
    CREATE TYPE box (INPUT = box_in, OUTPUT = box_out, INTERNALLENGTH = 16)
-/

namespace TableFeed.Sql.CreateTypeReader

open Read

/-- A part of a compound type. -/
def member (g : Grammar) : Read Unit := do
  ignore identifier
  ignore g.fullType
  if ← keyword "COLLATE" then ignore objectName

/-- An option of a range. -/
def rangeOption (g : Grammar) : Read Unit := do
  match ← oneOf ["SUBTYPE", "SUBTYPE_OPCLASS", "COLLATION", "CANONICAL", "SUBTYPE_DIFF",
    "MULTIRANGE_TYPE_NAME"] with
  | none => expected "range option keyword"
  | some key =>
    expectSymbol "="
    if key == "SUBTYPE" then ignore g.fullType else ignore objectName

/-- One of some words, named by `what` if none comes next. -/
def choice (words : List String) (what : String) : Read Unit := do
  if (← oneOf words).isNone then expected what

/-- A text of which the first character counts. -/
def character (key : String) : Read Unit := do
  if (← literalString).isEmpty then
    throw (.message (key ++ " value must be a single character") none)

/-- The value of an option of a type, behind the sign. -/
def optionValue (g : Grammar) (key : String) : Read Unit := do
  match key with
  | "INTERNALLENGTH" =>
    unless ← keyword "VARIABLE" do ignore unsigned
  | "ALIGNMENT" =>
    choice ["CHAR", "INT2", "INT4", "DOUBLE"] "alignment value (char, int2, int4, or double)"
  | "STORAGE" =>
    choice ["PLAIN", "EXTERNAL", "EXTENDED", "MAIN"]
      "storage value (plain, external, extended, or main)"
  | "CATEGORY" | "DELIMITER" => character key
  | "PREFERRED" | "COLLATABLE" => ignore (oneOf ["TRUE", "FALSE"])
  | "DEFAULT" => ignore g.anyExpr
  | "ELEMENT" => ignore g.fullType
  | _ => ignore objectName

/-- An option of a type. -/
def typeOption (g : Grammar) : Read Unit := do
  if ← keyword "PASSEDBYVALUE" then return
  match ← oneOf ["INPUT", "OUTPUT", "RECEIVE", "SEND", "TYPMOD_IN", "TYPMOD_OUT", "ANALYZE",
    "SUBSCRIPT", "INTERNALLENGTH", "ALIGNMENT", "STORAGE", "LIKE", "CATEGORY", "PREFERRED",
    "DEFAULT", "ELEMENT", "DELIMITER", "COLLATABLE"] with
  | none => expected "SQL definition option keyword"
  | some key =>
    expectSymbol "="
    optionValue g key

/-- Any number of `p` in parentheses. -/
def listed (p : Read Unit) : Read Unit := ignore (inParens (commaSeparated0 p ")"))

/-- A type, behind `TYPE`. -/
def create (g : Grammar) : Read Unit := do
  ignore objectName
  if ← keyword "AS" then
    if ← keyword "ENUM" then listed (ignore identifier)
    else if ← keyword "RANGE" then listed (rangeOption g)
    else if ← isSymbol "(" then listed (member g)
    else expected "ENUM, RANGE, or '(' after AS"
  else if ← isSymbol "(" then listed (typeOption g)

end TableFeed.Sql.CreateTypeReader
