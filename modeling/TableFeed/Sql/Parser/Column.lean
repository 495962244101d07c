import TableFeed.Sql.Parser.Constraint

/-!
# Columns

A column has a name, a type and options. Some options are taken before it is asked whether the
dialect has them. If it has not, the option is passed over, and what follows it is looked at as
the next option of the same list.
-/

namespace TableFeed.Sql.ColumnReader

open Read ConstraintReader

/-- An option of a column, and how it is shown. -/
abbrev Found : Type := ColumnOption × Phrase

/-- An option of which only the text is of interest. -/
def other (p : Phrase) : Option Found := some (.other, p)

/-- An expression of an option: behind a parenthesis only what the parenthesis closes. -/
def optionExpr (g : Grammar) : Read Expr := do
  if ← isSymbol "(" then within .plain g.primary else g.anyExpr

/-- An option that is a keyword with an expression. -/
def exprOption (g : Grammar) (word : String) : Read (Option Found) := do
  return other (.text (word ++ " ") ++ .expr (← optionExpr g))

/-! ### Generated values -/

/-- A number behind some words, as it is shown behind `shown`. -/
def numberBehind (shown : String) : Read Phrase := do
  return .text (" " ++ shown ++ " ") ++ .expr (← signedNumber)

/-- A bound of a sequence, which may be left out explicitly. -/
def sequenceBound (word : String) : Read Phrase := do
  if ← keyword word then numberBehind word
  else if ← keywords ["NO", word] then return .text (" NO " ++ word)
  else return .empty

/-- A number of a sequence behind a keyword, with another one between them that may be
missing. -/
def sequenceNumber (word filler : String) : Read Phrase := do
  if ← keyword word then
    if ← keyword filler then numberBehind (word ++ " " ++ filler) else numberBehind word
  else return .empty

/-- The options of a sequence. -/
def sequenceOptions : Read Phrase := do
  let step ← sequenceNumber "INCREMENT" "BY"
  let low ← sequenceBound "MINVALUE"
  let high ← sequenceBound "MAXVALUE"
  let start ← sequenceNumber "START" "WITH"
  let cached ← if ← keyword "CACHE" then numberBehind "CACHE" else pure .empty
  let cycle := match ← firstOf [["NO", "CYCLE"], ["CYCLE"]] with
    | some ks => Phrase.text (" " ++ " ".intercalate ks)
    | none => .empty
  return .concat [step, low, high, start, cached, cycle]

/-- A column that is filled from a sequence, behind `IDENTITY`. -/
def sequenceColumn (words : String) : Read (Option Found) := do
  let options ← do
    if ← symbol "(" then
      let found ← sequenceOptions
      expectSymbol ")"
      pure (if found.layout.isEmpty then found else .text " (" ++ found ++ .text " )")
    else pure .empty
  return other (.text ("GENERATED " ++ words ++ " AS IDENTITY") ++ options)

/-- How the value of a computed column is kept, behind its expression. -/
def computedMode : Read String := do
  match ← oneOf ["STORED", "VIRTUAL"] with
  | some k => return " " ++ k
  | none => return ""

/-- What follows `GENERATED`. One dialect demands that a computed value is stored. -/
def generated (g : Grammar) : Read (Option Found) := do
  if ← keywords ["ALWAYS", "AS", "IDENTITY"] then sequenceColumn "ALWAYS"
  else if ← keywords ["BY", "DEFAULT", "AS", "IDENTITY"] then sequenceColumn "BY DEFAULT"
  else if ← both (keywords ["ALWAYS", "AS"]) (isSymbol "(") then
    let e ← inParens (within .plain g.anyExpr)
    let stored ← allows Rules.storesGenerated
    if stored && !(← isKeyword "STORED") then expected "STORED"
    let mode ← computedMode
    return other (.text "GENERATED ALWAYS AS " ++ .inParens (.expr e) ++ .text mode)
  else return none

/-- A computed column, behind `AS`. -/
def computed (g : Grammar) : Read (Option Found) := do
  let e ← inParens g.anyExpr
  return other (.text "AS " ++ .inParens (.expr e) ++ .text (← computedMode))

/-- The seed and the step of a column that counts, behind `IDENTITY`. -/
def identityColumn : Read (Option Found) := do
  if ← symbol "(" then
    let seed ← signedNumber
    expectSymbol ","
    let step ← signedNumber
    expectSymbol ")"
    return other (.text "IDENTITY" ++ .inParens (.list [seed, step]))
  return other (.text "IDENTITY")

/-! ### Options -/

/-- Options that are taken before the dialect is asked: their words, the answer of the dialect,
and how they go on. -/
abbrev Late : Type := List (List String × Bool × Read (Option Found))

/-- The first options of that kind, in their order. -/
def lateOptions (g : Grammar) (rules : Rules) : Late :=
  let alone (word : String) : Read (Option Found) := return other (.text word)
  [(["AUTO_INCREMENT"], rules.autoIncrement, alone "AUTO_INCREMENT"),
    (["AUTOINCREMENT"], rules.autoincrement, alone "AUTOINCREMENT"),
    (["ASC"], rules.orderedColumns, alone "ASC"), (["DESC"], rules.orderedColumns, alone "DESC"),
    (["ON", "UPDATE"], rules.autoIncrement, exprOption g "ON UPDATE"),
    (["GENERATED"], true, generated g)]

/-- The options of that kind that come behind the options in parentheses. -/
def lastOptions (g : Grammar) (rules : Rules) : Late :=
  [(["AS"], rules.computedColumns, computed g), (["SRID"], rules.autoIncrement, exprOption g "SRID"),
    (["IDENTITY"], rules.identityColumns, identityColumn)]

/-- The options that may come before the others. -/
def earlyOption (g : Grammar) (rules : Rules) : Read (Option Found) := do
  if ← keywords ["CHARACTER", "SET"] then
    return other (.text ("CHARACTER SET " ++ renderName (← objectName)))
  if ← keyword "COLLATE" then return other (.text ("COLLATE " ++ renderName (← objectName)))
  if ← keywords ["NOT", "NULL"] then return some (.notNull, .text "NOT NULL")
  if ← keyword "COMMENT" then return other (.text ("COMMENT " ++ quotedText (← commentText)))
  if ← keyword "NULL" then return some (.null, .text "NULL")
  if ← keyword "DEFAULT" then
    let e ← optionExpr g
    return some (.default e, .text "DEFAULT " ++ .expr e)
  if rules.derivedColumns then
    if let some k ← oneOf ["MATERIALIZED", "ALIAS"] then return ← exprOption g k
    if ← keyword "EPHEMERAL" then
      if (← isSymbol ",") || (← isSymbol ")") then return other (.text "EPHEMERAL")
      return ← exprOption g "EPHEMERAL"
  if ← keywords ["PRIMARY", "KEY"] then
    return some (.primaryKey, .text ("PRIMARY KEY" ++ (← characteristics)))
  if ← keyword "UNIQUE" then return some (.unique, .text ("UNIQUE" ++ (← characteristics)))
  if ← keyword "REFERENCES" then return some (.foreignKey, .text (← referenced))
  if ← keyword "CHECK" then
    let e ← inParens (within .plain g.anyExpr)
    return some (.check, .text "CHECK " ++ .inParens (.expr e))
  return none

/-- An option of a column, if one comes next. -/
def columnOption (g : Grammar) : Read (Option Found) := within .column do
  let rules ← rules
  if let some found ← earlyOption g rules then return some found
  if let some found ← choose (lateOptions g rules) then return found
  if rules.optionLists && (← isKeyword "OPTIONS") then
    let found ← PropertyReader.properties g ["OPTIONS"]
    return other (.text "OPTIONS" ++ .inParens (.commas found))
  if let some found ← choose (lastOptions g rules) then return found
  if ← only rules.conflictColumns (keywords ["ON", "CONFLICT"]) then
    let k ← expectOneOf ["ROLLBACK", "ABORT", "FAIL", "IGNORE", "REPLACE"]
    return other (.text ("ON CONFLICT " ++ k))
  if ← keyword "INVISIBLE" then return other (.text "INVISIBLE")
  return none

/-- The options of a column, each of which may have a name. -/
def columnOptions (g : Grammar) : Read (List Found) := many do
  if ← keyword "CONSTRAINT" then
    let name ← identifier
    match ← columnOption g with
    | some (o, p) => return some (o, .text ("CONSTRAINT " ++ name.render ++ " ") ++ p)
    | none => expected "constraint details after CONSTRAINT <name>"
  else columnOption g

/-! ### Columns -/

/-- The words that follow a column without a type. -/
def afterUntyped : List String :=
  ["CONSTRAINT", "PRIMARY", "NOT", "UNIQUE", "CHECK", "DEFAULT", "COLLATE", "REFERENCES",
    "GENERATED", "AS"]

/-- Whether a column has no type. -/
def isUntyped : Read Bool := do
  if ← allows Rules.untypedColumns then
    return match ← peek 0 with
      | some (.word w) => afterUntyped.contains w.keyword
      | _ => true
  return false

/-- A column with its options. -/
def column (g : Grammar) : Read Column := do
  let name ← identifier
  let t ← if ← isUntyped then pure none else pure (some (← g.fullType))
  let options ← columnOptions g
  let phrase := Phrase.text name.render ++ .optional " " (t.map (·.phrase)) ++
    .concat (options.map fun (_, p) => .text " " ++ p)
  return { name, dataType := (t.map DataType.text).getD "", options := options.map (·.1), phrase }

end TableFeed.Sql.ColumnReader
