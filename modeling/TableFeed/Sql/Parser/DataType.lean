import TableFeed.Sql.Parser.Property

/-!
# Data types

A data type is read to be shown again: its keywords in one spelling, its lengths as numbers.
A word that begins no type of its own names a type made by the user, with whatever stands in
the parentheses behind it.
-/

namespace TableFeed.Sql.TypeReader

open Read

/-! ### Lengths -/

/-- A length of characters: a number with an optional unit, or `MAX`. -/
def characterLength : Read String := do
  if ← symbol "(" then
    let text ← do
      if ← keyword "MAX" then pure "MAX"
      else
        let n ← unsigned
        let unit ← oneOf ["CHARACTERS", "OCTETS"]
        pure (toString n ++ match unit with
          | some u => " " ++ u
          | none => "")
    expectSymbol ")"
    return "(" ++ text ++ ")"
  return ""

/-- A length of bytes: a number, or `MAX`. -/
def binaryLength : Read String := do
  if ← symbol "(" then
    let text ← do
      if ← keyword "MAX" then pure "MAX" else pure (toString (← unsigned))
    expectSymbol ")"
    return "(" ++ text ++ ")"
  return ""

/-- A precision, and a scale that may have a sign. -/
def precisionScale : Read String := do
  if ← symbol "(" then
    let precision ← unsigned
    let scale ← whenTaken (symbol ",") signed
    expectSymbol ")"
    return "(" ++ toString precision ++ (match scale with
      | some s => "," ++ s
      | none => "") ++ ")"
  return ""

/-- A name with an optional length. -/
def withLength (name : String) : Read DataType := do
  return .ofText (name ++ showLength (← length?))

/-- A whole number type: an optional length and an optional sign. -/
def whole (name : String) : Read DataType := do
  let length ← length?
  if ← keyword "UNSIGNED" then return .ofText (name ++ showLength length ++ " UNSIGNED")
  unless ["INT2", "INT4", "INT8"].contains name do
    ignore (only (← allows Rules.signedSuffix) (keyword "SIGNED"))
  return .ofText (name ++ showLength length)

/-- A type with precision and scale that may be unsigned. -/
def scaled (name : String) : Read DataType := do
  let info ← precisionScale
  let sign := if ← keyword "UNSIGNED" then " UNSIGNED" else ""
  return .ofText (name ++ info ++ sign)

/-- A type without parameters that may be unsigned. -/
def maybeUnsigned (name : String) : Read DataType := do
  return .ofText (name ++ if ← keyword "UNSIGNED" then " UNSIGNED" else "")

/-- The time zone part of a time. -/
def timeZone : Read String := do
  if ← keyword "WITH" then
    expectKeywords ["TIME", "ZONE"]
    return " WITH TIME ZONE"
  if ← keyword "WITHOUT" then
    expectKeywords ["TIME", "ZONE"]
    return " WITHOUT TIME ZONE"
  return ""

/-- A time of day or a point in time. -/
def time (name : String) : Read DataType := do
  let length ← length?
  return .ofText (name ++ showLength length ++ (← timeZone))

/-- A field, and the smaller field up to which an interval reaches. -/
def upTo (field : String) (ends : List String) : Read String := do
  if ← keyword "TO" then
    match ends with
    | [only] =>
      expectKeyword only
      return " " ++ field ++ " TO " ++ only
    | _ => return " " ++ field ++ " TO " ++ (← expectOneOf ends)
  return " " ++ field

/-- The fields of an interval. -/
def intervalFields : Read String := do
  match ← oneOf ["YEAR", "DAY", "HOUR", "MINUTE", "MONTH", "SECOND"] with
  | some "YEAR" => upTo "YEAR" ["MONTH"]
  | some "DAY" => upTo "DAY" ["HOUR", "MINUTE", "SECOND"]
  | some "HOUR" => upTo "HOUR" ["MINUTE", "SECOND"]
  | some "MINUTE" => upTo "MINUTE" ["SECOND"]
  | some field => return " " ++ field
  | none => return ""

/-! ### Lists of values -/

/-- A value of an enumeration. -/
def member : Read Phrase := do
  let name ← literalString
  if ← symbol "=" then
    return .text (quotedText name ++ " = ") ++ .expr (← signedNumber)
  return .text (quotedText name)

/-- An enumeration. -/
def enumeration (name : String) : Read DataType := do
  let members ← inParens (commaSeparated member)
  return { phrase := .text name ++ .inParens (.commas members) }

/-- A text that must be in single quotes. -/
def quotedMember : Read String := do
  match ← peek 0 with
  | some (.quoted .single s) =>
    skip
    return quotedText s
  | _ => expected "a string"

/-- A set of values. -/
def valueSet : Read DataType := do
  expectSymbol "("
  let members ← commaSeparated quotedMember
  unless ← symbol ")" do expected ", or \x7d"
  return .ofText ("SET(" ++ ", ".intercalate members ++ ")")

/-- What stands in the parentheses behind the name of a type made by the user. -/
def modifiers : Read (List String) := do
  let found ← many do
    match ← peek 0 with
    | some (.word w) => do skip; return some [(Token.word w).text]
    | some (.number digits _) => do skip; return some [digits]
    | some (.quoted .single s) => do skip; return some [s]
    | some (.symbol ",") => do skip; return some []
    | some (.symbol ")") => return none
    | _ => expected "type modifiers"
  expectSymbol ")"
  return found.flatten

/-- A type made by the user. -/
def custom : Read DataType := do
  let name := renderName (← objectName)
  let given ← if ← symbol "(" then modifiers else pure []
  let shown := if given.isEmpty then "" else "(" ++ ", ".intercalate given ++ ")"
  return { phrase := .text (name ++ shown), isCustom := true }

/-! ### Types made of types -/

/-- The mark that closes a list of types in angle brackets. `closed` if the mark of the inner
type was `>>` and closed this list too. -/
def closeAngle (closed : Bool) : Read Bool := do
  if closed then return false
  if ← symbol ">" then return false
  if ← symbol ">>" then return true
  expected ">"

/-- A type in parentheses. -/
def wrapped (g : Grammar) (name : String) : Read DataType := do
  let inner ← inParens g.fullType
  return { phrase := .text name ++ .inParens inner.phrase }

/-- A field of a structure, with or without a name. -/
def structField (g : Grammar) : Read (Phrase × Bool) := do
  let named := match ← peek 0, ← peek 1 with
    | some (.word _), some (.word _) | some (.word _), some (.symbol ":") => true
    | _, _ => false
  let name ← do
    if named then
      let i ← identifier
      ignore (symbol ":")
      pure (i.render ++ " ")
    else pure ""
  let (t, closed) ← g.dataType
  let options ← do
    if ← isKeyword "OPTIONS" then
      let found ← PropertyReader.properties g ["OPTIONS"]
      pure (Phrase.text " OPTIONS" ++ .inParens (.commas found))
    else pure .empty
  return (.text name ++ t.phrase ++ options, closed)

/-- The fields of a structure in angle brackets, if there are any. -/
def structFields (g : Grammar) : Read (List Phrase × Bool) := do
  unless ← symbol "<" do return ([], false)
  let first ← structField g
  let (fields, closed) ← iterate ([first.1], first.2) fun (done, closed) => do
    if closed then return none
    if ← symbol "," then
      let (field, closed) ← structField g
      return some (field :: done, closed)
    return none
  let closed ← closeAngle closed
  return (fields.reverse, closed)

/-- A structure as it is shown. -/
def showStruct (fields : List Phrase) : Phrase :=
  if fields.isEmpty then .text "STRUCT" else .text "STRUCT<" ++ .commas fields ++ .text ">"

/-- Columns in parentheses, behind the name of the type that they make. -/
def ofColumns (g : Grammar) (name : String) : Read DataType := do
  let columns ← inParens (commaSeparated g.column)
  return { phrase := .text name ++ .inParens (.commas (columns.map (·.phrase))) }

/-- A field of a tuple. A mark that closes more than the type of the field is passed over. -/
def tupleField (g : Grammar) : Read Phrase := do
  return (← structField g).1

/-- A field of a union. -/
def unionField (g : Grammar) : Read Phrase := do
  let name ← identifier
  return .text (name.render ++ " ") ++ (← g.fullType).phrase

/-- What follows a keyword that begins a type of its own. -/
def named (g : Grammar) (rules : Rules) (key : String) : Option (Read (DataType × Bool)) :=
  let alone (r : Read DataType) : Option (Read (DataType × Bool)) := some do
    return (← r, false)
  let plain (text : String) := alone (pure (.ofText text))
  let special (r : Read DataType) := if rules.nestedTypes then alone r else none
  match key with
  | "BOOLEAN" | "BOOL" | "FLOAT4" | "FLOAT64" | "FLOAT8" | "INT64" | "HUGEINT" | "UHUGEINT"
  | "UTINYINT" | "USMALLINT" | "UBIGINT" | "UUID" | "DATE" | "JSON" | "JSONB" | "REGCLASS"
  | "TEXT" | "TINYTEXT" | "MEDIUMTEXT" | "LONGTEXT" | "BYTEA" | "TINYBLOB" | "MEDIUMBLOB"
  | "LONGBLOB" | "TRIGGER" => plain key
  | "FLOAT32" => plain "Float32"
  | "INT16" => plain "Int16"
  | "INT32" => plain "Int32"
  | "INT128" => plain "Int128"
  | "INT256" => plain "Int256"
  | "UINT8" => plain "UInt8"
  | "UINT16" => plain "UInt16"
  | "UINT32" => plain "UInt32"
  | "UINT64" => plain "UInt64"
  | "UINT128" => plain "UInt128"
  | "UINT256" => plain "UInt256"
  | "DATE32" => plain "Date32"
  | "FLOAT" | "DECIMAL" | "DEC" => alone (scaled key)
  | "NUMERIC" | "BIGNUMERIC" | "BIGDECIMAL" =>
    alone do return .ofText (key ++ (← precisionScale))
  | "REAL" => alone (maybeUnsigned "REAL")
  | "DOUBLE" => alone do
    if ← keyword "PRECISION" then maybeUnsigned "DOUBLE PRECISION" else scaled "DOUBLE"
  | "TINYINT" | "INT2" | "SMALLINT" | "MEDIUMINT" | "INT" | "INT4" | "INT8" | "INTEGER"
  | "BIGINT" => alone (whole key)
  | "VARCHAR" | "NVARCHAR" => alone do return .ofText (key ++ (← characterLength))
  | "CHARACTER" | "CHAR" => alone do
    if ← keyword "VARYING" then return .ofText (key ++ " VARYING" ++ (← characterLength))
    else if ← keywords ["LARGE", "OBJECT"] then withLength (key ++ " LARGE OBJECT")
    else return .ofText (key ++ (← characterLength))
  | "BINARY" | "CLOB" | "BLOB" | "BYTES" | "VARBIT" | "DATETIME" | "TIMESTAMP_NTZ" | "STRING" =>
    alone (withLength key)
  | "VARBINARY" => alone do return .ofText (key ++ (← binaryLength))
  | "BIT" => alone do
    if ← keyword "VARYING" then withLength "BIT VARYING" else withLength "BIT"
  | "DATETIME64" => alone do
    expectSymbol "("
    let precision ← unsigned
    let zone ← whenTaken (symbol ",") literalString
    expectSymbol ")"
    return .ofText ("DateTime64(" ++ toString precision ++ (match zone with
      | some z => ", '" ++ z ++ "'"
      | none => "") ++ ")")
  | "TIMESTAMP" | "TIME" => alone (time key)
  | "TIMESTAMPTZ" | "TIMETZ" => alone (withLength key)
  | "INTERVAL" => alone do
    if rules.intervalOptions then
      let fields ← intervalFields
      let text := "INTERVAL" ++ fields ++ showLength (← length?)
      return { phrase := .text text, isInterval := true }
    return { phrase := .text "INTERVAL", isInterval := true }
  | "FIXEDSTRING" => alone do
    let n ← inParens unsigned
    return .ofText ("FixedString(" ++ toString n ++ ")")
  | "ENUM" | "ENUM8" | "ENUM16" => alone (enumeration key)
  | "SET" => alone valueSet
  | "ARRAY" => some do
    if rules.wrappedTypes then return (← wrapped g "Array", false)
    expectSymbol "<"
    let (inner, closed) ← g.dataType
    let closed ← closeAngle closed
    return ({ phrase := .text "ARRAY<" ++ inner.phrase ++ .text ">" }, closed)
  | "STRUCT" =>
    if rules.structTypes then some do
      let (fields, closed) ← structFields g
      return ({ phrase := showStruct fields }, closed)
    else none
  | "UNION" =>
    if rules.structTypes then alone do
      let fields ← inParens (commaSeparated (unionField g))
      return { phrase := .text "UNION" ++ .inParens (.commas fields) }
    else none
  | "NULLABLE" => special (wrapped g "Nullable")
  | "LOWCARDINALITY" => special (wrapped g "LowCardinality")
  | "MAP" => special do
    expectSymbol "("
    let k ← g.fullType
    expectSymbol ","
    let v ← g.fullType
    expectSymbol ")"
    return { phrase := .text "Map(" ++ k.phrase ++ .text ", " ++ v.phrase ++ .text ")" }
  | "NESTED" => special (ofColumns g "Nested")
  | "TUPLE" => special do
    let fields ← inParens (commaSeparated (tupleField g))
    return { phrase := .text "Tuple" ++ .inParens (.commas fields) }
  | "TABLE" => alone do
    if ← isSymbol "(" then ofColumns g "TABLE" else return .ofText "TABLE"
  | "SIGNED" | "UNSIGNED" => alone do
    return .ofText (key ++ if ← keyword "INTEGER" then " INTEGER" else "")
  | "TSVECTOR" | "TSQUERY" => if rules.textSearch then plain key else none
  | "POINT" | "LINE" | "LSEG" | "BOX" | "PATH" | "POLYGON" | "CIRCLE" =>
    if rules.customOperators then plain (String.ofList (key.toList.map Char.toLower)) else none
  | _ => none

/-- Dimensions behind a type. -/
def dimensions (t : DataType × Bool) : Read (DataType × Bool) := do
  if ← allows Rules.arrayBrackets then
    iterate t fun (t, closed) => do
      if ← symbol "[" then
        let size ← attempt unsigned
        expectSymbol "]"
        let shown := match size with
          | some n => toString n
          | none => ""
        return some ({ phrase := t.phrase ++ .text ("[" ++ shown ++ "]") }, closed)
      return none
  else return t

/-- A data type, and whether the mark that closes the type around it has been taken too. -/
def dataType (g : Grammar) : Read (DataType × Bool) := do
  match ← peek 0 with
  | some (.word w) =>
    if w.keyword == "ANY" && (← keywordAt 1) == "TYPE" then
      skip; skip
      dimensions (.ofText "ANY TYPE", false)
    else match named g (← rules) w.keyword with
      | some r =>
        skip
        dimensions (← r)
      | none => dimensions (← custom, false)
  | _ => expected "a data type name"

end TableFeed.Sql.TypeReader
