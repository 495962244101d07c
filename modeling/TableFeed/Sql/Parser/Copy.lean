import TableFeed.Sql.Parser.Query
import TableFeed.Text.Blank

/-!
# `COPY` and `UNLOAD`

Rows are copied from a file or to one, and a query is unloaded into files. The options of a copy
stand in parentheses or, in an older form, without; options of the older form are read as long
as they are well formed, and the first that is not ends them. Rows from the standard input
follow the statement up to `\.`.
-/

namespace TableFeed.Sql.CopyReader

open Read

/-! ### Single characters -/

/-- A character as it is shown in a message about a text. -/
def shownChar (c : Char) : String :=
  if c = '"' then "\\\""
  else if c = '\\' then "\\\\"
  else if c = '\n' then "\\n"
  else if c = '\t' then "\\t"
  else if c = '\r' then "\\r"
  else if c = Char.ofNat 0 then "\\0"
  else if c.toNat < 0x20 ∨ (0x7F ≤ c.toNat ∧ c.toNat < 0xA0) then
    "\\u\x7b" ++ String.ofList (Nat.toDigits 16 c.toNat) ++ "\x7d"
  else c.toString

/-- A text of one byte. -/
def character : Read Unit := do
  let here ← rest
  let s ← literalString
  unless s.utf8ByteSize == 1 do
    failAt ("Expect a char, found \"" ++ String.join (s.toList.map shownChar) ++ "\"") here

/-! ### Options in parentheses -/

/-- An option in parentheses. -/
def option : Read Unit := do
  match ← oneOf ["FORMAT", "FREEZE", "DELIMITER", "NULL", "HEADER", "QUOTE", "ESCAPE",
    "FORCE_QUOTE", "FORCE_NOT_NULL", "FORCE_NULL", "ENCODING"] with
  | some "FORMAT" => ignore identifier
  | some "FREEZE" | some "HEADER" => ignore (oneOf ["TRUE", "FALSE"])
  | some "DELIMITER" | some "QUOTE" | some "ESCAPE" => character
  | some "NULL" | some "ENCODING" => ignore literalString
  | some _ => ignore (columnNames false false)
  | none => expected "option"

/-! ### Options without parentheses -/

/-- Options of the older form by their keywords. -/
abbrev Options : Type := List (List String × Bool × Read Unit)

/-- Reads on behind `AS`, which may be missing. -/
def behindAs (p : Read Unit) : Read Unit := do
  ignore (keyword "AS")
  p

/-- A text in single quotes, if one comes next. -/
def quoted? : Read Unit := do
  match ← peek 0 with
  | some (.quoted .single _) => ignore literalString
  | _ => pure ()

/-- A switch, which may be left out. -/
def switch : Read Unit := ignore (oneOf ["TRUE", "FALSE", "ON", "OFF"])

/-- A number of bytes. -/
def fileSize : Read Unit := do
  ignore numberValue
  ignore (oneOf ["MB", "GB"])

/-- The role that files are opened with. -/
def accessRole : Read Unit := do
  unless ← keyword "DEFAULT" do ignore literalString

/-- An option of values that commas separate. -/
def csvOption : Read Unit := do
  let names : Read Unit := ignore (commaSeparated identifier)
  let options : Options :=
    [(["HEADER"], true, pure ()), (["QUOTE"], true, behindAs character),
      (["ESCAPE"], true, behindAs character), (["FORCE", "NOT", "NULL"], true, names),
      (["FORCE", "QUOTE"], true, names)]
  if (← choose options).isNone then expected "csv option"

/-- The columns that the files are divided by. -/
def partition : Read Unit := do
  expectKeyword "BY"
  ignore (columnNames false false)
  ignore (keyword "INCLUDE")

/-- The options of the older form that are single keywords. -/
def plainOptions : List String :=
  ["ACCEPTANYDATE", "ADDQUOTES", "ALLOWOVERWRITE", "BINARY", "BLANKSASNULL", "BZIP2", "CLEANPATH",
    "EMPTYASNULL", "ESCAPE", "GZIP", "HEADER", "JSON", "PARQUET", "REMOVEQUOTES",
    "TRUNCATECOLUMNS", "ZSTD"]

/-- The other options of the older form. -/
def olderOptions : Options :=
  [(["ACCEPTINVCHARS"], true, behindAs quoted?),
    (["COMPUPDATE"], true, do ignore (keyword "PRESET"); switch),
    (["CSV"], true, ignore (many (attempt csvOption))), (["DATEFORMAT"], true, behindAs quoted?),
    (["DELIMITER"], true, behindAs character), (["ENCRYPTED"], true, ignore (keyword "AUTO")),
    (["EXTENSION"], true, ignore literalString), (["FIXEDWIDTH"], true, ignore literalString),
    (["IAM_ROLE"], true, accessRole), (["IGNOREHEADER"], true, behindAs (ignore unsigned)),
    (["MANIFEST"], true, ignore (keyword "VERBOSE")), (["MAXFILESIZE"], true, behindAs fileSize),
    (["NULL"], true, behindAs (ignore literalString)), (["PARALLEL"], true, switch),
    (["PARTITION"], true, partition), (["REGION"], true, behindAs (ignore literalString)),
    (["ROWGROUPSIZE"], true, behindAs fileSize), (["STATUPDATE"], true, switch),
    (["TIMEFORMAT"], true, behindAs quoted?)]

/-- An option of the older form. -/
def olderOption : Read Unit := do
  if ← keyword "FORMAT" then ignore (keyword "AS")
  if (← oneOf plainOptions).isSome then return
  if (← choose olderOptions).isNone then expected "option"

/-- Options of the older form. -/
def older : Read Unit := ignore (many (attempt olderOption))

/-! ### Statements -/

/-- Rows behind the statement. -/
def inlineRows : Read Unit := do
  expectSymbol ";"
  ignore (iterate false fun finished => do
    if finished || (← atEnd) then return none
    if ← symbol "\\" then
      if ← symbol "." then return some true
    skip
    return some false)

/-- `COPY` -/
def copy (g : Grammar) : Read Unit := do
  let ofQuery ← isSymbol "("
  if ofQuery then ignore g.subquery
  else
    ignore objectName
    ignore (columnNames true false)
  match ← oneOf ["FROM", "TO"] with
  | none => expected "FROM or TO"
  | some way =>
    if way == "FROM" && ofQuery then
      throw (.message "COPY ... FROM does not support query as a source" none)
  let inline ← keyword "STDIN"
  unless ← either (pure inline) (keyword "STDOUT") do
    ignore (keyword "PROGRAM")
    ignore literalString
  ignore (keyword "WITH")
  if ← isSymbol "(" then ignore (inParens (commaSeparated option))
  older
  if inline then inlineRows

/-- `UNLOAD`, and how it is shown up to its first blank. -/
def unload (g : Grammar) : Read String := do
  let text ← inParens do
    match ← peek 0 with
    | some (.quoted .single s) =>
      skip
      return "'" ++ s ++ "'"
    | _ => return (← g.query).phrase.render
  expectKeyword "TO"
  ignore identifier
  if ← keyword "IAM_ROLE" then accessRole
  ignore (PropertyReader.properties g ["WITH"])
  older
  return Text.firstWord ("UNLOAD(" ++ text ++ ")")

end TableFeed.Sql.CopyReader
