import TableFeed.Sql.Parser.Rename

/-!
# Patterns of rows

`MATCH_RECOGNIZE` finds runs of rows that match a pattern. A pattern is a regular expression
whose letters are names, and each name stands for a condition on a row.

    PATTERN ( ^ A B+ {- C -} ( D | E ){2,3} $ )   DEFINE A AS price > 10, …
-/

namespace TableFeed.Sql.RowPattern

open Read RenameReader

/-! ### Patterns -/

/-- A number of repetitions. What is wrong with it is told about the first bound. -/
def bound (digits : String) (first : List Lexeme) : Read String := do
  match wholeNumber 4294967295 0 digits.toList with
  | .ok n => return toString n
  | .error e => failAt ("Could not parse '" ++ digits ++ "' as u32: " ++ e.text) first

/-- A range of repetitions, behind the opening brace. -/
def range : Read String := do
  let first ← rest
  match ← next with
  | some (.symbol ",") =>
    match ← peek 0 with
    | some (.number m _) =>
      skip
      expectSymbol "\x7d"
      return "\x7b," ++ (← bound m first) ++ "\x7d"
    | _ => refuse "literal number"
  | some (.number n _) =>
    if ← symbol "," then
      match ← peek 0 with
      | some (.number m _) =>
        skip
        expectSymbol "\x7d"
        return "\x7b" ++ (← bound n first) ++ "," ++ (← bound m first) ++ "\x7d"
      | some (.symbol "\x7d") =>
        skip
        return "\x7b" ++ (← bound n first) ++ ",\x7d"
      | _ => refuse "\x7d or upper bound"
    else
      expectSymbol "\x7d"
      return "\x7b" ++ (← bound n first) ++ "\x7d"
  | _ => expectedAt "quantifier range" first

/-- How often something repeats, if that is said. -/
def quantifier : Read (Option String) := do
  match ← peek 0 with
  | some (.symbol "*") => do skip; return some "*"
  | some (.symbol "+") => do skip; return some "+"
  | some (.placeholder "?") => do skip; return some "?"
  | some (.symbol "\x7b") => do skip; return some (← range)
  | _ => return none

/-- A pattern without repetition; `inner` reads the pattern in a group. -/
def base (inner : Read String) : Read String := do
  match ← peek 0 with
  | some (.symbol "^") => do skip; return "^"
  | some (.placeholder "$") => do skip; return "$"
  | some (.symbol "\x7b") =>
    skip
    expectSymbol "-"
    let name ← identifier
    expectSymbol "-"
    expectSymbol "\x7d"
    return "\x7b- " ++ name.render ++ " -\x7d"
  | some (.symbol "(") => return "( " ++ (← Read.inParens inner) ++ " )"
  | some (.word { text := "PERMUTE", quote := none, .. }) =>
    skip
    let names ← Read.inParens (commaSeparated identifier)
    return "PERMUTE(" ++ PropertyReader.showNames names ++ ")"
  | _ => return (← identifier).render

/-- A pattern with its repetitions. -/
def repeated (inner : Read String) : Read String := do
  let first ← base inner
  return first ++ "".intercalate (← many quantifier)

/-- A pattern in which at most so many others are open. -/
def pattern : Nat → Read String
  | 0 => throw .tooDeep
  | n + 1 => do
    let first ← repeated (pattern n)
    let others ← many do
      if (← isSymbol ")") || (← isSymbol "|") then return none
      return some (← repeated (pattern n))
    let run := " ".intercalate (first :: others)
    if ← symbol "|" then return run ++ " | " ++ (← pattern n)
    return run

/-! ### The clause -/

/-- A value that is given back for a match. -/
def measure (g : Grammar) : Read Phrase := do
  let e ← g.anyExpr
  let _ ← keyword "AS"
  return .expr e ++ .text (" AS " ++ (← identifier).render)

/-- How many rows are given back for a match. -/
def rowsPerMatch : Read (List Phrase) := do
  if ← keywords ["ONE", "ROW", "PER", "MATCH"] then return [.text "ONE ROW PER MATCH"]
  if ← keywords ["ALL", "ROWS", "PER", "MATCH"] then
    let mode ← firstOf
      [["SHOW", "EMPTY", "MATCHES"], ["OMIT", "EMPTY", "MATCHES"], ["WITH", "UNMATCHED", "ROWS"]]
    return [.text (" ".intercalate ("ALL ROWS PER MATCH" :: mode.getD []))]
  return []

/-- Where the search goes on behind a match. -/
def afterMatch : Read (List Phrase) := do
  unless ← keywords ["AFTER", "MATCH", "SKIP"] do return []
  if ← keywords ["PAST", "LAST", "ROW"] then return [.text "AFTER MATCH SKIP PAST LAST ROW"]
  if ← keywords ["TO", "NEXT", "ROW"] then return [.text "AFTER MATCH SKIP TO NEXT ROW"]
  if ← keywords ["TO", "FIRST"] then
    return [.text ("AFTER MATCH SKIP TO FIRST " ++ (← identifier).render)]
  if ← keywords ["TO", "LAST"] then
    return [.text ("AFTER MATCH SKIP TO LAST " ++ (← identifier).render)]
  refuse "after match skip option"

/-- A name in a pattern with its condition. -/
def definition (g : Grammar) : Read Phrase := do
  let name ← identifier
  expectKeyword "AS"
  return .text (name.render ++ " AS ") ++ .expr (← g.anyExpr)

/-- `MATCH_RECOGNIZE` behind a table. -/
def recognized (g : Grammar) (t : TableFactor) : Read TableFactor := do
  expectSymbol "("
  let clause (words : List String) (p : Read Phrase) : Read (List Phrase) := do
    if ← keywords words then return [.text (" ".intercalate words ++ " ") ++ (← p)]
    return []
  let parted ← clause ["PARTITION", "BY"] do return .list (← g.exprs)
  let ordered ← clause ["ORDER", "BY"] (CallReader.orderItems g)
  let measures ← clause ["MEASURES"] do return .commas (← commaSeparated (measure g))
  let rows ← rowsPerMatch
  let goesOn ← afterMatch
  expectKeyword "PATTERN"
  let shown ← Read.inParens (pattern (← read).bound)
  expectKeyword "DEFINE"
  let definitions ← commaSeparated (definition g)
  expectSymbol ")"
  let clauses := parted ++ ordered ++ measures ++ rows ++ goesOn ++
    [.text ("PATTERN (" ++ shown ++ ")"), .text "DEFINE " ++ .commas definitions]
  renamed g (t.phrase ++ .text " MATCH_RECOGNIZE" ++ .inParens (.sepBy " " clauses))

end TableFeed.Sql.RowPattern
