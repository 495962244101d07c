import TableFeed.Run.Reading
import TableFeed.Run.Report

/-!
# What a user sees

The texts in which statements, readings of statements and runs are shown.
-/

namespace TableFeed.Run

open TableFeed

/-- Several texts one behind the other. -/
def concat (ts : List String) : String := String.join ts

/-- Items with their numbers, from one on. -/
def numbered {α : Type} (items : List α) : List (Nat × α) :=
  items.mapIdx fun i a => (i + 1, a)

/-- The statements of a script with their numbers. -/
def showStatements (statements : List String) : String :=
  concat ((numbered statements).map fun (n, s) => "[" ++ toString n ++ "] " ++ s ++ "\n") ++
    "\n" ++ toString statements.length ++ " statement(s)\n"

/-! ### Readings -/

/-- A column of a table to create. -/
def showColumn (c : Model.Column) : String :=
  let flags := (if c.primaryKey then ["PK"] else []) ++ if c.nullable then [] else ["NOT NULL"]
  let default := c.default.getD ""
  "    " ++ c.name ++ ":" ++ c.dataType ++
    (if flags.isEmpty then "" else " [" ++ ", ".intercalate flags ++ "]") ++
    (if default == "" then "" else " default=" ++ default) ++ "\n"

/-- A row to insert. -/
def showRow (r : Model.Row) : String :=
  "    (" ++ ", ".intercalate (r.map fun v => v.getD "NULL") ++ ")\n"

/-- A model. -/
def showModel : Model → String
  | .createTable t => "  CreateTable " ++ t.name ++ "\n" ++ concat (t.columns.map showColumn)
  | .insert i =>
    "  Insert " ++ i.table ++ " (" ++ ", ".intercalate i.columns ++ ") rows=" ++
      toString i.rows.length ++ "\n" ++ concat (i.rows.map showRow)
  | .dropTable r => "  DropTable " ++ ", ".intercalate r.tables ++ "\n"

/-- The sign of something that was refused. -/
def cross : String := "❌"

/-- The sign of a warning. -/
def warning : String := "⚠️ "

/-- What a statement asks for. -/
def showReading : Reading → String
  | .model m => showModel m
  | .unsupported kind => "  " ++ warning ++ " Unsupported statement kind: " ++ kind ++ "\n"
  | .refused message => "  " ++ cross ++ " " ++ message ++ "\n"

/-- Statements with what they ask for. -/
def showReadings (items : List (String × Reading)) : String :=
  concat ((numbered items).map fun (n, statement, r) =>
    "\nStatement " ++ toString n ++ ": " ++ statement ++ "\n" ++ showReading r)

/-! ### Runs -/

/-- An outcome. -/
def showOutcome (o : Outcome) : String :=
  (if o.success then "✅" else cross) ++ " [" ++ toString (o.index + 1) ++ "] " ++
    toString o.status ++ " -> " ++ o.body ++ "\n"

/-- A finished run, from the text of its identifier. -/
def showRun (runId : String) (os : List Outcome) : String :=
  let failed := failedCount os
  "Run " ++ runId ++ "\n" ++ concat (os.map showOutcome) ++
    (if failed > 0 then
      "\n" ++ warning ++ " " ++ toString failed ++ " of " ++ toString os.length ++
        " statement(s) failed\n"
    else "") ++
    "\n" ++ summary os ++ "\n"

/-- A run that was broken off. -/
def showFailure (status : Nat) (r : FailureReport) : String :=
  cross ++ " " ++ r.typeName ++ " (" ++ toString status ++ "): " ++ r.message ++ "\n  " ++
    r.detail ++ "\n"

end TableFeed.Run
