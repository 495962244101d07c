import TableFeed.Cli.Invocation
import TableFeed.Config.Load
import TableFeed.Json.Pretty
import TableFeed.Run.Configured
import TableFeed.Run.Display
import TableFeed.Script.Statements

/-!
# The program

The program reads its configuration, then its script, and prints what it finds: the statements
of the script, what they ask for, or what came of running them. Where something cannot be read
or a run is broken off, it prints nothing but a complaint and ends with 1; it ends with 2 if the
arguments make no sense.

    arguments ──▶ invocation ──▶ configuration ──▶ script ──▶ what is printed
-/

namespace TableFeed.Cli

open TableFeed

/-- What the program asks of the world around it. -/
structure World (m : Type → Type) where
  /-- The bytes of a file, if there is one. -/
  file : String → m (Option (List UInt8))
  /-- The bytes of the standard input. -/
  input : m (List UInt8)
  /-- The way to the table service, on which an answer is waited for so many seconds. -/
  send : Nat → Service.Transport m
  /-- A new identifier of a run, and the time. -/
  stamp : m (String × String)

/-- How the program ends. -/
structure Ended where
  code : Nat := 0
  out : String := ""
  err : String := ""
  deriving DecidableEq, Repr

namespace Ended

/-- An end with some text. -/
def shown (out : String) : Ended := { out }

/-- An end with some JSON. -/
def json (j : Json) : Ended := { out := j.pretty ++ "\n" }

/-- An end with a complaint. -/
def failed (message : String) : Ended := { code := 1, err := "Error: " ++ message ++ "\n" }

end Ended

/-! ### Without a command -/

/-- The line that names the version. -/
def versionText : String := "sql-ingest 0.3.0\n"

/-- How the program is used. -/
def usageText : String :=
  "Usage: sql-ingest [OPTIONS] <COMMAND>\n\n" ++
    "Commands:\n" ++
    "  split <INPUT>  Print the statements of a script\n" ++
    "  parse <INPUT>  Parse a script and print the models built from it\n" ++
    "  run <INPUT>    Run a script against the configured table service\n" ++
    "                 [--base-url <BASE_URL>] [--token <TOKEN>]\n\n" ++
    "Options:\n" ++
    "  -c, --config <CONFIG>        Configuration file (TOML)\n" ++
    "  -d, --dialect <DIALECT>      SQL dialect, overrides the configuration file\n" ++
    "  -l, --line-mode <LINE_MODE>  Line handling (reset-per-line, continuous)\n" ++
    "      --json                   Print JSON instead of text\n" ++
    "  -v, --verbose                Enable verbose output\n" ++
    "  -h, --help                   Print help\n" ++
    "  -V, --version                Print version\n"

/-- The end where there is nothing to do. -/
def Ending.ended : Ending → Ended
  | usage => { code := 2, err := usageText }
  | help => .shown usageText
  | version => .shown versionText

/-! ### Commands -/

variable {m : Type → Type} [Monad m]

/-- The configuration of an invocation: its file, changed by its options. -/
def World.config (w : World m) (i : Invocation) : m (Except Config.LoadError Config) := do
  let change (c : Config) : Config := (c.withDialect i.dialect).withMode i.mode
  match i.config with
  | some path => return (Config.load (← w.file path)).map change
  | none => return .ok (change {})

/-- The bytes of a script. -/
def World.script (w : World m) (path : String) : m (Option (List UInt8)) := do
  if path == "-" then return some (← w.input) else w.file path

/-- The end of a command that needs the text of a whole script. -/
def World.withText (w : World m) (path : String) (use : String → Ended) : m Ended := do
  match ← w.script path with
  | none => return .failed ("Failed to read " ++ path)
  | some bytes =>
    match Text.decode bytes with
    | .ok cs => return use (String.ofList cs)
    | .error e => return .failed e.message

/-- Prints the statements of a script. -/
def splitText (c : Config) (json : Bool) (text : String) : Ended :=
  let statements := Script.splitStatements c.mode text
  if json then .json (.ofTexts statements) else .shown (Run.showStatements statements)

/-- The statements of a script with what they ask for. -/
def readings (c : Config) (text : String) : List (String × Run.Reading) :=
  (Script.splitStatements c.mode text).map fun s => (s, Run.Reading.of c.dialect s)

/-- Prints what the statements of a script ask for; as JSON, only the models among it. -/
def parseText (c : Config) (json : Bool) (text : String) : Ended :=
  let items := readings c text
  if json then
    let models := items.filterMap fun (_, r) => match r with
      | .model model => some model
      | _ => none
    .json (.array (models.map Model.toJson))
  else .shown (Run.showReadings items)

/-- The end of a run. -/
def ranTo (path : String) (json : Bool) (runId startedAt : String) :
    Except Run.Failure (List Run.Outcome) → Ended
  | .ok outcomes =>
    if json then .json (Run.reportJson runId startedAt outcomes)
    else .shown (Run.showRun runId outcomes)
  | .error f =>
    let report := f.report path
    let shown := if json then report.toJson.pretty ++ "\n" else Run.showFailure f.status report
    { code := 1
      err := shown ++ "Error: Script run failed\n\nCaused by:\n    " ++ f.message ++ "\n" }

/-- Runs a script. -/
def World.run (w : World m) (c : Config) (json : Bool) (path : String) : m Ended := do
  match c.processor? (w.send c.backend.timeoutSeconds) with
  | .error f => return .failed f.message
  | .ok processor =>
    match ← w.script path with
    | none => return .failed ("Failed to open " ++ path)
    | some bytes =>
      let (runId, startedAt) ← w.stamp
      let progress ← processor.run { bytes } false
      return ranTo path json runId startedAt progress.result

/-- Does what an invocation asks for. -/
def World.perform (w : World m) (i : Invocation) : m Ended := do
  match ← w.config i with
  | .error .io => return .failed ("Failed to read config file " ++ i.config.getD "")
  | .error .parse => return .failed "Failed to parse config"
  | .ok c =>
    match i.command with
    | .split path => w.withText path (splitText c i.json)
    | .parse path => w.withText path (parseText c i.json)
    | .run path baseUrl token =>
      w.run ((c.withBaseUrl baseUrl).withAuthToken token) i.json path

/-- What the program does with its arguments in an environment. -/
def World.execute (w : World m) (environment : String → Option String) (arguments : List String) :
    m Ended :=
  match Invocation.of environment arguments with
  | .error e => return e.ended
  | .ok i => w.perform i

end TableFeed.Cli
