import TableFeed.Cli.Option
import TableFeed.Script.LineMode
import TableFeed.Sql.Dialect

/-!
# Invocations

What the program is asked to do, read from its arguments and its environment. Options before the
command are for every command; options behind it belong to it. Every option is given at most
once, and what it says must make sense; the first argument that is wrong, or that asks for help
or for the version, decides.

    -d mysql run s.sql --token abc
-/

namespace TableFeed.Cli

open TableFeed

/-- A command with its script, a path or `-`. -/
inductive Command where
  | split (script : String)
  | parse (script : String)
  /-- With an address and a token that count more than the configured ones. -/
  | run (script : String) (baseUrl token : Option String)
  deriving DecidableEq, Repr

/-- What the program is asked to do. -/
structure Invocation where
  /-- The path of a configuration. -/
  config : Option String
  dialect : Option Sql.Dialect
  mode : Option Script.LineMode
  json : Bool
  verbose : Bool
  command : Command
  deriving DecidableEq, Repr

/-- Why there is nothing to do. -/
inductive Ending where
  /-- The arguments make no sense. -/
  | usage
  | help
  | version
  deriving DecidableEq, Repr

/-! ### Options before and behind the command -/

/-- The options for every command. -/
def generalFlags : List Flag := [.config, .dialect, .lineMode, .json, .verbose, .help, .version]

/-- The commands by their names, with their options. -/
def commandFlags? : String → Option (List Flag)
  | "split" | "parse" => some [.help]
  | "run" => some [.baseUrl, .token, .help]
  | _ => none

/-- What arguments have said so far. -/
structure Said where
  values : List (Flag × String) := []
  names : List String := []

/-- The value of an option. -/
def Said.value? (s : Said) (f : Flag) : Option String :=
  (s.values.find? (·.1 == f)).map (·.2)

/-- Whether an option was given. -/
def Said.has (s : Said) (f : Flag) : Bool := (s.value? f).isSome

/-- Whether an option may have a value. -/
def makesSense : Flag → String → Bool
  | .config, value => value != ""
  | .dialect, value => (Sql.Dialect.ofText? value).isSome
  | .lineMode, value => (Script.LineMode.ofText? value).isSome
  | _, _ => true

/-- With one more item, of which at most so many are names. -/
def Said.add (s : Said) (names : Nat) : Item → Except Ending Said
  | .fault => .error .usage
  | .flag .help _ => .error .help
  | .flag .version _ => .error .version
  | .flag f value =>
    if s.has f || !makesSense f value then .error .usage
    else .ok { s with values := s.values ++ [(f, value)] }
  | .name text =>
    if s.names.length < names && text != "" then .ok { s with names := s.names ++ [text] }
    else .error .usage

/-- What some arguments say, with at most so many names among them. -/
def said (allowed : List Flag) (names : Nat) (arguments : List String) : Except Ending Said :=
  (items allowed arguments).foldlM (fun s i => s.add names i) {}

/-- The command of some name with what its arguments say. -/
def Command.of? (name script : String) (baseUrl token : Option String) : Option Command :=
  match name with
  | "split" => some (split script)
  | "parse" => some (parse script)
  | "run" => some (run script baseUrl token)
  | _ => none

/-- An option, or the environment's word for it. -/
def orEnvironment (environment : String → Option String) (given : Option String) (name : String) :
    Option String :=
  given.or (environment name)

/-- What comes of the command `help`, which may be given the name of one command. -/
def askedForHelp : List String → Ending
  | [] => .help
  | [name] => if name == "help" || (commandFlags? name).isSome then .help else .usage
  | _ => .usage

/-- What the arguments of the program ask for. -/
def Invocation.of (environment : String → Option String) (arguments : List String) :
    Except Ending Invocation := do
  let (before, behind) := cutAtName generalFlags none arguments
  let general ← said generalFlags 0 before
  let (name, rest) ← match behind with
    | some (name, rest) => pure (name, rest)
    | none => .error .usage
  if name == "help" then .error (askedForHelp rest)
  let allowed ← match commandFlags? name with
    | some allowed => pure allowed
    | none => .error .usage
  let special ← said allowed 1 rest
  let script ← match special.names with
    | [script] => pure script
    | _ => .error .usage
  let config := orEnvironment environment (general.value? .config) "SQL_INGEST_CONFIG"
  if config == some "" then .error .usage
  let baseUrl := orEnvironment environment (special.value? .baseUrl) "SQL_INGEST_BASE_URL"
  let token := orEnvironment environment (special.value? .token) "SQL_INGEST_TOKEN"
  let command ← match Command.of? name script baseUrl token with
    | some command => pure command
    | none => .error .usage
  return {
    config
    dialect := (general.value? .dialect).bind Sql.Dialect.ofText?
    mode := (general.value? .lineMode).bind Script.LineMode.ofText?
    json := general.has .json
    verbose := general.has .verbose
    command }

end TableFeed.Cli
