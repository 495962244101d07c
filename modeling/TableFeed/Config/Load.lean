import TableFeed.Config.Basic
import TableFeed.Text.Utf8
import TableFeed.Toml.Document
import TableFeed.Toml.Record

/-!
# Loading a configuration

A configuration is loaded from a text with three tables. What the text leaves out keeps its
value.

    [parser]      dialect = "mysql"
    [segmenter]   line_mode = "continuous"
    [backend]     base_url = "http://localhost:8080/v1"   auth_token = "…"   timeout_seconds = 30
-/

namespace TableFeed.Config

open TableFeed

/-- The dialect that a table for the parser names. -/
def readDialect (v : Toml.Value) : Option Sql.Dialect := do
  let fields ← Toml.record? ["dialect"] v
  Toml.field? fields "dialect" .generic fun v => (Toml.asName? v).bind Sql.Dialect.ofName?

/-- The line mode that a table for the segmenter names. -/
def readMode (v : Toml.Value) : Option Script.LineMode := do
  let fields ← Toml.record? ["line_mode"] v
  Toml.field? fields "line_mode" .resetPerLine fun v =>
    (Toml.asName? v).bind Script.LineMode.ofName?

/-- The service that a table describes. -/
def readBackend (v : Toml.Value) : Option Backend := do
  let fields ← Toml.record? ["base_url", "auth_token", "timeout_seconds"] v
  let usual : Backend := {}
  let baseUrl ← Toml.field? fields "base_url" usual.baseUrl Toml.asText?
  let authToken ← Toml.field? fields "auth_token" usual.authToken fun v =>
    (Toml.asText? v).map some
  let timeoutSeconds ← Toml.field? fields "timeout_seconds" usual.timeoutSeconds Toml.asNat?
  return { baseUrl, authToken, timeoutSeconds }

/-- The configuration that a text describes. -/
def ofText? (text : String) : Option Config := do
  let entries ← Toml.ofText? text
  let usual : Config := {}
  let dialect ← Toml.field? entries "parser" usual.dialect readDialect
  let mode ← Toml.field? entries "segmenter" usual.mode readMode
  let backend ← Toml.field? entries "backend" usual.backend readBackend
  return { dialect, mode, backend }

/-- Why a configuration could not be loaded. -/
inductive LoadError where
  /-- There is no file, or it holds no text. -/
  | io
  /-- The text is no configuration. -/
  | parse
  deriving DecidableEq, Repr

/-- The configuration in a file with some bytes; no bytes if there is no file. -/
def load (file : Option (List UInt8)) : Except LoadError Config :=
  match file.map Text.decode with
  | some (.ok cs) =>
    match ofText? (String.ofList cs) with
    | some c => .ok c
    | none => .error .parse
  | _ => .error .io

end TableFeed.Config
