import TableFeed.Json.Basic
import TableFeed.Script.LineMode
import TableFeed.Sql.Dialect
import TableFeed.Text.Blank

/-!
# Configurations

A configuration says how scripts are read and which service takes their models. Everything in
it has a value to begin with. The address of the service is only looked at when it is needed:
blanks around it do not matter, and it has to be one of HTTP.
-/

namespace TableFeed

/-- The service that takes the models of a script. -/
structure Backend where
  baseUrl : String := "http://localhost:8080"
  /-- A token that every request carries. -/
  authToken : Option String := none
  timeoutSeconds : Nat := 30
  deriving DecidableEq, Repr

/-- A configuration. -/
structure Config where
  dialect : Sql.Dialect := .generic
  mode : Script.LineMode := .resetPerLine
  backend : Backend := {}
  deriving DecidableEq, Repr

namespace Config

/-! ### Changes -/

/-- With another dialect, if there is one. -/
def withDialect (c : Config) (d : Option Sql.Dialect) : Config :=
  { c with dialect := d.getD c.dialect }

/-- With another line mode, if there is one. -/
def withMode (c : Config) (m : Option Script.LineMode) : Config := { c with mode := m.getD c.mode }

/-- With another address, if there is one. -/
def withBaseUrl (c : Config) (url : Option String) : Config :=
  { c with backend := { c.backend with baseUrl := url.getD c.backend.baseUrl } }

/-- With another token, if there is one. -/
def withAuthToken (c : Config) (token : Option String) : Config :=
  { c with backend := { c.backend with authToken := token.or c.backend.authToken } }

/-- With another time to wait, if there is one. -/
def withTimeout (c : Config) (seconds : Option Nat) : Config :=
  { c with backend := { c.backend with timeoutSeconds := seconds.getD c.backend.timeoutSeconds } }

/-! ### Faults -/

/-- What may be wrong with a configuration. -/
inductive Fault where
  | noAddress
  | notHttp (address : String)
  | noTime
  deriving DecidableEq, Repr

/-- What the user is told. -/
def Fault.message (f : Fault) : String :=
  "Invalid configuration: " ++ match f with
    | noAddress => "Backend base_url is required"
    | notHttp address =>
      "Backend base_url must start with http:// or https://, got " ++ address
    | noTime => "Backend timeout_seconds must be greater than zero"

/-- Whether a text begins like an address of HTTP. -/
def isHttp (address : String) : Bool :=
  "http://".toList.isPrefixOf address.toList || "https://".toList.isPrefixOf address.toList

/-- The address of the service without the blanks around it. -/
def address (c : Config) : String := Text.trimmed c.backend.baseUrl

/-- The first thing that is wrong with a configuration. -/
def fault? (c : Config) : Option Fault :=
  if c.address == "" then some .noAddress
  else if !isHttp c.address then some (.notHttp c.address)
  else if c.backend.timeoutSeconds = 0 then some .noTime
  else none

/-! ### Writing -/

/-- A configuration as JSON. -/
def toJson (c : Config) : Json :=
  .object [("parser", .object [("dialect", .text c.dialect.name)]),
    ("segmenter", .object [("line_mode", .text c.mode.name)]),
    ("backend", .object [("base_url", .text c.backend.baseUrl),
      ("auth_token", .ofText? c.backend.authToken),
      ("timeout_seconds", .ofNat c.backend.timeoutSeconds)])]

end Config

end TableFeed
