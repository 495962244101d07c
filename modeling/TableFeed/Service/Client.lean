import TableFeed.Json.Basic
import TableFeed.Service.Handler
import TableFeed.Text.Utf8
import TableFeed.Url.Address

/-!
# Clients

A client sends JSON to a service and makes a reply of what comes back. How a request travels is
left to a `Transport`, which also follows redirects; the client says what is sent and what each way
of coming back means.

    path, payload ──▶ request ──transport──▶ exchange ──▶ reply
-/

namespace TableFeed.Service

open TableFeed

/-! ### Requests -/

/-- A request that carries JSON. Its method is `POST`. -/
structure Request where
  url : Url
  authorization : Option String
  body : Json

/-- The type of content that every request carries. -/
def Request.contentType : String := "application/json"

/-- What comes of a request in the end. An answer is a final one: it has no `Location` header that
is left to follow. The requests that redirects lead to on the way to it are not among those the
client makes. -/
inductive Exchange where
  /-- An answer that was read to its end. -/
  | answered (status : Nat) (body : List UInt8)
  /-- No answer came. -/
  | unanswered (detail : String)
  /-- An answer broke off. -/
  | truncated (detail : String)
  /-- The run was cancelled before an answer came. -/
  | interrupted
  deriving DecidableEq, Repr, Inhabited

/-- The way that requests go. -/
abbrev Transport (m : Type → Type) : Type := Request → m Exchange

/-- The reply that an exchange stands for. -/
def Exchange.reply : Exchange → Reply
  | answered status body =>
    let text := String.ofList (Text.decodeLossy body)
    { result := if isSuccess status then .ok (.ok text) else .error (.backend status text) }
  | unanswered detail => { result := .error (.network ("Request failed: " ++ detail)) }
  | truncated detail => { result := .error (.network ("Failed to read response: " ++ detail)) }
  | interrupted => { result := .error .cancelled, cancels := true }

/-! ### Clients -/

/-- A client. -/
structure Client where
  /-- The address to which paths are appended. -/
  baseUrl : String
  token : Option String := none
  deriving DecidableEq, Repr

namespace Client

/-- A text without the slashes at its end. -/
def withoutSlashes (s : String) : String :=
  String.ofList ((s.toList.reverse.dropWhile (· == '/')).reverse)

/-- The client for a service at some address. -/
def forService (address : String) (token : Option String) : Client :=
  { baseUrl := withoutSlashes address, token }

/-- Whether a character may stand in a header. -/
def isHeaderChar (c : Char) : Bool := c == '\t' || (0x20 ≤ c.toNat && c.toNat ≠ 0x7F)

/-- The request that sends some JSON to a path. There is none if the address is none, or if the
token may not stand in a header. -/
def request? (c : Client) (path : String) (payload : Json) : Option Request := do
  let url ← Url.ofText? (c.baseUrl ++ path)
  if c.token.all fun t => t.toList.all isHeaderChar then
    return { url, authorization := c.token.map ("Bearer " ++ ·), body := payload }
  else none

/-- Sends some JSON to a path, unless the run is cancelled. -/
def post {m : Type → Type} [Monad m] (c : Client) (send : Transport m) (path : String)
    (payload : Json) (cancelled : Bool) : m Reply :=
  if cancelled then return { result := .error .cancelled }
  else
    match c.request? path payload with
    | none => return Exchange.reply (.unanswered "builder error")
    | some r => return (← send r).reply

end Client

end TableFeed.Service
