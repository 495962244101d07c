import TableFeed.Json.Compact
import TableFeed.Service.Client
import TableFeed.Text.Blank
import TableFeed.Text.Casing

/-!
# Messages on the wire

A request is a line with its target, some headers, an empty line and the body. An answer begins
in the same way; its headers say where its body ends: after so many bytes, with an empty chunk,
or where the connection is closed. One connection carries one request.

    HTTP/1.1 200 OK ⏎  content-length: 2 ⏎  ⏎  ok      ──exchange?──▶   answered 200 "ok"
-/

namespace TableFeed.Http

open TableFeed Service

/-! ### Requests -/

/-- Characters as bytes. -/
def bytesOf (s : String) : List UInt8 := Text.encode s.toList

/-- The port to which requests go if an address names none. -/
def usualPort (u : Url) : Nat := if u.secure then 443 else 80

/-- The host of an address with its port, if that is not the usual one. -/
def hostHeader (u : Url) : String :=
  let port := u.port.getD (usualPort u)
  String.ofList u.host ++ if port = usualPort u then "" else ":" ++ toString port

/-- A request as bytes. -/
def requestBytes (r : Request) : List UInt8 :=
  let body := bytesOf r.body.compact
  let authorization := match r.authorization with
    | some a => "authorization: " ++ a ++ "\r\n"
    | none => ""
  bytesOf ("POST " ++ r.url.target ++ " HTTP/1.1\r\n" ++ authorization ++
    "content-type: " ++ Request.contentType ++ "\r\naccept: */*\r\nhost: " ++ hostHeader r.url ++
    "\r\nconnection: close\r\ncontent-length: " ++ toString body.length ++ "\r\n\r\n") ++ body

/-! ### Heads -/

/-- What the head of an answer says. -/
structure Head where
  status : Nat
  length : Option Nat := none
  chunked : Bool := false
  deriving DecidableEq, Repr

/-- The line that begins some bytes, without its end, and what follows it. -/
def line? : List UInt8 → Option (List UInt8 × List UInt8)
  | [] => none
  | 10 :: rest => some ([], rest)
  | b :: rest => (line? rest).map fun (l, rest) => (b :: l, rest)

/-- A line as text, without blanks around it. -/
def lineText (l : List UInt8) : String := Text.trimmed (String.ofList (Text.decodeLossy l))

/-- A number in decimal digits. -/
def number? (s : String) : Option Nat :=
  let ds := s.toList
  if ds.isEmpty || !ds.all Char.isDigit then none
  else some (ds.foldl (fun n c => n * 10 + (c.toNat - 48)) 0)

/-- The status in the first line of an answer. -/
def status? (l : List UInt8) : Option Nat :=
  let s := lineText l
  if "HTTP/1.".toList.isPrefixOf s.toList then
    number? (String.ofList ((s.toList.drop 9).take 3))
  else none

/-- A head with one more header. -/
def Head.withHeader (h : Head) (l : List UInt8) : Head :=
  let s := lineText l
  let name := Text.lowered (String.ofList (s.toList.takeWhile (· != ':')))
  let value := Text.lowered (Text.trimmed (String.ofList ((s.toList.dropWhile (· != ':')).drop 1)))
  if name == "content-length" then { h with length := number? value }
  else if name == "transfer-encoding" then { h with chunked := value == "chunked" }
  else h

/-- The headers up to the empty line, of which there are at most so many. -/
def headers? : Nat → Head → List UInt8 → Option (Head × List UInt8)
  | 0, _, _ => none
  | n + 1, h, bytes =>
    match line? bytes with
    | none => none
    | some (l, rest) =>
      if lineText l == "" then some (h, rest) else headers? n (h.withHeader l) rest

/-- The head of an answer and what follows it. Heads that only announce an answer are passed
over. -/
def head? : Nat → List UInt8 → Option (Head × List UInt8)
  | 0, _ => none
  | n + 1, bytes => do
    let (l, rest) ← line? bytes
    let status ← status? l
    let (h, rest) ← headers? (rest.length + 1) { status } rest
    if 100 ≤ status ∧ status < 200 then head? n rest else return (h, rest)

/-! ### Bodies -/

/-- The value of hexadecimal digits. -/
def hexNumber? (s : String) : Option Nat :=
  if s == "" then none
  else s.toList.foldlM (fun n c => (Url.hexValue? c).map (n * 16 + ·)) 0

/-- The body in chunks, of which there are at most so many. -/
def chunks? : Nat → List UInt8 → Option (List UInt8)
  | 0, _ => none
  | n + 1, bytes => do
    let (l, rest) ← line? bytes
    let size ← hexNumber? (Text.trimmed (String.ofList ((lineText l).toList.takeWhile (· != ';'))))
    if size = 0 then return []
    else if rest.length < size + 2 then none
    else return rest.take size ++ (← chunks? n (rest.drop (size + 2)))

/-- The body that a head announces, if all of it has come. -/
def body? (h : Head) (closed : Bool) (bytes : List UInt8) : Option (List UInt8) :=
  if h.status = 204 ∨ h.status = 304 then some []
  else if h.chunked then chunks? (bytes.length + 1) bytes
  else
    match h.length with
    | some n => if n ≤ bytes.length then some (bytes.take n) else none
    | none => if closed then some bytes else none

/-- What the bytes of an answer stand for, `closed` if no more will come; nothing as long as it
depends on more. -/
def exchange? (closed : Bool) (bytes : List UInt8) : Option Exchange :=
  match head? 8 bytes with
  | none => if closed then some (.unanswered "connection closed before message completed") else none
  | some (h, rest) =>
    match body? h closed rest with
    | some body => some (.answered h.status body)
    | none => if closed then some (.truncated "end of file before message length reached") else none

end TableFeed.Http
