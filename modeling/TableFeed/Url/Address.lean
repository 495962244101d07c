import TableFeed.Url.Path

/-!
# Addresses

The address of a service on the web: whether the way to it is secure, its host and port, the
path and the query. Blanks around an address and line ends in it are passed over, and so is a
fragment.

    http://host:8080/v1/tables?x=1#top
           ├──┘ ├──┘├────────┘ └─┤
           host port path        query
-/

namespace TableFeed

open TableFeed

/-- The address of a service. -/
structure Url where
  secure : Bool
  host : List Char
  port : Option Nat
  path : List Url.Segment
  query : Option (List Char)
  deriving DecidableEq, Repr

namespace Url

/-- A blank or a control character. -/
def isTrimmed (c : Char) : Bool := c.toNat ≤ 0x20

/-- An address without the blanks around it, and without tabs and line ends. -/
def cleaned (cs : List Char) : List Char :=
  let inner := ((cs.dropWhile isTrimmed).reverse.dropWhile isTrimmed).reverse
  inner.filter fun c => c != '\t' && c != '\n' && c != '\r'

/-- Whether an address is a secure one, and what comes behind the colon. -/
def scheme? (cs : List Char) : Option (Bool × List Char) :=
  if (cs.take 5).map Char.toLower = "http:".toList then some (false, cs.drop 5)
  else if (cs.take 6).map Char.toLower = "https:".toList then some (true, cs.drop 6)
  else none

/-- The characters behind the last `c`, or all of them. -/
def behindLast (c : Char) (cs : List Char) : List Char := (cs.reverse.takeWhile (· != c)).reverse

/-- Whether a character may not stand in the name of a host. -/
def isForbidden (c : Char) : Bool :=
  c.toNat ≤ 0x20 || c.toNat == 0x7F ||
    ['#', '%', '/', ':', '<', '>', '?', '@', '[', '\\', ']', '^', '|'].contains c

/-- A host, if some characters may be one. -/
def hostOf? (cs : List Char) : Option (List Char) :=
  if cs.isEmpty || cs.any isForbidden then none else some (cs.map Char.toLower)

/-- A port, if some characters begin with a colon and a number. -/
def portOf? : List Char → Option (Option Nat)
  | [] => some none
  | ':' :: ds =>
    if !ds.all Char.isDigit then none
    else if ds.isEmpty then some none
    else
      let n := ds.foldl (fun n c => n * 10 + (c.toNat - 48)) 0
      if n < 65536 then some (some n) else none
  | _ => none

/-- The host and the port in an address. -/
def hostAndPort? (cs : List Char) : Option (List Char × Option Nat) := do
  let cs := behindLast '@' cs
  if cs.head? = some '[' then
    let inner := cs.tail.takeWhile (· != ']')
    let port ← portOf? ((cs.tail.dropWhile (· != ']')).drop 1)
    if inner.all (fun c => (hexValue? c).isSome || c == ':' || c == '.') && cs.contains ']' then
      return ('[' :: inner.map Char.toLower ++ [']'], port)
    else none
  else
    let host ← hostOf? (cs.takeWhile (· != ':'))
    let port ← portOf? (cs.dropWhile (· != ':'))
    return (host, port)

/-- Whether a character ends the host and the port. -/
def endsHost (c : Char) : Bool := isSlash c || c == '?' || c == '#'

/-- The address that a text is. -/
def ofText? (text : String) : Option Url := do
  let (secure, cs) ← scheme? (cleaned text.toList)
  let cs := cs.dropWhile isSlash
  let (host, port) ← hostAndPort? (cs.takeWhile fun c => !endsHost c)
  let cs := (cs.dropWhile fun c => !endsHost c).takeWhile (· != '#')
  let query := match cs.dropWhile (· != '?') with
    | _ :: q => some (escaped keptInQuery q)
    | [] => none
  return { secure, host, port, path := segmentsOf (cs.takeWhile (· != '?')), query }

/-- What a request to an address names in its first line. -/
def target (u : Url) : String :=
  String.ofList (pathText u.path ++ match u.query with
    | some q => '?' :: q
    | none => [])

end Url

end TableFeed
