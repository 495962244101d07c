import TableFeed.Toml.Scalar

/-!
# Configuration texts

A text is read line by line: headers begin tables, keys define values in the table begun last.
Arrays may run over several lines, tables in braces may not. Arrays and tables may be nested,
but not without end.
-/

namespace TableFeed.Toml

open TableFeed Text Scanner

/-! ### Keys -/

/-- One part of a key. -/
def keyPart : Scanner String := do
  match ← peek with
  | some '"' => do
    mark '"'
    basicText
  | some '\'' => do
    mark '\''
    literalText
  | _ => do
    let cs ← span fun c => c.isAlphanum || c == '_' || c == '-'
    if cs.isEmpty then failure
    return String.ofList cs

/-- How many values may be open inside one another, and how many parts a key may have. -/
def maxNesting : Nat := 79

/-- A key with its parts. -/
def key : Scanner (List String) := do
  spaces
  let first ← keyPart
  spaces
  let others ← collect do
    if ← symbol '.' then
      spaces
      let part ← keyPart
      spaces
      return some part
    return none
  if others.length < maxNesting then return first :: others else failure

/-! ### Values -/

/-- A key with its value. -/
def entryOf (value : Scanner Value) : Scanner (List String × Value) := do
  let k ← key
  mark '='
  spaces
  let v ← value
  spaces
  return (k, v)

/-- The items of an array, behind the opening bracket. -/
def items (value : Scanner Value) : Scanner (List Value) := do
  spacesAndLines
  let found ← collect do
    if (← peek) == some ']' then return none
    let v ← value
    spacesAndLines
    unless ← symbol ',' do
      if (← peek) != some ']' then failure
    spacesAndLines
    return some v
  mark ']'
  return found

/-- The entries of a table in braces, behind the opening one. -/
def braced (value : Scanner Value) : Scanner Entries := do
  spaces
  if ← symbol '\x7d' then return []
  let first ← entryOf value
  let others ← collect do
    if ← symbol ',' then return some (← entryOf value)
    return none
  mark '\x7d'
  match (first :: others).foldlM (fun entries (k, v) => define v k entries) [] with
  | some entries => return entries
  | none => failure

/-- A value in which at most so many others are open. -/
def valueWithin : Nat → Scanner Value
  | 0 => scalar
  | n + 1 => do
    if ← symbol '[' then return .array (← items (valueWithin n))
    else if ← symbol '\x7b' then return .inline (← braced (valueWithin n))
    else scalar

/-- A value. -/
def value : Scanner Value := valueWithin maxNesting

/-! ### Lines -/

/-- What has been read: all tables, and the path of the one begun last. -/
structure State where
  root : Entries := []
  path : List String := []

/-- The last part of a path, and the parts before it. -/
def splitLast (path : List String) : Option (List String × String) :=
  path.getLast?.map fun last => (path.dropLast, last)

/-- A text with one more table, made by `begin`. -/
def State.begin (s : State) (begin : String → Entries → Option Entries) (path : List String) :
    Scanner State :=
  match splitLast path with
  | some (before, last) =>
    match changeAt (begin last) before s.root with
    | some root => return { root, path }
    | none => failure
  | none => failure

/-- A header. -/
def header (s : State) : Scanner State := do
  mark '['
  if ← symbol '[' then
    let path ← key
    marks [']', ']']
    s.begin beginItem path
  else
    let path ← key
    mark ']'
    s.begin beginTable path

/-- A line with a key and a value. -/
def definition (s : State) : Scanner State := do
  let (k, v) ← entryOf value
  match changeAt (define v k) s.path s.root with
  | some root => return { s with root }
  | none => failure

/-- A line without its end. -/
def line (s : State) : Scanner State := do
  spaces
  let s ← match ← peek with
    | some '[' => header s
    | some '#' | some '\n' | some '\r' | none => pure s
    | some _ => definition s
  spaces
  comment
  return s

/-- At most so many lines. -/
def linesFrom : Nat → State → Scanner State
  | 0, s => return s
  | n + 1, s => do
    let s ← line s
    if (← rest).isEmpty then return s
    newline
    linesFrom n s

/-- The sign that may stand in front of a text. -/
def byteOrderMark : Char := Char.ofNat 0xFEFF

/-- The tables of a configuration text. -/
def ofText? (text : String) : Option Entries :=
  let cs := text.toList
  let cs := if cs.head? = some byteOrderMark then cs.tail else cs
  (runAll (linesFrom (cs.length + 1) {}) cs).map State.root

end TableFeed.Toml
