/-!
# JSON values

A value with its fields in the order in which they are written. Records are read from a value
by the names of their fields: from an object, whose order and further fields do not matter, or
from an array that holds exactly the values of the fields in their order.
-/

namespace TableFeed

/-- A JSON value. The number with mantissa `m` and `e` places is `m / 10^e`. -/
inductive Json where
  | null
  | bool (value : Bool)
  | number (mantissa : Int) (places : Nat)
  | text (value : String)
  | array (items : List Json)
  | object (fields : List (String × Json))
  deriving Repr, Inhabited

namespace Json

/-- A whole number. -/
def ofNat (n : Nat) : Json := .number n 0

/-- A text, or null for a missing one. -/
def ofText? : Option String → Json
  | some s => .text s
  | none => .null

/-- Several texts. -/
def ofTexts (ts : List String) : Json := .array (ts.map .text)

/-- The first field of some name. -/
def lookup (name : String) : List (String × Json) → Option Json
  | [] => none
  | (key, v) :: fields => if key = name then some v else lookup name fields

/-- The fields of a record with some field names. -/
def record? (names : List String) : Json → Option (List (String × Json))
  | .object fields => some fields
  | .array items => if items.length = names.length then some (names.zip items) else none
  | _ => none

/-! ### Reading simple values -/

/-- A text. -/
def asText? : Json → Option String
  | .text s => some s
  | _ => none

/-- A truth value. -/
def asBool? : Json → Option Bool
  | .bool b => some b
  | _ => none

/-- A whole number up to `limit`. -/
def asNat? (limit : Nat) : Json → Option Nat
  | .number (.ofNat n) 0 => if n ≤ limit then some n else none
  | _ => none

/-- A list, each of whose items `read` can read. -/
def asList? {α : Type} (read : Json → Option α) : Json → Option (List α)
  | .array items => items.mapM read
  | _ => none

/-- A text, or none for null. -/
def asOptionalText? : Json → Option (Option String)
  | .null => some none
  | .text s => some (some s)
  | _ => none

/-- A field that must be there. -/
def field? {α : Type} (fields : List (String × Json)) (name : String) (read : Json → Option α) :
    Option α :=
  (lookup name fields).bind read

/-- A text that may be null or left out. -/
def optionalText? (fields : List (String × Json)) (name : String) : Option (Option String) :=
  match lookup name fields with
  | some v => asOptionalText? v
  | none => some none

end Json

end TableFeed
