import TableFeed.Toml.Table

/-!
# Records in a configuration text

A record is read from a table by the names of its fields, or from an array by their order. A
field that is missing keeps the value that it has anyway; what is there beyond the fields is
passed over.

    [backend]                  backend = ["http://a"]
    base_url = "http://a"
-/

namespace TableFeed.Toml

/-- The tables that a header with two brackets has begun, in order. -/
def tableItems (last : Entries) (before : List Entries) : List Value :=
  (last :: before).reverse.map (.table .header ·)

/-- The fields of a record with some field names. A moment is a record without any of them. -/
def record? (names : List String) : Value → Option Entries
  | .table _ entries => some entries
  | .inline entries => some entries
  | .array items => some (names.zip items)
  | .tables last before => some (names.zip (tableItems last before))
  | .moment => some []
  | _ => none

/-- A field that `read` reads, or `default` if it is missing. -/
def field? {α : Type} (entries : Entries) (name : String) (default : α) (read : Value → Option α) :
    Option α :=
  match lookup name entries with
  | some v => read v
  | none => some default

/-- A text. -/
def asText? : Value → Option String
  | .text s => some s
  | _ => none

/-- A whole number that is not negative. -/
def asNat? : Value → Option Nat
  | .integer (.ofNat n) => some n
  | _ => none

/-- Whether a value holds nothing. -/
def isVoid : Value → Bool
  | .array [] | .inline [] | .table _ [] => true
  | _ => false

/-- The name of a choice: a text, or the only key of a table, with nothing behind it. -/
def asName? : Value → Option String
  | .text s => some s
  | .inline [(k, v)] => if isVoid v then some k else none
  | .table _ [(k, v)] => if isVoid v then some k else none
  | _ => none

end TableFeed.Toml
