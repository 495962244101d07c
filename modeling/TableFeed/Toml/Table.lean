/-!
# Tables of a configuration text

A configuration text is a table of tables. Tables come into being in several ways, and the way
decides what may be added later: by a header of their own, on the way to a header deeper down,
or by a dotted key. What a header or a value has defined is never defined again.

    [a.b]          defines  a.b,  and  a  on the way
    [a]            allowed: so far  a  was only on the way
    [a]            refused: now it is defined
-/

namespace TableFeed.Toml

/-- How a table came into being. -/
inductive Origin where
  /-- By a header. -/
  | header
  /-- On the way to a header. -/
  | way
  /-- By a dotted key. -/
  | dotted
  deriving DecidableEq, Repr

/-- Something that a key names. -/
inductive Value where
  | text (s : String)
  | integer (n : Int)
  | float
  | boolean (b : Bool)
  /-- A date, a time or both. -/
  | moment
  | array (items : List Value)
  /-- A table in braces. -/
  | inline (entries : List (String × Value))
  | table (origin : Origin) (entries : List (String × Value))
  /-- Tables that a header with two brackets has begun, the last one first. -/
  | tables (last : List (String × Value)) (before : List (List (String × Value)))
  deriving Repr, Inhabited

/-- The entries of a table. -/
abbrev Entries : Type := List (String × Value)

/-- The entry of a key. -/
def lookup (key : String) : Entries → Option Value
  | [] => none
  | (k, v) :: rest => if k = key then some v else lookup key rest

/-- A table with an entry put in the place of the one that has its key, or at the end. -/
def put (key : String) (v : Value) : Entries → Entries
  | [] => [(key, v)]
  | (k, w) :: rest => if k = key then (k, v) :: rest else (k, w) :: put key v rest

/-! ### Headers -/

/-- Changes the table at a path of header keys, making the tables on the way. -/
def changeAt (change : Entries → Option Entries) : List String → Entries → Option Entries
  | [], entries => change entries
  | key :: path, entries =>
    match lookup key entries with
    | none => (changeAt change path []).map fun inner => put key (.table .way inner) entries
    | some (.table origin inner) =>
      (changeAt change path inner).map fun inner => put key (.table origin inner) entries
    | some (.tables last before) =>
      (changeAt change path last).map fun last => put key (.tables last before) entries
    | some _ => none

/-- A table with a table that a header begins. -/
def beginTable (key : String) (entries : Entries) : Option Entries :=
  match lookup key entries with
  | none => some (put key (.table .header []) entries)
  | some (.table .way inner) => some (put key (.table .header inner) entries)
  | some _ => none

/-- A table with one more table that a header with two brackets begins. -/
def beginItem (key : String) (entries : Entries) : Option Entries :=
  match lookup key entries with
  | none => some (put key (.tables [] []) entries)
  | some (.tables last before) => some (put key (.tables [] (last :: before)) entries)
  | some _ => none

/-! ### Keys -/

/-- A table with a value under a dotted key. The key may lead through tables that dotted keys
have made, through tables on the way to a header and through the last of several tables; but
where it leads, only a table that dotted keys have made takes the value. `takes` says whether
the table at hand does. -/
def defineIn (v : Value) (takes : Bool) : List String → Entries → Option Entries
  | [], _ => none
  | [key], entries =>
    if takes ∧ (lookup key entries).isNone then some (put key v entries) else none
  | key :: path, entries =>
    match lookup key entries with
    | none => (defineIn v true path []).map fun inner => put key (.table .dotted inner) entries
    | some (.table .dotted inner) =>
      (defineIn v true path inner).map fun inner => put key (.table .dotted inner) entries
    | some (.table .way inner) =>
      (defineIn v false path inner).map fun inner => put key (.table .way inner) entries
    | some (.tables last before) =>
      (defineIn v false path last).map fun last => put key (.tables last before) entries
    | some _ => none

/-- A table with a value under a dotted key that begins in the table. -/
def define (v : Value) (path : List String) (entries : Entries) : Option Entries :=
  defineIn v true path entries

end TableFeed.Toml
