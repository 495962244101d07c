import TableFeed.Json.Pretty

/-!
# JSON without blanks

The form in which values are sent: the same texts and numbers as in the printed form, with
nothing between them.

    {"a": [1, "x"]}   ──compact──▶   {"a":[1,"x"]}
-/

namespace TableFeed.Json

mutual

/-- A value without blanks. -/
def compact : Json → String
  | .null => "null"
  | .bool true => "true"
  | .bool false => "false"
  | .number m e => numberText m e
  | .text s => quoted s
  | .array items => "[" ++ ",".intercalate (compactItems items) ++ "]"
  | .object fields => "\x7b" ++ ",".intercalate (compactFields fields) ++ "\x7d"

/-- Several values. -/
def compactItems : List Json → List String
  | [] => []
  | v :: vs => compact v :: compactItems vs

/-- Several fields. -/
def compactFields : List (String × Json) → List String
  | [] => []
  | (key, v) :: fields => (quoted key ++ ":" ++ compact v) :: compactFields fields

end

end TableFeed.Json
