import TableFeed.Url.Percent

/-!
# Paths

A path is cut into segments at slashes, forward or backward. A segment of one dot is dropped,
one of two dots takes the segment before it away; a dot may be written `%2e`. Where the last
segment goes that way, an empty one takes its place.

    /a/./b/../c   ⟶   /a/c          /a/..   ⟶   /
-/

namespace TableFeed.Url

/-- A segment of a path. -/
abbrev Segment : Type := List Char

/-- A slash of either kind. -/
def isSlash (c : Char) : Bool := c == '/' || c == '\\'

/-- The pieces between the characters for which `stops` holds. -/
def pieces (stops : Char → Bool) : List Char → List Segment
  | [] => [[]]
  | c :: cs =>
    match pieces stops cs with
    | [] => [[c]]
    | p :: ps => if stops c then [] :: p :: ps else (c :: p) :: ps

/-- A segment with every `%2e` written as a dot. -/
def withDots : Segment → Segment
  | '%' :: '2' :: c :: rest =>
    if c = 'e' ∨ c = 'E' then '.' :: withDots rest else '%' :: '2' :: c :: withDots rest
  | c :: rest => c :: withDots rest
  | [] => []

/-- A segment that stands for the place where it is. -/
def isHere (s : Segment) : Bool := withDots s == ['.']

/-- A segment that stands for the place one step up. -/
def isUp (s : Segment) : Bool := withDots s == ['.', '.']

/-- A path with more segments, in which dots are followed. -/
def resolve (path : List Segment) : List Segment → List Segment
  | [] => path
  | [s] =>
    if isUp s then path.dropLast ++ [[]]
    else if isHere s then path ++ [[]]
    else path ++ [s]
  | s :: rest =>
    resolve (if isUp s then path.dropLast else if isHere s then path else path ++ [s]) rest

/-- The segments of the path in an address. The slash that begins it belongs to no segment. -/
def segmentsOf (cs : List Char) : List Segment :=
  let behind := match cs with
    | c :: rest => if isSlash c then rest else cs
    | [] => []
  resolve [] ((pieces isSlash behind).map (escaped keptInPath))

/-- A path as it is written. -/
def pathText (path : List Segment) : List Char := path.flatMap fun s => '/' :: s

end TableFeed.Url
