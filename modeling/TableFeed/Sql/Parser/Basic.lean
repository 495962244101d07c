import TableFeed.Sql.Rules
import TableFeed.Sql.Tree

/-!
# Reading tokens

A reader starts at a position among the tokens of a text and gives a result or fails with a
message; either way it ends at a position, behind the tokens that it has taken. The tokens
themselves stay as they are, so going back is nothing but using an earlier position. A reader that
fails does not go back by itself: `attempt` goes back, `result` does not.

    position  ──p──▶  (a result or a message,  the position behind what was taken)

Two limits go with every reader. `depth` is how many statements, queries and expressions may
still be opened inside one another; a text that exceeds it is refused. `bound` is larger than
the number of tokens; it bounds every repetition, and no repetition reaches it, because each
round takes a token.
-/

namespace TableFeed.Sql

/-- Where an expression stands, as far as that changes how it is read. -/
inductive Setting where
  | plain
  /-- In an option of a column, where `NOT NULL` and `COLLATE` do not belong to an expression. -/
  | column
  /-- Behind `CONNECT BY`, where `PRIOR` is an operator. -/
  | hierarchy
  deriving DecidableEq, Repr

/-- What a reader knows besides its position. -/
structure Env where
  rules : Rules
  /-- All tokens of the text. -/
  tokens : List Lexeme
  /-- How many more forms may be opened inside one another. -/
  depth : Nat
  /-- More than the number of tokens. -/
  bound : Nat
  setting : Setting := .plain

/-- A reader. -/
abbrev Read (α : Type) : Type := ReaderT Env (ExceptT SyntaxError (StateM Nat)) α

namespace Read

/-- The decisions of the dialect. -/
def rules : Read Rules := do return (← read).rules

/-- The tokens that are left. -/
def rest : Read (List Lexeme) := do return (← read).tokens.drop (← get)

/-- Whether the dialect decides for something. -/
def allows (question : Rules → Bool) : Read Bool := do return question (← rules)

/-! ### Failing -/

/-- A message about the next token, if its place is known. -/
def failAt {α : Type} (text : String) (tokens : List Lexeme) : Read α :=
  throw (.message text (tokens.head?.map (·.place)))

/-- A message about the next token. -/
def failHere {α : Type} (text : String) : Read α := do failAt text (← rest)

/-- Something else was expected than the first of some tokens. -/
def expectedAt {α : Type} (what : String) (tokens : List Lexeme) : Read α :=
  let found := match tokens with
    | [] => "EOF"
    | l :: _ => l.token.text
  failAt ("Expected: " ++ what ++ ", found: " ++ found) tokens

/-- Something else was expected than the next token. -/
def expected {α : Type} (what : String) : Read α := do expectedAt what (← rest)

/-- What `p` reads, or nothing and no token taken if it fails. Only a text that is nested too
deeply fails for good. -/
def attempt {α : Type} (p : Read α) : Read (Option α) := fun env start =>
  match p env start with
  | (.ok a, pos) => (.ok (some a), pos)
  | (.error .tooDeep, pos) => (.error .tooDeep, pos)
  | (.error (.message _ _), _) => (.ok none, start)

/-- The result of `p`, with its failure as a value; what it has taken stays taken. -/
def result {α : Type} (p : Read α) : Read (Except SyntaxError α) := fun env start =>
  let (r, pos) := p env start
  (.ok r, pos)

/-- The result of `p`, with its failure as a value and no token taken then. -/
def outcome {α : Type} (p : Read α) : Read (Except SyntaxError α) := fun env start =>
  match p env start with
  | (.ok a, pos) => (.ok (.ok a), pos)
  | (.error e, _) => (.ok (.error e), start)

/-- What `p` reads, or nothing if it fails; what it has taken stays taken. -/
def orNothing {α : Type} (p : Read α) : Read (Option α) := do
  return match ← result p with
    | .ok a => some a
    | .error _ => none

/-- Opens a form inside the forms that are open. -/
def nest {α : Type} (p : Read α) : Read α := fun env start =>
  match env.depth with
  | 0 => (.error .tooDeep, start)
  | d + 1 => p { env with depth := d } start

/-- Reads as in another place. -/
def within {α : Type} (place : Setting) (p : Read α) : Read α := fun env start =>
  p { env with setting := place } start

/-- Whether an expression is read as in that place. -/
def isWithin (place : Setting) : Read Bool := do return (← read).setting == place

/-! ### Looking ahead -/

/-- The token with `n` others before it. -/
def peek (n : Nat) : Read (Option Token) := do return ((← rest)[n]?).map (·.token)

/-- The keyword that the token with `n` others before it spells. -/
def keywordAt (n : Nat) : Read String := do
  return match ← peek n with
    | some t => t.keyword
    | none => ""

/-- Whether the next token is this keyword. -/
def isKeyword (k : String) : Read Bool := do return (← keywordAt 0) == k

/-- Whether the token with `n` others before it is this operator or punctuation mark. -/
def isSymbolAt (n : Nat) (s : String) : Read Bool := do
  return match ← peek n with
    | some (.symbol t) => t == s
    | _ => false

/-- Whether the next token is this operator or punctuation mark. -/
def isSymbol (s : String) : Read Bool := isSymbolAt 0 s

/-- Whether no token is left. -/
def atEnd : Read Bool := do return (← rest).isEmpty

/-! ### Taking tokens -/

/-- Drop a token. -/
def skip : Read Unit := modify (· + 1)

/-- Go to where only these tokens, the last ones of the text, are left. -/
def goTo (left : List Lexeme) : Read Unit := do
  set ((← read).tokens.length - left.length)

/-- Take the next token, whatever it is. -/
def next : Read (Option Token) := do
  let t ← peek 0
  skip
  return t

/-- Go back by one token; `before` are the tokens before some that have been taken. -/
def putBack (before : List Lexeme) : Read Unit := do
  goTo (before.drop (before.length - (← rest).length - 1))

/-- Take the next token, which is not what was expected. -/
def refuse {α : Type} (what : String) : Read α := do
  let here ← rest
  skip
  expectedAt what here

/-- Take this keyword, if it comes next. -/
def keyword (k : String) : Read Bool := do
  if ← isKeyword k then
    skip
    return true
  return false

/-- The tokens behind some keywords, if all of them come next. -/
def afterKeywords : List String → List Lexeme → Option (List Lexeme)
  | [], tokens => some tokens
  | _ :: _, [] => none
  | k :: ks, l :: tokens => if l.token.keyword == k then afterKeywords ks tokens else none

/-- Take these keywords, if all of them come next. -/
def keywords (ks : List String) : Read Bool := do
  match afterKeywords ks (← rest) with
  | some tokens =>
    goTo tokens
    return true
  | none => return false

/-- Whether these keywords come next. -/
def areKeywords (ks : List String) : Read Bool := do
  return (afterKeywords ks (← rest)).isSome

/-- Take the first of some sequences of keywords that comes next, and give it. -/
def firstOf : List (List String) → Read (Option (List String))
  | [] => return none
  | ks :: others => do
    if ← keywords ks then return some ks
    firstOf others

/-- Take the first of some sequences of keywords that comes next, and say whether any does. -/
def anyOf (sequences : List (List String)) : Read Bool := do
  return (← firstOf sequences).isSome

/-- Read on behind the first of some sequences of keywords that comes next and is allowed. The
keywords of one that is not are taken all the same. -/
def choose {α : Type} : List (List String × Bool × Read α) → Read (Option α)
  | [] => return none
  | (ks, allowed, p) :: others => do
    if (← keywords ks) && allowed then return some (← p)
    choose others

/-- Take one of these keywords, if one comes next. -/
def oneOf (ks : List String) : Read (Option String) := do
  let k ← keywordAt 0
  if k ≠ "" && ks.contains k then
    skip
    return some k
  return none

/-- Take this operator or punctuation mark, if it comes next. -/
def symbol (s : String) : Read Bool := do
  if ← isSymbol s then
    skip
    return true
  return false

/-- Take this keyword, which must come next. -/
def expectKeyword (k : String) : Read Unit := do
  unless ← keyword k do expected k

/-- Take these keywords, which must come next. -/
def expectKeywords : List String → Read Unit
  | [] => pure ()
  | k :: ks => do
    expectKeyword k
    expectKeywords ks

/-- Take one of these keywords, which must come next. -/
def expectOneOf (ks : List String) : Read String := do
  match ← oneOf ks with
  | some k => return k
  | none => expected ("one of " ++ " or ".intercalate ks)

/-- Take this operator or punctuation mark, which must come next. -/
def expectSymbol (s : String) : Read Unit := do
  unless ← symbol s do expected s

/-! ### Questions that take tokens -/

/-- The answer of `p`, which is not asked unless `allowed`. -/
def only (allowed : Bool) (p : Read Bool) : Read Bool := do
  if allowed then p else return false

/-- Whether both answer with yes; `q` is asked only after `p` has. -/
def both (p q : Read Bool) : Read Bool := do
  only (← p) q

/-- Whether one answers with yes; `q` is asked only if `p` has not. -/
def either (p q : Read Bool) : Read Bool := do
  if ← p then return true
  q

/-! ### Repetition -/

/-- Change a value as long as `step` gives a new one, at most `n` times. -/
def repeatedly {α : Type} (step : α → Read (Option α)) : Nat → α → Read α
  | 0, a => pure a
  | n + 1, a => do
    match ← step a with
    | some b => repeatedly step n b
    | none => return a

/-- Change a value as long as `step` gives a new one. -/
def iterate {α : Type} (a : α) (step : α → Read (Option α)) : Read α := do
  repeatedly step (← read).bound a

/-- All results of `p`, as long as it gives one. -/
def many {α : Type} (p : Read (Option α)) : Read (List α) := do
  let found ← iterate [] fun (done : List α) => do
    return (← p).map (· :: done)
  return found.reverse

/-- One `p` and any number of others, with commas between them. -/
def oneAndOthers {α : Type} (p : Read α) : Read (α × List α) := do
  let first ← p
  let others ← many do
    if ← symbol "," then return some (← p)
    return none
  return (first, others)

/-- One `p` and any number of others, with commas between them, as one list. -/
def commaSeparated {α : Type} (p : Read α) : Read (List α) := do
  let (first, others) ← oneAndOthers p
  return first :: others

/-- Any number of `p` with commas between them, before the closing mark `close`. -/
def commaSeparated0 {α : Type} (p : Read α) (close : String) : Read (List α) := do
  if ← isSymbol close then return []
  commaSeparated p

/-- What `p` reads between parentheses. -/
def inParens {α : Type} (p : Read α) : Read α := do
  expectSymbol "("
  let a ← p
  expectSymbol ")"
  return a

/-- Take what `p` reads and forget it. -/
def ignore {α : Type} (p : Read α) : Read Unit := do
  let _ ← p

/-- What `p` reads, if `question` is answered with yes. -/
def whenTaken {α : Type} (question : Read Bool) (p : Read α) : Read (Option α) := do
  if ← question then return some (← p)
  return none

end Read

end TableFeed.Sql
