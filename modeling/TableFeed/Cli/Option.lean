/-!
# Options of the command line

An option has a long name and perhaps a letter. Letters may be written together; the value of an
option follows it, directly, behind a sign of equality, or as the next argument. Everything else
is a name, and so is everything behind two hyphens.

    -vd mysql --token=abc s.sql   ──items──▶   verbose, dialect "mysql", token "abc", name "s.sql"
-/

namespace TableFeed.Cli

/-- An option. -/
inductive Flag where
  | config
  | dialect
  | lineMode
  | json
  | verbose
  | baseUrl
  | token
  | help
  | version
  deriving DecidableEq, Repr

namespace Flag

/-- The long name of an option, behind two hyphens. -/
def long : Flag → String
  | config => "config"
  | dialect => "dialect"
  | lineMode => "line-mode"
  | json => "json"
  | verbose => "verbose"
  | baseUrl => "base-url"
  | token => "token"
  | help => "help"
  | version => "version"

/-- The letter of an option, behind one hyphen. -/
def letter? : Flag → Option Char
  | config => some 'c'
  | dialect => some 'd'
  | lineMode => some 'l'
  | verbose => some 'v'
  | help => some 'h'
  | version => some 'V'
  | _ => none

/-- Whether an option has a value. -/
def hasValue : Flag → Bool
  | config | dialect | lineMode | baseUrl | token => true
  | _ => false

end Flag

/-! ### Items -/

/-- Something that arguments say. -/
inductive Item where
  /-- An option with its value, which is empty if it has none. -/
  | flag (f : Flag) (value : String)
  | name (text : String)
  /-- Arguments that make no sense; what comes behind them does not matter. -/
  | fault
  deriving DecidableEq, Repr

/-- The items of an argument, and the option whose value the next argument is. -/
abbrev Reading : Type := List Item × Option Flag

/-- The items of letters written together. -/
def lettersOf (allowed : List Flag) : List Char → Reading
  | [] => ([], none)
  | c :: cs =>
    match allowed.find? (·.letter? == some c) with
    | none => ([.fault], none)
    | some f =>
      if f.hasValue then
        match cs with
        | [] => ([], some f)
        | '=' :: value => ([.flag f (String.ofList value)], none)
        | value => ([.flag f (String.ofList value)], none)
      else
        let (items, open?) := lettersOf allowed cs
        (.flag f "" :: items, open?)

/-- The items of an argument behind two hyphens. -/
def longOf (allowed : List Flag) (cs : List Char) : Reading :=
  let value := cs.dropWhile (· != '=')
  match allowed.find? (·.long.toList == cs.takeWhile (· != '=')) with
  | none => ([.fault], none)
  | some f =>
    match value, f.hasValue with
    | [], true => ([], some f)
    | [], false => ([.flag f ""], none)
    | _ :: value, true => ([.flag f (String.ofList value)], none)
    | _ :: _, false => ([.fault], none)

/-- Whether an argument is written like an option. -/
def looksLikeOption (argument : String) : Bool :=
  argument.toList.head? == some '-' && argument != "-"

/-- The items of arguments, where `open?` is an option whose value is the first argument. -/
def itemsFrom (allowed : List Flag) : Option Flag → List String → List Item
  | none, [] => []
  | some _, [] => [.fault]
  | some f, a :: rest =>
    if looksLikeOption a then [.fault] else .flag f a :: itemsFrom allowed none rest
  | none, a :: rest =>
    match a.toList with
    | ['-', '-'] => rest.map .name
    | '-' :: '-' :: cs =>
      let (items, open?) := longOf allowed cs
      items ++ itemsFrom allowed open? rest
    | '-' :: c :: cs =>
      let (items, open?) := lettersOf allowed (c :: cs)
      items ++ itemsFrom allowed open? rest
    | _ => .name a :: itemsFrom allowed none rest

/-- The items of arguments. -/
def items (allowed : List Flag) (arguments : List String) : List Item :=
  itemsFrom allowed none arguments

/-! ### The command among the arguments -/

/-- The arguments before the first name, the name, and the arguments behind it. Two hyphens hide
every name behind them. -/
def cutAtName (allowed : List Flag) : Option Flag → List String →
    List String × Option (String × List String)
  | _, [] => ([], none)
  | some _, a :: rest =>
    let (before, behind) := cutAtName allowed none rest
    (a :: before, behind)
  | none, a :: rest =>
    match a.toList with
    | ['-', '-'] => (a :: rest, none)
    | '-' :: '-' :: cs =>
      let (before, behind) := cutAtName allowed (longOf allowed cs).2 rest
      (a :: before, behind)
    | '-' :: c :: cs =>
      let (before, behind) := cutAtName allowed (lettersOf allowed (c :: cs)).2 rest
      (a :: before, behind)
    | _ => ([], some (a, rest))

end TableFeed.Cli
