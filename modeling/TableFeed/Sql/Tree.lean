import TableFeed.Sql.Token

/-!
# Expressions and queries

The tree of an expression keeps apart the forms that the rest of the program looks into; every
other form is kept as a *layout*: the text it is shown as, with gaps, and the expressions that
stand in the gaps, in the order in which a walk visits them. The two orders differ in a few
forms:

    TRIM(x FROM y)      layout  "TRIM(" ⟨1⟩ " FROM " ⟨0⟩ ")"      parts  y, x

so that showing a form follows the layout and walking it follows the parts.
-/

namespace TableFeed.Sql

/-! ### Names and literals -/

/-- A name and the mark that quotes it, if any. -/
structure Ident where
  text : String
  quote : Option Char := none
  deriving DecidableEq, Repr

/-- The characters of a text with every `quote` doubled, unless it stands doubled already or
behind a backslash. -/
def doubledQuotes (quote : Char) : Char → List Char → List Char
  | _, [] => []
  | before, [c] => if c = quote ∧ before ≠ '\\' then [c, c] else [c]
  | before, c :: d :: rest =>
    if c = quote then
      if before = '\\' then c :: doubledQuotes quote before (d :: rest)
      else if d = quote then c :: d :: doubledQuotes quote c rest
      else c :: c :: doubledQuotes quote c (d :: rest)
    else c :: doubledQuotes quote c (d :: rest)

/-- A text as it stands between two `quote`s. -/
def inQuotes (quote : Char) (text : String) : String :=
  String.ofList (doubledQuotes quote (Char.ofNat 0) text.toList)

/-- A text in single quotes. -/
def quotedText (text : String) : String := "'" ++ inQuotes '\'' text ++ "'"

/-- A name as it is shown. -/
def Ident.render (i : Ident) : String :=
  match i.quote with
  | none => i.text
  | some '[' => "[" ++ i.text ++ "]"
  | some q => q.toString ++ inQuotes q i.text ++ q.toString

/-- The parts of a dotted name as they are shown. -/
def renderName (parts : List Ident) : String := ".".intercalate (parts.map Ident.render)

/-- The parts of a dotted name without quotes. -/
def plainName (parts : List Ident) : String := ".".intercalate (parts.map Ident.text)

/-- A literal value. -/
inductive Literal where
  /-- A number as it was written; `long` if an `L` follows it. -/
  | number (digits : String) (long : Bool)
  | boolean (value : Bool)
  | null
  | quoted (quoting : Quoting) (text : String)
  | dollar (tag : String) (text : String)
  | placeholder (text : String)
  deriving DecidableEq, Repr

/-- A character of an `E` literal. -/
def escapedChar : Char → String
  | '\'' => "\\'"
  | '\\' => "\\\\"
  | '\n' => "\\n"
  | '\t' => "\\t"
  | '\r' => "\\r"
  | c => c.toString

/-- A number in upper case hexadecimal digits, filled up with zeros to a width. -/
def hexDigits (width n : Nat) : String :=
  let digits := (Nat.toDigits 16 n).map Char.toUpper
  String.ofList (List.replicate (width - digits.length) '0' ++ digits)

/-- A character of a `U&` literal. -/
def unicodeChar (c : Char) : String :=
  if c = '\'' then "''"
  else if c = '\\' then "\\\\"
  else if c.toNat < 0x80 then c.toString
  else if c.toNat ≤ 0xFFFF then "\\" ++ hexDigits 4 c.toNat
  else "\\+" ++ hexDigits 6 c.toNat

/-- A literal as it is shown. -/
def Literal.render : Literal → String
  | number digits long => digits ++ if long then "L" else ""
  | boolean b => if b then "true" else "false"
  | null => "NULL"
  | quoted .single s => quotedText s
  | quoted .double s => "\"" ++ inQuotes '"' s ++ "\""
  | quoted .escaped s => "E'" ++ String.join (s.toList.map escapedChar) ++ "'"
  | quoted .unicode s => "U&'" ++ String.join (s.toList.map unicodeChar) ++ "'"
  | quoted q s => q.marks.1 ++ s ++ q.marks.2
  | dollar tag s => "$" ++ tag ++ "$" ++ s ++ "$" ++ tag ++ "$"
  | placeholder s => s

/-! ### Expressions -/

/-- The operators of one operand. -/
inductive UnaryOp where
  | plus
  | minus
  | not
  /-- Any other sign, written before its operand. -/
  | before (sign : String)
  /-- Any other sign, written behind its operand. -/
  | after (sign : String)
  deriving DecidableEq, Repr

/-- The operators of two operands. -/
inductive BinaryOp where
  | add
  | sub
  | mul
  | div
  | rem
  /-- Any other operator. -/
  | other (sign : String)
  deriving DecidableEq, Repr

/-- The sign of an operator. -/
def BinaryOp.sign : BinaryOp → String
  | add => "+"
  | sub => "-"
  | mul => "*"
  | div => "/"
  | rem => "%"
  | other s => s

/-- A stretch of a layout: text, or the place of a part. -/
inductive Slot where
  | text (s : String)
  | part (n : Nat)
  deriving DecidableEq, Repr

/-- What later steps of the parser need to know about a form. -/
inductive Shape where
  | plain
  /-- A call; its layout starts behind the name. -/
  | call (name : List Ident)
  /-- Fields and subscripts of something. -/
  | access
  deriving DecidableEq, Repr

/-- An expression. -/
inductive Expr where
  | literal (value : Literal)
  | identifier (name : Ident)
  /-- `a.b.c` -/
  | compound (parts : List Ident)
  /-- `*` and `a.b.*` -/
  | wildcard (qualifier : List Ident)
  /-- `(e)` -/
  | nested (inner : Expr)
  | unary (op : UnaryOp) (operand : Expr)
  | binary (left : Expr) (op : BinaryOp) (right : Expr)
  /-- `(a, b)` -/
  | tuple (items : List Expr)
  /-- Any other form. -/
  | form (shape : Shape) (layout : List Slot) (parts : List Expr)
  deriving Repr

/-- A layout with its gaps filled. -/
def assemble (parts : List String) : List Slot → String
  | [] => ""
  | .text s :: rest => s ++ assemble parts rest
  | .part n :: rest => parts.getD n "" ++ assemble parts rest

/-- The name in front of a layout. -/
def Shape.lead : Shape → String
  | call name => renderName name
  | _ => ""

mutual

/-- An expression as it is shown. -/
def Expr.render : Expr → String
  | .literal v => v.render
  | .identifier i => i.render
  | .compound parts => renderName parts
  | .wildcard [] => "*"
  | .wildcard parts => renderName parts ++ ".*"
  | .nested e => "(" ++ e.render ++ ")"
  | .unary .plus e => "+" ++ e.render
  | .unary .minus e => "-" ++ e.render
  | .unary .not e => "NOT " ++ e.render
  | .unary (.before s) e => s ++ e.render
  | .unary (.after s) e => e.render ++ s
  | .binary l op r => l.render ++ " " ++ op.sign ++ " " ++ r.render
  | .tuple items => "(" ++ ", ".intercalate (Expr.renderAll items) ++ ")"
  | .form shape layout parts => shape.lead ++ assemble (Expr.renderAll parts) layout

/-- Several expressions as they are shown. -/
def Expr.renderAll : List Expr → List String
  | [] => []
  | e :: es => e.render :: Expr.renderAll es

end

mutual

/-- An expression and all expressions inside it, each one before its parts. -/
def Expr.walk : Expr → List Expr
  | .literal v => [.literal v]
  | .identifier i => [.identifier i]
  | .compound parts => [.compound parts]
  | .wildcard parts => [.wildcard parts]
  | .nested e => .nested e :: e.walk
  | .unary op e => .unary op e :: e.walk
  | .binary l op r => .binary l op r :: (l.walk ++ r.walk)
  | .tuple items => .tuple items :: Expr.walkAll items
  | .form shape layout parts => .form shape layout parts :: Expr.walkAll parts

/-- The walks of several expressions, one after the other. -/
def Expr.walkAll : List Expr → List Expr
  | [] => []
  | e :: es => e.walk ++ Expr.walkAll es

end

/-! ### Phrases -/

/-- A stretch of SQL: its layout, and its expressions in the order of a walk. -/
structure Phrase where
  layout : List Slot := []
  parts : List Expr := []
  deriving Repr

namespace Phrase

/-- A layout whose parts come behind `n` others. -/
def shift (n : Nat) (layout : List Slot) : List Slot :=
  layout.map fun
    | .text s => .text s
    | .part k => .part (n + k)

/-- A text. -/
def text (s : String) : Phrase := { layout := [.text s] }

/-- An expression. -/
def expr (e : Expr) : Phrase := { layout := [.part 0], parts := [e] }

/-- Nothing. -/
def empty : Phrase := {}

/-- One phrase behind another, shown and walked in the same order. -/
def append (a b : Phrase) : Phrase where
  layout := a.layout ++ shift a.parts.length b.layout
  parts := a.parts ++ b.parts

instance : Append Phrase := ⟨append⟩

/-- How many expressions a walk comes to before those of the `i`-th of some phrases, if it comes
to the phrases in the order of their ranks. -/
def before (ps : List (Nat × Phrase)) (i : Nat) : Nat :=
  let rank := (ps[i]?.map (·.1)).getD 0
  ps.zipIdx.foldl (fun n ((r, p), j) =>
    if r < rank ∨ (r = rank ∧ j < i) then n + p.parts.length else n) 0

/-- Phrases shown one behind the other, and walked in the order of their ranks. -/
def ranked (ps : List (Nat × Phrase)) : Phrase where
  layout := (ps.zipIdx.map fun ((_, p), i) => shift (before ps i) p.layout).flatten
  parts := ((ps.mergeSort fun a b => a.1 ≤ b.1).map (·.2.parts)).flatten

/-- Phrases one behind the other. -/
def concat (ps : List Phrase) : Phrase := ps.foldl (· ++ ·) empty

/-- Phrases with a text between them. -/
def sepBy (sep : String) : List Phrase → Phrase
  | [] => empty
  | p :: ps => ps.foldl (fun acc q => acc ++ text sep ++ q) p

/-- Expressions with commas between them. -/
def list (es : List Expr) : Phrase := sepBy ", " (es.map expr)

/-- A phrase, if there is one, with a text in front. -/
def optional (lead : String) : Option Phrase → Phrase
  | some p => text lead ++ p
  | none => empty

/-- Phrases with commas between them. -/
def commas (ps : List Phrase) : Phrase := sepBy ", " ps

/-- A phrase in parentheses. -/
def inParens (p : Phrase) : Phrase := text "(" ++ p ++ text ")"

/-- A list with a text in front; nothing if the list is empty. -/
def clause (lead : String) : List Phrase → Phrase
  | [] => empty
  | ps => text lead ++ commas ps

/-- A phrase as it is shown. -/
def render (p : Phrase) : String := assemble (Expr.renderAll p.parts) p.layout

/-- A form of no special shape. -/
def form (p : Phrase) : Expr := .form .plain p.layout p.parts

@[simp] theorem parts_text (s : String) : (text s).parts = [] := rfl

@[simp] theorem parts_expr (e : Expr) : (expr e).parts = [e] := rfl

@[simp] theorem parts_empty : empty.parts = [] := rfl

@[simp] theorem parts_append (a b : Phrase) : (a ++ b).parts = a.parts ++ b.parts := rfl

theorem parts_foldl_append (sep : String) (ps : List Phrase) (p : Phrase) :
    (ps.foldl (fun acc q => acc ++ text sep ++ q) p).parts = p.parts ++ ps.flatMap parts := by
  induction ps generalizing p with
  | nil => simp
  | cons q ps ih => simp [ih]

@[simp] theorem parts_sepBy (sep : String) (ps : List Phrase) :
    (sepBy sep ps).parts = ps.flatMap parts := by
  cases ps with
  | nil => rfl
  | cons p ps => rw [sepBy, parts_foldl_append, List.flatMap_cons]

@[simp] theorem parts_clause (lead : String) (ps : List Phrase) :
    (clause lead ps).parts = ps.flatMap parts := by
  cases ps with
  | nil => rfl
  | cons p ps => simp [clause, commas]

end Phrase

/-! ### Queries -/

/-- Rows of values, of which there is always one. -/
structure Rows where
  /-- The word that they begin with. -/
  word : String := "VALUES"
  /-- What stands before each row. -/
  lead : String := ""
  rows : List (List Expr)
  nonempty : rows ≠ [] := by simp
  deriving Repr

/-- Rows as a phrase. -/
def Rows.phrase (r : Rows) : Phrase :=
  .text (r.word ++ " ") ++
    .commas (r.rows.map fun row => .text r.lead ++ .inParens (.list row))

/-- A `SELECT`. Its tables may stand in front of it. -/
structure Selection where
  /-- The tables in front. -/
  early : Phrase := .empty
  /-- How many rows are taken, and whether equal ones are left out. -/
  amount : Phrase := .empty
  /-- The items that are selected. -/
  items : List Phrase
  /-- The table that takes the result. -/
  target : String := ""
  /-- The tables behind the items. -/
  tables : Phrase := .empty
  /-- All clauses behind the tables. -/
  clauses : Phrase := .empty
  deriving Repr

/-- A `SELECT` as a phrase. A walk comes to the items before the tables. -/
def Selection.phrase (s : Selection) : Phrase :=
  .ranked [(2, s.early), (0, .text "SELECT" ++ s.amount), (1, .clause " " s.items ++ .text s.target),
    (2, s.tables), (3, s.clauses)]

theorem Selection.parts_phrase (s : Selection) :
    s.phrase.parts = s.amount.parts ++ s.items.flatMap Phrase.parts ++
      (s.early.parts ++ s.tables.parts ++ s.clauses.parts) := by
  simp [phrase, Phrase.ranked, List.mergeSort, List.MergeSort.Internal.splitInTwo]

/-- The body of a query. -/
inductive QueryBody where
  | values (rows : Rows)
  | other (phrase : Phrase)
  deriving Repr

/-- A query: what comes before its body, the body, and what comes behind. -/
structure Query where
  before : Phrase := {}
  body : QueryBody
  after : Phrase := {}
  deriving Repr

/-- A body as a phrase. -/
def QueryBody.phrase : QueryBody → Phrase
  | values rows => rows.phrase
  | other p => p

/-- A query as a phrase. -/
def Query.phrase (q : Query) : Phrase := q.before ++ q.body.phrase ++ q.after

/-- All expressions of a query in the order of a walk. -/
def Query.walk (q : Query) : List Expr := Expr.walkAll q.phrase.parts

end TableFeed.Sql
