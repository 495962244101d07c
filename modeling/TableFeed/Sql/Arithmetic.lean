import TableFeed.Decimal.Literal
import TableFeed.Decimal.Binary
import TableFeed.Sql.Tree

/-!
# Arithmetic on literals

The value of an expression that is built from number literals, parentheses, signs and the
operators `+ - * / %`; any other expression has none. Whole numbers have 64 bits: sums,
differences and products wrap around, quotients go toward zero. As soon as one operand is a
float, so is the result.

    10 / 4  ⟶  2          10.0 / 4  ⟶  2.5          1 / 0  has no value
-/

namespace TableFeed.Sql

open TableFeed

/-- The value of an arithmetic expression. -/
inductive Number where
  | whole (v : Int64)
  | real (v : Float)

namespace Number

/-- The value of a number literal. A dot or an exponent makes it a float, and so does a size of
more than 64 bits. -/
def ofLiteral (text : String) : Option Number :=
  if text.toList.any fun c => c = '.' ∨ c = 'e' ∨ c = 'E' then (Decimal.float? text).map real
  else match Decimal.whole? text with
    | some v => some (whole v)
    | none => (Decimal.float? text).map real

/-- The nearest float. -/
def toFloat : Number → Float
  | whole v =>
    let size := Float.ofScientific v.toInt.natAbs false 0
    if v.toInt < 0 then -size else size
  | real v => v

/-- The opposite number; the least whole number has none. -/
def negate : Number → Option Number
  | whole v => if v = Int64.minValue then none else some (whole (-v))
  | real v => some (real (-v))

/-- Whether a quotient of whole numbers exists and fits. -/
def divides (a b : Int64) : Bool := b ≠ 0 && !(a == Int64.minValue && b == -1)

/-- An operator applied to whole numbers. -/
def applyWhole (op : BinaryOp) (a b : Int64) : Option Int64 :=
  match op with
  | .add => some (a + b)
  | .sub => some (a - b)
  | .mul => some (a * b)
  | .div => if divides a b then some (a / b) else none
  | .rem => if divides a b then some (a % b) else none
  | .other _ => none

/-- An operator applied to floats. -/
def applyReal (op : BinaryOp) (a b : Float) : Option Float :=
  match op with
  | .add => some (a + b)
  | .sub => some (a - b)
  | .mul => some (a * b)
  | .div => if b == 0.0 then none else some (a / b)
  | .rem => if b == 0.0 then none else some (Decimal.floatRem a b)
  | .other _ => none

/-- An operator applied to two values. -/
def apply (op : BinaryOp) : Number → Number → Option Number
  | whole a, whole b => (applyWhole op a b).map whole
  | a, b => (applyReal op a.toFloat b.toFloat).map real

end Number

/-- The value of an arithmetic expression. -/
def Expr.number? : Expr → Option Number
  | .literal (.number digits _) => Number.ofLiteral digits
  | .nested e => e.number?
  | .unary .minus e => e.number?.bind Number.negate
  | .unary .plus e => e.number?
  | .binary l op r =>
    match l.number?, r.number? with
    | some a, some b => Number.apply op a b
    | _, _ => none
  | _ => none

end TableFeed.Sql
