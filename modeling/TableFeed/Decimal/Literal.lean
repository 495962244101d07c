/-!
# Reading numbers

Number literals: digits, a fraction, an exponent. A literal without a fraction and without an
exponent is a whole number of 64 bits if it fits; any other literal is a float.
-/

namespace TableFeed.Decimal

/-- The value of digits read behind `n`. -/
def digitsValue : Nat → List Char → Nat
  | n, [] => n
  | n, c :: cs => digitsValue (n * 10 + (c.toNat - 48)) cs

/-- Some digits and what follows them. -/
def spanDigits (cs : List Char) : List Char × List Char :=
  (cs.takeWhile Char.isDigit, cs.dropWhile Char.isDigit)

/-- `digits · 10^e`, rounded to the nearest float. Beyond four hundred places the value is out
of range either way. -/
def scaled (digits : List Char) (e : Int) : Float :=
  let m := digitsValue 0 digits
  let size := (digits.dropWhile (· == '0')).length
  if m = 0 then 0.0
  else if (size : Int) + e > 400 then 1.0 / 0.0
  else if (size : Int) + e < -400 then 0.0
  else Float.ofScientific m (e < 0) e.natAbs

/-- The exponent that some text is, `e5` or `E-5`; none if there is no text. -/
def exponentOf : List Char → Option Int
  | [] => some 0
  | c :: cs =>
    if c = 'e' ∨ c = 'E' then
      let (negative, digits) := match cs with
        | '-' :: rest => (true, rest)
        | '+' :: rest => (false, rest)
        | rest => (false, rest)
      if digits ≠ [] ∧ digits.all Char.isDigit then
        let n : Int := digitsValue 0 digits
        some (if negative then -n else n)
      else none
    else none

/-- The float that a literal without a sign writes. -/
def float? (text : String) : Option Float :=
  let (whole, rest) := spanDigits text.toList
  let (fraction, rest) := match rest with
    | '.' :: rest => spanDigits rest
    | rest => ([], rest)
  if whole.isEmpty && fraction.isEmpty then none
  else (exponentOf rest).map fun e => scaled (whole ++ fraction) (e - fraction.length)

/-- The whole number of 64 bits that digits write, if it fits. -/
def whole? (text : String) : Option Int64 :=
  let cs := text.toList
  if cs ≠ [] ∧ cs.all Char.isDigit then
    let n := digitsValue 0 cs
    if n < Nat.pow 2 63 then some (Int64.ofNat n) else none
  else none

end TableFeed.Decimal
