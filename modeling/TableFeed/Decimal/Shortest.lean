import TableFeed.Decimal.Binary

/-!
# The fewest digits that read back

A finite value is written with as few digits as possible such that reading them gives the same
value again; of two such numbers the nearer one is taken, and of two equally near ones the
upper one. For 1, 2, … digits the two neighbours of the value among the numbers with that many
digits are tried; seventeen digits are always enough.

The digits are laid out without an exponent, however large or small the number is.
-/

namespace TableFeed.Decimal

/-- `digits · 10^exponent` -/
structure Digits where
  digits : Nat
  exponent : Int
  deriving DecidableEq, Repr

/-- The greatest whole number `n` with `n · 10^e ≤ m · 2^q`. -/
def Binary.floorAt (x : Binary) (e : Int) : Nat :=
  (x.m * Nat.pow 2 x.q.toNat * Nat.pow 10 (-e).toNat) /
    (Nat.pow 2 (-x.q).toNat * Nat.pow 10 e.toNat)

/-- Whether `n + 1` is at least as near to the value as `n`, on the grid of `10^e`. -/
def Binary.nearerAbove (x : Binary) (n : Nat) (e : Int) : Bool :=
  Binary.compareScaled (2 * n + 1) e (2 * x.m) x.q != .gt

/-- The neighbour on the grid of `10^e` that reads back, if there is one. -/
def Binary.onGrid (x : Binary) (e : Int) : Option Nat :=
  let n := x.floorAt e
  let below := x.contains n e
  let above := x.contains (n + 1) e
  if below && above then some (if x.nearerAbove n e then n + 1 else n)
  else if below then some n
  else if above then some (n + 1)
  else none

/-- The number of digits of the whole part, found from the length in bits: `value < 10^scale`
and the exponent is at most two too large. -/
def Binary.scale (x : Binary) : Int :=
  ((Nat.log2 x.m : Int) + x.q + 1) * 30103 / 100000 + 1

/-- Tries one grid after the other, each ten times as fine as the one before. -/
def Binary.search (x : Binary) : Nat → Int → Digits
  | 0, e => { digits := x.floorAt e, exponent := e }
  | n + 1, e =>
    match x.onGrid e with
    | some digits => { digits, exponent := e }
    | none => x.search n (e - 1)

/-- The shortest digits of a value. -/
def Binary.shortest (x : Binary) : Digits := x.search 20 x.scale

/-- Digits without an exponent, and without a fraction of zeros. -/
def Digits.render (d : Digits) : String :=
  let cs := Nat.toDigits 10 d.digits
  if 0 ≤ d.exponent then
    String.ofList (if d.digits = 0 then ['0'] else cs ++ List.replicate d.exponent.toNat '0')
  else
    let places := (-d.exponent).toNat
    let padded := List.replicate (places + 1 - cs.length) '0' ++ cs
    let whole := padded.take (padded.length - places)
    let fraction := (padded.drop (padded.length - places)).reverse.dropWhile (· == '0')
    String.ofList (whole ++ if fraction.isEmpty then [] else '.' :: fraction.reverse)

/-- A finite float as it is written. A zero keeps its sign. -/
def floatText (x : Float) : String :=
  match Binary.ofBits x.toBits with
  | some v =>
    (if Binary.isNegative x.toBits then "-" else "") ++
      if v.m = 0 then "0" else v.shortest.render
  | none => if x.isNaN then "NaN" else if x < 0.0 then "-inf" else "inf"

end TableFeed.Decimal
