/-!
# Binary floating point, exactly

A finite value is `m · 2^q`. Around it lie the reals that round to it, from halfway to the value
below to halfway to the value above; the ends belong to them exactly when `m` is even. Below a
power of two the values lie twice as dense, so the lower half is only half as wide:

    ──┼───┼───┼───[─ v ───]───┼───      m · 2^q
    ──┼─┼─┼─┼─┼─[ v ───]───┼───┼──      v a power of two
-/

namespace TableFeed.Decimal

/-- A finite value without its sign. -/
structure Binary where
  m : Nat
  q : Int
  /-- Whether the value below is half as far away as the value above. -/
  narrowBelow : Bool := false
  deriving DecidableEq, Repr

namespace Binary

/-- The value of some bits, if it is finite. -/
def ofBits (b : UInt64) : Option Binary :=
  let e := ((b >>> 52) &&& 0x7FF).toNat
  let f := (b &&& 0xFFFFFFFFFFFFF).toNat
  if e = 0x7FF then none
  else if e = 0 then some { m := f, q := -1074 }
  else some { m := Nat.pow 2 52 + f, q := (e : Int) - 1075, narrowBelow := f == 0 }

/-- Whether the sign of some bits is a minus. -/
def isNegative (b : UInt64) : Bool := b >>> 63 == 1

/-- The order of `a · 10^i` and `n · 2^j`. -/
def compareScaled (a : Nat) (i : Int) (n : Nat) (j : Int) : Ordering :=
  compare (a * Nat.pow 10 i.toNat * Nat.pow 2 (-j).toNat)
    (n * Nat.pow 2 j.toNat * Nat.pow 10 (-i).toNat)

/-- Whether `digits · 10^e` rounds to the value. -/
def contains (x : Binary) (digits : Nat) (e : Int) : Bool :=
  let low := if x.narrowBelow then 4 * x.m - 1 else 4 * x.m - 2
  let high := 4 * x.m + 2
  let closed := x.m % 2 == 0
  let atLow := compareScaled digits e low (x.q - 2)
  let atHigh := compareScaled digits e high (x.q - 2)
  (atLow == .gt || (closed && atLow == .eq)) && (atHigh == .lt || (closed && atHigh == .eq))

/-- The remainder of `x` after division by `y`, which must not be zero. -/
def rem (x y : Binary) : Binary :=
  let q := min x.q y.q
  { m := (x.m * Nat.pow 2 (x.q - q).toNat) % (y.m * Nat.pow 2 (y.q - q).toNat), q }

/-- The value as a float, if it is one. -/
def toFloat (x : Binary) : Float := (Float.ofScientific x.m false 0).scaleB x.q

end Binary

/-- The remainder of a division toward zero, with the sign of the dividend. -/
def floatRem (x y : Float) : Float :=
  match Binary.ofBits x.toBits, Binary.ofBits y.toBits with
  | none, _ => 0.0 / 0.0
  | some _, none => if y.isNaN then 0.0 / 0.0 else x
  | some a, some b =>
    if b.m = 0 then 0.0 / 0.0
    else if x.abs < y.abs then x
    else if Binary.isNegative x.toBits then -(a.rem b).toFloat
    else (a.rem b).toFloat

end TableFeed.Decimal
