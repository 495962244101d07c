import TableFeed.Text.Scanner

/-!
# Points in time

A point in time is a number of seconds since the beginning of 1970 and a fraction of a second.
It is written as a date and a time with an offset from universal time, which may be left to
`Z`; it is shown in universal time with as many decimals as it needs, in groups of three.

    2024-01-02T03:04:05+02:00   ⟶   2024-01-02T01:04:05Z

Days are counted in years that begin in March, so that the day a leap year adds is the last one
of its year.
-/

namespace TableFeed.Run

open TableFeed Text Scanner

/-- A point in time. A second that is inserted at the end of a day counts as the last one of
that day, with more than 10⁹ nanoseconds. -/
structure Instant where
  seconds : Int
  nanos : Nat
  deriving DecidableEq, Repr

namespace Instant

/-! ### Dates -/

/-- Whether a year has a day more. -/
def isLeap (year : Int) : Bool := year % 4 == 0 && (year % 100 != 0 || year % 400 == 0)

/-- The number of days of a month. -/
def monthLength (year : Int) (month : Nat) : Nat :=
  if month == 2 then (if isLeap year then 29 else 28)
  else if [4, 6, 9, 11].contains month then 30
  else 31

/-- The days from the beginning of 1970 to a date. -/
def daysOf (year : Int) (month day : Nat) : Int :=
  let y := if month ≤ 2 then year - 1 else year
  let m : Int := if month ≤ 2 then month + 9 else month - 3
  365 * y + y / 4 - y / 100 + y / 400 + (153 * m + 2) / 5 + (day - 1) - 719468

/-- The date that comes some days after the beginning of 1970: year, month and day. -/
def dateOf (days : Int) : Int × Int × Int :=
  let z := days + 719468
  let era := z / 146097
  let doe := z % 146097
  let yoe := (doe - doe / 1460 + doe / 36524 - doe / 146096) / 365
  let doy := doe - (365 * yoe + yoe / 4 - yoe / 100)
  let mp := (5 * doy + 2) / 153
  let month := if mp < 10 then mp + 3 else mp - 9
  (yoe + era * 400 + (if month ≤ 2 then 1 else 0), month, doy - (153 * mp + 2) / 5 + 1)

/-! ### Showing -/

/-- A number filled up with zeros to some width. -/
def padded (width n : Nat) : String :=
  let cs := Nat.toDigits 10 n
  String.ofList (List.replicate (width - cs.length) '0' ++ cs)

/-- A year: four digits, or a sign and at least four digits. -/
def yearText (year : Int) : String :=
  if 0 ≤ year ∧ year ≤ 9999 then padded 4 year.toNat
  else (if year < 0 then "-" else "+") ++ padded 4 year.natAbs

/-- A fraction of a second. -/
def fractionText (nanos : Nat) : String :=
  if nanos = 0 then ""
  else if nanos % 1000000 = 0 then "." ++ padded 3 (nanos / 1000000)
  else if nanos % 1000 = 0 then "." ++ padded 6 (nanos / 1000)
  else "." ++ padded 9 nanos

/-- A point in time as it is shown. -/
def render (i : Instant) : String :=
  let (year, month, day) := dateOf (i.seconds / 86400)
  let time := (i.seconds % 86400).toNat
  let extra := if i.nanos ≥ 1000000000 then 1 else 0
  yearText year ++ "-" ++ padded 2 month.toNat ++ "-" ++ padded 2 day.toNat ++ "T" ++
    padded 2 (time / 3600) ++ ":" ++ padded 2 (time / 60 % 60) ++ ":" ++
    padded 2 (time % 60 + extra) ++ fractionText (i.nanos - extra * 1000000000) ++ "Z"

/-! ### Reading -/

/-- A number of one to `width` digits, behind blanks. -/
def number (width : Nat) : Scanner Nat := do
  blanks
  return valueOf (← digits width)

/-- A year: four digits, or a sign and any number of digits. -/
def year : Scanner Int := do
  blanks
  match ← peek with
  | some '-' => do
    mark '-'
    return -(valueOf (← digits (← rest).length) : Int)
  | some '+' => do
    mark '+'
    return valueOf (← digits (← rest).length)
  | _ => return valueOf (← digits 4)

/-- A mark behind blanks. -/
def spacedMark (c : Char) : Scanner Unit := do
  blanks
  mark c

/-- A fraction of a second; digits beyond the ninth are passed over. -/
def fraction : Scanner Nat := do
  match ← peek with
  | some '.' => do
    mark '.'
    let ds ← digits 9
    modify (·.dropWhile Char.isDigit)
    return valueOf (ds ++ List.replicate (9 - ds.length) '0')
  | _ => return 0

/-- The signs of an offset: a plus, a hyphen or the sign of subtraction. -/
def sign : Scanner Int := fun
  | c :: cs =>
    if c = '+' then some (1, cs)
    else if c = '-' ∨ c = Char.ofNat 0x2212 then some (-1, cs)
    else none
  | [] => none

/-- The offset from universal time in seconds. -/
def offset : Scanner Int := do
  blanks
  let cs ← rest
  if (cs.take 3).map Char.toUpper = "UTC".toList then
    set (cs.drop 3)
    return 0
  match cs.head? with
  | some 'Z' | some 'z' => do
    set cs.tail
    return 0
  | _ => do
    let s ← sign
    let hours := valueOf (← exactDigits 2)
    modify (·.dropWhile fun c => c = ':' ∨ Text.isBlank c)
    let minutes ← if (← rest).isEmpty then pure 0 else pure (valueOf (← exactDigits 2))
    if minutes < 60 ∧ hours < 24 then return s * (hours * 3600 + minutes * 60) else failure

/-- Whether a date and a time of day exist. A minute may have 61 seconds. -/
def isPossible (year : Int) (month day hour minute second : Nat) : Bool :=
  -262143 ≤ year && year ≤ 262142 && 1 ≤ month && month ≤ 12 && 1 ≤ day &&
    day ≤ monthLength year month && hour ≤ 23 && minute ≤ 59 && second ≤ 60

/-- A point in time. -/
def instant : Scanner Instant := do
  let y ← year
  spacedMark '-'
  let month ← number 2
  spacedMark '-'
  let day ← number 2
  let _ ← charWhere fun c => c = 't' ∨ c = 'T' ∨ c = ' '
  let hour ← number 2
  spacedMark ':'
  let minute ← number 2
  spacedMark ':'
  let second ← number 2
  let nanos ← fraction
  let offset ← offset
  blanks
  if !isPossible y month day hour minute second then failure
  let inserted := second = 60
  let clock : Int := hour * 3600 + minute * 60 + (if inserted then 59 else second)
  return { seconds := daysOf y month day * 86400 + clock - offset
           nanos := nanos + if inserted then 1000000000 else 0 }

/-- The point in time that a text writes. -/
def ofText? (text : String) : Option Instant := instant.runAll text.toList

end Instant

end TableFeed.Run
