/-!
# UTF-8

A character is written in one to four bytes. The first byte says how many; the others lie
between `80` and `BF`, and the second one in a narrower range where a longer form than necessary,
a surrogate or a number beyond the last character would begin:

    00..7F                          1 byte
    C2..DF  80..BF                  2 bytes
    E0..EF  *       80..BF          3 bytes      E0: A0..BF   ED: 80..9F
    F0..F4  *       80..BF  80..BF  4 bytes      F0: 90..BF   F4: 80..8F

Bytes that are no character are counted up to the first one that cannot belong to it.
-/

namespace TableFeed.Text

/-- What some bytes begin with. -/
inductive Leading where
  /-- A character and the number of its bytes. -/
  | char (c : Char) (size : Nat)
  /-- Bytes that are no character; no number if a character is cut off at the end. -/
  | malformed (size : Option Nat)
  deriving DecidableEq, Repr

/-- Whether a byte may follow the second one of a character. -/
def isContinuation (b : UInt8) : Bool := 0x80 ≤ b && b ≤ 0xBF

/-- Whether a byte may follow the first byte `a` of a character. -/
def maySecond (a b : UInt8) : Bool :=
  if a == 0xE0 then 0xA0 ≤ b && b ≤ 0xBF
  else if a == 0xED then 0x80 ≤ b && b ≤ 0x9F
  else if a == 0xF0 then 0x90 ≤ b && b ≤ 0xBF
  else if a == 0xF4 then 0x80 ≤ b && b ≤ 0x8F
  else isContinuation b

/-- The number that bytes carry in their low six bits, behind `n`. -/
def carried (n : Nat) (bs : List UInt8) : Nat := bs.foldl (fun n b => n * 64 + b.toNat % 64) n

/-- What the bytes `a :: rest` begin with. -/
def leading (a : UInt8) (rest : List UInt8) : Leading :=
  if a < 0x80 then .char (Char.ofNat a.toNat) 1
  else if 0xC2 ≤ a && a ≤ 0xDF then
    match rest with
    | [] => .malformed none
    | b :: _ =>
      if isContinuation b then .char (Char.ofNat (carried (a.toNat - 0xC0) [b])) 2
      else .malformed (some 1)
  else if 0xE0 ≤ a && a ≤ 0xEF then
    match rest with
    | [] => .malformed none
    | b :: rest =>
      if maySecond a b then
        match rest with
        | [] => .malformed none
        | c :: _ =>
          if isContinuation c then .char (Char.ofNat (carried (a.toNat - 0xE0) [b, c])) 3
          else .malformed (some 2)
      else .malformed (some 1)
  else if 0xF0 ≤ a && a ≤ 0xF4 then
    match rest with
    | [] => .malformed none
    | b :: rest =>
      if maySecond a b then
        match rest with
        | [] => .malformed none
        | c :: rest =>
          if isContinuation c then
            match rest with
            | [] => .malformed none
            | d :: _ =>
              if isContinuation d then .char (Char.ofNat (carried (a.toNat - 0xF0) [b, c, d])) 4
              else .malformed (some 3)
          else .malformed (some 2)
      else .malformed (some 1)
  else .malformed (some 1)

/-! ### Reading everything -/

/-- The first bytes that are no character. -/
structure Malformed where
  /-- The number of bytes before them. -/
  start : Nat
  /-- How many they are; no number if a character is cut off at the end. -/
  size : Option Nat
  deriving DecidableEq, Repr

/-- How the failure is shown. -/
def Malformed.message (m : Malformed) : String :=
  match m.size with
  | some n =>
    "invalid utf-8 sequence of " ++ toString n ++ " bytes from index " ++ toString m.start
  | none => "incomplete utf-8 byte sequence from index " ++ toString m.start

/-- The characters of at most `fuel` bytes, of which `start` ones have been read before. -/
def decodeFrom : Nat → Nat → List UInt8 → Except Malformed (List Char)
  | 0, _, _ => .ok []
  | _ + 1, _, [] => .ok []
  | fuel + 1, start, a :: rest =>
    match leading a rest with
    | .char c size => (decodeFrom fuel (start + size) (rest.drop (size - 1))).map (c :: ·)
    | .malformed size => .error { start, size }

/-- The characters of some bytes. -/
def decode (bytes : List UInt8) : Except Malformed (List Char) := decodeFrom bytes.length 0 bytes

/-- The sign that stands for bytes that are no character. -/
def replacement : Char := Char.ofNat 0xFFFD

/-- The characters of at most `fuel` bytes, with a sign for bytes that are no character. -/
def decodeLossyFrom : Nat → List UInt8 → List Char
  | 0, _ => []
  | _ + 1, [] => []
  | fuel + 1, a :: rest =>
    match leading a rest with
    | .char c size => c :: decodeLossyFrom fuel (rest.drop (size - 1))
    | .malformed (some size) => replacement :: decodeLossyFrom fuel (rest.drop (size - 1))
    | .malformed none => [replacement]

/-- The characters of some bytes, with a sign for bytes that are no character. -/
def decodeLossy (bytes : List UInt8) : List Char := decodeLossyFrom bytes.length bytes

/-! ### Writing -/

/-- The bytes of a character. -/
def encodeChar (c : Char) : List UInt8 :=
  let n := c.toNat
  let tail (k : Nat) : UInt8 := UInt8.ofNat (0x80 + n / k % 64)
  if n < 0x80 then [UInt8.ofNat n]
  else if n < 0x800 then [UInt8.ofNat (0xC0 + n / 64), tail 1]
  else if n < 0x10000 then [UInt8.ofNat (0xE0 + n / 4096), tail 64, tail 1]
  else [UInt8.ofNat (0xF0 + n / 262144), tail 4096, tail 64, tail 1]

/-- The bytes of some characters. -/
def encode (cs : List Char) : List UInt8 := cs.flatMap encodeChar

end TableFeed.Text
