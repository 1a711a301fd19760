import MessageExtraction.Number.Shortest

/-!
# Double-precision numbers

Doubles by their bits, and their text: integers below 10^21 with all their digits, other numbers with the
fewest digits that read back, never with an exponent.
-/

namespace MessageExtraction

/-- A double-precision number, by its bits. -/
structure Double where
  bits : UInt64
deriving DecidableEq, Repr, Inhabited

namespace Double

/-- The bits of the exponent. -/
def exponentBits (d : Double) : Nat := d.bits.toNat / 0x10000000000000 % 0x800

/-- The bits of the fraction. -/
def fractionBits (d : Double) : Nat := d.bits.toNat % 0x10000000000000

/-- Whether the sign bit is set. -/
def isNegative (d : Double) : Bool := 0x8000000000000000 ≤ d.bits.toNat

/-- Whether the bits stand for no number. -/
def isNaN (d : Double) : Bool := d.exponentBits == 2047 && d.fractionBits != 0

/-- Whether the number is infinite, of either sign. -/
def isInfinite (d : Double) : Bool := d.exponentBits == 2047 && d.fractionBits == 0

/-- Whether the number is zero, of either sign. -/
def isZero (d : Double) : Bool := d.exponentBits == 0 && d.fractionBits == 0

/-- The absolute value of a finite number as `m · 2^q`. -/
def magnitude (d : Double) : Nat × Int :=
  if d.exponentBits = 0 then (d.fractionBits, -1074)
  else (0x10000000000000 + d.fractionBits, (d.exponentBits : Int) - 1075)

/-- Whether two numbers are equal: nothing equals what is no number, and the two zeros are equal. -/
def equal (a b : Double) : Bool :=
  !a.isNaN && !b.isNaN && (a.bits == b.bits || (a.isZero && b.isZero))

/-- The number with the other sign. -/
def negate (d : Double) : Double := ⟨d.bits ^^^ 0x8000000000000000⟩

/-- The sum, rounded to the nearest double. -/
def add (a b : Double) : Double := ⟨(Float.ofBits a.bits + Float.ofBits b.bits).toBits⟩

/-- The absolute value of a finite number if it is an integer. -/
def integer? (d : Double) : Option Nat :=
  let (m, q) := d.magnitude
  if 0 ≤ q then some (m * Nat.pow 2 q.toNat)
  else if m % Nat.pow 2 (-q).toNat = 0 then some (m / Nat.pow 2 (-q).toNat)
  else none

/-- A decimal with all its digits written out. -/
def positional (d : Number.Decimal) : String :=
  let digits := (toString d.significand).toList
  if 0 ≤ d.exponent then String.ofList (digits ++ List.replicate d.exponent.toNat '0')
  else
    let places := (-d.exponent).toNat
    let digits := List.replicate (places + 1 - digits.length) '0' ++ digits
    String.ofList (digits.take (digits.length - places) ++ '.' :: digits.drop (digits.length - places))

/-- The text of the absolute value of a finite number. -/
def magnitudeText (d : Double) : String :=
  match d.integer? with
  | some n =>
      if n < Nat.pow 10 21 then toString n
      else positional (Number.shortest d.magnitude.1 d.magnitude.2)
  | none => positional (Number.shortest d.magnitude.1 d.magnitude.2)

/-- The text of a number. -/
def text (d : Double) : String :=
  if d.isNaN then "NaN"
  else if d.isZero then "0"
  else (if d.isNegative then "-" else "") ++ if d.isInfinite then "Infinity" else d.magnitudeText

end Double

end MessageExtraction
