/-!
# Shortest decimals

The shortest decimal that reads back as a given double. A positive double is `m · 2^q`; the reals that
round to it form an interval, whose ends belong to it if `m` is even. `shortest` gives a decimal in that
interval with as few digits as any, and of those the nearest one, the larger of two at equal distance.
-/

namespace MessageExtraction.Number

/-- The decimal number `significand · 10^exponent`. -/
structure Decimal where
  significand : Nat
  exponent : Int
deriving DecidableEq, Repr, Inhabited

/-- The positive number `m · 2^q`, with the interval of reals that round to it in quarters of its last
binary place: from `low` to `high` around `4 · m`, with or without its ends. -/
structure Interval where
  m : Nat
  q : Int
  low : Nat
  high : Nat
  closed : Bool
deriving DecidableEq, Repr

/-- The interval of a double with significand `m` and exponent `q`. Below a power of two the neighbours
lie closer together, unless the double has the least exponent. -/
def Interval.ofDouble (m : Nat) (q : Int) : Interval where
  m := m
  q := q
  low := 4 * m - (if m = 0x10000000000000 ∧ q > -1074 then 1 else 2)
  high := 4 * m + 2
  closed := m % 2 == 0

/-- The factors that bring a binary number with exponent `q - 2` and a decimal number with exponent `e` to
a common unit. -/
def commonFactors (q e : Int) : Nat × Nat :=
  (Nat.pow 2 (q - 2).toNat * Nat.pow 10 (-e).toNat,
    Nat.pow 2 (2 - q).toNat * Nat.pow 10 e.toNat)

/-- Whether `c · 10^e` lies in the interval. -/
def Interval.contains (i : Interval) (c : Nat) (e : Int) : Bool :=
  let (binary, decimal) := commonFactors i.q e
  if i.closed then i.low * binary ≤ c * decimal && c * decimal ≤ i.high * binary
  else i.low * binary < c * decimal && c * decimal < i.high * binary

/-- The nearest multiple of `10^e` in the interval, if one of the two next to its middle lies in it. -/
def Interval.onGrid? (i : Interval) (e : Int) : Option Nat :=
  let (binary, decimal) := commonFactors i.q e
  let middle := 4 * i.m * binary
  let below := middle / decimal
  match i.contains below e, i.contains (below + 1) e with
  | true, true =>
      some (if middle - below * decimal < (below + 1) * decimal - middle then below else below + 1)
  | true, false => some below
  | false, true => some (below + 1)
  | false, false => none

/-- The first hit on the grids from `e` down, at most `n` of them. -/
def Interval.search (i : Interval) : Nat → Int → Option Decimal
  | 0, _ => none
  | n + 1, e =>
      match i.onGrid? e with
      | some c => some ⟨c, e⟩
      | none => i.search n (e - 1)

/-- An exponent `k` with `m · 2^q < 10^k`, at most two too large. -/
def decimalMagnitude (m : Nat) (q : Int) : Int :=
  ((Nat.log2 m : Int) + q + 1) * 30103 / 100000 + 1

/-- The decimal without zeros at the end of its significand. -/
def Decimal.normal : Nat → Decimal → Decimal
  | 0, d => d
  | n + 1, d =>
      if d.significand ≠ 0 ∧ d.significand % 10 = 0 then
        Decimal.normal n ⟨d.significand / 10, d.exponent + 1⟩
      else d

/-- The shortest decimal that reads back as the double `m · 2^q`, where `m` is positive. -/
def shortest (m : Nat) (q : Int) : Decimal :=
  let i := Interval.ofDouble m q
  ((i.search 25 (decimalMagnitude m q)).getD ⟨0, 0⟩).normal 25

end MessageExtraction.Number
