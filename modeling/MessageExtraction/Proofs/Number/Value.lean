import Mathlib.Algebra.Order.Field.Power
import Mathlib.Algebra.Order.Field.Rat
import Mathlib.Tactic.Linarith
import Mathlib.Tactic.Ring
import MessageExtraction.Number.Double

/-!
# The numbers that doubles stand for

* `rank`: the place of a double among those of its sign, which is its bits without the sign.
* `grid`: the number that a rank stands for. `grid_eq` reads it off the significand and the exponent, and
  `grid_strictMono` says that a higher rank stands for a larger number.
* `value`: the number that a double stands for.
-/

namespace MessageExtraction.Double

/-! ## Ranks -/

/-- The place of a double among the doubles of its sign, zero first. -/
def rank (d : Double) : Nat := d.bits.toNat % 0x8000000000000000

/-- The absolute value of the doubles with a rank. -/
def grid (n : Nat) : ℚ :=
  if n / 0x10000000000000 = 0 then n * 2 ^ (-1074 : ℤ)
  else (0x10000000000000 + n % 0x10000000000000 : Nat) * 2 ^ ((n / 0x10000000000000 : Nat) - 1075 : ℤ)

/-- A significand of 53 binary digits, or any with the least exponent, is multiplied by the power of two. -/
theorem grid_eq {k s : Nat} (few : s ≤ 0x20000000000000) (normal : 0x10000000000000 ≤ s ∨ k = 0) :
    grid (k * 0x10000000000000 + s) = s * 2 ^ ((k : ℤ) - 1074) := by
  unfold grid
  rcases Nat.lt_or_ge s 0x10000000000000 with small | large
  · obtain rfl := normal.resolve_left (by omega)
    rw [if_pos (by omega)]
    simp
  rcases Nat.lt_or_ge s 0x20000000000000 with inside | top
  · have quotient : (k * 0x10000000000000 + s) / 0x10000000000000 = k + 1 := by omega
    have rest : 0x10000000000000 + (k * 0x10000000000000 + s) % 0x10000000000000 = s := by omega
    rw [if_neg (by omega), quotient, rest]
    congr 2
    push_cast
    ring
  · -- One more than the largest significand is the least one of the next exponent.
    obtain rfl : s = 0x20000000000000 := by omega
    have quotient : (k * 0x10000000000000 + 0x20000000000000) / 0x10000000000000 = k + 2 := by omega
    have rest : 0x10000000000000 + (k * 0x10000000000000 + 0x20000000000000) % 0x10000000000000
        = 0x10000000000000 := by omega
    have exponent : (((k + 2 : Nat) : ℤ) - 1075) = ((k : ℤ) - 1074) + 1 := by
      push_cast
      ring
    rw [if_neg (by omega), quotient, rest, exponent, zpow_add₀ (by norm_num)]
    push_cast
    ring

/-- Every rank is made of a significand and an exponent. -/
theorem exists_rank_eq (n : Nat) :
    ∃ k s, n = k * 0x10000000000000 + s ∧ s < 0x20000000000000 ∧ (0x10000000000000 ≤ s ∨ k = 0) := by
  rcases Nat.lt_or_ge n 0x10000000000000 with small | large
  · exact ⟨0, n, by omega, by omega, .inr rfl⟩
  · refine ⟨n / 0x10000000000000 - 1, 0x10000000000000 + n % 0x10000000000000, ?_, ?_, .inl ?_⟩ <;>
      omega

theorem grid_zero : grid 0 = 0 := by
  simp [grid]

theorem grid_lt_succ (n : Nat) : grid n < grid (n + 1) := by
  obtain ⟨k, s, rfl, few, normal⟩ := exists_rank_eq n
  have unit : (0 : ℚ) < 2 ^ ((k : ℤ) - 1074) := by positivity
  rw [grid_eq few.le normal, Nat.add_assoc, grid_eq (by omega) (by omega)]
  push_cast
  linarith

theorem grid_strictMono : StrictMono grid := strictMono_nat_of_lt_succ grid_lt_succ

theorem grid_pos {n : Nat} (positive : 0 < n) : 0 < grid n := by
  rw [← grid_zero]
  exact grid_strictMono positive

theorem grid_nonneg (n : Nat) : 0 ≤ grid n := by
  rw [← grid_zero]
  exact grid_strictMono.monotone (Nat.zero_le n)

/-- The next rank is at least one unit of the last place above, and two above a significand that is full. -/
theorem le_grid_succ {k s : Nat} (few : s ≤ 0x20000000000000) (normal : 0x10000000000000 ≤ s ∨ k = 0) :
    (s + 1) * 2 ^ ((k : ℤ) - 1074) ≤ grid (k * 0x10000000000000 + s + 1) := by
  rcases few.eq_or_lt with full | less
  · have split : k * 0x10000000000000 + s + 1
        = (k + 1) * 0x10000000000000 + 0x10000000000001 := by omega
    have twice : (2 : ℚ) ^ (((k + 1 : Nat) : ℤ) - 1074) = 2 ^ ((k : ℤ) - 1074) * 2 := by
      rw [← zpow_add_one₀ two_ne_zero]
      congr 1
      push_cast
      ring
    have unit : (0 : ℚ) < 2 ^ ((k : ℤ) - 1074) := by positivity
    rw [split, grid_eq (by omega) (by omega), twice, full]
    push_cast
    linarith
  · rw [Nat.add_assoc, grid_eq less (by omega)]
    push_cast
    exact le_rfl

/-- The rank before is one unit of the last place below, except below a power of two. -/
theorem grid_pred {k s : Nat} (few : s ≤ 0x20000000000000) (many : 0x10000000000001 ≤ s ∨ k = 0)
    (positive : 0 < s) :
    grid (k * 0x10000000000000 + s - 1) = (s - 1) * 2 ^ ((k : ℤ) - 1074) := by
  rw [Nat.add_sub_assoc positive, grid_eq (by omega) (by omega), Nat.cast_sub positive, Nat.cast_one]

/-! ## Digits of a significand -/

theorem mul_zpow_lt (m : Nat) (q : ℤ) : (m * 2 ^ q : ℚ) < 2 ^ ((m.log2 : ℤ) + q + 1) := by
  have unit : (0 : ℚ) < 2 ^ q := by positivity
  have digits : (m : ℚ) < 2 ^ (m.log2 + 1) := by exact_mod_cast Nat.lt_log2_self
  calc (m * 2 ^ q : ℚ) < 2 ^ (m.log2 + 1) * 2 ^ q := mul_lt_mul_of_pos_right digits unit
    _ = 2 ^ ((m.log2 : ℤ) + q + 1) := by
      rw [← zpow_natCast, ← zpow_add₀ two_ne_zero]
      congr 1
      push_cast
      ring

theorem zpow_le_mul {m : Nat} (positive : m ≠ 0) (q : ℤ) : (2 ^ ((m.log2 : ℤ) + q) : ℚ) ≤ m * 2 ^ q := by
  have unit : (0 : ℚ) < 2 ^ q := by positivity
  have digits : (2 : ℚ) ^ m.log2 ≤ m := by exact_mod_cast Nat.log2_self_le positive
  rw [zpow_add₀ two_ne_zero, zpow_natCast]
  exact mul_le_mul_of_nonneg_right digits unit.le

/-- A unit of the last place in quarters. -/
theorem zpow_eq_four_mul (q : ℤ) : (2 : ℚ) ^ q = 4 * 2 ^ (q - 2) := by
  rw [← sub_add_cancel q 2, zpow_add₀ two_ne_zero, sub_add_cancel]
  norm_num
  ring

/-! ## Values -/

/-- The absolute value of the number that a double stands for. An infinite one stands for the power of two
behind the largest finite one. -/
def size (d : Double) : ℚ := d.magnitude.1 * 2 ^ d.magnitude.2

/-- The number that a double stands for. -/
def value (d : Double) : ℚ := if d.isNegative then -d.size else d.size

/-- The rank of the infinite doubles, the highest one that stands for a number. -/
def topRank : Nat := 0x7FF0000000000000

variable (d : Double)

theorem exponentBits_eq : d.exponentBits = d.rank / 0x10000000000000 := by
  unfold exponentBits rank
  omega

theorem fractionBits_eq : d.fractionBits = d.rank % 0x10000000000000 := by
  unfold fractionBits rank
  omega

theorem rank_lt : d.rank < 0x8000000000000000 := Nat.mod_lt _ (by decide)

theorem isNaN_eq_false_iff : d.isNaN = false ↔ d.rank ≤ topRank := by
  have := d.rank_lt
  simp only [isNaN, Bool.and_eq_false_iff, beq_eq_false_iff_ne, bne_eq_false_iff_eq, exponentBits_eq,
    fractionBits_eq, topRank]
  omega

theorem isInfinite_iff : d.isInfinite = true ↔ d.rank = topRank := by
  have := d.rank_lt
  simp only [isInfinite, Bool.and_eq_true, beq_iff_eq, exponentBits_eq, fractionBits_eq, topRank]
  omega

theorem isZero_iff : d.isZero = true ↔ d.rank = 0 := by
  have := d.rank_lt
  simp only [isZero, Bool.and_eq_true, beq_iff_eq, exponentBits_eq, fractionBits_eq]
  omega

theorem size_eq_grid : d.size = grid d.rank := by
  unfold size magnitude grid
  rw [exponentBits_eq, fractionBits_eq]
  split
  · rename_i least
    rw [Nat.mod_eq_of_lt (by omega)]
  · rfl

/-- The significand and the exponent of a double are those of its rank. -/
theorem exists_magnitude_eq :
    ∃ k s, d.rank = k * 0x10000000000000 + s ∧ s < 0x20000000000000 ∧ (0x10000000000000 ≤ s ∨ k = 0)
      ∧ d.magnitude = (s, (k : ℤ) - 1074) := by
  unfold magnitude
  rw [exponentBits_eq, fractionBits_eq]
  split
  · exact ⟨0, d.rank % 0x10000000000000, by omega, by omega, .inr rfl, by simp⟩
  · refine ⟨d.rank / 0x10000000000000 - 1, 0x10000000000000 + d.rank % 0x10000000000000, by omega,
      by omega, .inl (by omega), Prod.ext rfl ?_⟩
    show ((d.rank / 0x10000000000000 : Nat) : ℤ) - 1075 = _
    omega

variable {d}

/-- The double with a sign and a rank. -/
def ofRank (negative : Bool) (n : Nat) : Double :=
  ⟨UInt64.ofNat (n + if negative then 0x8000000000000000 else 0)⟩

variable {negative : Bool} {n : Nat}

theorem rank_ofRank (few : n ≤ topRank) : (ofRank negative n).rank = n := by
  unfold topRank at few
  unfold ofRank rank
  cases negative <;> simp only [UInt64.toNat_ofNat', if_true, Bool.false_eq_true, if_false] <;> omega

theorem isNegative_ofRank (few : n ≤ topRank) : (ofRank negative n).isNegative = negative := by
  unfold topRank at few
  unfold ofRank isNegative
  cases negative <;> simp only [UInt64.toNat_ofNat', if_true, Bool.false_eq_true, if_false,
    decide_eq_true_eq, decide_eq_false_iff_not] <;> omega

theorem value_of_positive (positive : d.isNegative = false) : d.value = grid d.rank := by
  unfold value
  rw [if_neg (by simp [positive]), size_eq_grid]

theorem value_ofRank (few : n ≤ topRank) : (ofRank false n).value = grid n := by
  rw [value_of_positive (isNegative_ofRank few), rank_ofRank few]

/-! ## The other sign -/

theorem toNat_negate (d : Double) : d.negate.bits.toNat = d.bits.toNat ^^^ 2 ^ 63 :=
  UInt64.toNat_xor ..

theorem rank_negate (d : Double) : d.negate.rank = d.rank := by
  show d.negate.bits.toNat % 2 ^ 63 = d.bits.toNat % 2 ^ 63
  rw [toNat_negate, Nat.xor_mod_two_pow, Nat.mod_self, Nat.xor_zero]

theorem isNegative_negate (d : Double) : d.negate.isNegative = !d.isNegative := by
  have sign : d.negate.bits.toNat / 2 ^ 63 = d.bits.toNat / 2 ^ 63 ^^^ 1 := by
    rw [toNat_negate, Nat.xor_div_two_pow, Nat.div_self (by decide)]
  have whole := d.bits.toNat_lt
  have whole' := d.negate.bits.toNat_lt
  have bit : d.bits.toNat / 2 ^ 63 = 0 ∨ d.bits.toNat / 2 ^ 63 = 1 := by omega
  unfold isNegative
  rcases bit with bit | bit
  · rw [bit] at sign
    have sign : d.negate.bits.toNat / 2 ^ 63 = 1 := sign
    rw [decide_eq_true (by omega), decide_eq_false (by omega)]
    rfl
  · rw [bit] at sign
    have sign : d.negate.bits.toNat / 2 ^ 63 = 0 := sign
    rw [decide_eq_false (by omega), decide_eq_true (by omega)]
    rfl

theorem value_negate (d : Double) : d.negate.value = -d.value := by
  unfold value
  rw [size_eq_grid, size_eq_grid, rank_negate, isNegative_negate]
  cases d.isNegative <;> simp

end MessageExtraction.Double
