import MessageExtraction.Proofs.Number.Encoding
import MessageExtraction.Proofs.Number.Rounding

/-!
# Rounding by shifts

An exact result is rounded by shifting its significand to the right, with two bits for what falls off.

* `Tracks`: the number that a significand stands for with its two bits. `Tracks.shiftRight`: a shift keeps it.
* `Tracks.isNearest`: the bits decide which integer is nearest.
* `exists_round`: so a positive number is rounded to the double between whose middles it lies.
-/

namespace MessageExtraction.Double

open Float.Model (UnpackedFloat totalExponent)
open Float.Model.Format (binary64)
open Float.Model.UnpackedFloat (Sign ExtendedMantissa Accuracy shiftToExponent shiftToTargetExponent
  roundWithAccuracy decreaseExponent)

/-! ## Residual bits -/

/-- Whether a significand with its residual bits stands for a number: the round bit for a half, the sticky
bit for something less than a half. -/
def Tracks (e : ExtendedMantissa) (y : ℚ) : Prop :=
  match e.roundBit, e.stickyBit with
  | false, false => y = e.mantissa
  | false, true => e.mantissa < y ∧ y < e.mantissa + 1 / 2
  | true, false => y = e.mantissa + 1 / 2
  | true, true => e.mantissa + 1 / 2 < y ∧ y < e.mantissa + 1

/-- Whether an integer is nearest to a number, the even one of two. -/
structure IsNearest (y : ℚ) (s : Nat) : Prop where
  below : 2 * s ≤ 2 * y + 1
  above : 2 * y ≤ 2 * s + 1
  inside : s % 2 = 1 → 2 * s < 2 * y + 1 ∧ 2 * y < 2 * s + 1

variable {e : ExtendedMantissa} {y : ℚ} {s : Nat}

theorem Tracks.shiftRightOne (tracks : Tracks e y) : Tracks e.shiftRightOne (y / 2) := by
  obtain ⟨m, round, sticky⟩ := e
  have split : ((m % 2 : Nat) : ℚ) + 2 * ((m / 2 : Nat) : ℚ) = m := by
    exact_mod_cast Nat.mod_add_div m 2
  rcases Nat.mod_two_eq_zero_or_one m with even | odd
  · rw [even] at split
    have bit : (m % 2 != 0) = false := by rw [even]; rfl
    cases round <;> cases sticky <;> simp only [Tracks, ExtendedMantissa.shiftRightOne, bit,
      Bool.or_false, Bool.or_true] at tracks ⊢
    · linarith
    all_goals
      constructor <;> linarith
  · rw [odd] at split
    have bit : (m % 2 != 0) = true := by rw [odd]; rfl
    cases round <;> cases sticky <;> simp only [Tracks, ExtendedMantissa.shiftRightOne, bit,
      Bool.or_false, Bool.or_true] at tracks ⊢
    · linarith
    all_goals
      constructor <;> linarith

theorem Tracks.shiftRight (tracks : Tracks e y) (n : Nat) : Tracks (e >>> n) (y / 2 ^ n) := by
  show Tracks (n.repeat ExtendedMantissa.shiftRightOne e) _
  induction n with
  | zero =>
    rw [pow_zero, div_one]
    exact tracks
  | succ n ih =>
    rw [pow_succ, ← div_div]
    exact ih.shiftRightOne

theorem Tracks.isNearest (tracks : Tracks e y) : IsNearest y e.roundedMantissa := by
  obtain ⟨m, round, sticky⟩ := e
  cases round <;> cases sticky <;> simp only [Tracks] at tracks
  · -- Nothing fell off.
    show IsNearest y m
    exact ⟨by linarith, by linarith, fun _ => by constructor <;> linarith⟩
  · show IsNearest y m
    exact ⟨by linarith, by linarith, fun _ => by constructor <;> linarith⟩
  · show IsNearest y (m + m % 2)
    rcases Nat.mod_two_eq_zero_or_one m with even | odd
    · rw [even]
      exact ⟨by push_cast; linarith, by push_cast; linarith, fun _ => by omega⟩
    · rw [odd]
      exact ⟨by push_cast; linarith, by push_cast; linarith, fun _ => by omega⟩
  · show IsNearest y (m + 1)
    refine ⟨?_, ?_, fun _ => ⟨?_, ?_⟩⟩ <;>
    · push_cast
      linarith

theorem IsNearest.le (nearest : IsNearest y s) {n : Nat} (le : y ≤ n) : s ≤ n := by
  have close : (2 * s : ℚ) ≤ 2 * n + 1 := by linarith [nearest.below]
  have close : 2 * s ≤ 2 * n + 1 := by exact_mod_cast close
  omega

theorem IsNearest.ge (nearest : IsNearest y s) {n : Nat} (le : n ≤ y) : n ≤ s := by
  have close : (2 * n : ℚ) ≤ 2 * s + 1 := by linarith [nearest.above]
  have close : 2 * n ≤ 2 * s + 1 := by exact_mod_cast close
  omega

/-! ## Ranks -/

variable {x : ℚ} {k n : Nat}

/-- The nearest significand makes the nearest double. -/
theorem IsNearest.near (nearest : IsNearest y s) (few : y ≤ 0x20000000000000)
    (normal : 0x10000000000000 ≤ y ∨ k = 0) :
    Near (y * 2 ^ ((k : ℤ) - 1074)) (k * 0x10000000000000 + s) := by
  have unit : (0 : ℚ) < 2 ^ ((k : ℤ) - 1074) := by positivity
  have few' : s ≤ 0x20000000000000 := nearest.le (by exact_mod_cast few)
  have normal' : 0x10000000000000 ≤ s ∨ k = 0 :=
    normal.imp_left fun large => nearest.ge (by exact_mod_cast large)
  have here := grid_eq few' normal'
  have above := le_grid_succ few' normal'
  refine ⟨fun positive => ?_, fun _ => ?_, fun odd => ⟨?_, ?_⟩⟩
  · rw [here]
    rcases Nat.lt_or_ge s 0x10000000000001 with power | many
    · rcases Nat.eq_zero_or_pos k with zero | scaled
      · rw [grid_pred few' (.inr zero) (by omega)]
        nlinarith [nearest.below]
      · -- Below a power of two the double before is nearer, but the number is not below it.
        have least := normal.resolve_right scaled.ne'
        obtain rfl : s = 0x10000000000000 := by omega
        have less := grid_lt_succ (k * 0x10000000000000 + 0x10000000000000 - 1)
        rw [Nat.sub_add_cancel positive, here] at less
        push_cast at less ⊢
        nlinarith
    · rw [grid_pred few' (.inl many) (by omega)]
      nlinarith [nearest.below]
  · rw [here]
    nlinarith [nearest.above]
  · have odd' : s % 2 = 1 := by omega
    rw [here, grid_pred few' (by omega) (by omega)]
    nlinarith [(nearest.inside odd').1]
  · have odd' : s % 2 = 1 := by omega
    rw [here]
    nlinarith [(nearest.inside odd').2]

/-- What lies beyond all finite doubles is nearest to the infinite one. -/
theorem Near.min (near : Near x n) : Near x (min n topRank) := by
  rcases le_or_gt n topRank with few | many
  · rwa [min_eq_left few]
  · rw [min_eq_right many.le]
    have middle := near.below (by omega)
    have least : grid (topRank - 1) ≤ grid (n - 1) := grid_strictMono.monotone (by omega)
    have top : grid topRank ≤ grid n := grid_strictMono.monotone many.le
    exact ⟨fun _ => by linarith, fun less => absurd less (lt_irrefl _), fun odd => absurd odd (by decide)⟩

/-! ## Rounding -/

variable {negative : Bool} {m : Nat} {q : ℤ}

/-- The exponent for a number with a given significand and exponent. -/
theorem exists_targetExponent (m : Nat) (q : ℤ) : ∃ k : Nat,
    binary64.targetExponent (totalExponent m q) = (k : ℤ) - 1074
      ∧ (m.log2 : ℤ) + q + 1 ≤ k - 1021 ∧ (k ≠ 0 → (m.log2 : ℤ) + q + 1 = k - 1021) := by
  refine ⟨((m.log2 : ℤ) + q + 1022).toNat, ?_, ?_, ?_⟩
  · show max ((m.log2 : ℤ) + 1 + q - 53) (-1074) = _
    omega
  · omega
  · omega

theorem shiftToTargetExponent_eq (m : Nat) (q : ℤ) (target : q ≤ (k : ℤ) - 1074)
    (exponent : binary64.targetExponent (totalExponent m q) = (k : ℤ) - 1074) :
    ∃ e, shiftToTargetExponent binary64 m q .exact = (e, (k : ℤ) - 1074)
      ∧ Tracks e (m * 2 ^ (q - ((k : ℤ) - 1074))) := by
  refine ⟨(⟨m, false, false⟩ : ExtendedMantissa) >>> ((k : ℤ) - 1074 - q).toNat, ?_, ?_⟩
  · unfold shiftToTargetExponent
    rw [exponent]
    refine Prod.ext rfl ?_
    show q + (((k : ℤ) - 1074 - q).toNat : ℤ) = _
    omega
  · have start : Tracks ⟨m, false, false⟩ m := rfl
    have scale : (m : ℚ) * 2 ^ (q - ((k : ℤ) - 1074)) = m / 2 ^ ((k : ℤ) - 1074 - q).toNat := by
      rw [div_eq_mul_inv, ← zpow_natCast, ← zpow_neg]
      congr 2
      omega
    rw [scale]
    exact start.shiftRight _

/-- Where rounding up made a significand too long, it is shifted once more. -/
theorem exists_shiftToTargetExponent_eq (few : s ≤ 0x20000000000000)
    (normal : 0x10000000000000 ≤ s ∨ k = 0) :
    ∃ (e : ExtendedMantissa) (j : Nat),
      shiftToTargetExponent binary64 s ((k : ℤ) - 1074) .exact = (e, (j : ℤ) - 1074)
        ∧ e.mantissa < 0x20000000000000 ∧ (0x10000000000000 ≤ e.mantissa ∨ j = 0)
        ∧ j * 0x10000000000000 + e.mantissa = k * 0x10000000000000 + s := by
  rcases few.eq_or_lt with rfl | less
  · refine ⟨⟨0x10000000000000, false, false⟩, k + 1, ?_, by decide, .inl le_rfl, by dsimp only; omega⟩
    have exponent : binary64.targetExponent (totalExponent 0x20000000000000 ((k : ℤ) - 1074))
        = (k : ℤ) - 1073 := by
      show max (((0x20000000000000 : Nat).log2 : ℤ) + 1 + ((k : ℤ) - 1074) - 53) (-1074) = _
      rw [show (0x20000000000000 : Nat).log2 = 53 by decide]
      omega
    have one : ((k : ℤ) - 1073 - ((k : ℤ) - 1074)).toNat = 1 := by omega
    unfold shiftToTargetExponent shiftToExponent
    rw [exponent]
    dsimp only
    rw [one]
    refine Prod.ext rfl ?_
    push_cast
    ring
  · refine ⟨⟨s, false, false⟩, k, ?_, less, normal, rfl⟩
    have digits : s.log2 < 53 := by
      rcases Nat.eq_zero_or_pos s with rfl | positive
      · decide
      · exact (Nat.log2_lt positive.ne').mpr less
    have exponent : (binary64.targetExponent (totalExponent s ((k : ℤ) - 1074))
        - ((k : ℤ) - 1074)).toNat = 0 := by
      show (max ((s.log2 : ℤ) + 1 + ((k : ℤ) - 1074) - 53) (-1074) - _).toNat = 0
      omega
    unfold shiftToTargetExponent shiftToExponent
    dsimp only
    rw [exponent]
    exact Prod.ext rfl (add_zero _)

/-- With the exponent for it, a number has 53 bits before the point, and fewer only with the least one. -/
theorem scaled_bounds (positive : m ≠ 0) (below : (m.log2 : ℤ) + q + 1 ≤ k - 1021)
    (above : k ≠ 0 → (m.log2 : ℤ) + q + 1 = k - 1021) :
    (m * 2 ^ (q - ((k : ℤ) - 1074)) : ℚ) ≤ 0x20000000000000
      ∧ ((0x10000000000000 : ℚ) ≤ m * 2 ^ (q - ((k : ℤ) - 1074)) ∨ k = 0) := by
  constructor
  · calc (m * 2 ^ (q - ((k : ℤ) - 1074)) : ℚ)
        ≤ 2 ^ ((m.log2 : ℤ) + (q - ((k : ℤ) - 1074)) + 1) := (mul_zpow_lt _ _).le
      _ ≤ 2 ^ (53 : ℤ) := zpow_le_zpow_right₀ one_le_two (by omega)
      _ = 0x20000000000000 := by norm_num
  · rcases Nat.eq_zero_or_pos k with zero | scaled
    · exact .inr zero
    have digits := above scaled.ne'
    left
    calc (0x10000000000000 : ℚ) = 2 ^ (52 : ℤ) := by norm_num
      _ = 2 ^ ((m.log2 : ℤ) + (q - ((k : ℤ) - 1074))) := by
          congr 1
          omega
      _ ≤ _ := zpow_le_mul positive _

/-- A number is rounded to the nearest significand for its exponent. -/
theorem exists_roundWithAccuracy (positive : m ≠ 0) (target : q ≤ (k : ℤ) - 1074)
    (exponent : binary64.targetExponent (totalExponent m q) = (k : ℤ) - 1074)
    (below : (m.log2 : ℤ) + q + 1 ≤ k - 1021) (above : k ≠ 0 → (m.log2 : ℤ) + q + 1 = k - 1021) :
    ∃ n, Near (m * 2 ^ q) n ∧ n ≤ topRank
      ∧ ofUnpacked (roundWithAccuracy binary64 (signOf negative) m q .exact) = ofRank negative n := by
  obtain ⟨e, shifted, tracks⟩ := shiftToTargetExponent_eq m q target exponent
  have nearest := tracks.isNearest
  obtain ⟨few, normal⟩ := scaled_bounds positive below above
  have scale : (m * 2 ^ (q - ((k : ℤ) - 1074)) : ℚ) * 2 ^ ((k : ℤ) - 1074) = m * 2 ^ q := by
    rw [mul_assoc, ← zpow_add₀ two_ne_zero]
    congr 2
    ring
  have near := nearest.near few normal
  rw [scale] at near
  obtain ⟨f, j, again, less, normal', same⟩ := @exists_shiftToTargetExponent_eq e.roundedMantissa k
    (nearest.le (by exact_mod_cast few))
    (normal.imp_left fun large => nearest.ge (by exact_mod_cast large))
  refine ⟨_, near.min, min_le_right _ _, ?_⟩
  rw [← same]
  unfold roundWithAccuracy
  rw [shifted]
  dsimp only
  rw [again]
  dsimp only
  by_cases zero : f.mantissa = 0
  · obtain rfl : j = 0 := by omega
    rw [dif_pos zero, zero, ofUnpacked_zero]
    rfl
  · rw [dif_neg zero]
    exact ofUnpacked_finite less normal' rfl _

theorem log2_shiftLeft (positive : m ≠ 0) (n : Nat) : (m <<< n).log2 = m.log2 + n := by
  have nonzero : m <<< n ≠ 0 := by
    rw [Nat.shiftLeft_eq]
    exact Nat.mul_ne_zero positive (by positivity)
  have lower := Nat.log2_self_le positive
  have upper := @Nat.lt_log2_self m
  rw [Nat.log2_eq_iff nonzero, Nat.shiftLeft_eq]
  constructor
  · rw [pow_add]
    exact Nat.mul_le_mul_right _ lower
  · rw [show m.log2 + n + 1 = m.log2 + 1 + n by omega, pow_add]
    exact Nat.mul_lt_mul_of_pos_right upper (by positivity)

/-- A positive number is rounded to the double between whose middles it lies. -/
theorem exists_round (positive : m ≠ 0) (q : ℤ) :
    ∃ n, Near (m * 2 ^ q) n ∧ n ≤ topRank
      ∧ ofUnpacked (UnpackedFloat.round binary64 (signOf negative) m q) = ofRank negative n := by
  obtain ⟨k, exponent, below, above⟩ := exists_targetExponent m q
  unfold UnpackedFloat.round decreaseExponent
  rw [exponent]
  dsimp only
  generalize amount : (q - ((k : ℤ) - 1074)).toNat = n
  have digits := log2_shiftLeft positive n
  have nonzero : m <<< n ≠ 0 := by
    rw [Nat.shiftLeft_eq]
    exact Nat.mul_ne_zero positive (by positivity)
  have length : ((m <<< n).log2 : ℤ) + (q - n) + 1 = m.log2 + q + 1 := by
    rw [digits]
    push_cast
    ring
  have exponent : binary64.targetExponent (totalExponent (m <<< n) (q - n)) = (k : ℤ) - 1074 := by
    rw [← exponent]
    unfold totalExponent
    congr 1
    linarith
  have scale : ((m <<< n : Nat) : ℚ) * 2 ^ (q - n) = m * 2 ^ q := by
    rw [Nat.shiftLeft_eq, zpow_sub₀ two_ne_zero, zpow_natCast]
    push_cast
    rw [mul_assoc, mul_div_cancel₀ _ (by positivity)]
  rw [← scale]
  exact exists_roundWithAccuracy nonzero (by omega) exponent (by rwa [length])
    (fun scaled => by rw [length]; exact above scaled)

end MessageExtraction.Double
