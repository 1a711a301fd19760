import Mathlib.Tactic.NormNum
import MessageExtraction.Proofs.Number.Value

/-!
# Rounding to doubles

A number rounds to the double that is nearest to it, and of two that are equally near to the one with the
even significand.

* `RoundsTo`: rounding in these words, over all doubles.
* `roundsTo_iff_near`: a number rounds to a positive double exactly if it lies between the middles to the
  neighbours of that double, where the middles count if its significand is even.
-/

namespace MessageExtraction

namespace Double

/-- Whether rounding takes a number to a double: no double is nearer, and if another one is as near, the
significand is even. An infinite double is as near as the power of two that it stands for; beside it stands
an even significand. Of the two zeros, a negative number goes to the negative one. -/
structure RoundsTo (x : ℚ) (d : Double) : Prop where
  number : d.isNaN = false
  nearest : ∀ c : Double, c.isNaN = false → |d.value - x| ≤ |c.value - x|
  even : ∀ c : Double, c.isNaN = false → c.value ≠ d.value → |c.value - x| = |d.value - x| →
    d.fractionBits % 2 = 0
  sign : d.isZero = true → (d.isNegative = true ↔ x < 0)

/-! ## Middles -/

section Distance

variable {a b x : ℚ}

/-- The larger of two numbers is the nearer one from the middle on. -/
theorem dist_le_iff_of_lt (less : b < a) : |a - x| ≤ |b - x| ↔ b + a ≤ 2 * x := by
  rw [← sq_le_sq]
  constructor
  · intro near
    nlinarith
  · intro near
    nlinarith

/-- The smaller of two numbers is the nearer one up to the middle. -/
theorem dist_le_iff_of_gt (less : a < b) : |a - x| ≤ |b - x| ↔ 2 * x ≤ a + b := by
  rw [← sq_le_sq]
  constructor
  · intro near
    nlinarith
  · intro near
    nlinarith

theorem dist_eq_iff_of_ne (apart : b ≠ a) : |b - x| = |a - x| ↔ 2 * x = a + b := by
  rcases lt_or_gt_of_ne apart with less | less
  · rw [le_antisymm_iff, dist_le_iff_of_gt less, dist_le_iff_of_lt less, le_antisymm_iff, add_comm a b]
  · rw [le_antisymm_iff, dist_le_iff_of_lt less, dist_le_iff_of_gt less, le_antisymm_iff, and_comm]

end Distance

/-- Whether a number lies between the middles to the neighbours of a rank, of which the ends belong to the
even ranks. The highest rank has no neighbour above it. -/
structure Near (x : ℚ) (n : Nat) : Prop where
  below : 0 < n → grid (n - 1) + grid n ≤ 2 * x
  above : n < topRank → 2 * x ≤ grid n + grid (n + 1)
  inside : n % 2 = 1 → grid (n - 1) + grid n < 2 * x ∧ 2 * x < grid n + grid (n + 1)

variable {x y : ℚ} {n : Nat} {d : Double}

theorem near_grid (n : Nat) : Near (grid n) n := by
  have above := grid_lt_succ n
  have below (positive : 0 < n) : grid (n - 1) < grid n := grid_strictMono (by omega)
  refine ⟨fun positive => ?_, fun _ => by linarith, fun odd => ?_⟩
  · linarith [below positive]
  · have := below (by omega)
    constructor <;> linarith

theorem Near.below_of_le (near : Near x n) (positive : 0 < n) (le : y ≤ grid (n - 1)) :
    |grid n - x| ≤ |y - x| ∧ (|y - x| = |grid n - x| → n % 2 = 0) := by
  have step : grid (n - 1) < grid n := grid_strictMono (by omega)
  have middle := near.below positive
  refine ⟨(dist_le_iff_of_lt (le.trans_lt step)).mpr (by linarith), fun same => ?_⟩
  by_contra odd
  have inside := (near.inside (by omega)).1
  rw [dist_eq_iff_of_ne (le.trans_lt step).ne] at same
  linarith

theorem Near.above_of_le (near : Near x n) (finite : n < topRank) (le : grid (n + 1) ≤ y) :
    |grid n - x| ≤ |y - x| ∧ (|y - x| = |grid n - x| → n % 2 = 0) := by
  have step := grid_lt_succ n
  have middle := near.above finite
  refine ⟨(dist_le_iff_of_gt (step.trans_le le)).mpr (by linarith), fun same => ?_⟩
  by_contra odd
  have inside := (near.inside (by omega)).2
  rw [dist_eq_iff_of_ne (step.trans_le le).ne'] at same
  linarith

/-- No double is nearer to a number than the one between whose middles it lies. -/
theorem Near.nearest (near : Near x n) (positive : 0 ≤ x) (few : n ≤ topRank) (c : Double)
    (number : c.isNaN = false) :
    |grid n - x| ≤ |c.value - x| ∧ (c.value ≠ grid n → |c.value - x| = |grid n - x| → n % 2 = 0) := by
  rw [isNaN_eq_false_iff] at number
  cases sign : c.isNegative with
  | true =>
    -- A negative double lies on the far side of zero.
    have value : c.value = -grid c.rank := by
      unfold Double.value
      rw [if_pos sign, size_eq_grid]
    have size := grid_nonneg c.rank
    rw [value]
    rcases Nat.eq_zero_or_pos n with rfl | above
    · rw [grid_zero]
      refine ⟨?_, fun _ _ => rfl⟩
      rw [zero_sub, abs_neg, abs_of_nonneg positive, abs_sub_comm, abs_of_nonneg (by linarith)]
      linarith
    · obtain ⟨le, even⟩ := near.below_of_le above (y := -grid c.rank)
        (by linarith [grid_nonneg (n - 1)])
      exact ⟨le, fun _ => even⟩
  | false =>
    rw [value_of_positive sign]
    rcases lt_trichotomy c.rank n with less | rfl | more
    · obtain ⟨le, even⟩ := near.below_of_le (by omega) (y := grid c.rank)
        (grid_strictMono.monotone (by omega))
      exact ⟨le, fun _ => even⟩
    · exact ⟨le_rfl, fun apart => absurd rfl apart⟩
    · obtain ⟨le, even⟩ := near.above_of_le (by omega) (y := grid c.rank)
        (grid_strictMono.monotone more)
      exact ⟨le, fun _ => even⟩

/-- A positive number rounds to the double between whose middles it lies, and to no other. -/
theorem roundsTo_iff_near (sign : d.isNegative = false) (positive : 0 ≤ x) :
    RoundsTo x d ↔ d.rank ≤ topRank ∧ Near x d.rank := by
  have even : d.fractionBits % 2 = d.rank % 2 := by
    rw [fractionBits_eq]
    omega
  constructor
  · intro rounds
    have few := (isNaN_eq_false_iff d).mp rounds.number
    -- The neighbours are doubles too, so they are no nearer, and as near only beside an even double.
    have nearest (k : Nat) (le : k ≤ topRank) : |grid d.rank - x| ≤ |grid k - x| := by
      rw [← value_of_positive sign, ← value_ofRank le]
      exact rounds.nearest _ ((isNaN_eq_false_iff _).mpr (by rwa [rank_ofRank le]))
    have tie (k : Nat) (le : k ≤ topRank) (apart : k ≠ d.rank) (odd : d.rank % 2 = 1) :
        2 * x ≠ grid d.rank + grid k := by
      intro middle
      have apart : grid k ≠ grid d.rank := fun same => apart (grid_strictMono.injective same)
      have same := (dist_eq_iff_of_ne apart).mpr middle
      rw [← value_of_positive sign, ← value_ofRank le] at apart same
      have := rounds.even _ ((isNaN_eq_false_iff _).mpr (by rwa [rank_ofRank le])) apart same
      omega
    have below (above : 0 < d.rank) : grid (d.rank - 1) + grid d.rank ≤ 2 * x :=
      (dist_le_iff_of_lt (grid_strictMono (by omega))).mp (nearest _ (by omega))
    have above (finite : d.rank < topRank) : 2 * x ≤ grid d.rank + grid (d.rank + 1) :=
      (dist_le_iff_of_gt (grid_lt_succ _)).mp (nearest _ finite)
    refine ⟨few, below, above, fun odd => ?_⟩
    have finite : d.rank < topRank := by
      unfold topRank at few ⊢
      omega
    refine ⟨lt_of_le_of_ne (below (by omega)) ?_, lt_of_le_of_ne (above finite) ?_⟩
    · rw [add_comm]
      exact (tie _ (by omega) (by omega) odd).symm
    · exact tie _ finite (by omega) odd
  · rintro ⟨few, near⟩
    refine ⟨(isNaN_eq_false_iff d).mpr few, fun c number => ?_, fun c number apart same => ?_, ?_⟩
    · rw [value_of_positive sign]
      exact (near.nearest positive few c number).1
    · rw [value_of_positive sign] at apart same
      rw [even]
      exact (near.nearest positive few c number).2 apart same
    · intro
      simpa [sign] using positive

end Double

end MessageExtraction
