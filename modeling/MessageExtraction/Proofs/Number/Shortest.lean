import MessageExtraction.Number.Shortest
import MessageExtraction.Proofs.Number.Rounding

/-!
# Shortest decimals

The search for the shortest decimal ends, and what it finds is shortest.

* `contains_iff_roundsTo`: the interval of a double holds the decimals that round to it.
* `exists_search_eq`: the search finds the coarsest grid on which a decimal is in the interval, if it begins
  above that one and goes on for long enough.
* `size_framed`, `exists_contains`: it does, for every double.
* `shortest_coarsest`, `shortest_fewest`: so it finds a decimal that rounds to the double, and none with fewer
  digits does.
-/

namespace MessageExtraction

open Double (grid topRank Near RoundsTo)

namespace Number

theorem pow_toNat {b : ℚ} (positive : 0 < b) (n : ℤ) : b ^ n.toNat = b ^ n * b ^ (-n).toNat := by
  rw [← zpow_natCast, ← zpow_natCast, ← zpow_add₀ positive.ne']
  congr 1
  omega

/-- Powers of different bases compared without negative exponents. -/
theorem pow_toNat_le_iff {a b : ℚ} (left : 0 < a) (right : 0 < b) (l k : ℤ) :
    a ^ l.toNat * b ^ (-k).toNat ≤ b ^ k.toNat * a ^ (-l).toNat ↔ a ^ l ≤ b ^ k := by
  have unit : 0 < a ^ (-l).toNat * b ^ (-k).toNat := by positivity
  rw [pow_toNat left l, pow_toNat right k, mul_assoc, mul_assoc, mul_comm (b ^ (-k).toNat),
    mul_le_mul_iff_left₀ unit]

end Number

namespace Number.Interval

variable {i : Interval} {c : Nat} {e : ℤ} {y : ℚ}

/-- Whether a number lies in an interval. -/
def Covers (i : Interval) (y : ℚ) : Prop :=
  if i.closed then i.low * 2 ^ (i.q - 2) ≤ y ∧ y ≤ i.high * 2 ^ (i.q - 2)
  else i.low * 2 ^ (i.q - 2) < y ∧ y < i.high * 2 ^ (i.q - 2)

theorem Covers.bounds (covers : i.Covers y) :
    i.low * 2 ^ (i.q - 2) ≤ y ∧ y ≤ i.high * 2 ^ (i.q - 2) := by
  unfold Covers at covers
  split at covers
  · exact covers
  · exact ⟨covers.1.le, covers.2.le⟩

/-- What lies between numbers in an interval lies in it. -/
theorem Covers.between {x z : ℚ} (left : i.Covers x) (right : i.Covers z) (above : x ≤ y) (below : y ≤ z) :
    i.Covers y := by
  unfold Covers at left right ⊢
  split
  · rename_i closed
    rw [if_pos closed] at left right
    exact ⟨left.1.trans above, below.trans right.2⟩
  · rename_i opened
    rw [if_neg opened] at left right
    exact ⟨left.1.trans_le above, below.trans_lt right.2⟩

theorem Covers.below_high {x : ℚ} (left : i.Covers x) (above : x ≤ y) (below : y < i.high * 2 ^ (i.q - 2)) :
    i.Covers y := by
  unfold Covers at left ⊢
  split
  · rename_i closed
    rw [if_pos closed] at left
    exact ⟨left.1.trans above, below.le⟩
  · rename_i opened
    rw [if_neg opened] at left
    exact ⟨left.1.trans_le above, below⟩

/-- The factors bring both sides to a common unit. -/
theorem exists_unit (q e : ℤ) : ∃ u : ℚ, 0 < u ∧ ((commonFactors q e).1 : ℚ) = 2 ^ (q - 2) * u
    ∧ ((commonFactors q e).2 : ℚ) = 10 ^ e * u := by
  refine ⟨2 ^ (2 - q).toNat * 10 ^ (-e).toNat, by positivity, ?_, ?_⟩
  · show ((2 ^ (q - 2).toNat * 10 ^ (-e).toNat : Nat) : ℚ) = _
    push_cast
    rw [pow_toNat two_pos, neg_sub]
    ring
  · show ((2 ^ (2 - q).toNat * 10 ^ e.toNat : Nat) : ℚ) = _
    push_cast
    rw [pow_toNat (by norm_num) e]
    ring

theorem contains_iff : i.contains c e = true ↔ i.Covers (c * 10 ^ e) := by
  obtain ⟨u, positive, binary, decimal⟩ := exists_unit i.q e
  have le (a : Nat) : a * (commonFactors i.q e).1 ≤ c * (commonFactors i.q e).2
      ↔ (a * 2 ^ (i.q - 2) : ℚ) ≤ c * 10 ^ e := by
    rw [← Nat.cast_le (α := ℚ), Nat.cast_mul, Nat.cast_mul, binary, decimal, ← mul_assoc, ← mul_assoc,
      mul_le_mul_iff_left₀ positive]
  have ge (a : Nat) : c * (commonFactors i.q e).2 ≤ a * (commonFactors i.q e).1
      ↔ (c * 10 ^ e : ℚ) ≤ a * 2 ^ (i.q - 2) := by
    rw [← Nat.cast_le (α := ℚ), Nat.cast_mul, Nat.cast_mul, binary, decimal, ← mul_assoc, ← mul_assoc,
      mul_le_mul_iff_left₀ positive]
  unfold contains Covers
  dsimp only
  split
  · rw [Bool.and_eq_true, decide_eq_true_eq, decide_eq_true_eq, le, ge]
  · rw [Bool.and_eq_true, decide_eq_true_eq, decide_eq_true_eq, ← not_le, ← not_le, ge, le, not_le, not_le]

/-! ## Grids -/

/-- The middle of an interval. -/
def center (i : Interval) : ℚ := 4 * i.m * 2 ^ (i.q - 2)

theorem below_le_center (i : Interval) (e : ℤ) :
    ((4 * i.m * (commonFactors i.q e).1 / (commonFactors i.q e).2 : Nat) : ℚ) * 10 ^ e ≤ i.center := by
  obtain ⟨u, positive, binary, decimal⟩ := exists_unit i.q e
  have floor := Nat.div_mul_le_self (4 * i.m * (commonFactors i.q e).1) (commonFactors i.q e).2
  rw [← Nat.cast_le (α := ℚ), Nat.cast_mul, Nat.cast_mul, binary, decimal, ← mul_assoc, ← mul_assoc,
    mul_le_mul_iff_left₀ positive] at floor
  push_cast at floor
  exact floor

theorem center_lt_above (i : Interval) (e : ℤ) : i.center
    < ((4 * i.m * (commonFactors i.q e).1 / (commonFactors i.q e).2 + 1 : Nat) : ℚ) * 10 ^ e := by
  obtain ⟨u, positive, binary, decimal⟩ := exists_unit i.q e
  have unit : 0 < (commonFactors i.q e).2 := by
    rw [← Nat.cast_pos (α := ℚ), decimal]
    positivity
  have floor := Nat.lt_mul_div_succ (4 * i.m * (commonFactors i.q e).1) unit
  rw [mul_comm (commonFactors i.q e).2, ← Nat.cast_lt (α := ℚ), Nat.cast_mul, Nat.cast_mul _ (Prod.snd _),
    binary, decimal, ← mul_assoc, ← mul_assoc, mul_lt_mul_iff_left₀ positive] at floor
  push_cast at floor ⊢
  exact floor

theorem contains_of_onGrid? (found : i.onGrid? e = some c) : i.contains c e = true := by
  unfold onGrid? at found
  dsimp only at found
  split at found
  · rename_i below above
    split at found
    · obtain rfl := Option.some.inj found
      exact below
    · obtain rfl := Option.some.inj found
      exact above
  · rename_i below above
    obtain rfl := Option.some.inj found
    exact below
  · rename_i below above
    obtain rfl := Option.some.inj found
    exact above
  · contradiction

/-- If an interval holds a multiple of a power of ten, it holds one of the two next to its middle. -/
theorem contains_eq_false_of_onGrid? (middle : i.Covers i.center) (none : i.onGrid? e = none) (c : Nat) :
    i.contains c e = false := by
  have both : i.contains (4 * i.m * (commonFactors i.q e).1 / (commonFactors i.q e).2) e = false
      ∧ i.contains (4 * i.m * (commonFactors i.q e).1 / (commonFactors i.q e).2 + 1) e = false := by
    unfold onGrid? at none
    dsimp only at none
    split at none
    · contradiction
    · contradiction
    · contradiction
    · rename_i below above
      exact ⟨below, above⟩
  rw [← Bool.not_eq_true, contains_iff] at both ⊢
  rw [← Bool.not_eq_true, contains_iff] at both
  intro covers
  have scale : (0 : ℚ) < 10 ^ e := by positivity
  rcases Nat.lt_or_ge (4 * i.m * (commonFactors i.q e).1 / (commonFactors i.q e).2) c with more | less
  · refine both.2 (middle.between covers (center_lt_above i e).le ?_)
    exact mul_le_mul_of_nonneg_right (Nat.cast_le.mpr more) scale.le
  · refine both.1 (covers.between middle ?_ (below_le_center i e))
    exact mul_le_mul_of_nonneg_right (Nat.cast_le.mpr less) scale.le

/-- A search that passes a grid with a decimal in the interval finds one on the coarsest such grid. -/
theorem exists_search_eq (middle : i.Covers i.center) {n : Nat} {start hit : ℤ} (early : start - n < hit)
    (below : hit ≤ start) (held : i.contains c hit = true) :
    ∃ d : Decimal, i.search n start = some d ∧ i.contains d.significand d.exponent = true
      ∧ ∀ e, d.exponent < e → e ≤ start → ∀ c, i.contains c e = false := by
  induction n generalizing start with
  | zero =>
    push_cast at early
    omega
  | succ n ih =>
    unfold search
    cases here : i.onGrid? start with
    | some c' =>
      refine ⟨⟨c', start⟩, rfl, contains_of_onGrid? here, fun e above le => ?_⟩
      exact absurd above (not_lt.mpr le)
    | none =>
      have passed := contains_eq_false_of_onGrid? middle here
      have other : hit ≠ start := by
        rintro rfl
        rw [passed] at held
        contradiction
      push_cast at early
      obtain ⟨d, found, within, coarser⟩ := @ih (start - 1) (by omega) (by omega)
      refine ⟨d, found, within, fun e above le => ?_⟩
      rcases eq_or_lt_of_le le with rfl | less
      · exact passed
      · exact coarser e above (by omega)

end Number.Interval

namespace Double

open Number

variable {d : Double}

/-- The ends of the interval of a double are the middles to its neighbours. -/
theorem ofDouble_ends (nonzero : d.rank ≠ 0) {i : Interval}
    (interval : i = Interval.ofDouble d.magnitude.1 d.magnitude.2) :
    2 * (i.low * 2 ^ (i.q - 2) : ℚ) = grid (d.rank - 1) + grid d.rank
      ∧ 2 * (i.high * 2 ^ (i.q - 2) : ℚ) = grid d.rank + grid (d.rank + 1) := by
  obtain ⟨k, s, rank, few, normal, magnitude⟩ := d.exists_magnitude_eq
  rw [magnitude] at interval
  subst interval
  have positive : 1 ≤ s := by omega
  have four := zpow_eq_four_mul ((k : ℤ) - 1074)
  have here : grid d.rank = s * 2 ^ ((k : ℤ) - 1074) := by rw [rank, grid_eq few.le normal]
  have above : grid (d.rank + 1) = (s + 1) * 2 ^ ((k : ℤ) - 1074) := by
    rw [rank, Nat.add_assoc, grid_eq (by omega) (by omega)]
    push_cast
    ring
  rw [here, above, four]
  refine ⟨?_, ?_⟩
  · show 2 * (((4 * s - if s = 0x10000000000000 ∧ (k : ℤ) - 1074 > -1074 then 1 else 2 : Nat) : ℚ)
      * 2 ^ ((k : ℤ) - 1074 - 2)) = _
    split
    · -- Below a power of two the next double is only half as far.
      rename_i power
      obtain ⟨j, rfl⟩ : ∃ j, k = j + 1 := ⟨k - 1, by omega⟩
      have below : grid (d.rank - 1) = (2 * s - 1) * (2 * 2 ^ (((j + 1 : Nat) : ℤ) - 1074 - 2)) := by
        have split : d.rank - 1 = j * 0x10000000000000 + (2 * s - 1) := by omega
        rw [split, grid_eq (by omega) (by omega), Nat.cast_sub (by omega),
          show (j : ℤ) - 1074 = (((j + 1 : Nat) : ℤ) - 1074 - 2) + 1 by push_cast; ring,
          zpow_add_one₀ two_ne_zero]
        push_cast
        ring
      rw [below, Nat.cast_sub (by omega)]
      push_cast
      ring
    · rename_i other
      rw [rank, grid_pred few.le (by omega) positive, Nat.cast_sub (by omega), four]
      push_cast
      ring
  · show 2 * (((4 * s + 2 : Nat) : ℚ) * 2 ^ ((k : ℤ) - 1074 - 2)) = _
    push_cast
    ring

/-- The interval of a double consists of the numbers between the middles to its neighbours. -/
theorem covers_iff_near {y : ℚ} (nonzero : d.rank ≠ 0) (finite : d.rank < topRank) :
    (Interval.ofDouble d.magnitude.1 d.magnitude.2).Covers y ↔ Near y d.rank := by
  obtain ⟨low, high⟩ := ofDouble_ends nonzero rfl
  have closed : (Interval.ofDouble d.magnitude.1 d.magnitude.2).closed = (d.rank % 2 == 0) := by
    obtain ⟨k, s, rank, -, -, magnitude⟩ := d.exists_magnitude_eq
    show (d.magnitude.1 % 2 == 0) = _
    rw [magnitude, rank]
    congr 1
    show s % 2 = _
    omega
  unfold Interval.Covers
  rw [closed]
  constructor
  · split
    · rename_i even
      rintro ⟨left, right⟩
      refine ⟨fun _ => by linarith, fun _ => by linarith, fun odd => ?_⟩
      rw [beq_iff_eq] at even
      omega
    · rintro ⟨left, right⟩
      exact ⟨fun _ => by linarith, fun _ => by linarith, fun _ => ⟨by linarith, by linarith⟩⟩
  · rintro ⟨below, above, inside⟩
    have left := below (by omega)
    have right := above finite
    split
    · exact ⟨by linarith, by linarith⟩
    · rename_i odd
      obtain ⟨left, right⟩ := inside (by simpa using odd)
      exact ⟨by linarith, by linarith⟩

/-- A decimal is in the interval of a positive double exactly if it rounds to that double. -/
theorem contains_iff_roundsTo {c : Nat} {e : ℤ} (nonzero : d.rank ≠ 0) (finite : d.rank < topRank)
    (sign : d.isNegative = false) :
    (Interval.ofDouble d.magnitude.1 d.magnitude.2).contains c e = true ↔ RoundsTo (c * 10 ^ e) d := by
  rw [Interval.contains_iff, covers_iff_near nonzero finite, roundsTo_iff_near sign (by positivity),
    and_iff_right finite.le]

end Double

/-! ## The first grid -/

namespace Number

/-- Whether a number with `l` binary digits before the point is less than `10^k`, and at least
`10^(k - 3)`. -/
def frames (l k : ℤ) : Bool :=
  Nat.pow 2 l.toNat * Nat.pow 10 (-k).toNat ≤ Nat.pow 10 k.toNat * Nat.pow 2 (-l).toNat
    && Nat.pow 10 (k - 3).toNat * Nat.pow 2 (1 - l).toNat
      ≤ Nat.pow 2 (l - 1).toNat * Nat.pow 10 (3 - k).toNat

theorem frames_iff (l k : ℤ) :
    frames l k = true ↔ (2 : ℚ) ^ l ≤ 10 ^ k ∧ (10 : ℚ) ^ (k - 3) ≤ 2 ^ (l - 1) := by
  have upper : (2 ^ l.toNat * 10 ^ (-k).toNat : Nat) ≤ 10 ^ k.toNat * 2 ^ (-l).toNat
      ↔ (2 : ℚ) ^ l ≤ 10 ^ k := by
    rw [← pow_toNat_le_iff two_pos (by norm_num) l k, ← Nat.cast_le (α := ℚ)]
    push_cast
    rfl
  have lower : (10 ^ (k - 3).toNat * 2 ^ (1 - l).toNat : Nat) ≤ 2 ^ (l - 1).toNat * 10 ^ (3 - k).toNat
      ↔ (10 : ℚ) ^ (k - 3) ≤ 2 ^ (l - 1) := by
    rw [← pow_toNat_le_iff (by norm_num) two_pos (k - 3) (l - 1), ← Nat.cast_le (α := ℚ), neg_sub, neg_sub]
    push_cast
    rfl
  unfold frames
  rw [Bool.and_eq_true, decide_eq_true_eq, decide_eq_true_eq, ← upper, ← lower]
  rfl

/-- Whether the estimate of the decimal magnitude frames the numbers with `l` binary digits before the point,
and those with one digit more, and so on. -/
def framesFrom (l : ℤ) : Nat → Bool
  | 0 => true
  | n + 1 => frames l (l * 30103 / 100000 + 1) && framesFrom (l + 1) n

theorem frames_of_framesFrom {l : ℤ} {n j : Nat} (all : framesFrom l n = true) (less : j < n) :
    frames (l + j) ((l + j) * 30103 / 100000 + 1) = true := by
  induction n generalizing l j with
  | zero => omega
  | succ n ih =>
    rw [framesFrom, Bool.and_eq_true] at all
    cases j with
    | zero => simpa using all.1
    | succ j =>
      have next : l + ((j + 1 : Nat) : ℤ) = l + 1 + j := by
        push_cast
        ring
      rw [next]
      exact ih all.2 (by omega)

/-- The doubles have from 1073 binary digits less than none to 1024 before the point. -/
theorem framesFrom_doubles : framesFrom (-1073) 2098 = true := by
  decide +kernel

end Number

namespace Double

open Number

variable {d : Double}

/-- A double is less than the power of ten that its decimal magnitude is estimated by, and not much less. -/
theorem size_framed (nonzero : d.rank ≠ 0) (finite : d.rank < topRank) :
    d.size < 10 ^ decimalMagnitude d.magnitude.1 d.magnitude.2
      ∧ (10 : ℚ) ^ (decimalMagnitude d.magnitude.1 d.magnitude.2 - 3) ≤ d.size := by
  obtain ⟨k, s, rank, few, normal, magnitude⟩ := d.exists_magnitude_eq
  have positive : s ≠ 0 := by omega
  have digits : s.log2 < 53 := (Nat.log2_lt positive).mpr few
  unfold topRank at finite
  have framed := (frames_iff _ _).mp
    (frames_of_framesFrom framesFrom_doubles (show s.log2 + k < 2098 by omega))
  have length : -1073 + ((s.log2 + k : Nat) : ℤ) = (s.log2 : ℤ) + ((k : ℤ) - 1074) + 1 := by
    push_cast
    ring
  rw [length] at framed
  unfold size decimalMagnitude
  rw [magnitude]
  refine ⟨(mul_zpow_lt s _).trans_le framed.1, framed.2.trans ?_⟩
  rw [add_sub_cancel_right]
  exact zpow_le_mul positive _

theorem normal_of_not_dvd {D : Decimal} (last : D.significand % 10 ≠ 0) (n : Nat) : D.normal n = D := by
  cases n with
  | zero => rfl
  | succ n => rw [Decimal.normal, if_neg fun zeros => last zeros.2]

section Shortest

variable {i : Interval} {c : Nat} {e : ℤ}

theorem center_eq_size (interval : i = Interval.ofDouble d.magnitude.1 d.magnitude.2) :
    i.center = d.size ∧ (i.high * 2 ^ (i.q - 2) : ℚ) = d.size + 2 * 2 ^ (i.q - 2) := by
  subst interval
  unfold size
  rw [zpow_eq_four_mul]
  constructor
  · show 4 * (d.magnitude.1 : ℚ) * 2 ^ (d.magnitude.2 - 2) = _
    ring
  · show ((4 * d.magnitude.1 + 2 : Nat) : ℚ) * 2 ^ (d.magnitude.2 - 2) = _ + 2 * 2 ^ (d.magnitude.2 - 2)
    push_cast
    ring

theorem magnitude_pos (nonzero : d.rank ≠ 0) : 1 ≤ d.magnitude.1 := by
  obtain ⟨k, s, rank, few, normal, magnitude⟩ := d.exists_magnitude_eq
  rw [magnitude]
  show 1 ≤ s
  omega

theorem covers_center (nonzero : d.rank ≠ 0) (finite : d.rank < topRank)
    (interval : i = Interval.ofDouble d.magnitude.1 d.magnitude.2) : i.Covers i.center := by
  rw [(center_eq_size interval).1, interval, covers_iff_near nonzero finite, size_eq_grid]
  exact near_grid _

/-- Nothing in the interval of a double is zero, or as large as twice the double. -/
theorem bounded_of_covers {y : ℚ} (nonzero : d.rank ≠ 0)
    (interval : i = Interval.ofDouble d.magnitude.1 d.magnitude.2) (covers : i.Covers y) :
    0 < y ∧ y ≤ 2 * d.size := by
  have positive := magnitude_pos nonzero
  have unit : (0 : ℚ) < 2 ^ (i.q - 2) := by positivity
  obtain ⟨left, right⟩ := covers.bounds
  obtain ⟨center, high⟩ := center_eq_size interval
  have low : 0 < i.low := by
    subst interval
    show 0 < 4 * d.magnitude.1 - _
    split <;> omega
  constructor
  · exact (mul_pos (Nat.cast_pos.mpr low) unit).trans_le left
  · have size : 4 * 2 ^ (i.q - 2) ≤ d.size := by
      rw [← center, Interval.center]
      have : (1 : ℚ) ≤ i.m := by
        subst interval
        exact_mod_cast positive
      nlinarith
    linarith

/-- Among the first grids is one so fine that the next multiple above a double rounds to it. -/
theorem exists_contains (nonzero : d.rank ≠ 0) (finite : d.rank < topRank)
    (interval : i = Interval.ofDouble d.magnitude.1 d.magnitude.2) :
    ∃ c, i.contains c (decimalMagnitude d.magnitude.1 d.magnitude.2 - 24) = true := by
  obtain ⟨-, lower⟩ := size_framed nonzero finite
  obtain ⟨center, high⟩ := center_eq_size interval
  have few : (i.m : ℚ) < 2 ^ 53 := by
    subst interval
    obtain ⟨k, s, -, few, -, magnitude⟩ := d.exists_magnitude_eq
    rw [magnitude]
    exact_mod_cast few
  set e := decimalMagnitude d.magnitude.1 d.magnitude.2 - 24 with grid
  have below := i.below_le_center e
  have above := i.center_lt_above e
  have unit : (0 : ℚ) < 2 ^ (i.q - 2) := by positivity
  have fine : (10 : ℚ) ^ e < 2 * 2 ^ (i.q - 2) := by
    have coarse : (10 : ℚ) ^ e * 10 ^ 21 = 10 ^ (decimalMagnitude d.magnitude.1 d.magnitude.2 - 3) := by
      rw [grid, ← zpow_natCast, ← zpow_add₀ (by norm_num)]
      congr 1
      push_cast
      ring
    have size : (10 : ℚ) ^ e * 10 ^ 21 < 4 * 2 ^ 53 * 2 ^ (i.q - 2) := by
      rw [coarse]
      refine lower.trans_lt ?_
      rw [← center, Interval.center]
      exact mul_lt_mul_of_pos_right (by linarith) unit
    norm_num at size
    linarith
  refine ⟨4 * i.m * (commonFactors i.q e).1 / (commonFactors i.q e).2 + 1, Interval.contains_iff.mpr ?_⟩
  refine (covers_center nonzero finite interval).below_high above.le ?_
  rw [high, ← center]
  push_cast
  linarith

/-- The shortest decimal rounds to the double, and stands on the coarsest grid on which one does. -/
theorem shortest_coarsest (nonzero : d.rank ≠ 0) (finite : d.rank < topRank)
    (interval : i = Interval.ofDouble d.magnitude.1 d.magnitude.2) :
    i.contains (shortest d.magnitude.1 d.magnitude.2).significand
        (shortest d.magnitude.1 d.magnitude.2).exponent = true
      ∧ ∀ e, (shortest d.magnitude.1 d.magnitude.2).exponent < e → ∀ c, i.contains c e = false := by
  obtain ⟨c, held⟩ := exists_contains nonzero finite interval
  obtain ⟨D, found, within, coarser⟩ := Interval.exists_search_eq
    (covers_center nonzero finite interval) (n := 25) (by push_cast; omega)
    (show _ ≤ decimalMagnitude d.magnitude.1 d.magnitude.2 by omega) held
  -- Twice the double is at most the next power of ten above the first grid.
  have coarsest : ∀ e, D.exponent < e → ∀ c, i.contains c e = false := by
    intro e finer c
    rcases le_or_gt e (decimalMagnitude d.magnitude.1 d.magnitude.2) with le | more
    · exact coarser e finer le c
    rw [← Bool.not_eq_true, Interval.contains_iff]
    intro covers
    obtain ⟨positive, small⟩ := bounded_of_covers nonzero interval covers
    have scale : (0 : ℚ) < 10 ^ e := by positivity
    have one : (1 : ℚ) ≤ c := by
      exact_mod_cast Nat.one_le_iff_ne_zero.mpr fun zero => by simp [zero] at positive
    have next : (10 : ℚ) ^ (decimalMagnitude d.magnitude.1 d.magnitude.2 + 1) ≤ 10 ^ e :=
      zpow_le_zpow_right₀ (by norm_num) more
    rw [zpow_add_one₀ (by norm_num)] at next
    have framed := (size_framed nonzero finite).1
    nlinarith
  have last : D.significand % 10 ≠ 0 := by
    intro zeros
    have tens : 10 * (D.significand / 10) = D.significand := by omega
    have coarser := coarsest (D.exponent + 1) (by omega) (D.significand / 10)
    rw [← Bool.not_eq_true, Interval.contains_iff] at coarser
    rw [Interval.contains_iff, ← tens] at within
    refine coarser ?_
    rw [zpow_add_one₀ (by norm_num)]
    convert within using 1
    push_cast
    ring
  have shortest : shortest d.magnitude.1 d.magnitude.2 = D := by
    show (((Interval.ofDouble _ _).search 25 _).getD ⟨0, 0⟩).normal 25 = D
    rw [← interval, found]
    exact normal_of_not_dvd last 25
  rw [shortest]
  exact ⟨within, coarsest⟩

/-- No decimal that rounds to the double has fewer digits than the shortest one. -/
theorem shortest_fewest {j : Nat} (nonzero : d.rank ≠ 0) (finite : d.rank < topRank)
    (interval : i = Interval.ofDouble d.magnitude.1 d.magnitude.2) (held : i.contains c e = true)
    (few : c < 10 ^ j) : (shortest d.magnitude.1 d.magnitude.2).significand < 10 ^ j := by
  obtain ⟨within, coarsest⟩ := shortest_coarsest nonzero finite interval
  set D := shortest d.magnitude.1 d.magnitude.2
  by_contra many
  have coarse : e ≤ D.exponent := by
    by_contra finer
    rw [coarsest e (by omega) c] at held
    contradiction
  rw [Interval.contains_iff] at held within
  obtain ⟨positive, -⟩ := bounded_of_covers nonzero interval held
  obtain ⟨k, rfl⟩ : ∃ k, j = k + 1 := by
    refine ⟨j - 1, ?_⟩
    rcases Nat.eq_zero_or_pos j with rfl | more
    · simp [Nat.lt_one_iff.mp few] at positive
    · omega
  -- A power of ten lies between the two decimals, on a coarser grid than the shortest one.
  have power : ((10 ^ k : Nat) : ℚ) * 10 ^ (D.exponent + 1) = (10 ^ (k + 1) : Nat) * 10 ^ D.exponent := by
    rw [zpow_add_one₀ (by norm_num)]
    push_cast
    ring
  have between := coarsest (D.exponent + 1) (by omega) (10 ^ k)
  rw [← Bool.not_eq_true, Interval.contains_iff, power] at between
  refine between (held.between within ?_ ?_)
  · have scale : (10 : ℚ) ^ e ≤ 10 ^ D.exponent := zpow_le_zpow_right₀ (by norm_num) coarse
    exact mul_le_mul (Nat.cast_le.mpr few.le) scale (by positivity) (Nat.cast_nonneg _)
  · exact mul_le_mul_of_nonneg_right (Nat.cast_le.mpr (not_lt.mp many)) (by positivity)

end Shortest

end Double

end MessageExtraction
