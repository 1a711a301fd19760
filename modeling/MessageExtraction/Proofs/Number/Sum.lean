import MessageExtraction.Proofs.Number.Shifting

/-!
# Sums of doubles

* `roundsTo_value`: a double is the one that its own value rounds to.
* `roundsTo_normalize`: an exact result is rounded, whatever its sign.
* `IsSum`: what the sum of two doubles is. `isSum_add`: `Double.add` computes it.
-/

namespace MessageExtraction.Double

open Float.Model (UnpackedFloat)
open Float.Model.Format (binary64)
open Float.Model.UnpackedFloat (Sign decreaseExponent)

variable {d : Double} {x : ℚ} {n : Nat} {negative : Bool}

/-! ## Both signs -/

theorem isNaN_negate (d : Double) : d.negate.isNaN = d.isNaN := by
  rw [Bool.eq_iff_iff, ← not_iff_not, Bool.not_eq_true, Bool.not_eq_true, isNaN_eq_false_iff,
    isNaN_eq_false_iff, rank_negate]

/-- Rounding goes the same way on either side of zero. -/
theorem RoundsTo.negate (rounds : RoundsTo x d) (nonzero : x ≠ 0) : RoundsTo (-x) d.negate := by
  have distance (c : Double) : |c.negate.value - x| = |c.value - -x| := by
    rw [value_negate, ← abs_neg]
    congr 1
    ring
  have here : |d.negate.value - -x| = |d.value - x| := by
    rw [value_negate, ← abs_neg]
    congr 1
    ring
  refine ⟨?_, fun c number => ?_, fun c number apart same => ?_, fun zero => ?_⟩
  · rw [isNaN_negate, rounds.number]
  · rw [here, ← distance]
    exact rounds.nearest c.negate (by rw [isNaN_negate, number])
  · rw [here, ← distance] at same
    rw [fractionBits_eq, rank_negate, ← fractionBits_eq]
    refine rounds.even c.negate (by rw [isNaN_negate, number]) ?_ same
    rw [value_negate] at apart ⊢
    exact fun eq => apart (by linarith)
  · rw [isZero_iff, rank_negate, ← isZero_iff] at zero
    have sign := rounds.sign zero
    rw [isNegative_negate, Bool.not_eq_true', ← Bool.not_eq_true, sign, not_lt, neg_lt_zero]
    exact ⟨fun le => lt_of_le_of_ne le nonzero.symm, le_of_lt⟩

theorem negate_ofRank (few : n ≤ topRank) : (ofRank false n).negate = ofRank true n := by
  refine eq_ofRank few ?_ ?_
  · rw [isNegative_negate, isNegative_ofRank few]
    rfl
  · rw [rank_negate, rank_ofRank few]

theorem roundsTo_ofRank (positive : 0 ≤ x) (few : n ≤ topRank) (near : Near x n) :
    RoundsTo x (ofRank false n) := by
  rw [roundsTo_iff_near (isNegative_ofRank few) positive, rank_ofRank few]
  exact ⟨few, near⟩

/-- Except for the negative zero, a double is the one that its own value rounds to. -/
theorem roundsTo_value (number : d.isNaN = false) (sign : d.rank = 0 → d.isNegative = false) :
    RoundsTo d.value d := by
  have few := (isNaN_eq_false_iff d).mp number
  have rounds := roundsTo_ofRank (grid_nonneg d.rank) few (near_grid d.rank)
  cases negative : d.isNegative with
  | false =>
    rw [← negative, ofRank_rank number] at rounds
    rwa [value_of_positive negative]
  | true =>
    have nonzero : d.rank ≠ 0 := fun zero => by simp [sign zero] at negative
    have other := rounds.negate (grid_pos (Nat.pos_of_ne_zero nonzero)).ne'
    rw [negate_ofRank few, ← negative, ofRank_rank number] at other
    unfold value
    rwa [if_pos negative, size_eq_grid]

/-! ## Sums -/

/-- The value of a finite double as an integer multiple of a power of two. -/
theorem value_eq (d : Double) :
    d.value = ((signOf d.isNegative).apply d.magnitude.1 : ℤ) * 2 ^ d.magnitude.2 := by
  unfold value size
  cases d.isNegative with
  | false => rfl
  | true =>
    show -(_ * _) = (((-(d.magnitude.1 : ℤ) : ℤ)) : ℚ) * _
    push_cast
    ring

/-- An exact result is rounded, and zero is the positive one. -/
theorem roundsTo_normalize (m q : ℤ) :
    RoundsTo (m * 2 ^ q) (ofUnpacked (UnpackedFloat.normalize binary64 m q .positive)) := by
  have unit : (0 : ℚ) < 2 ^ q := by positivity
  have whole (p : Nat) : (0 : ℚ) ≤ p * 2 ^ q := by positivity
  unfold UnpackedFloat.normalize
  cases order : compare m 0 with
  | lt =>
    rw [compare_lt_iff_lt] at order
    have size : (m : ℚ) = -((-m).toNat : Nat) := by
      rw [← Int.cast_natCast, Int.toNat_of_nonneg (by omega)]
      push_cast
      ring
    have positive : (-m).toNat ≠ 0 := by omega
    obtain ⟨n, near, few, same⟩ := @exists_round true (-m).toNat positive q
    show RoundsTo _ (ofUnpacked (UnpackedFloat.round binary64 (signOf true) (-m).toNat q))
    rw [same, ← negate_ofRank few, size, neg_mul]
    exact (roundsTo_ofRank (whole _) few near).negate (by positivity)
  | eq =>
    rw [compare_eq_iff_eq] at order
    have near := near_grid 0
    rw [grid_zero] at near
    show RoundsTo _ (ofUnpacked (.zero (signOf false)))
    rw [order, Int.cast_zero, zero_mul, ofUnpacked_zero]
    exact roundsTo_ofRank le_rfl (Nat.zero_le _) near
  | gt =>
    rw [compare_gt_iff_gt] at order
    have size : (m : ℚ) = (m.toNat : Nat) := by
      rw [← Int.cast_natCast, Int.toNat_of_nonneg (by omega)]
    obtain ⟨n, near, few, same⟩ := @exists_round false m.toNat (by omega) q
    show RoundsTo _ (ofUnpacked (UnpackedFloat.round binary64 (signOf false) m.toNat q))
    rw [same, size]
    exact roundsTo_ofRank (whole _) few near

/-- Whether a double is the sum of two others. -/
inductive IsSum (a b c : Double) : Prop
  | noNumber (operand : a.isNaN = true ∨ b.isNaN = true) (result : c.isNaN = true)
  | opposite (left : a.isInfinite = true) (right : b.isInfinite = true)
      (signs : a.isNegative ≠ b.isNegative) (result : c.isNaN = true)
  | left (infinite : a.isInfinite = true) (number : b.isNaN = false)
      (signs : b.isInfinite = true → b.isNegative = a.isNegative) (result : c = a)
  | right (infinite : b.isInfinite = true) (number : a.isNaN = false)
      (signs : a.isInfinite = true → a.isNegative = b.isNegative) (result : c = b)
  | negativeZeros (left : a.isZero = true ∧ a.isNegative = true)
      (right : b.isZero = true ∧ b.isNegative = true) (result : c = a)
  | rounded (left : a.rank < topRank) (right : b.rank < topRank)
      (signs : a.isZero = true → b.isZero = true → a.isNegative = true → b.isNegative = false)
      (result : RoundsTo (a.value + b.value) c)

variable {a b : Double}

theorem decreaseExponent_scale {m : Nat} {q e : ℤ} (s : Sign) (le : e ≤ q) :
    (s.apply (decreaseExponent m q e).1 : ℤ) * (2 : ℚ) ^ e = (s.apply m : ℤ) * 2 ^ q := by
  have size : ((m <<< (q - e).toNat : Nat) : ℚ) * 2 ^ e = m * 2 ^ q := by
    rw [Nat.shiftLeft_eq, Nat.cast_mul, Nat.cast_pow, Nat.cast_ofNat, mul_assoc, ← zpow_natCast,
      ← zpow_add₀ two_ne_zero]
    congr 2
    omega
  cases s with
  | negative =>
    show ((-((m <<< (q - e).toNat : Nat) : ℤ) : ℤ) : ℚ) * 2 ^ e = ((-(m : ℤ) : ℤ) : ℚ) * 2 ^ q
    push_cast
    rw [neg_mul, neg_mul, neg_inj]
    exact_mod_cast size
  | positive => exact_mod_cast size

/-- The sum of two finite doubles that are not zero is their exact sum, rounded. -/
theorem roundsTo_add_finite (left : a.rank ≠ 0) (leftFinite : a.rank < topRank) (right : b.rank ≠ 0)
    (rightFinite : b.rank < topRank) : RoundsTo (a.value + b.value) (a.add b) := by
  obtain ⟨leftPositive, leftParts⟩ := unpacked_finite left leftFinite
  obtain ⟨rightPositive, rightParts⟩ := unpacked_finite right rightFinite
  rw [add_eq, leftParts, rightParts, value_eq a, value_eq b,
    ← decreaseExponent_scale _ (min_le_left a.magnitude.2 b.magnitude.2),
    ← decreaseExponent_scale _ (min_le_right a.magnitude.2 b.magnitude.2), ← add_mul, ← Int.cast_add]
  exact roundsTo_normalize _ _

theorem rank_cases (d : Double) : d.isNaN = true ∨ d.rank = topRank ∨ d.rank < topRank := by
  cases number : d.isNaN with
  | true => exact .inl rfl
  | false => exact .inr ((isNaN_eq_false_iff d).mp number).eq_or_lt

theorem value_zero (zero : d.rank = 0) : d.value = 0 := by
  unfold value
  rw [size_eq_grid, zero, grid_zero]
  simp

theorem isNaN_add (operand : a.isNaN = true ∨ b.isNaN = true) : (a.add b).isNaN = true := by
  rw [add_eq]
  rcases operand with isNaN | isNaN
  · rw [unpacked_of_isNaN isNaN]
    cases b.unpacked <;> exact isNaN_ofUnpacked_notANumber
  · rw [unpacked_of_isNaN isNaN]
    cases a.unpacked <;> exact isNaN_ofUnpacked_notANumber

theorem add_infinite (infinite : a.rank = topRank) (infinite' : b.rank = topRank) :
    a.add b = if a.isNegative = b.isNegative then a else ofUnpacked .notANumber := by
  have sum := ofUnpacked_unpacked ((isNaN_eq_false_iff a).mpr infinite.le)
  rw [add_eq, unpacked_infinite infinite, unpacked_infinite infinite']
  rw [unpacked_infinite infinite] at sum
  cases sign : a.isNegative <;> cases sign' : b.isNegative <;> rw [sign] at sum
  · exact sum
  · rfl
  · rfl
  · exact sum

theorem add_infinite_left (infinite : a.rank = topRank) (finite : b.rank < topRank) : a.add b = a := by
  have sum := ofUnpacked_unpacked ((isNaN_eq_false_iff a).mpr infinite.le)
  rw [unpacked_infinite infinite] at sum
  rw [add_eq, unpacked_infinite infinite]
  rcases Nat.eq_zero_or_pos b.rank with zero | nonzero
  · rw [unpacked_zero zero]
    exact sum
  · obtain ⟨positive, parts⟩ := unpacked_finite nonzero.ne' finite
    rw [parts]
    exact sum

theorem add_infinite_right (finite : a.rank < topRank) (infinite : b.rank = topRank) : a.add b = b := by
  have sum := ofUnpacked_unpacked ((isNaN_eq_false_iff b).mpr infinite.le)
  rw [unpacked_infinite infinite] at sum
  rw [add_eq, unpacked_infinite infinite]
  rcases Nat.eq_zero_or_pos a.rank with zero | nonzero
  · rw [unpacked_zero zero]
    exact sum
  · obtain ⟨positive, parts⟩ := unpacked_finite nonzero.ne' finite
    rw [parts]
    exact sum

theorem add_zero_left (zero : a.rank = 0) (nonzero : b.rank ≠ 0) (finite : b.rank < topRank) :
    a.add b = b := by
  have sum := ofUnpacked_unpacked ((isNaN_eq_false_iff b).mpr finite.le)
  obtain ⟨positive, parts⟩ := unpacked_finite nonzero finite
  rw [parts] at sum
  rw [add_eq, unpacked_zero zero, parts]
  exact sum

theorem add_zero_right (nonzero : a.rank ≠ 0) (finite : a.rank < topRank) (zero : b.rank = 0) :
    a.add b = a := by
  have sum := ofUnpacked_unpacked ((isNaN_eq_false_iff a).mpr finite.le)
  obtain ⟨positive, parts⟩ := unpacked_finite nonzero finite
  rw [parts] at sum
  rw [add_eq, parts, unpacked_zero zero]
  exact sum

theorem add_zeros (zero : a.rank = 0) (zero' : b.rank = 0) :
    a.add b = ofRank (a.isNegative && b.isNegative) 0 := by
  rw [← ofUnpacked_zero, add_eq, unpacked_zero zero, unpacked_zero zero']
  cases a.isNegative <;> cases b.isNegative <;> rfl

/-- The sum of two finite doubles is their exact sum, rounded, unless both are the negative zero. -/
theorem roundsTo_add (left : a.rank < topRank) (right : b.rank < topRank)
    (signs : a.rank = 0 → b.rank = 0 → (a.isNegative && b.isNegative) = false) :
    RoundsTo (a.value + b.value) (a.add b) := by
  rcases Nat.eq_zero_or_pos a.rank with zero | nonzero
  · rw [value_zero zero, zero_add]
    rcases Nat.eq_zero_or_pos b.rank with zero' | nonzero'
    · have near := near_grid 0
      rw [grid_zero] at near
      rw [add_zeros zero zero', signs zero zero', value_zero zero']
      exact roundsTo_ofRank le_rfl (Nat.zero_le _) near
    · rw [add_zero_left zero nonzero'.ne' right]
      exact roundsTo_value ((isNaN_eq_false_iff b).mpr right.le) fun zero => absurd zero nonzero'.ne'
  · rcases Nat.eq_zero_or_pos b.rank with zero' | nonzero'
    · rw [value_zero zero', add_zero, add_zero_right nonzero.ne' left zero']
      exact roundsTo_value ((isNaN_eq_false_iff a).mpr left.le) fun zero => absurd zero nonzero.ne'
    · exact roundsTo_add_finite nonzero.ne' left nonzero'.ne' right

/-- The sum of two doubles is what it ought to be. -/
theorem isSum_add (a b : Double) : IsSum a b (a.add b) := by
  rcases a.rank_cases with isNaN | infinite | finite
  · exact .noNumber (.inl isNaN) (isNaN_add (.inl isNaN))
  · rcases b.rank_cases with isNaN' | infinite' | finite'
    · exact .noNumber (.inr isNaN') (isNaN_add (.inr isNaN'))
    · have sum := add_infinite infinite infinite'
      split at sum
      · rename_i same
        exact .left ((isInfinite_iff a).mpr infinite) ((isNaN_eq_false_iff b).mpr infinite'.le)
          (fun _ => same.symm) sum
      · rename_i other
        exact .opposite ((isInfinite_iff a).mpr infinite) ((isInfinite_iff b).mpr infinite') other
          (by rw [sum]; exact isNaN_ofUnpacked_notANumber)
    · refine .left ((isInfinite_iff a).mpr infinite) ((isNaN_eq_false_iff b).mpr finite'.le) ?_
        (add_infinite_left infinite finite')
      intro infinite'
      rw [isInfinite_iff] at infinite'
      omega
  · rcases b.rank_cases with isNaN' | infinite' | finite'
    · exact .noNumber (.inr isNaN') (isNaN_add (.inr isNaN'))
    · refine .right ((isInfinite_iff b).mpr infinite') ((isNaN_eq_false_iff a).mpr finite.le) ?_
        (add_infinite_right finite infinite')
      intro infinite
      rw [isInfinite_iff] at infinite
      omega
    · by_cases negativeZeros : (a.rank = 0 ∧ a.isNegative = true) ∧ b.rank = 0 ∧ b.isNegative = true
      · obtain ⟨⟨zero, sign⟩, zero', sign'⟩ := negativeZeros
        refine .negativeZeros ⟨(isZero_iff a).mpr zero, sign⟩ ⟨(isZero_iff b).mpr zero', sign'⟩ ?_
        rw [add_zeros zero zero', sign, sign']
        exact (eq_ofRank (Nat.zero_le _) sign zero).symm
      · refine .rounded finite finite' ?_ (roundsTo_add finite finite' ?_)
        · intro zero zero' sign
          rw [isZero_iff] at zero zero'
          rw [← Bool.not_eq_true]
          exact fun sign' => negativeZeros ⟨⟨zero, sign⟩, zero', sign'⟩
        · intro zero zero'
          rw [Bool.and_eq_false_iff, ← Bool.not_eq_true, ← Bool.not_eq_true]
          by_contra signs
          rw [not_or, not_not, not_not] at signs
          exact negativeZeros ⟨⟨zero, signs.1⟩, zero', signs.2⟩

end MessageExtraction.Double
