import MessageExtraction.Number.Double
import MessageExtraction.Proofs.Number.Shortest
import MessageExtraction.Proofs.Number.Sum

/-!
# Numbers as text

The text of a number has the fewest digits of which a decimal that rounds to it can do with, and from
10^21 on, or below 10^-6, it has an exponent.

* `IsNumeral`: the text of a number in these words.
* `isShortest_shortest`: the digits that `Double.text` takes are as few as can be.
* `layout_eq`: outside of the exponents it also puts them where they belong.
* `isNumeral_text_iff`: so its text is the right one, except where it keeps more digits of an integer, or
  writes no exponent.
-/

namespace MessageExtraction

open Double (topRank RoundsTo)

namespace Number

/-! ## Digits -/

/-- How many digits a number has. -/
def digitCount (n : Nat) : Nat := (Nat.toDigits 10 n).length

variable {n s z k : Nat} {c : Char}

theorem digitCount_le_iff (positive : 0 < k) : digitCount n ≤ k ↔ n < 10 ^ k :=
  Nat.length_toDigits_le_iff (by decide) positive

theorem digitCount_pos (n : Nat) : 0 < digitCount n := Nat.length_toDigits_pos

theorem lt_pow_digitCount (n : Nat) : n < 10 ^ digitCount n :=
  (digitCount_le_iff (digitCount_pos n)).mp le_rfl

theorem pow_le_of_digitCount (positive : 0 < n) : 10 ^ (digitCount n - 1) ≤ n := by
  by_contra less
  rcases Nat.eq_zero_or_pos (digitCount n - 1) with one | more
  · rw [one] at less
    omega
  · have := (digitCount_le_iff more).mpr (not_le.mp less)
    have := digitCount_pos n
    omega

theorem isDigit_of_mem_toDigits (mem : c ∈ Nat.toDigits 10 n) : c.isDigit = true :=
  Nat.isDigit_of_mem_toDigits (by decide) (by decide) mem

/-- Multiplying by ten appends a zero. -/
theorem toDigits_mul_pow (positive : 0 < s) (z : Nat) :
    Nat.toDigits 10 (s * 10 ^ z) = Nat.toDigits 10 s ++ List.replicate z '0' := by
  induction z with
  | zero => simp
  | succ z ih =>
    have step := Nat.toDigits_append_toDigits (show 1 < 10 by decide)
      (show 0 < s * 10 ^ z by positivity) (show 0 < 10 by decide)
    rw [List.replicate_succ', ← List.append_assoc, ← ih, pow_succ, ← mul_assoc, mul_comm _ 10,
      ← add_zero (10 * _), ← step]
    rfl

theorem eq_mul_pow_of_toDigits (digits : Nat.toDigits 10 n = Nat.toDigits 10 s ++ List.replicate z '0') :
    n = s * 10 ^ z := by
  have value := congrArg (Nat.ofDigitChars 10 · 0) digits
  simp only [Nat.ofDigitChars_append, Nat.ofDigitChars_ten_toDigits, Nat.ofDigitChars_replicate_zero] at value
  rw [value, mul_comm]

/-! ## Layout -/

/-- How the decimal with the digits of `s`, of which `n` stand before the point, is written. -/
def layout (s : Nat) (n : ℤ) : List Char :=
  let digits := Nat.toDigits 10 s
  if -6 < n ∧ n ≤ 21 then
    if digitCount s ≤ n then digits ++ List.replicate (n - digitCount s).toNat '0'
    else if 0 < n then digits.take n.toNat ++ '.' :: digits.drop n.toNat
    else '0' :: '.' :: (List.replicate (-n).toNat '0' ++ digits)
  else
    digits.take 1 ++ (if digitCount s = 1 then [] else '.' :: digits.drop 1)
      ++ 'e' :: (if n < 0 then '-' else '+') :: Nat.toDigits 10 (n - 1).natAbs

theorem layout_of_le {n : ℤ} (fits : (digitCount s : ℤ) ≤ n) (few : n ≤ 21) :
    layout s n = Nat.toDigits 10 s ++ List.replicate (n - digitCount s).toNat '0' := by
  have := digitCount_pos s
  unfold layout
  dsimp only
  rw [if_pos (by omega), if_pos fits]

/-- An exponent is marked as such. -/
theorem mem_layout_of_exponent {n : ℤ} (far : n ≤ -6 ∨ 21 < n) : 'e' ∈ layout s n := by
  unfold layout
  dsimp only
  rw [if_neg (by omega)]
  exact List.mem_append_right _ List.mem_cons_self

/-- Without a point and an exponent there are the digits and zeros only, and no more than 21 of them. -/
theorem layout_of_isDigit {n : ℤ} (digits : ∀ c ∈ layout s n, c.isDigit = true) :
    (digitCount s : ℤ) ≤ n ∧ n ≤ 21
      ∧ layout s n = Nat.toDigits 10 s ++ List.replicate (n - digitCount s).toNat '0' := by
  have near : -6 < n ∧ n ≤ 21 := by
    by_contra far
    exact absurd (digits _ (mem_layout_of_exponent (by omega))) (by decide)
  have whole : (digitCount s : ℤ) ≤ n := by
    by_contra short
    refine absurd (digits '.' ?_) (by decide)
    unfold layout
    dsimp only
    rw [if_pos near, if_neg short]
    split
    · exact List.mem_append_right _ List.mem_cons_self
    · exact List.mem_cons_of_mem _ List.mem_cons_self
  exact ⟨whole, near.2, layout_of_le whole near.2⟩

theorem isDigit_of_mem_replicate {n : Nat} (mem : c ∈ List.replicate n '0') : c.isDigit = true := by
  rw [List.eq_of_mem_replicate mem]
  rfl

theorem digitCount_of_toDigits (digits : Nat.toDigits 10 n = Nat.toDigits 10 s ++ List.replicate z '0') :
    digitCount n = digitCount s + z := by
  have length := congrArg List.length digits
  rwa [List.length_append, List.length_replicate] at length

theorem positional_of_whole {D : Decimal} (whole : 0 ≤ D.exponent) :
    (Double.positional D).toList = Nat.toDigits 10 D.significand ++ List.replicate D.exponent.toNat '0' := by
  unfold Double.positional
  dsimp only
  rw [if_pos whole, String.toList_ofList, Nat.toString_eq_ofList_toDigits, String.toList_ofList]

/-- A decimal that needs no exponent is written out as `layout` says. -/
theorem positional_eq_layout (D : Decimal) (small : -6 < D.exponent + digitCount D.significand)
    (large : D.exponent + digitCount D.significand ≤ 21) :
    (Double.positional D).toList = layout D.significand (D.exponent + digitCount D.significand) := by
  have count := digitCount_pos D.significand
  rcases le_or_gt 0 D.exponent with whole | fraction
  · rw [positional_of_whole whole, layout_of_le (by omega) large, add_sub_cancel_right]
  · unfold Double.positional layout
    dsimp only
    rw [Nat.toString_eq_ofList_toDigits, String.toList_ofList, if_neg (by omega), if_pos ⟨small, large⟩,
      if_neg (by omega), String.toList_ofList]
    have length : (Nat.toDigits 10 D.significand).length = digitCount D.significand := rfl
    split
    · rename_i point
      have padding : (-D.exponent).toNat + 1 - digitCount D.significand = 0 := by omega
      have before : digitCount D.significand - (-D.exponent).toNat
          = (D.exponent + digitCount D.significand).toNat := by omega
      rw [length, padding, List.replicate_zero, List.nil_append, length, before]
    · rename_i zero
      -- The digits are filled up with one zero before the point and the others behind it.
      have padding : (-D.exponent).toNat + 1 - digitCount D.significand
          = (-(D.exponent + digitCount D.significand)).toNat + 1 := by omega
      have before : (-(D.exponent + digitCount D.significand)).toNat + 1 + digitCount D.significand
          - (-D.exponent).toNat = 1 := by omega
      rw [length, padding, List.length_append, List.length_replicate, length, before]
      rfl

theorem mem_positional {D : Decimal} (mem : c ∈ (Double.positional D).toList) :
    c.isDigit = true ∨ c = '.' := by
  unfold Double.positional at mem
  dsimp only at mem
  rw [Nat.toString_eq_ofList_toDigits, String.toList_ofList] at mem
  split at mem
  · rw [String.toList_ofList, List.mem_append] at mem
    exact .inl (mem.elim isDigit_of_mem_toDigits isDigit_of_mem_replicate)
  · rw [String.toList_ofList, List.mem_append, List.mem_cons] at mem
    have padded {n : Nat} (mem : c ∈ List.replicate n '0' ++ Nat.toDigits 10 D.significand) :
        c.isDigit = true := (List.mem_append.mp mem).elim isDigit_of_mem_replicate isDigit_of_mem_toDigits
    obtain before | rfl | behind := mem
    · exact .inl (padded (List.mem_of_mem_take before))
    · exact .inr rfl
    · exact .inl (padded (List.mem_of_mem_drop behind))

/-- What is written without an exponent is none of a number for which one is due. -/
theorem bounds_of_positional {D : Decimal} {n : ℤ} (written : (Double.positional D).toList = layout s n) :
    -6 < n ∧ n ≤ 21 := by
  by_contra far
  have mem := mem_layout_of_exponent (s := s) (show n ≤ -6 ∨ 21 < n by omega)
  rw [← written] at mem
  rcases mem_positional mem with digit | point
  · exact absurd digit (by decide)
  · exact absurd point (by decide)

end Number

namespace Double

open Number

variable {d : Double} {s N : Nat} {e : ℤ}

/-! ## The text of a number -/

/-- Whether a decimal rounds to a double and has as few digits as any that does. -/
structure IsShortest (d : Double) (s : Nat) (e : ℤ) : Prop where
  positive : 0 < s
  rounds : RoundsTo (s * 10 ^ e) d
  fewest : ∀ (c : Nat) (j : ℤ), RoundsTo (c * 10 ^ j) d → digitCount s ≤ digitCount c

/-- Whether a text is that of a number. -/
inductive IsNumeral : Double → String → Prop
  | noNumber {d : Double} (isNaN : d.isNaN = true) : IsNumeral d "NaN"
  | zero {d : Double} (isZero : d.isZero = true) : IsNumeral d "0"
  | negative {d : Double} {text : String} (number : d.isNaN = false) (nonzero : d.isZero = false)
      (sign : d.isNegative = true) (size : IsNumeral d.negate text) : IsNumeral d ("-" ++ text)
  | infinite {d : Double} (isInfinite : d.isInfinite = true) (sign : d.isNegative = false) :
      IsNumeral d "Infinity"
  | finite {d : Double} {s : Nat} {e : ℤ} (number : d.isNaN = false) (nonzero : d.isZero = false)
      (bounded : d.isInfinite = false) (sign : d.isNegative = false) (shortest : IsShortest d s e) :
      IsNumeral d (.ofList (layout s (e + digitCount s)))

/-- Whether the text of a number is the right one: an integer below 10^21 whose digits behind those of the
shortest decimal are zeros, or a fraction not below 10^-6. -/
def isPlain (d : Double) : Bool :=
  d.isNaN || d.isZero || d.isInfinite ||
    let shortest := Number.shortest d.magnitude.1 d.magnitude.2
    match d.integer? with
    | some n => n < 10 ^ 21 && n % 10 ^ (digitCount n - digitCount shortest.significand) == 0
    | none => -6 < shortest.exponent + digitCount shortest.significand

/-- The digits that are taken are as few as can be. -/
theorem isShortest_shortest (nonzero : d.rank ≠ 0) (finite : d.rank < topRank) (sign : d.isNegative = false) :
    IsShortest d (shortest d.magnitude.1 d.magnitude.2).significand
      (shortest d.magnitude.1 d.magnitude.2).exponent := by
  have within := (shortest_coarsest nonzero finite rfl).1
  refine ⟨?_, (contains_iff_roundsTo nonzero finite sign).mp within, fun c j rounds => ?_⟩
  · obtain ⟨positive, -⟩ := bounded_of_covers nonzero rfl (Interval.contains_iff.mp within)
    by_contra zero
    rw [Nat.eq_zero_of_not_pos zero] at positive
    simp at positive
  · rw [digitCount_le_iff (digitCount_pos c)]
    exact shortest_fewest nonzero finite rfl ((contains_iff_roundsTo nonzero finite sign).mpr rounds)
      (lt_pow_digitCount c)

theorem IsShortest.digitCount_eq {s' : Nat} {e' : ℤ} (left : IsShortest d s e) (right : IsShortest d s' e') :
    digitCount s = digitCount s' :=
  le_antisymm (left.fewest s' e' right.rounds) (right.fewest s e left.rounds)

/-- A decimal lies below the power of ten behind its digits, and not below the one before them. -/
theorem IsShortest.bounds (short : IsShortest d s e) :
    (10 : ℚ) ^ (e + digitCount s - 1) ≤ s * 10 ^ e ∧ (s : ℚ) * 10 ^ e < 10 ^ (e + digitCount s) := by
  have scale : (0 : ℚ) < 10 ^ e := by positivity
  have count := digitCount_pos s
  constructor
  · have split : e + digitCount s - 1 = ((digitCount s - 1 : Nat) : ℤ) + e := by omega
    rw [split, zpow_add₀ (by norm_num), zpow_natCast]
    exact mul_le_mul_of_nonneg_right (by exact_mod_cast pow_le_of_digitCount short.positive) scale.le
  · rw [add_comm e, zpow_add₀ (by norm_num), zpow_natCast]
    exact mul_lt_mul_of_pos_right (by exact_mod_cast lt_pow_digitCount s) scale

theorem size_of_integer? (integer : d.integer? = some N) : d.size = N := by
  unfold integer? at integer
  unfold size
  obtain ⟨⟨m, q⟩, parts⟩ : ∃ parts, d.magnitude = parts := ⟨_, rfl⟩
  rw [parts] at integer ⊢
  dsimp only at integer ⊢
  split at integer
  · rename_i whole
    obtain rfl := Option.some.inj integer
    have exponent : (2 : ℚ) ^ q = 2 ^ q.toNat := by rw [← zpow_natCast, Int.toNat_of_nonneg whole]
    rw [exponent, Nat.pow_eq]
    push_cast
    rfl
  · rename_i fraction
    split at integer
    · rename_i divides
      obtain rfl := Option.some.inj integer
      have exponent : (2 : ℚ) ^ q = (2 ^ (-q).toNat)⁻¹ := by
        rw [← zpow_natCast, ← zpow_neg]
        congr 1
        omega
      rw [Nat.pow_eq] at divides ⊢
      rw [exponent, ← div_eq_mul_inv, div_eq_iff (by positivity)]
      exact_mod_cast (Nat.div_mul_cancel (Nat.dvd_of_mod_eq_zero divides)).symm
    · contradiction

/-- The doubles from 2^53 on are integers. -/
theorem size_of_no_integer? (fraction : d.integer? = none) : d.size < 10 ^ 16 := by
  obtain ⟨k, s, rank, few, normal, magnitude⟩ := d.exists_magnitude_eq
  unfold integer? at fraction
  unfold size
  rw [magnitude] at fraction ⊢
  dsimp only at fraction ⊢
  split at fraction
  · contradiction
  · rename_i negative
    have unit : (2 : ℚ) ^ ((k : ℤ) - 1074) ≤ 1 := zpow_le_one_of_nonpos₀ (by norm_num) (by omega)
    have few : (s : ℚ) < 0x20000000000000 := by exact_mod_cast few
    calc (s : ℚ) * 2 ^ ((k : ℤ) - 1074) ≤ s * 1 := mul_le_mul_of_nonneg_left unit (Nat.cast_nonneg s)
      _ < 10 ^ 16 := by linarith

section Positive

variable (nonzero : d.rank ≠ 0) (finite : d.rank < topRank) (sign : d.isNegative = false)

include nonzero finite sign

/-- A decimal between one that rounds to a double and the double rounds to it too, so that the shortest one
stands on no finer grid. -/
theorem le_exponent_shortest {c : Nat} {j : ℤ} {x y : ℚ} (left : RoundsTo x d) (right : RoundsTo y d)
    (above : x ≤ c * 10 ^ j) (below : c * 10 ^ j ≤ y) (positive : 0 ≤ x) :
    j ≤ (shortest d.magnitude.1 d.magnitude.2).exponent := by
  have covers {z : ℚ} (nonneg : 0 ≤ z) (rounds : RoundsTo z d) :
      (Interval.ofDouble d.magnitude.1 d.magnitude.2).Covers z :=
    (covers_iff_near nonzero finite).mpr ((roundsTo_iff_near sign nonneg).mp rounds).2
  have between :=
    (covers positive left).between (covers (positive.trans (above.trans below)) right) above below
  by_contra finer
  have none := (shortest_coarsest nonzero finite rfl).2 j (not_le.mp finer) c
  rw [← Bool.not_eq_true, Interval.contains_iff] at none
  exact none between

/-- The digits of an integer are those of a shortest decimal and zeros, or are too many. -/
theorem digits_iff (integer : d.integer? = some N) (few : N < 10 ^ 21) :
    (∃ s e, IsShortest d s e ∧ Nat.toDigits 10 N = layout s (e + digitCount s))
      ↔ N % 10 ^ (digitCount N - digitCount (shortest d.magnitude.1 d.magnitude.2).significand) = 0 := by
  have shortest := isShortest_shortest nonzero finite sign
  have size := size_of_integer? integer
  constructor
  · rintro ⟨s, e, short, written⟩
    obtain ⟨-, -, digits⟩ := layout_of_isDigit fun c mem => isDigit_of_mem_toDigits (written ▸ mem)
    rw [digits, add_sub_cancel_right] at written
    rw [digitCount_of_toDigits written, short.digitCount_eq shortest, Nat.add_sub_cancel_left,
      eq_mul_pow_of_toDigits written]
    exact Nat.mul_mod_left _ _
  · intro zeros
    set z := digitCount N - digitCount (Number.shortest d.magnitude.1 d.magnitude.2).significand with exponent
    have whole : N / 10 ^ z * 10 ^ z = N := Nat.div_mul_cancel (Nat.dvd_of_mod_eq_zero zeros)
    have value : d.value = N := by rw [value_of_positive sign, ← size_eq_grid, size]
    have number : d.isNaN = false := (isNaN_eq_false_iff d).mpr finite.le
    have rounds : RoundsTo N d := by
      rw [← value]
      exact roundsTo_value number fun zero => absurd zero nonzero
    have positive : 0 < N := by
      have := grid_pos (Nat.pos_of_ne_zero nonzero)
      rw [← size_eq_grid, size] at this
      exact_mod_cast this
    have positive' : 0 < N / 10 ^ z := by
      by_contra zero
      rw [Nat.eq_zero_of_not_pos zero, zero_mul] at whole
      omega
    have digits := toDigits_mul_pow positive' z
    rw [whole] at digits
    have count := digitCount_of_toDigits digits
    have fewest : digitCount (Number.shortest d.magnitude.1 d.magnitude.2).significand ≤ digitCount N :=
      shortest.fewest N 0 (by simpa using rounds)
    refine ⟨N / 10 ^ z, z, ⟨positive', ?_, fun c j other => ?_⟩, ?_⟩
    · rw [zpow_natCast]
      have cast : ((N / 10 ^ z : Nat) : ℚ) * 10 ^ z = N := by exact_mod_cast whole
      rwa [cast]
    · exact le_trans (by omega) (shortest.fewest c j other)
    · have near : digitCount N ≤ 21 := (digitCount_le_iff (by decide)).mpr few
      rw [layout_of_le (by omega) (by omega), add_sub_cancel_right, digits]
      rfl

/-- From 10^21 on, numbers have exponents. -/
theorem exponent_due_of_large (large : 10 ^ 21 ≤ d.size) (short : IsShortest d s e) :
    (positional (shortest d.magnitude.1 d.magnitude.2)).toList ≠ layout s (e + digitCount s) := by
  intro written
  obtain ⟨-, few⟩ := bounds_of_positional written
  have below : (s : ℚ) * 10 ^ e ≤ 10 ^ 21 := by
    refine short.bounds.2.le.trans ?_
    rw [← zpow_natCast]
    exact zpow_le_zpow_right₀ (by norm_num) few
  have rounds := roundsTo_value ((isNaN_eq_false_iff d).mpr finite.le) fun zero => absurd zero nonzero
  rw [value_of_positive sign, ← size_eq_grid] at rounds
  have coarse := le_exponent_shortest nonzero finite sign (c := 1) (j := 21) short.rounds rounds
    (by simpa using below) (by simpa using large) (by positivity)
  rw [positional_of_whole (by omega)] at written
  -- So there are at least 22 digits, but no more than 21 are written without an exponent.
  obtain ⟨whole, -, digits⟩ := layout_of_isDigit fun c mem => by
    rw [← written, List.mem_append] at mem
    exact mem.elim isDigit_of_mem_toDigits isDigit_of_mem_replicate
  rw [digits] at written
  have length := congrArg List.length written
  rw [List.length_append, List.length_append, List.length_replicate, List.length_replicate] at length
  change digitCount _ + _ = digitCount _ + _ at length
  have := digitCount_pos (shortest d.magnitude.1 d.magnitude.2).significand
  omega

/-- Below 10^-6, too. -/
theorem exponent_due_of_small (short : IsShortest d s e)
    (small : (shortest d.magnitude.1 d.magnitude.2).exponent
      + digitCount (shortest d.magnitude.1 d.magnitude.2).significand ≤ -6) :
    (positional (shortest d.magnitude.1 d.magnitude.2)).toList ≠ layout s (e + digitCount s) := by
  intro written
  obtain ⟨many, -⟩ := bounds_of_positional written
  have shortest := isShortest_shortest nonzero finite sign
  have above : (10 : ℚ) ^ (-6 : ℤ) ≤ s * 10 ^ e :=
    (zpow_le_zpow_right₀ (by norm_num) (by omega)).trans short.bounds.1
  have below : ((Number.shortest d.magnitude.1 d.magnitude.2).significand : ℚ)
      * 10 ^ (Number.shortest d.magnitude.1 d.magnitude.2).exponent ≤ 10 ^ (-6 : ℤ) :=
    shortest.bounds.2.le.trans (zpow_le_zpow_right₀ (by norm_num) small)
  have coarse := le_exponent_shortest nonzero finite sign (c := 1) (j := -6) shortest.rounds short.rounds
    (by simpa using below) (by simpa using above) (by positivity)
  have := digitCount_pos (Number.shortest d.magnitude.1 d.magnitude.2).significand
  omega

/-- The shortest decimal of a fraction has few digits before its point. -/
theorem few_of_no_integer? (fraction : d.integer? = none) :
    (shortest d.magnitude.1 d.magnitude.2).exponent
      + digitCount (shortest d.magnitude.1 d.magnitude.2).significand ≤ 21 := by
  have within := (shortest_coarsest nonzero finite rfl).1
  obtain ⟨-, bound⟩ := bounded_of_covers nonzero rfl (Interval.contains_iff.mp within)
  have size := size_of_no_integer? fraction
  have power := (isShortest_shortest nonzero finite sign).bounds.1
  by_contra large
  have top : (10 : ℚ) ^ (17 : ℤ) ≤ 10 ^ ((shortest d.magnitude.1 d.magnitude.2).exponent
      + digitCount (shortest d.magnitude.1 d.magnitude.2).significand - 1) :=
    zpow_le_zpow_right₀ (by norm_num) (by omega)
  have top := top.trans power
  norm_num at top size
  linarith

/-- The text of a positive number is written with the digits of a shortest decimal, and as `layout` says,
exactly if the number is a plain one. -/
theorem magnitudeText_iff : (∃ s e, IsShortest d s e ∧ d.magnitudeText.toList = layout s (e + digitCount s))
    ↔ d.isPlain = true := by
  have shortest := isShortest_shortest nonzero finite sign
  have notNaN : d.isNaN = false := (isNaN_eq_false_iff d).mpr finite.le
  have notZero : d.isZero = false := by
    rw [← Bool.not_eq_true, isZero_iff]
    exact nonzero
  have bounded : d.isInfinite = false := by
    rw [← Bool.not_eq_true, isInfinite_iff]
    exact finite.ne
  unfold isPlain magnitudeText
  rw [notNaN, notZero, bounded, Nat.pow_eq]
  cases integer : d.integer? with
  | some N =>
    dsimp only
    rcases Nat.lt_or_ge N (10 ^ 21) with few | large
    · rw [if_pos few, Nat.toString_eq_ofList_toDigits, String.toList_ofList,
        digits_iff nonzero finite sign integer few]
      simp only [Bool.false_or, Bool.and_eq_true, decide_eq_true_eq, beq_iff_eq]
      exact (and_iff_right few).symm
    · rw [if_neg (not_lt.mpr large)]
      have large' : (10 : ℚ) ^ 21 ≤ d.size := by
        rw [size_of_integer? integer]
        exact_mod_cast large
      simp only [Bool.false_or, Bool.and_eq_true, decide_eq_true_eq]
      refine iff_of_false ?_ fun plain => absurd plain.1 (not_lt.mpr large)
      rintro ⟨s, e, short, written⟩
      exact exponent_due_of_large nonzero finite sign large' short written
  | none =>
    dsimp only
    simp only [Bool.false_or, decide_eq_true_eq]
    constructor
    · rintro ⟨s, e, short, written⟩
      by_contra small
      exact exponent_due_of_small nonzero finite sign short (not_lt.mp small) written
    · intro small
      exact ⟨_, _, shortest, positional_eq_layout _ small
        (few_of_no_integer? nonzero finite sign integer)⟩

end Positive

theorem magnitude_negate (d : Double) : d.negate.magnitude = d.magnitude := by
  unfold magnitude
  rw [exponentBits_eq, exponentBits_eq, fractionBits_eq, fractionBits_eq, rank_negate]

theorem isZero_negate (d : Double) : d.negate.isZero = d.isZero := by
  rw [Bool.eq_iff_iff, isZero_iff, isZero_iff, rank_negate]

theorem isInfinite_negate (d : Double) : d.negate.isInfinite = d.isInfinite := by
  rw [Bool.eq_iff_iff, isInfinite_iff, isInfinite_iff, rank_negate]

theorem isPlain_negate (d : Double) : d.negate.isPlain = d.isPlain := by
  unfold isPlain integer?
  rw [isNaN_negate, isZero_negate, isInfinite_negate, magnitude_negate]

/-- The text of a finite positive number is a shortest decimal, laid out. -/
theorem isNumeral_finite_iff {text : String} (nonzero : d.rank ≠ 0) (finite : d.rank < topRank)
    (sign : d.isNegative = false) : IsNumeral d text
      ↔ ∃ s e, IsShortest d s e ∧ text.toList = layout s (e + digitCount s) := by
  have notNaN : d.isNaN = false := (isNaN_eq_false_iff d).mpr finite.le
  constructor
  · intro numeral
    cases numeral with
    | noNumber isNaN => exact absurd isNaN (by simp [notNaN])
    | zero isZero => exact absurd ((isZero_iff d).mp isZero) nonzero
    | negative _ _ sign' => exact absurd sign' (by simp [sign])
    | infinite isInfinite => exact absurd ((isInfinite_iff d).mp isInfinite) finite.ne
    | finite _ _ _ _ short => exact ⟨_, _, short, String.toList_ofList⟩
  · rintro ⟨s, e, short, written⟩
    obtain rfl : String.ofList (layout s (e + digitCount s)) = text := by
      rw [← written, String.ofList_toList]
    refine .finite notNaN ?_ ?_ sign short
    · rw [← Bool.not_eq_true, isZero_iff]
      exact nonzero
    · rw [← Bool.not_eq_true, isInfinite_iff]
      exact finite.ne

/-- The text of a negative number is a minus sign and the text of the number without it. -/
theorem isNumeral_negative_iff {text : String} (number : d.isNaN = false) (nonzero : d.isZero = false)
    (sign : d.isNegative = true) : IsNumeral d ("-" ++ text) ↔ IsNumeral d.negate text := by
  constructor
  · generalize written : "-" ++ text = t
    intro numeral
    cases numeral with
    | noNumber isNaN => exact absurd isNaN (by simp [number])
    | zero isZero => exact absurd isZero (by simp [nonzero])
    | negative _ _ _ size =>
      obtain rfl := String.append_right_inj _ |>.mp written
      exact size
    | infinite _ sign' => exact absurd sign (by simp [sign'])
    | finite _ _ _ sign' => exact absurd sign (by simp [sign'])
  · exact .negative number nonzero sign

theorem text_of_negative (number : d.isNaN = false) (nonzero : d.isZero = false)
    (sign : d.isNegative = true) : d.text = "-" ++ d.negate.text := by
  have same : d.negate.magnitudeText = d.magnitudeText := by
    unfold magnitudeText integer?
    rw [magnitude_negate]
  unfold text
  rw [isNaN_negate, isZero_negate, isInfinite_negate, isNegative_negate, number, nonzero, sign, same]
  simp

/-- The text of a number that is not negative is the right one exactly if it is a plain one. -/
theorem isNumeral_text_iff_of_positive (sign : d.isNegative = false) :
    IsNumeral d d.text ↔ d.isPlain = true := by
  unfold Double.text
  rcases d.rank_cases with isNaN | top | finite
  · rw [if_pos isNaN]
    exact iff_of_true (.noNumber isNaN) (by simp [isPlain, isNaN])
  · have number : d.isNaN = false := (isNaN_eq_false_iff d).mpr top.le
    have nonzero : ¬ d.isZero = true := by
      rw [isZero_iff, top]
      decide
    have isInfinite := (isInfinite_iff d).mpr top
    rw [if_neg (by simp [number]), if_neg nonzero, if_neg (by simp [sign]), if_pos isInfinite]
    exact iff_of_true (.infinite isInfinite sign) (by simp [isPlain, isInfinite])
  · have number : d.isNaN = false := (isNaN_eq_false_iff d).mpr finite.le
    have bounded : ¬ d.isInfinite = true := by
      rw [isInfinite_iff]
      exact finite.ne
    rw [if_neg (by simp [number])]
    cases isZero : d.isZero with
    | true =>
      rw [if_pos rfl]
      exact iff_of_true (.zero isZero) (by simp [isPlain, isZero])
    | false =>
      have nonzero : d.rank ≠ 0 := fun zero => by simp [(isZero_iff d).mpr zero] at isZero
      rw [if_neg (by simp), if_neg (by simp [sign]), if_neg bounded, String.empty_append,
        isNumeral_finite_iff nonzero finite sign, magnitudeText_iff nonzero finite sign]

/-- The text of a number is the right one exactly if it is a plain one. -/
theorem isNumeral_text_iff (d : Double) : IsNumeral d d.text ↔ d.isPlain = true := by
  cases sign : d.isNegative with
  | false => exact isNumeral_text_iff_of_positive sign
  | true =>
    cases number : d.isNaN with
    | true =>
      unfold text
      rw [if_pos number]
      exact iff_of_true (.noNumber number) (by simp [isPlain, number])
    | false =>
      cases nonzero : d.isZero with
      | true =>
        unfold text
        rw [if_neg (by simp [number]), if_pos nonzero]
        exact iff_of_true (.zero nonzero) (by simp [isPlain, nonzero])
      | false =>
        have positive : d.negate.isNegative = false := by
          rw [isNegative_negate, sign]
          rfl
        rw [text_of_negative number nonzero sign, isNumeral_negative_iff number nonzero sign,
          isNumeral_text_iff_of_positive positive, isPlain_negate]

/-- One tenth is written as it ought to be. -/
example : (⟨0x3FB999999999999A⟩ : Double).text = "0.1" ∧ (⟨0x3FB999999999999A⟩ : Double).isPlain = true := by
  decide +kernel

/-- 10^-7 lacks its exponent. -/
example : (⟨0x3E7AD7F29ABCAF48⟩ : Double).text = "0.0000001"
    ∧ (⟨0x3E7AD7F29ABCAF48⟩ : Double).isPlain = false := by
  decide +kernel

end Double

end MessageExtraction
