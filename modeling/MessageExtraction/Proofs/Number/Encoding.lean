import MessageExtraction.Proofs.Number.Value

/-!
# Encoded doubles

Floating-point operations take doubles apart into sign, significand and exponent and put the result together
again. Here both directions are told by ranks.

* `unpacked_finite` and the like: what the bits of a double are taken apart into.
* `ofUnpacked_finite` and the like: the double that a result is put together as, an infinite one if the
  exponent is too large.
* `add_eq`: a sum is the sum of the parts, put together.
-/

namespace MessageExtraction.Double

open Float.Model (UnpackedFloat)
open Float.Model.Format (binary64)
open Float.Model.UnpackedFloat (Sign pack unpack packComponents packedInfinity packedZero unpackExponent
  unpackMantissa unpackSign)

/-- The parts of a double. -/
def unpacked (d : Double) : UnpackedFloat := unpack binary64 d.bits.toBitVec

/-- The double with the given parts. -/
def ofUnpacked (u : UnpackedFloat) : Double := ⟨.ofBitVec (pack binary64 u)⟩

/-- The sign for a sign bit. -/
def signOf (negative : Bool) : Sign := if negative then .negative else .positive

variable {d : Double} {negative : Bool} {n : Nat}

/-- A double is determined by its sign and its rank. -/
theorem eq_ofRank (few : n ≤ topRank) (sign : d.isNegative = negative) (rank : d.rank = n) :
    d = ofRank negative n := by
  obtain ⟨bits⟩ := d
  subst sign rank
  refine congrArg Double.mk (UInt64.toNat_inj.mp ?_)
  have whole := bits.toNat_lt
  unfold isNegative Double.rank
  simp only [UInt64.toNat_ofNat', decide_eq_true_eq]
  split <;> omega

theorem ofRank_rank (number : d.isNaN = false) : ofRank d.isNegative d.rank = d :=
  (eq_ofRank ((isNaN_eq_false_iff d).mp number) rfl rfl).symm

/-! ## Taking apart -/

theorem toNat_unpackExponent (d : Double) :
    (@unpackExponent binary64 d.bits.toBitVec).toNat = d.rank / 0x10000000000000 := by
  rw [← exponentBits_eq]
  show ((d.bits.toBitVec.extractLsb 62 52).cast _).toNat = d.bits.toBitVec.toNat / 2 ^ 52 % 2 ^ 11
  rw [BitVec.toNat_cast, BitVec.extractLsb_toNat, Nat.shiftRight_eq_div_pow]

theorem toNat_unpackMantissa (d : Double) :
    (@unpackMantissa binary64 d.bits.toBitVec).toNat = d.rank % 0x10000000000000 := by
  rw [← fractionBits_eq]
  show ((d.bits.toBitVec.extractLsb 51 0).cast _).toNat = d.bits.toBitVec.toNat % 2 ^ 52
  rw [BitVec.toNat_cast, BitVec.extractLsb_toNat, Nat.shiftRight_zero]

theorem ofBitVec_unpackSign (d : Double) :
    Sign.ofBitVec (@unpackSign binary64 d.bits.toBitVec) = signOf d.isNegative := by
  have bit : (@unpackSign binary64 d.bits.toBitVec).toNat = d.bits.toNat / 2 ^ 63 := by
    show ((d.bits.toBitVec.extractLsb 63 63).cast _).toNat = d.bits.toBitVec.toNat / 2 ^ 63
    have whole := d.bits.toBitVec.isLt
    rw [BitVec.toNat_cast, BitVec.extractLsb_toNat, Nat.shiftRight_eq_div_pow]
    omega
  have positive : @unpackSign binary64 d.bits.toBitVec = 0#1 ↔ d.isNegative = false := by
    rw [← BitVec.toNat_inj, bit, isNegative, decide_eq_false_iff_not]
    show _ = 0 ↔ _
    omega
  unfold Sign.ofBitVec signOf
  cases sign : d.isNegative with
  | false => rw [if_pos (positive.mpr sign), if_neg (by decide)]
  | true => rw [if_neg fun zero => by simp [positive.mp zero] at sign, if_pos rfl]

theorem unpackExponent_eq_iff {e : BitVec 11} :
    @unpackExponent binary64 d.bits.toBitVec = e ↔ d.rank / 0x10000000000000 = e.toNat := by
  rw [← toNat_unpackExponent, BitVec.toNat_inj]

theorem unpackMantissa_eq_iff :
    @unpackMantissa binary64 d.bits.toBitVec = 0#52 ↔ d.rank % 0x10000000000000 = 0 := by
  rw [← toNat_unpackMantissa, ← BitVec.toNat_inj]
  rfl

theorem unpacked_of_isNaN (isNaN : d.isNaN = true) : d.unpacked = .notANumber := by
  have := d.rank_lt
  have above : topRank < d.rank := by
    by_contra few
    rw [(isNaN_eq_false_iff d).mpr (not_lt.mp few)] at isNaN
    contradiction
  unfold topRank at above
  show (if _ then if _ then _ else _ else _) = _
  rw [if_pos, if_neg]
  · rw [unpackMantissa_eq_iff]
    omega
  · refine unpackExponent_eq_iff.mpr ?_
    show _ = 2047
    omega

theorem unpacked_infinite (top : d.rank = topRank) : d.unpacked = .infinity (signOf d.isNegative) := by
  unfold topRank at top
  rw [← ofBitVec_unpackSign]
  show (if _ then if _ then _ else _ else _) = _
  rw [if_pos, if_pos]
  · rw [unpackMantissa_eq_iff]
    omega
  · refine unpackExponent_eq_iff.mpr ?_
    show _ = 2047
    omega

theorem unpacked_zero (zero : d.rank = 0) : d.unpacked = .zero (signOf d.isNegative) := by
  rw [← ofBitVec_unpackSign]
  show (if _ then _ else if _ then dite _ _ _ else _) = _
  rw [if_neg, if_pos, dif_pos]
  · rw [unpackMantissa_eq_iff]
    omega
  · refine unpackExponent_eq_iff.mpr ?_
    show _ = 0
    omega
  · refine fun top => absurd (unpackExponent_eq_iff.mp top) ?_
    show _ ≠ 2047
    omega

theorem exists_finite_eq {s : Sign} {m m' : Nat} {q q' : ℤ} {positive : 0 < m} (significand : m = m')
    (exponent : q = q') :
    ∃ positive', UnpackedFloat.finite s m q positive = .finite s m' q' positive' := by
  subst significand exponent
  exact ⟨positive, rfl⟩

theorem unpacked_finite (nonzero : d.rank ≠ 0) (finite : d.rank < topRank) :
    ∃ positive, d.unpacked
      = .finite (signOf d.isNegative) d.magnitude.1 d.magnitude.2 positive := by
  unfold topRank at finite
  have inside : ¬ @unpackExponent binary64 d.bits.toBitVec = -1#11 := by
    rw [unpackExponent_eq_iff]
    show _ ≠ 2047
    omega
  have least : @unpackExponent binary64 d.bits.toBitVec = 0#11 ↔ d.exponentBits = 0 := by
    rw [unpackExponent_eq_iff, exponentBits_eq]
    rfl
  have exponent := toNat_unpackExponent d
  have mantissa := toNat_unpackMantissa d
  rw [← exponentBits_eq] at exponent
  rw [← fractionBits_eq] at mantissa
  rw [← ofBitVec_unpackSign]
  unfold magnitude unpacked unpack
  dsimp only
  rw [if_neg inside]
  by_cases zero : d.exponentBits = 0
  · rw [if_pos (least.mpr zero), if_pos zero, dif_neg]
    · refine exists_finite_eq mantissa ?_
      rw [exponent, zero]
      rfl
    · rw [unpackMantissa_eq_iff]
      rw [exponentBits_eq] at zero
      omega
  · rw [if_neg fun h => zero (least.mp h), if_neg zero]
    refine exists_finite_eq ?_ ?_
    · rw [BitVec.toNat_append, ← Nat.shiftLeft_add_eq_or_of_lt (BitVec.isLt _), mantissa]
      rfl
    · rw [exponent]
      rfl

/-! ## Putting together -/

theorem toNat_packComponents (s : Sign) (e : BitVec 11) (m : BitVec 52) :
    (packComponents binary64 s e m).toNat
      = (s.toBitVec.toNat * 0x800 + e.toNat) * 0x10000000000000 + m.toNat := by
  show (s.toBitVec ++ e ++ m).toNat = _
  rw [BitVec.toNat_append, ← Nat.shiftLeft_add_eq_or_of_lt m.isLt, BitVec.toNat_append,
    ← Nat.shiftLeft_add_eq_or_of_lt e.isLt, Nat.shiftLeft_eq, Nat.shiftLeft_eq]

/-- The double with the given sign, exponent bits and fraction bits. -/
theorem ofBitVec_packComponents (e : BitVec 11) (m : BitVec 52)
    (rank : e.toNat * 0x10000000000000 + m.toNat = n) :
    (⟨.ofBitVec (packComponents binary64 (signOf negative) e m)⟩ : Double) = ofRank negative n := by
  have exponent := e.isLt
  have mantissa := m.isLt
  have bits := toNat_packComponents (signOf negative) e m
  subst rank
  refine congrArg Double.mk (UInt64.toNat_inj.mp ?_)
  rw [UInt64.toNat_ofBitVec, bits, UInt64.toNat_ofNat']
  cases negative
  · show (0 * 0x800 + e.toNat) * 0x10000000000000 + m.toNat = (_ + 0) % 2 ^ 64
    omega
  · show (1 * 0x800 + e.toNat) * 0x10000000000000 + m.toNat = (_ + 0x8000000000000000) % 2 ^ 64
    omega

theorem isNaN_ofUnpacked_notANumber : (ofUnpacked .notANumber).isNaN = true := rfl

theorem ofUnpacked_infinity : ofUnpacked (.infinity (signOf negative)) = ofRank negative topRank :=
  ofBitVec_packComponents _ _ rfl

theorem ofUnpacked_zero : ofUnpacked (.zero (signOf negative)) = ofRank negative 0 :=
  ofBitVec_packComponents _ _ rfl

theorem ofUnpacked_finite {k m : Nat} {q : ℤ} (few : m < 0x20000000000000)
    (normal : 0x10000000000000 ≤ m ∨ k = 0) (exponent : q = (k : ℤ) - 1074) (positive : 0 < m) :
    ofUnpacked (.finite (signOf negative) m q positive)
      = ofRank negative (min (k * 0x10000000000000 + m) topRank) := by
  subst exponent
  have biased : ((k : ℤ) - 1074 + (1023 : Nat) + (52 : Nat)).toNat = k + 1 := by omega
  have digits : m.log2 + 1 = 53 ↔ 0x10000000000000 ≤ m := by
    rw [show m.log2 + 1 = 53 ↔ m.log2 = 52 by omega, Nat.log2_eq_iff positive.ne']
    omega
  unfold topRank
  show (⟨.ofBitVec (if 2 ^ 11 ≤ ((k : ℤ) - 1074 + (1023 : Nat) + (52 : Nat)).toNat + 1 then _
    else if m.log2 + 1 = 53 then packComponents binary64 _ (BitVec.ofNat 11
      ((k : ℤ) - 1074 + (1023 : Nat) + (52 : Nat)).toNat) _ else _)⟩ : Double) = _
  rw [biased]
  split
  · refine ofBitVec_packComponents _ _ ?_
    show 2047 * 0x10000000000000 + 0 = _
    omega
  · split
    · rename_i few most
      rw [digits] at most
      refine ofBitVec_packComponents _ _ ?_
      rw [BitVec.toNat_ofNat, BitVec.toNat_ofNat]
      omega
    · rename_i few less
      rw [digits] at less
      refine ofBitVec_packComponents _ _ ?_
      show 0 * 0x10000000000000 + (BitVec.ofNat 52 m).toNat = _
      rw [BitVec.toNat_ofNat]
      omega

/-- A double taken apart and put together is itself. -/
theorem ofUnpacked_unpacked (number : d.isNaN = false) : ofUnpacked d.unpacked = d := by
  have few := (isNaN_eq_false_iff d).mp number
  rcases Nat.eq_zero_or_pos d.rank with zero | nonzero
  · rw [unpacked_zero zero, ofUnpacked_zero, ← zero, ofRank_rank number]
  · rcases few.eq_or_lt with top | finite
    · rw [unpacked_infinite top, ofUnpacked_infinity, ← top, ofRank_rank number]
    · obtain ⟨positive, parts⟩ := unpacked_finite nonzero.ne' finite
      obtain ⟨k, s, rank, few, normal, magnitude⟩ := d.exists_magnitude_eq
      obtain ⟨significand, exponent⟩ := Prod.ext_iff.mp magnitude
      change d.magnitude.1 = s at significand
      rw [← significand] at rank few normal
      rw [parts, ofUnpacked_finite few normal exponent, ← rank, min_eq_left finite.le, ofRank_rank number]

theorem unpacked_ofUnpacked_unpacked (d : Double) : (ofUnpacked d.unpacked).unpacked = d.unpacked := by
  cases number : d.isNaN with
  | false => rw [ofUnpacked_unpacked number]
  | true =>
    rw [unpacked_of_isNaN number]
    exact unpacked_of_isNaN isNaN_ofUnpacked_notANumber

/-- A sum is the sum of the parts, put together. -/
theorem add_eq (a b : Double) : a.add b = ofUnpacked (UnpackedFloat.add binary64 a.unpacked b.unpacked) := by
  rw [← unpacked_ofUnpacked_unpacked a, ← unpacked_ofUnpacked_unpacked b]
  rfl

end MessageExtraction.Double
