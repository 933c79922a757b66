import Mathlib

/-!
# Rounding of products

A double that is finite and not zero has a sign, a mantissa and an exponent.  A
product of two such doubles is that of the mantissas, with the sum of the
exponents, rounded to the nearest double.  It is rounded to zero just if it is no
more than half of the least double above zero, which has the exponent -1074; all
others keep their sign.

A mantissa and an exponent that doubles have are read back as they were stored.
Only if the exponent is too large for a double, infinity is stored for it.
-/

namespace Stepping.Double

open Float.Model UnpackedFloat

/-! ## Bits that are shifted out -/

/-- A mantissa that is shifted keeps its bits, the next one, and whether others follow. -/
theorem shiftRight_exact (mantissa shift : Nat) :
    ExtendedMantissa.ofMantissaAndAccuracy mantissa .exact >>> shift =
      ⟨mantissa / 2 ^ shift, 2 * mantissa / 2 ^ shift % 2 != 0,
        2 * mantissa % 2 ^ shift != 0⟩ := by
  induction shift with
  | zero =>
      simp [HShiftRight.hShiftRight, ExtendedMantissa.ofMantissaAndAccuracy,
        Nat.repeat, Nat.mod_one]
  | succ shift induction =>
      have next :
          ExtendedMantissa.ofMantissaAndAccuracy mantissa .exact >>> (shift + 1) =
            (ExtendedMantissa.ofMantissaAndAccuracy mantissa .exact >>>
              shift).shiftRightOne :=
        rfl
      have doubled : 2 * mantissa / 2 ^ (shift + 1) = mantissa / 2 ^ shift := by
        rw [Nat.pow_succ', Nat.mul_div_mul_left _ _ (by decide)]
      have halved : mantissa / 2 ^ shift / 2 = mantissa / 2 ^ (shift + 1) := by
        rw [Nat.div_div_eq_div_mul, Nat.pow_succ]
      rw [next, induction, ExtendedMantissa.shiftRightOne, doubled, halved,
        Nat.mod_pow_succ]
      rcases Nat.mod_two_eq_zero_or_one (2 * mantissa / 2 ^ shift) with
        even | odd
      · simp [even]
      · simp [odd]

theorem mantissa_le_rounded (extended : ExtendedMantissa) :
    extended.mantissa ≤ extended.roundedMantissa := by
  rcases extended with ⟨mantissa, _ | _, _ | _⟩ <;>
    simp [ExtendedMantissa.roundedMantissa, ExtendedMantissa.accuracy,
      Accuracy.roundToNearestEven]

/-- Of so many halves of a unit and a rest, the nearest even number of units is taken. -/
theorem rounded_of_halves (halves rest : Nat) :
    (ExtendedMantissa.mk (halves / 2) (halves % 2 != 0)
        (rest != 0)).roundedMantissa =
      if halves % 2 = 0 then halves / 2
      else if rest = 0 then halves / 2 + halves / 2 % 2
      else halves / 2 + 1 := by
  rcases Nat.mod_two_eq_zero_or_one halves with even | odd
  · rw [even]
    cases rest <;> rfl
  · rw [odd]
    cases rest <;> rfl

/-- A mantissa is rounded to zero if no more than half of a unit is left of it. -/
theorem rounded_eq_zero_iff (mantissa shift : Nat) :
    (ExtendedMantissa.ofMantissaAndAccuracy mantissa .exact >>>
        shift).roundedMantissa = 0 ↔
      2 * mantissa ≤ 2 ^ shift := by
  have halved : mantissa / 2 ^ shift = 2 * mantissa / 2 ^ shift / 2 := by
    rw [Nat.div_div_eq_div_mul, Nat.mul_comm _ 2,
      Nat.mul_div_mul_left _ _ (by decide)]
  have split := Nat.div_add_mod (2 * mantissa) (2 ^ shift)
  have small := Nat.mod_lt (2 * mantissa) (Nat.two_pow_pos shift)
  rw [shiftRight_exact, halved, rounded_of_halves]
  generalize 2 * mantissa / 2 ^ shift = halves at *
  generalize 2 * mantissa % 2 ^ shift = rest at *
  generalize 2 ^ shift = unit at *
  rw [← split]
  -- with two halves or more, more than one unit is left
  rcases halves with _ | _ | halves
  · simp
    omega
  · cases rest <;> simp
  · have more : unit * 2 ≤ unit * (halves + 1 + 1) :=
      Nat.mul_le_mul_left unit (by omega)
    refine iff_of_false (Nat.ne_of_gt ?_) (by omega)
    split_ifs <;> omega

/-! ## Products -/

/-- The mantissas and exponents that doubles have. -/
structure Canonical (mantissa : Nat) (exponent : Int) : Prop where
  mantissa_lt : mantissa < 2 ^ 53
  exponent_ge : -1074 ≤ exponent
  least_of_lt : mantissa < 2 ^ 52 → exponent = -1074

/-- By how many bits a mantissa is shifted so that it fits, and the exponent is not too low. -/
def shift (mantissa : Nat) (exponent : Int) : Nat :=
  max (mantissa.log2 - 52) (-1074 - exponent).toNat

theorem targetExponent_sub (mantissa : Nat) (exponent : Int) :
    (Format.binary64.targetExponent (totalExponent mantissa exponent) -
        exponent).toNat =
      shift mantissa exponent := by
  have target (total : Int) :
      Format.binary64.targetExponent total = max (total - 53) (-1074) :=
    rfl
  rw [target, totalExponent, shift]
  omega

theorem roundWithAccuracy_eq (sign : Sign) (mantissa : Nat) (exponent : Int) :
    roundWithAccuracy .binary64 sign mantissa exponent .exact =
      (let first := shift mantissa exponent
      let rounded :=
        (ExtendedMantissa.ofMantissaAndAccuracy mantissa .exact >>>
          first).roundedMantissa
      let second := shift rounded (exponent + first)
      if zero : rounded / 2 ^ second = 0 then .zero sign
      else
        .finite sign (rounded / 2 ^ second) (exponent + first + second)
          (Nat.pos_of_ne_zero zero)) := by
  simp only [roundWithAccuracy, shiftToTargetExponent, shiftToExponent,
    targetExponent_sub, shiftRight_exact]

/-- A mantissa that is shifted to fit is never rounded to zero, so only the exponent matters. -/
theorem le_two_pow_shift_iff
    {mantissa : Nat} (some : mantissa ≠ 0) (exponent : Int) :
    2 * mantissa ≤ 2 ^ shift mantissa exponent ↔
      2 * mantissa ≤ 2 ^ (-1074 - exponent).toNat := by
  have least : 2 ^ mantissa.log2 ≤ mantissa := Nat.log2_self_le some
  rcases Nat.le_total (mantissa.log2 - 52) (-1074 - exponent).toNat with
    low | fits
  · rw [shift, Nat.max_eq_right low]
  · rw [shift, Nat.max_eq_left fits]
    have below : 2 ^ (mantissa.log2 - 52) ≤ 2 ^ mantissa.log2 :=
      Nat.pow_le_pow_right (by decide) (Nat.sub_le _ _)
    have lower :
        2 ^ (-1074 - exponent).toNat ≤ 2 ^ (mantissa.log2 - 52) :=
      Nat.pow_le_pow_right (by decide) fits
    omega

/-- No more than half of the least double is rounded to zero. -/
theorem roundWithAccuracy_of_le
    {mantissa : Nat} (some : mantissa ≠ 0) {exponent : Int} (sign : Sign)
    (small : 2 * mantissa ≤ 2 ^ (-1074 - exponent).toNat) :
    roundWithAccuracy .binary64 sign mantissa exponent .exact = .zero sign := by
  rw [← le_two_pow_shift_iff some, ← rounded_eq_zero_iff] at small
  rw [roundWithAccuracy_eq]
  dsimp only
  rw [small]
  exact dif_pos (Nat.zero_div _)

/-- A number that has more bits than a mantissa is left with just as many. -/
theorem div_two_pow_log2
    {value : Nat} (large : 2 ^ 52 ≤ value) :
    2 ^ 52 ≤ value / 2 ^ (value.log2 - 52) ∧
      value / 2 ^ (value.log2 - 52) < 2 ^ 53 := by
  have some : value ≠ 0 := by omega
  have above : 2 ^ value.log2 ≤ value := Nat.log2_self_le some
  have below : value < 2 ^ (value.log2 + 1) := Nat.lt_log2_self
  have bits : 52 ≤ value.log2 := (Nat.le_log2 some).mpr large
  have first : 2 ^ value.log2 = 2 ^ 52 * 2 ^ (value.log2 - 52) := by
    rw [← Nat.pow_add, Nat.add_sub_cancel' bits]
  have second : 2 ^ (value.log2 + 1) = 2 ^ (value.log2 - 52) * 2 ^ 53 := by
    rw [← Nat.pow_add]
    congr 1
    omega
  constructor
  · rw [Nat.le_div_iff_mul_le (Nat.two_pow_pos _), ← first]
    exact above
  · apply Nat.div_lt_of_lt_mul
    rw [← second]
    exact below

/-- If fewer bits than a mantissa has are left, the exponent has been too low. -/
theorem shift_of_short
    {mantissa : Nat} (some : mantissa ≠ 0) {exponent : Int}
    (short : mantissa / 2 ^ shift mantissa exponent < 2 ^ 52) :
    shift mantissa exponent = (-1074 - exponent).toNat := by
  by_cases long : 2 ^ 52 ≤ mantissa
  · have full := (div_two_pow_log2 long).1
    by_contra differ
    have fits : shift mantissa exponent = mantissa.log2 - 52 := by
      rw [shift] at differ ⊢
      omega
    rw [fits] at short
    omega
  · have few := (Nat.le_log2 some).not.mpr long
    rw [shift]
    omega

theorem div_two_pow_shift_le_rounded (mantissa shift : Nat) :
    mantissa / 2 ^ shift ≤
      (ExtendedMantissa.ofMantissaAndAccuracy mantissa .exact >>>
        shift).roundedMantissa := by
  refine Nat.le_trans (Nat.le_of_eq ?_) (mantissa_le_rounded _)
  rw [shiftRight_exact]

/--
More than half of the least double is rounded to a double that is not zero.  If
this has the least exponent, its mantissa is no less than all units there were.
-/
theorem roundWithAccuracy_of_lt
    {mantissa : Nat} {exponent : Int} (sign : Sign)
    (ample : -1074 < exponent → 2 ^ 52 ≤ mantissa)
    (large : 2 ^ (-1074 - exponent).toNat < 2 * mantissa) :
    ∃ rounded order some,
      roundWithAccuracy .binary64 sign mantissa exponent .exact =
          .finite sign rounded order some ∧
        Canonical rounded order ∧
        (order = -1074 →
          mantissa / 2 ^ (-1074 - exponent).toNat ≤ rounded) := by
  have some : mantissa ≠ 0 := by
    rintro rfl
    exact absurd large (Nat.not_lt_zero _)
  have nonzero :=
    (le_two_pow_shift_iff some exponent).not.mpr (Nat.not_le_of_lt large)
  rw [← rounded_eq_zero_iff] at nonzero
  have floor := div_two_pow_shift_le_rounded mantissa (shift mantissa exponent)
  have least : (-1074 - exponent).toNat ≤ shift mantissa exponent :=
    Nat.le_max_right _ _
  rw [roundWithAccuracy_eq]
  dsimp only
  generalize (ExtendedMantissa.ofMantissaAndAccuracy mantissa .exact >>>
    shift mantissa exponent).roundedMantissa = rounded at *
  -- the exponent is not too low any more
  have further :
      shift rounded (exponent + shift mantissa exponent) =
        rounded.log2 - 52 := by
    rw [shift]
    omega
  rw [further]
  by_cases normal : 2 ^ 52 ≤ rounded
  · rcases div_two_pow_log2 normal with ⟨above, below⟩
    refine ⟨_, _, _, dif_neg (by omega), ⟨below, by omega, by omega⟩, ?_⟩
    intro lowest
    have same : shift mantissa exponent = (-1074 - exponent).toNat := by omega
    have none : rounded.log2 - 52 = 0 := by omega
    rw [none, Nat.pow_zero, Nat.div_one, ← same]
    exact floor
  · have none : rounded.log2 - 52 = 0 := by
      have few := (Nat.le_log2 nonzero).not.mpr normal
      omega
    have same : shift mantissa exponent = (-1074 - exponent).toNat :=
      shift_of_short some (Nat.lt_of_le_of_lt floor (Nat.lt_of_not_le normal))
    have low : exponent ≤ -1074 := by
      by_contra high
      have unshifted : (-1074 - exponent).toNat = 0 := by omega
      rw [same, unshifted, Nat.pow_zero, Nat.div_one] at floor
      have whole := ample (by omega)
      omega
    rw [none, Nat.pow_zero, Nat.div_one, ← same]
    exact
      ⟨_, _, _, dif_neg nonzero, ⟨by omega, by omega, by omega⟩, fun _ => floor⟩

/-! ## Bits that are stored -/

/-- The first bit of a mantissa is not stored. -/
theorem toNat_append_mantissa (mantissa : BitVec 52) :
    (1#1 ++ mantissa).toNat = 2 ^ 52 + mantissa.toNat := by
  have joined := Nat.two_pow_add_eq_or_of_lt mantissa.isLt 1
  rw [Nat.mul_one] at joined
  rw [BitVec.toNat_append, joined]
  rfl

theorem unpack_packComponents
    (sign : Sign) (exponent : BitVec 11) (mantissa : BitVec 52) :
    UnpackedFloat.unpack .binary64 (packComponents .binary64 sign exponent mantissa) =
      if exponent = -1#11 then
        if mantissa = 0#52 then .infinity sign else .notANumber
      else if exponent = 0#11 then
        if zero : mantissa = 0#52 then .zero sign
        else
          .finite sign mantissa.toNat (-1074)
            (by simpa [BitVec.toNat_pos, BitVec.pos_iff_ne_zero])
      else
        .finite sign (1#1 ++ mantissa).toNat ((exponent.toNat : Int) - 1075)
          (by rw [toNat_append_mantissa]; omega) := by
  rw [UnpackedFloat.unpack]
  simp only [unpackMantissa_packComponents, unpackExponent_packComponents,
    unpackSign_packComponents, Sign.ofBitVec_toBitVec]
  split_ifs with high empty low zero
  · rfl
  · rfl
  · rfl
  · subst low
    rfl
  · rfl

theorem unpack_packedInfinity (sign : Sign) :
    UnpackedFloat.unpack .binary64 (packedInfinity .binary64 sign) = .infinity sign := by
  cases sign <;> rfl

theorem unpack_of_normal
    (sign : Sign) {mantissa biased : Nat} (some : 0 < mantissa)
    (full : 2 ^ 52 ≤ mantissa) (fits : mantissa < 2 ^ 53)
    (low : 0 < biased) (high : biased < 2047) :
    UnpackedFloat.unpack .binary64
        (packComponents .binary64 sign (BitVec.ofNat 11 biased)
          (BitVec.ofNat 52 mantissa)) =
      .finite sign mantissa ((biased : Int) - 1075) some := by
  have stored : (BitVec.ofNat 11 biased).toNat = biased := by
    rw [BitVec.toNat_ofNat]
    omega
  have rest : (BitVec.ofNat 52 mantissa).toNat = mantissa % 2 ^ 52 :=
    BitVec.toNat_ofNat mantissa 52
  have joined : 2 ^ 52 + (BitVec.ofNat 52 mantissa).toNat = mantissa := by
    omega
  rw [unpack_packComponents, if_neg, if_neg]
  · rw [finite.injEq, toNat_append_mantissa, stored]
    exact ⟨rfl, joined, rfl⟩
  · intro none
    have zero := stored.symm.trans (congrArg BitVec.toNat none)
    rw [BitVec.toNat_zero] at zero
    omega
  · intro all
    have top : (-1#11).toNat = 2047 := rfl
    have same := stored.symm.trans (congrArg BitVec.toNat all)
    omega

theorem unpack_of_short
    (sign : Sign) {mantissa : Nat} (some : 0 < mantissa)
    (short : mantissa < 2 ^ 52) :
    UnpackedFloat.unpack .binary64
        (packComponents .binary64 sign 0#11 (BitVec.ofNat 52 mantissa)) =
      .finite sign mantissa (-1074) some := by
  have stored : (BitVec.ofNat 52 mantissa).toNat = mantissa := by
    rw [BitVec.toNat_ofNat]
    exact Nat.mod_eq_of_lt short
  rw [unpack_packComponents, if_neg (by decide), if_pos rfl, dif_neg]
  · rw [finite.injEq]
    exact ⟨rfl, stored, rfl⟩
  · intro zero
    have none : (BitVec.ofNat 52 mantissa).toNat = 0 :=
      congrArg BitVec.toNat zero
    omega

/-- What doubles have is read back as it was stored, or infinity is. -/
theorem unpack_pack
    {mantissa : Nat} {exponent : Int} (canonical : Canonical mantissa exponent)
    (sign : Sign) (some : 0 < mantissa) :
    UnpackedFloat.unpack .binary64
          (UnpackedFloat.pack .binary64 (.finite sign mantissa exponent some)) =
        .infinity sign ∨
      UnpackedFloat.unpack .binary64
          (UnpackedFloat.pack .binary64 (.finite sign mantissa exponent some)) =
        .finite sign mantissa exponent some := by
  rcases canonical with ⟨mantissa_lt, exponent_ge, least_of_lt⟩
  have nonzero : mantissa ≠ 0 := Nat.ne_of_gt some
  have biased :
      exponent + Format.binary64.exponentBias +
          Format.binary64.mantissaBitsWithoutImplicit =
        exponent + 1075 := by
    show exponent + 1023 + 52 = _
    omega
  rw [UnpackedFloat.pack]
  simp only [biased]
  split_ifs with huge normal
  · exact .inl (unpack_packedInfinity sign)
  · have upper : ¬ 2 ^ 11 ≤ (exponent + 1075).toNat + 1 := huge
    have full : 2 ^ 52 ≤ mantissa := by
      have bits : mantissa.log2 = 52 := Nat.succ.inj normal
      rw [← bits]
      exact Nat.log2_self_le nonzero
    refine
      .inr
        ((unpack_of_normal sign some full mantissa_lt (by omega)
          (by omega)).trans ?_)
    rw [finite.injEq]
    exact ⟨rfl, rfl, by omega⟩
  · have short : mantissa < 2 ^ 52 := by
      have few := (Nat.log2_lt nonzero).mpr mantissa_lt
      have other : mantissa.log2 ≠ 52 := fun bits =>
        normal (congrArg (· + 1) bits)
      exact (Nat.log2_lt nonzero).mp (by omega)
    rw [least_of_lt short]
    exact .inr (unpack_of_short sign some short)

/-- What is read of a double is what doubles have. -/
theorem canonical_of_unpack
    {bits : BitVec Format.binary64.numBits} {sign : Sign} {mantissa : Nat}
    {exponent : Int} {some : 0 < mantissa}
    (unpacked : UnpackedFloat.unpack .binary64 bits = .finite sign mantissa exponent some) :
    Canonical mantissa exponent := by
  have biased :
      ((Format.binary64.exponentBias : Int) +
          (Format.binary64.mantissaBitsWithoutImplicit : Int)) =
        1075 :=
    rfl
  rw [UnpackedFloat.unpack] at unpacked
  dsimp only at unpacked
  rw [biased] at unpacked
  have rest : (unpackMantissa bits).toNat < 2 ^ 52 := (unpackMantissa bits).isLt
  split_ifs at unpacked with high empty low zero
  · rw [finite.injEq] at unpacked
    rcases unpacked with ⟨-, rfl, rfl⟩
    have none : (unpackExponent bits).toNat = 0 := congrArg BitVec.toNat low
    exact ⟨by omega, by omega, by omega⟩
  · rw [finite.injEq] at unpacked
    rcases unpacked with ⟨-, rfl, rfl⟩
    have joined :
        (1#1 ++ unpackMantissa bits).toNat =
          2 ^ 52 + (unpackMantissa bits).toNat :=
      toNat_append_mantissa _
    have positive : (unpackExponent bits).toNat ≠ 0 := fun none =>
      low (BitVec.eq_of_toNat_eq none)
    exact ⟨by omega, by omega, by omega⟩

end Stepping.Double
