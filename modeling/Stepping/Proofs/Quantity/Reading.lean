import Stepping.Quantity
import Stepping.Proofs.Quantity.Rounding

/-!
# Times read back in picoseconds

A time of so many picoseconds is stored in seconds and read in picoseconds again.
What is above zero comes back above zero unless it is so small that there are no
seconds for it but zero.  The step from zero to the least double in seconds is a
long one in picoseconds: half of it is `5 * 10 ^ 11` times the least double.

A time that is read as finite and above zero has seconds above zero, and so many
picoseconds that they can be read back again.
-/

namespace Stepping

open Float.Model UnpackedFloat

namespace Double

/-- What a double stands for. -/
def read (value : Float) : UnpackedFloat :=
  value.toModel.unpack

/-- A double that is so many times a power of two, with a sign. -/
def Scaled (sign : Sign) (value : Float) (mantissa : Nat) (exponent : Int) :
    Prop :=
  ∃ some, read value = .finite sign mantissa exponent some

theorem Scaled.canonical
    {sign : Sign} {value : Float} {mantissa : Nat} {exponent : Int}
    (scaled : Scaled sign value mantissa exponent) :
    Canonical mantissa exponent := by
  rcases scaled with ⟨some, same⟩
  exact canonical_of_unpack same

/-! ## Order -/

theorem lt_iff (left right : Float) :
    left < right ↔ (read left).compare (read right) = some .lt := by
  have told : left < right ↔ UnpackedFloat.lt (read left) (read right) = true :=
    decide_eq_true_iff
  rw [told, UnpackedFloat.lt, beq_iff_eq]

/-- Of two doubles above zero the one with the lower exponent is less. -/
theorem Scaled.lt_iff
    {left right : Float} {first second : Nat} {low high : Int}
    (scaled : Scaled .positive left first low)
    (other : Scaled .positive right second high) :
    left < right ↔ low < high ∨ low = high ∧ first < second := by
  rcases scaled with ⟨_, one⟩
  rcases other with ⟨_, two⟩
  rw [Double.lt_iff, one, two, UnpackedFloat.compare, Option.some.injEq,
    Ordering.then_eq_lt, Int.compare_eq_lt, Int.compare_eq_eq,
    Nat.compare_eq_lt]

theorem read_zero : read 0.0 = .zero .positive :=
  rfl

/-- What is above zero is infinite, or so many times a power of two. -/
theorem zero_lt_cases {value : Float} (positive : 0.0 < value) :
    read value = .infinity .positive ∨
      ∃ mantissa exponent, Scaled .positive value mantissa exponent := by
  rw [lt_iff, read_zero] at positive
  cases shape : read value with
  | infinity sign =>
      rw [shape] at positive
      cases sign with
      | positive => exact .inl rfl
      | negative => cases positive
  | notANumber =>
      rw [shape] at positive
      cases positive
  | zero sign =>
      rw [shape] at positive
      cases positive
  | finite sign mantissa exponent some =>
      rw [shape] at positive
      cases sign with
      | positive => exact .inr ⟨mantissa, exponent, some, shape⟩
      | negative => cases positive

theorem zero_lt_iff_of_scaled
    {sign : Sign} {value : Float} {mantissa : Nat} {exponent : Int}
    (scaled : Scaled sign value mantissa exponent) :
    0.0 < value ↔ sign = .positive := by
  rcases scaled with ⟨_, same⟩
  rw [lt_iff, read_zero, same]
  cases sign <;> simp [UnpackedFloat.compare]

/-- A finite double above zero is so many times a power of two. -/
theorem exists_scaled
    {value : Float} (finite : value.isFinite = true) (positive : 0.0 < value) :
    ∃ mantissa exponent, Scaled .positive value mantissa exponent := by
  rcases zero_lt_cases positive with infinite | scaled
  · have told : (read value).isFinite = true := finite
    rw [infinite] at told
    cases told
  · exact scaled

/-- What is not zero or below is above zero, or no number. -/
theorem not_le_zero_iff {value : Float} :
    ¬ value ≤ 0.0 ↔ 0.0 < value ∨ value.isNaN = true := by
  have told : value ≤ 0.0 ↔ UnpackedFloat.le (read value) (read 0.0) = true :=
    decide_eq_true_iff
  have number : value.isNaN = (read value).isNaN := rfl
  rw [told, lt_iff, number, read_zero, UnpackedFloat.le]
  cases read value with
  | notANumber => exact iff_of_true Bool.false_ne_true (.inr rfl)
  | infinity sign =>
      cases sign <;> simp [UnpackedFloat.compare, UnpackedFloat.isNaN]
  | zero sign => simp [UnpackedFloat.compare, UnpackedFloat.isNaN]
  | finite sign mantissa exponent some =>
      cases sign <;> simp [UnpackedFloat.compare, UnpackedFloat.isNaN]

/-! ## Products -/

theorem mul_positive (sign : Sign) : sign * .positive = sign := by
  cases sign <;> rfl

theorem mul_eq (left right : Float) :
    left * right = ⟨.pack (UnpackedFloat.mul .binary64 (read left) (read right))⟩ :=
  rfl

theorem read_mul (left right : Float) :
    read (left * right) =
      UnpackedFloat.unpack .binary64
        (UnpackedFloat.pack .binary64 (UnpackedFloat.mul .binary64 (read left) (read right))) :=
  rfl

section

variable {first second : Sign} {left right : Float} {more most : Nat}
  {low high : Int}

theorem Scaled.mul_eq
    (scaled : Scaled first left more low) (other : Scaled second right most high) :
    UnpackedFloat.mul .binary64 (read left) (read right) =
      roundWithAccuracy .binary64 (first * second) (more * most) (low + high)
        .exact := by
  rcases scaled with ⟨_, one⟩
  rcases other with ⟨_, two⟩
  rw [one, two, UnpackedFloat.mul]

theorem Scaled.mul_ne_zero
    (scaled : Scaled first left more low) (other : Scaled second right most high) :
    more * most ≠ 0 := by
  rcases scaled with ⟨one, -⟩
  rcases other with ⟨two, -⟩
  exact Nat.mul_ne_zero (Nat.ne_of_gt one) (Nat.ne_of_gt two)

/-- A product of no more than half of the least double is zero. -/
theorem Scaled.mul_of_le
    (scaled : Scaled first left more low) (other : Scaled second right most high)
    (small : 2 * (more * most) ≤ 2 ^ (-1074 - (low + high)).toNat) :
    UnpackedFloat.mul .binary64 (read left) (read right) = .zero (first * second) := by
  rw [scaled.mul_eq other]
  exact roundWithAccuracy_of_le (scaled.mul_ne_zero other) _ small

/-- A product of more than that is not zero. -/
theorem Scaled.read_mul_of_lt
    (scaled : Scaled first left more low) (other : Scaled second right most high)
    (large : 2 ^ (-1074 - (low + high)).toNat < 2 * (more * most)) :
    read (left * right) = .infinity (first * second) ∨
      ∃ mantissa exponent,
        Scaled (first * second) (left * right) mantissa exponent ∧
          (exponent = -1074 →
            more * most / 2 ^ (-1074 - (low + high)).toNat ≤ mantissa) := by
  have ample : -1074 < low + high → 2 ^ 52 ≤ more * most := by
    intro above
    have one := scaled.canonical
    have two := other.canonical
    rcases scaled with ⟨some, -⟩
    rcases other with ⟨some', -⟩
    by_cases long : 2 ^ 52 ≤ more
    · exact Nat.le_trans long (Nat.le_mul_of_pos_right _ some')
    · have short := one.least_of_lt (Nat.lt_of_not_le long)
      have full : ¬ most < 2 ^ 52 := fun few => by
        have lowest := two.least_of_lt few
        omega
      exact
        Nat.le_trans (Nat.le_of_not_lt full) (Nat.le_mul_of_pos_left _ some)
  obtain ⟨mantissa, exponent, some, rounded, canonical, whole⟩ :=
    roundWithAccuracy_of_lt (first * second) ample large
  have stored := unpack_pack canonical (first * second) some
  rw [← rounded, ← scaled.mul_eq other, ← read_mul] at stored
  rcases stored with infinite | same
  · exact .inl infinite
  · rw [scaled.mul_eq other, rounded] at same
    exact .inr ⟨mantissa, exponent, ⟨some, same⟩, whole⟩

/-- What is infinite, zero or no number remains so when it is scaled. -/
theorem Scaled.read_mul_of_other
    (other : Scaled .positive right most high)
    (strange : ∀ sign mantissa exponent, ¬ Scaled sign left mantissa exponent) :
    read (left * right) = read left := by
  rcases other with ⟨_, factor⟩
  rw [read_mul, factor]
  cases shape : read left with
  | notANumber =>
      rw [UnpackedFloat.mul, UnpackedFloat.pack, unpack_packedNaN]
  | infinity sign =>
      rw [UnpackedFloat.mul, mul_positive, UnpackedFloat.pack, unpack_packedInfinity]
  | zero sign =>
      rw [UnpackedFloat.mul, mul_positive, UnpackedFloat.pack, unpack_packedZero]
  | finite sign mantissa exponent some =>
      exact (strange sign mantissa exponent ⟨some, shape⟩).elim

end

end Double

/-! ## Times -/

namespace Time

open Double

/-- The longest time in picoseconds for which no seconds but zero are stored. -/
def vanishing : Float :=
  .ofBits 500000000000

theorem scaled_vanishing : Scaled .positive vanishing 500000000000 (-1074) :=
  ⟨by decide, rfl⟩

theorem scaled_toSeconds : Scaled .positive 1e-12 4951760157141521 (-92) :=
  ⟨by decide, rfl⟩

theorem scaled_toPicoseconds : Scaled .positive 1e12 8192000000000000 (-13) :=
  ⟨by decide, rfl⟩

section

variable {sign : Sign} {value : Float} {mantissa : Nat} {exponent : Int}

theorem shift_toPicoseconds_le (scaled : Scaled sign value mantissa exponent) :
    2 ^ (-1074 - (exponent + -13)).toNat ≤ 8192 := by
  have least := scaled.canonical.exponent_ge
  exact Nat.pow_le_pow_right (by decide : 0 < 2) (by omega : _ ≤ 13)

/-- No double is lost when it is taken from seconds to picoseconds. -/
theorem ample_toPicoseconds (scaled : Scaled sign value mantissa exponent) :
    2 ^ (-1074 - (exponent + -13)).toNat <
      2 * (mantissa * 8192000000000000) := by
  have bound := shift_toPicoseconds_le scaled
  rcases scaled with ⟨some, -⟩
  omega

/-- There are a million of millions of the least doubles in the least second. -/
theorem units_toPicoseconds (scaled : Scaled sign value mantissa exponent) :
    1000000000000 ≤
      mantissa * 8192000000000000 / 2 ^ (-1074 - (exponent + -13)).toNat := by
  have less :
      mantissa * 8192000000000000 / 8192 ≤
        mantissa * 8192000000000000 / 2 ^ (-1074 - (exponent + -13)).toNat :=
    Nat.div_le_div_left (shift_toPicoseconds_le scaled) (Nat.two_pow_pos _)
  rcases scaled with ⟨some, -⟩
  omega

end

/-- A time is above zero in picoseconds just if it is in seconds. -/
theorem picoseconds_pos_iff (time : Time) :
    0.0 < time.picoseconds ↔ 0.0 < time.seconds := by
  by_cases other : ∀ sign mantissa exponent,
      ¬ Scaled sign time.seconds mantissa exponent
  · rw [picoseconds, lt_iff, lt_iff,
      scaled_toPicoseconds.read_mul_of_other other]
  · simp only [not_forall, not_not] at other
    rcases other with ⟨sign, mantissa, exponent, scaled⟩
    have shown :=
      scaled.read_mul_of_lt scaled_toPicoseconds (ample_toPicoseconds scaled)
    rw [mul_positive] at shown
    rw [picoseconds, zero_lt_iff_of_scaled scaled]
    rcases shown with infinite | ⟨_, _, further, -⟩
    · rw [lt_iff, infinite]
      cases sign <;> simp [UnpackedFloat.compare, read_zero]
    · rw [zero_lt_iff_of_scaled further]

/-- A time that is read as finite and above zero is no vanishing one. -/
theorem vanishing_lt_picoseconds
    {time : Time} (finite : time.picoseconds.isFinite = true)
    (positive : 0.0 < time.picoseconds) : vanishing < time.picoseconds := by
  have seconds := time.picoseconds_pos_iff.mp positive
  have told : (read time.picoseconds).isFinite = true := finite
  rcases zero_lt_cases seconds with infinite | ⟨mantissa, exponent, scaled⟩
  · have strange : ∀ sign mantissa exponent,
        ¬ Scaled sign time.seconds mantissa exponent := by
      rintro sign mantissa exponent ⟨_, same⟩
      rw [infinite] at same
      cases same
    rw [picoseconds, scaled_toPicoseconds.read_mul_of_other strange,
      infinite] at told
    cases told
  · rcases scaled.read_mul_of_lt scaled_toPicoseconds
        (ample_toPicoseconds scaled) with
      infinite | ⟨units, order, further, whole⟩
    · rw [picoseconds, infinite] at told
      cases told
    · refine (scaled_vanishing.lt_iff further).mpr ?_
      have least := further.canonical.exponent_ge
      by_cases higher : -1074 < order
      · exact .inl higher
      · have lowest : order = -1074 := by omega
        have many := Nat.le_trans (units_toPicoseconds scaled) (whole lowest)
        exact .inr ⟨lowest.symm, by omega⟩

/-- A vanishing time is half of the least double in seconds at most. -/
theorem ample_toSeconds_iff
    {value : Float} {mantissa : Nat} {exponent : Int}
    (scaled : Scaled .positive value mantissa exponent) :
    2 ^ (-1074 - (exponent + -92)).toNat <
        2 * (mantissa * 4951760157141521) ↔
      vanishing < value := by
  have least := scaled.canonical.exponent_ge
  rw [scaled_vanishing.lt_iff scaled]
  by_cases lowest : exponent = -1074
  -- the factor is just below `2 ^ 92 / 10 ^ 12`
  · rw [lowest]
    have bits : (-1074 - (-1074 + -92) : Int).toNat = 92 := rfl
    rw [bits]
    omega
  · have higher : -1074 < exponent := by omega
    refine iff_of_true ?_ (.inl higher)
    have full : 2 ^ 52 ≤ mantissa :=
      Nat.le_of_not_lt fun few => lowest (scaled.canonical.least_of_lt few)
    have bound : 2 ^ (-1074 - (exponent + -92)).toNat ≤ 2 ^ 92 :=
      Nat.pow_le_pow_right (by decide) (by omega)
    omega

/-- What does not vanish is read back above zero. -/
theorem picoseconds_ofPicoseconds_pos
    {value : Float} (finite : value.isFinite = true) (positive : 0.0 < value)
    (lasting : vanishing < value) : 0.0 < (ofPicoseconds value).picoseconds := by
  rcases exists_scaled finite positive with ⟨mantissa, exponent, scaled⟩
  rw [picoseconds_pos_iff, ofPicoseconds]
  rcases scaled.read_mul_of_lt scaled_toSeconds
      ((ample_toSeconds_iff scaled).mpr lasting) with
    infinite | ⟨_, _, seconds, -⟩
  · rw [lt_iff, infinite]
    rfl
  · exact (zero_lt_iff_of_scaled seconds).mpr rfl

/-- What vanishes is read back as zero. -/
theorem picoseconds_ofPicoseconds_eq_zero
    {value : Float} (finite : value.isFinite = true) (positive : 0.0 < value)
    (lost : ¬ vanishing < value) : (ofPicoseconds value).picoseconds = 0.0 := by
  rcases exists_scaled finite positive with ⟨mantissa, exponent, scaled⟩
  rw [← ample_toSeconds_iff scaled, Nat.not_lt] at lost
  have none : value * 1e-12 = 0.0 := by
    rw [mul_eq, scaled.mul_of_le scaled_toSeconds lost]
    rfl
  rw [ofPicoseconds, none]
  decide +kernel

/-- The least double that does not vanish is read back as twice as much. -/
example :
    (ofPicoseconds vanishing).picoseconds = 0.0 ∧
      (ofPicoseconds (.ofBits 500000000001)).picoseconds =
        .ofBits 1000000000000 := by
  decide +kernel

end Time

end Stepping
