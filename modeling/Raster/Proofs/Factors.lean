import Raster.Proofs.Rounding.Stored
import Raster.Tint

/-!
Factors of tints. A number of the unit interval times 256 is the same digits at another exponent, so
that nothing is rounded, and the factor is how many whole 256ths the number has: never more than
256, whatever the floating-point numbers it comes from.
-/

namespace Raster

namespace Single

open Float.Model Float.Model.UnpackedFloat

theorem log2_mul_two_pow {number : Nat} (positive : 0 < number) (places : Nat) :
    (number * 2 ^ places).log2 = number.log2 + places := by
  have scaled : 0 < number * 2 ^ places := Nat.mul_pos positive (Nat.two_pow_pos places)
  rw [Nat.log2_eq_iff (Nat.ne_of_gt scaled), Nat.pow_add, Nat.add_right_comm, Nat.pow_add]
  exact ⟨Nat.mul_le_mul_right _ (Nat.log2_self_le (Nat.ne_of_gt positive)),
    Nat.mul_lt_mul_of_pos_right Nat.lt_log2_self (Nat.two_pow_pos places)⟩

/-- Digits and exponent as they are stored: the digits fit, and only the lowest exponent comes with
fewer than all of them. -/
structure Stored (digits : Nat) (exponent : Int) : Prop where
  fits : digits < 2 ^ 24
  lowest : -149 ≤ exponent
  full : 2 ^ 23 ≤ digits ∨ exponent = -149

theorem stored_iff {digits : Nat} {exponent : Int} :
    Stored digits exponent ↔ Rounding.Stored Format.binary32 digits exponent :=
  ⟨fun ⟨fits, lowest, full⟩ => ⟨fits, lowest, full⟩,
    fun ⟨fits, lowest, full⟩ => ⟨fits, lowest, full⟩⟩

theorem stored_of_unpack {bits : BitVec Format.binary32.numBits} {sign : Sign} {digits : Nat}
    {exponent : Int} {positive : 0 < digits}
    (found : UnpackedFloat.unpack Format.binary32 bits = .finite sign digits exponent positive) :
    Stored digits exponent :=
  stored_iff.mpr (Rounding.stored_of_unpack found)

theorem unpack_pack {sign : Sign} {digits : Nat} (positive : 0 < digits) {exponent : Int}
    (stored : Stored digits exponent) (reach : exponent ≤ 104) :
    UnpackedFloat.unpack Format.binary32
        (UnpackedFloat.pack Format.binary32 (.finite sign digits exponent positive)) =
      .finite sign digits exponent positive := by
  refine Rounding.unpack_pack_of_reach positive (stored_iff.mp stored) ?_
  change exponent + (127 : Int) + (23 : Nat) + 1 < 2 ^ 8
  omega

section Shift

theorem shiftRight_exact (digits places : Nat) :
    (⟨digits * 2 ^ places, false, false⟩ : ExtendedMantissa) >>> places =
      ⟨digits, false, false⟩ := by
  change places.repeat ExtendedMantissa.shiftRightOne _ = _
  induction places generalizing digits with
  | zero =>
      rw [Nat.pow_zero, Nat.mul_one]
      rfl
  | succ places ih =>
      rw [Nat.repeat, Nat.pow_succ, Nat.mul_comm (2 ^ places), ← Nat.mul_assoc, ih]
      simp [ExtendedMantissa.shiftRightOne]

theorem shiftRight_mantissa (extended : ExtendedMantissa) (places : Nat) :
    (extended >>> places).mantissa = extended.mantissa / 2 ^ places := by
  change (places.repeat ExtendedMantissa.shiftRightOne extended).mantissa = _
  induction places with
  | zero =>
      rw [Nat.pow_zero, Nat.div_one]
      rfl
  | succ places ih =>
      rw [Nat.repeat, ExtendedMantissa.shiftRightOne, ih, Nat.div_div_eq_div_mul, Nat.pow_succ]

theorem totalExponent_mul {digits : Nat} (positive : 0 < digits) (places : Nat) (exponent : Int) :
    totalExponent (digits * 2 ^ places) exponent = totalExponent digits (exponent + places) := by
  rw [totalExponent, totalExponent, log2_mul_two_pow positive]
  omega

theorem round_exact (sign : Sign) {digits : Nat} (positive : 0 < digits) (places : Nat)
    (exponent : Int)
    (target : Format.binary32.targetExponent (totalExponent digits (exponent + places)) =
      exponent + places) :
    roundWithAccuracy Format.binary32 sign (digits * 2 ^ places) exponent .exact =
      .finite sign digits (exponent + places) positive := by
  have dropped : (exponent + (places : Int) - exponent).toNat = places := by omega
  have kept : (exponent + (places : Int) - (exponent + places)).toNat = 0 := by omega
  have still (extended : ExtendedMantissa) : extended >>> 0 = extended := rfl
  simp only [roundWithAccuracy, shiftToTargetExponent, shiftToExponent, totalExponent_mul positive,
    target, dropped, kept, still, ExtendedMantissa.ofMantissaAndAccuracy, shiftRight_exact,
    ExtendedMantissa.roundedMantissa, ExtendedMantissa.accuracy, Accuracy.roundToNearestEven]
  rw [dif_neg (Nat.ne_of_gt positive)]
  congr 1
  omega

theorem toUInt32_of_fits {digits : Nat} (positive : 0 < digits) {places : Nat}
    (fits : digits / 2 ^ places < UInt32.size) :
    (UnpackedFloat.finite .positive digits (-places) positive).toUInt32.toNat =
      digits / 2 ^ places := by
  have raised : (-(places : Int) - 0).toNat = 0 := by omega
  have lowered : (0 - (-(places : Int) - (0 : Nat))).toNat = places := by omega
  simp only [UnpackedFloat.toUInt32, UnpackedFloat.toInt, roundToInt, decreaseExponent,
    shiftToExponent, raised, lowered, Sign.apply, Nat.shiftLeft_zero, shiftRight_mantissa,
    ExtendedMantissa.ofMantissaAndAccuracy, Int.toNat_natCast]
  exact UInt32.toNat_ofNatClamp_of_lt fits

end Shift

/-- The places a number loses again when 23 digits were put behind it. -/
def surplus (digits : Nat) (exponent : Int) : Nat := max digits.log2 (-134 - exponent).toNat

namespace Stored

variable {digits : Nat} {exponent : Int} (stored : Stored digits exponent) (positive : 0 < digits)

include stored positive

theorem log2_lt : digits.log2 < 24 :=
  (Nat.log2_lt (Nat.ne_of_gt positive)).mpr stored.fits

theorem target : Format.binary32.targetExponent (totalExponent digits exponent) = exponent := by
  have short := stored.log2_lt positive
  have lowest := stored.lowest
  change max ((digits.log2 + 1 + exponent : Int) - 24) (-149) = exponent
  obtain whole | least := stored.full
  · have most := (Nat.le_log2 (Nat.ne_of_gt positive)).mpr whole
    omega
  · omega

theorem surplus_le : surplus digits exponent ≤ 23 := by
  have short := stored.log2_lt positive
  have lowest := stored.lowest
  rw [surplus]
  omega

theorem scaled : Stored (digits * 2 ^ (23 - surplus digits exponent))
    (exponent - 15 + surplus digits exponent) := by
  have reach := stored.surplus_le positive
  have lowest := stored.lowest
  have length := log2_mul_two_pow positive (23 - surplus digits exponent)
  have nonzero : digits * 2 ^ (23 - surplus digits exponent) ≠ 0 :=
    Nat.ne_of_gt (Nat.mul_pos positive (Nat.two_pow_pos _))
  have atLeast : digits.log2 ≤ surplus digits exponent := Nat.le_max_left _ _
  have lifted : (-134 - exponent).toNat ≤ surplus digits exponent := Nat.le_max_right _ _
  refine ⟨(Nat.log2_lt nonzero).mp (by omega), by omega, ?_⟩
  by_cases filled : digits.log2 = surplus digits exponent
  · exact .inl ((Nat.le_log2 nonzero).mp (by omega))
  · right
    rw [surplus] at filled ⊢
    omega

end Stored

theorem unpack_mul (left right : Float32) :
    (left * right).toModel.unpack = UnpackedFloat.unpack Format.binary32
      (UnpackedFloat.pack Format.binary32
        (UnpackedFloat.mul Format.binary32 left.toModel.unpack right.toModel.unpack)) := rfl

theorem unpack_scale : (256.0 : Float32).toModel.unpack =
    .finite .positive (2 ^ 23) (-15) (Nat.two_pow_pos 23) := rfl

theorem unpack_scaled {value : Float32} {digits : Nat} {exponent : Int} {positive : 0 < digits}
    (found : value.toModel.unpack = .finite .positive digits exponent positive)
    (low : exponent ≤ 0) :
    (value * 256.0).toModel.unpack =
      .finite .positive (digits * 2 ^ (23 - surplus digits exponent))
        (exponent - 15 + surplus digits exponent)
        (Nat.mul_pos positive (Nat.two_pow_pos _)) := by
  have stored := stored_of_unpack found
  have reach := stored.surplus_le positive
  have scaled := stored.scaled positive
  have kept : 0 < digits * 2 ^ (23 - surplus digits exponent) :=
    Nat.mul_pos positive (Nat.two_pow_pos _)
  have appended : digits * 2 ^ 23 =
      digits * 2 ^ (23 - surplus digits exponent) * 2 ^ surplus digits exponent := by
    rw [Nat.mul_assoc, ← Nat.pow_add, Nat.sub_add_cancel reach]
  have product : UnpackedFloat.mul Format.binary32 (.finite .positive digits exponent positive)
      (.finite .positive (2 ^ 23) (-15) (Nat.two_pow_pos 23)) =
        roundWithAccuracy Format.binary32 .positive (digits * 2 ^ 23) (exponent - 15) .exact := rfl
  rw [unpack_mul, found, unpack_scale, product, appended,
    round_exact .positive kept _ _ (scaled.target kept)]
  exact unpack_pack kept scaled (by omega)

theorem lt_iff_compare (left right : Float32) :
    left < right ↔ left.toModel.unpack.compare right.toModel.unpack = some .lt := by
  change decide (left.toModel < right.toModel) = true ↔ _
  rw [decide_eq_true_iff]
  exact beq_iff_eq

/-- A stored number as a multiple of the least positive one. -/
def weight (digits : Nat) (exponent : Int) : Nat := digits * 2 ^ (exponent + 149).toNat

def grains : UnpackedFloat → Nat
  | .finite _ digits exponent _ => weight digits exponent
  | _ => 0

theorem grains_finite (sign : Sign) {digits : Nat} (exponent : Int) (positive : 0 < digits) :
    grains (.finite sign digits exponent positive) = weight digits exponent := rfl

section Order

variable {digits other : Nat} {exponent otherExponent : Int}

theorem Stored.weight_lt (stored : Stored digits exponent)
    (otherStored : Stored other otherExponent) (less : exponent < otherExponent) :
    weight digits exponent < weight other otherExponent := by
  have lowest := stored.lowest
  have full : 2 ^ 23 ≤ other := otherStored.full.resolve_right (by omega)
  calc digits * 2 ^ (exponent + 149).toNat
      < 2 ^ 24 * 2 ^ (exponent + 149).toNat :=
        Nat.mul_lt_mul_of_pos_right stored.fits (Nat.two_pow_pos _)
    _ = 2 ^ 23 * 2 ^ ((exponent + 149).toNat + 1) := by rw [Nat.pow_succ]; omega
    _ ≤ other * 2 ^ (otherExponent + 149).toNat :=
        Nat.mul_le_mul full (Nat.pow_le_pow_right (by decide) (by omega))

theorem Stored.weight_lt_iff (stored : Stored digits exponent)
    (otherStored : Stored other otherExponent) :
    weight digits exponent < weight other otherExponent ↔
      exponent < otherExponent ∨ exponent = otherExponent ∧ digits < other := by
  obtain less | rfl | greater := Int.lt_trichotomy exponent otherExponent
  · have below := stored.weight_lt otherStored less
    omega
  · rw [weight, weight, Nat.mul_lt_mul_right (Nat.two_pow_pos _)]
    omega
  · have above := otherStored.weight_lt stored greater
    omega

theorem lt_iff_grains {left right : Float32} {positive : 0 < digits} {otherPositive : 0 < other}
    (found : left.toModel.unpack = .finite .positive digits exponent positive)
    (otherFound : right.toModel.unpack = .finite .positive other otherExponent otherPositive) :
    left < right ↔ grains left.toModel.unpack < grains right.toModel.unpack := by
  have order : left < right ↔
      (compare exponent otherExponent).then (compare digits other) = .lt := by
    rw [lt_iff_compare, found, otherFound]
    exact Option.some_inj
  rw [order, found, otherFound, grains_finite, grains_finite,
    (stored_of_unpack found).weight_lt_iff (stored_of_unpack otherFound), Ordering.then_eq_lt,
    Int.compare_eq_lt, Int.compare_eq_eq, Nat.compare_eq_lt]

end Order

theorem unpack_one : (1.0 : Float32).toModel.unpack =
    .finite .positive (2 ^ 23) (-23) (Nat.two_pow_pos 23) := rfl

inductive InUnit : UnpackedFloat → Prop
  | notANumber : InUnit .notANumber
  | zero (sign : Sign) : InUnit (.zero sign)
  | finite {digits : Nat} {exponent : Int} (positive : 0 < digits)
      (stored : Stored digits exponent) (small : weight digits exponent ≤ 2 ^ 149) :
      InUnit (.finite .positive digits exponent positive)

theorem InUnit.grains_le {number : UnpackedFloat} (inUnit : InUnit number) :
    grains number ≤ 2 ^ 149 := by
  cases inUnit with
  | notANumber => exact Nat.zero_le _
  | zero sign => exact Nat.zero_le _
  | finite positive stored small => exact small

theorem inUnit_clampUnit (value : Float32) : InUnit (Tint.clampUnit value).toModel.unpack := by
  rw [Tint.clampUnit]
  split
  · exact .zero .positive
  · rename_i notNegative
    split
    · exact .finite (Nat.two_pow_pos 23) ⟨by decide, by decide, by decide⟩ (by decide)
    · rename_i notAbove
      cases found : value.toModel.unpack with
      | notANumber => exact .notANumber
      | zero sign => exact .zero sign
      | infinity sign =>
          rw [lt_iff_compare, found] at notNegative notAbove
          cases sign with
          | negative => exact absurd rfl notNegative
          | positive => exact absurd rfl notAbove
      | finite sign digits exponent positive =>
          cases sign with
          | negative =>
              rw [lt_iff_compare, found] at notNegative
              exact absurd rfl notNegative
          | positive =>
              rw [lt_iff_grains unpack_one found, found, Nat.not_lt] at notAbove
              exact .finite positive (stored_of_unpack found) notAbove

theorem clampUnit_of_inUnit {value : Float32} (inUnit : InUnit value.toModel.unpack) :
    Tint.clampUnit value = value := by
  have notNegative : ¬value < 0.0 := by
    rw [lt_iff_compare]
    generalize value.toModel.unpack = number at inUnit
    cases inUnit with
    | notANumber => exact nofun
    | zero sign => exact nofun
    | finite positive stored small => exact nofun
  have notAbove : ¬1.0 < value := by
    cases found : value.toModel.unpack with
    | notANumber =>
        rw [lt_iff_compare, found]
        exact nofun
    | zero sign =>
        rw [lt_iff_compare, found]
        exact nofun
    | infinity sign =>
        rw [found] at inUnit
        cases inUnit
    | finite sign digits exponent positive =>
        have bound := inUnit.grains_le
        rw [found] at inUnit
        cases inUnit
        rw [lt_iff_grains unpack_one found]
        exact Nat.not_lt.mpr bound
  rw [Tint.clampUnit, if_neg notNegative, if_neg notAbove]

theorem Stored.exponent_le {digits : Nat} {exponent : Int} (stored : Stored digits exponent)
    (small : weight digits exponent ≤ 2 ^ 149) : exponent ≤ -23 := by
  by_contra above
  have one : Stored (2 ^ 23) (-23) := ⟨by decide, by decide, .inl (Nat.le_refl _)⟩
  have more : 2 ^ 149 < weight digits exponent :=
    one.weight_lt stored (Int.not_le.mp above)
  exact Nat.not_le.mpr more small

theorem mul_pow_div {digits up down otherUp otherDown : Nat}
    (same : up + otherDown = otherUp + down) :
    digits * 2 ^ up / 2 ^ down = digits * 2 ^ otherUp / 2 ^ otherDown := by
  rw [← Nat.mul_div_mul_right _ _ (Nat.two_pow_pos otherDown), Nat.mul_assoc, ← Nat.pow_add, same,
    Nat.pow_add, ← Nat.mul_assoc, Nat.mul_comm (2 ^ down),
    Nat.mul_div_mul_right _ _ (Nat.two_pow_pos down)]

theorem toNat_scaled_finite {value : Float32} {digits : Nat} {exponent : Int}
    {positive : 0 < digits}
    (found : value.toModel.unpack = .finite .positive digits exponent positive)
    (small : weight digits exponent ≤ 2 ^ 149) :
    (value * 256.0).toUInt32.toNat = weight digits exponent / 2 ^ 141 := by
  have stored := stored_of_unpack found
  have lowest := stored.lowest
  have below := stored.exponent_le small
  have reach := stored.surplus_le positive
  have lift : (-134 - exponent).toNat ≤ surplus digits exponent := Nat.le_max_right _ _
  change (value * 256.0).toModel.unpack.toUInt32.toNat = _
  rw [unpack_scaled found (by omega)]
  generalize surplus digits exponent = places at reach lift ⊢
  obtain ⟨cut, lowered⟩ : ∃ cut : Nat, exponent - 15 + places = -cut :=
    ⟨(15 - exponent - places).toNat, by omega⟩
  have same : digits * 2 ^ (23 - places) / 2 ^ cut = weight digits exponent / 2 ^ 141 :=
    mul_pow_div (by omega)
  have fits : digits * 2 ^ (23 - places) / 2 ^ cut < UInt32.size := by
    rw [same]
    exact Nat.lt_of_le_of_lt (Nat.div_le_div_right small) (by decide)
  simp only [lowered]
  rw [toUInt32_of_fits _ fits, same]

theorem toNat_scaled {value : Float32} (inUnit : InUnit value.toModel.unpack) :
    (value * 256.0).toUInt32.toNat = grains value.toModel.unpack / 2 ^ 141 := by
  have product : (value * 256.0).toUInt32 = (value * 256.0).toModel.unpack.toUInt32 := rfl
  cases found : value.toModel.unpack with
  | notANumber =>
      rw [product, unpack_mul, found, unpack_scale]
      rfl
  | infinity sign =>
      rw [found] at inUnit
      cases inUnit
  | zero sign =>
      rw [product, unpack_mul, found, unpack_scale]
      cases sign <;> decide
  | finite sign digits exponent positive =>
      have small := inUnit.grains_le
      rw [found] at inUnit small
      cases inUnit
      exact toNat_scaled_finite found small

end Single

namespace Tint

theorem toFactor_le (value : Float32) : (toFactor value).toNat ≤ 256 := by
  have inUnit := Single.inUnit_clampUnit value
  rw [toFactor]
  split
  · rw [Single.toNat_scaled inUnit]
    exact Nat.div_le_of_le_mul inUnit.grains_le
  · decide

theorem toNat_toFactor {value : Float32} (inUnit : Single.InUnit value.toModel.unpack) :
    (toFactor value).toNat = Single.grains value.toModel.unpack / 2 ^ 141 := by
  rw [toFactor, Single.clampUnit_of_inUnit inUnit]
  split
  · exact Single.toNat_scaled inUnit
  · rename_i infinite
    change ¬value.toModel.unpack.isFinite = true at infinite
    generalize value.toModel.unpack = number at inUnit infinite
    cases inUnit with
    | notANumber => rfl
    | zero sign => exact absurd rfl infinite
    | finite positive stored small => exact absurd rfl infinite

theorem factors_white : white.factors = ⟨256, 256, 256, 256⟩ := by decide

end Tint

end Raster
