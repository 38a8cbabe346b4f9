import Raster.Proofs.Factors

/-!
Factors of colours, which are multiplied by alpha before they are rounded. A product with a number
of the unit interval is no more than the other number, and rounding goes past none that can be
stored, so that no factor of a colour exceeds the factor of alpha. That one is zero for just those
tints whose alpha is below a 256th or not a number.
-/

namespace Raster

namespace Single

open Float.Model Float.Model.UnpackedFloat

theorem roundedMantissa_bounds (extended : ExtendedMantissa) :
    extended.mantissa ≤ extended.roundedMantissa ∧
      extended.roundedMantissa ≤ extended.mantissa + 1 := by
  obtain ⟨mantissa, roundBit, stickyBit⟩ := extended
  have parity := Nat.mod_lt mantissa (show 0 < 2 by decide)
  cases roundBit <;> cases stickyBit <;>
    simp only [ExtendedMantissa.roundedMantissa, ExtendedMantissa.accuracy,
      Accuracy.roundToNearestEven] <;> omega

def rounded (digits places : Nat) : Nat :=
  ((⟨digits, false, false⟩ : ExtendedMantissa) >>> places).roundedMantissa

theorem rounded_bounds (digits places : Nat) :
    digits / 2 ^ places ≤ rounded digits places ∧
      rounded digits places ≤ digits / 2 ^ places + 1 := by
  have bounds := roundedMantissa_bounds ((⟨digits, false, false⟩ : ExtendedMantissa) >>> places)
  rwa [shiftRight_mantissa] at bounds

theorem rounded_le {digits bound places : Nat} (below : digits ≤ bound * 2 ^ places) :
    rounded digits places ≤ bound := by
  obtain exact | less := Nat.eq_or_lt_of_le below
  · rw [rounded, exact, shiftRight_exact]
    exact Nat.le_refl _
  · have short : digits / 2 ^ places < bound :=
      (Nat.div_lt_iff_lt_mul (Nat.two_pow_pos places)).mpr less
    have next := (rounded_bounds digits places).2
    omega

theorem rounded_fits {digits places : Nat} (short : digits.log2 ≤ places + 23) :
    rounded digits places ≤ 2 ^ 24 := by
  apply rounded_le
  rw [← Nat.pow_add]
  exact Nat.le_trans (Nat.le_of_lt Nat.lt_log2_self)
    (Nat.pow_le_pow_right (by decide) (by omega))

theorem rounded_full {digits places : Nat} (positive : 0 < digits)
    (full : digits.log2 = places + 23) : 2 ^ 23 ≤ rounded digits places := by
  refine Nat.le_trans ?_ (rounded_bounds digits places).1
  rw [Nat.le_div_iff_mul_le (Nat.two_pow_pos places), ← Nat.pow_add, Nat.add_comm, ← full]
  exact Nat.log2_self_le (Nat.ne_of_gt positive)

section Carry

variable {exponent : Int} (lowest : -149 ≤ exponent)

include lowest

theorem shift_short {digits : Nat} (short : digits < 2 ^ 24) :
    shiftToTargetExponent Format.binary32 digits exponent .exact =
      (⟨digits, false, false⟩, exponent) := by
  have length : digits.log2 ≤ 23 := by
    by_cases none : digits = 0
    · rw [none]
      decide
    · exact Nat.le_of_lt_succ ((Nat.log2_lt none).mpr short)
  have reached : (Format.binary32.targetExponent (totalExponent digits exponent) - exponent).toNat =
      0 := by
    change (max ((digits.log2 + 1 + exponent : Int) - 24) (-149) - exponent).toNat = 0
    omega
  rw [shiftToTargetExponent, shiftToExponent, reached]
  exact Prod.ext rfl (Int.add_zero exponent)

theorem shift_carry : shiftToTargetExponent Format.binary32 (2 ^ 24) exponent .exact =
    (⟨2 ^ 23, false, false⟩, exponent + 1) := by
  have length : totalExponent (2 ^ 24) exponent = 25 + exponent := by
    rw [totalExponent, Nat.log2_two_pow]
    rfl
  have carries : Format.binary32.targetExponent (25 + exponent) = exponent + 1 := by
    change max (25 + exponent - 24) (-149) = exponent + 1
    omega
  have once : (exponent + 1 - exponent).toNat = 1 := by omega
  have split : 2 ^ 24 = 2 ^ 23 * 2 ^ 1 := by decide
  rw [shiftToTargetExponent, length, carries, shiftToExponent, once, split]
  exact Prod.ext (shiftRight_exact (2 ^ 23) 1) rfl

end Carry

def settled (sign : Sign) (digits : Nat) (exponent : Int) : UnpackedFloat :=
  if none : digits = 0 then .zero sign
  else .finite sign digits exponent (Nat.pos_of_ne_zero none)

theorem round_eq (sign : Sign) {digits places : Nat} {exponent : Int}
    (target : Format.binary32.targetExponent (totalExponent digits exponent) = exponent + places) :
    roundWithAccuracy Format.binary32 sign digits exponent .exact =
      if rounded digits places = 2 ^ 24 then settled sign (2 ^ 23) (exponent + places + 1)
      else settled sign (rounded digits places) (exponent + places) := by
  have dropped : (exponent + (places : Int) - exponent).toNat = places := by omega
  have lengths : max ((digits.log2 + 1 + exponent : Int) - 24) (-149) = exponent + places := target
  have lowest : -149 ≤ exponent + places := by omega
  have most : rounded digits places ≤ 2 ^ 24 := rounded_fits (by omega)
  have first : shiftToTargetExponent Format.binary32 digits exponent .exact =
      ((⟨digits, false, false⟩ : ExtendedMantissa) >>> places, exponent + places) := by
    rw [shiftToTargetExponent, target, shiftToExponent, dropped]
    rfl
  have second : roundWithAccuracy Format.binary32 sign digits exponent .exact =
      (fun carried : ExtendedMantissa × Int => settled sign carried.1.mantissa carried.2)
        (shiftToTargetExponent Format.binary32 (rounded digits places) (exponent + places)
          .exact) := by
    rw [roundWithAccuracy, first]
    rfl
  rw [second]
  split
  · rename_i full
    rw [full, shift_carry lowest]
  · rename_i short
    rw [shift_short lowest (by omega)]

theorem InUnit.unpack_pack {number : UnpackedFloat} (inUnit : InUnit number) :
    UnpackedFloat.unpack Format.binary32 (UnpackedFloat.pack Format.binary32 number) = number := by
  cases inUnit with
  | notANumber => rfl
  | zero sign => cases sign <;> rfl
  | finite positive stored small =>
      have below := stored.exponent_le small
      exact Single.unpack_pack positive stored (by omega)

theorem grains_settled (sign : Sign) (digits : Nat) (exponent : Int) :
    grains (settled sign digits exponent) = weight digits exponent := by
  rw [settled]
  split
  · rename_i none
    rw [none, weight, Nat.zero_mul]
    rfl
  · rfl

theorem inUnit_settled {digits : Nat} {exponent : Int}
    (stored : 0 < digits → Stored digits exponent)
    (small : weight digits exponent ≤ 2 ^ 149) :
    InUnit (settled .positive digits exponent) := by
  rw [settled]
  split
  · exact .zero .positive
  · rename_i some
    exact .finite _ (stored (Nat.pos_of_ne_zero some)) small

theorem round_le (sign : Sign) {whole digits lowered places : Nat} {exponent : Int}
    (stored : Stored whole exponent) (positive : 0 < digits) (below : digits ≤ whole * 2 ^ lowered)
    (target : Format.binary32.targetExponent (totalExponent digits (exponent - lowered)) =
      exponent - lowered + places) :
    ∃ (kept : Nat) (place : Int),
      roundWithAccuracy Format.binary32 sign digits (exponent - lowered) .exact =
        settled sign kept place ∧
      (0 < kept → Stored kept place) ∧
      weight kept place ≤ weight whole exponent := by
  have least := stored.lowest
  have some : 0 < whole := Nat.pos_of_mul_pos_right (Nat.lt_of_lt_of_le positive below)
  have length : digits.log2 ≤ whole.log2 + lowered := by
    rw [← log2_mul_two_pow some, Nat.le_log2 (Nat.ne_of_gt (Nat.mul_pos some (Nat.two_pow_pos _)))]
    exact Nat.le_trans (Nat.log2_self_le (Nat.ne_of_gt positive)) below
  have short := stored.log2_lt some
  have lengths : max ((digits.log2 + 1 + (exponent - lowered) : Int) - 24) (-149) =
      exponent - lowered + places := target
  obtain ⟨higher, above⟩ : ∃ higher : Nat, exponent - lowered + places + higher = exponent :=
    ⟨lowered - places, by omega⟩
  have bound : rounded digits places ≤ whole * 2 ^ higher := by
    apply rounded_le
    rw [Nat.mul_assoc, ← Nat.pow_add, show higher + places = lowered by omega]
    exact below
  have most : weight (rounded digits places) (exponent - lowered + places) ≤
      weight whole exponent := by
    have parts : (exponent + 149).toNat =
        higher + (exponent - lowered + places + 149).toNat := by omega
    rw [weight, weight, parts, Nat.pow_add, ← Nat.mul_assoc]
    exact Nat.mul_le_mul_right _ bound
  rw [round_eq sign target]
  split
  · rename_i full
    have next : (exponent - lowered + places + 1 + 149).toNat =
        (exponent - lowered + places + 149).toNat + 1 := by omega
    rw [full, weight] at most
    refine ⟨_, _, rfl, fun _ => ⟨by decide, by omega, .inl (Nat.le_refl _)⟩, ?_⟩
    rw [weight, next, Nat.pow_succ]
    omega
  · rename_i left
    have fits : rounded digits places ≤ 2 ^ 24 := rounded_fits (by omega)
    refine ⟨_, _, rfl, fun _ => ⟨by omega, by omega, ?_⟩, most⟩
    by_cases lowest : exponent - lowered + places = -149
    · exact .inr lowest
    · exact .inl (rounded_full positive (by omega))

section Product

variable {digits other : Nat} {exponent otherExponent : Int} (stored : Stored digits exponent)
  (otherStored : Stored other otherExponent) (positive : 0 < digits) (otherPositive : 0 < other)

include stored otherStored positive otherPositive

theorem target_ge : exponent + otherExponent ≤ Format.binary32.targetExponent
    (totalExponent (digits * other) (exponent + otherExponent)) := by
  change _ ≤ max (((digits * other).log2 + 1 + (exponent + otherExponent) : Int) - 24) (-149)
  have full : 2 ^ 23 ≤ digits * other ∨ exponent + otherExponent ≤ -149 := by
    obtain long | least := stored.full
    · exact .inl (Nat.le_trans long (Nat.le_mul_of_pos_right _ otherPositive))
    · obtain long | otherLeast := otherStored.full
      · exact .inl (Nat.le_trans long (Nat.le_mul_of_pos_left _ positive))
      · exact .inr (by omega)
  obtain long | least := full
  · have length := (Nat.le_log2 (Nat.ne_of_gt (Nat.mul_pos positive otherPositive))).mpr long
    omega
  · omega

theorem mul_le (small : weight digits exponent ≤ 2 ^ 149) :
    ∃ (kept : Nat) (place : Int),
      UnpackedFloat.mul Format.binary32 (.finite .positive digits exponent positive)
          (.finite .positive other otherExponent otherPositive) = settled .positive kept place ∧
      (0 < kept → Stored kept place) ∧
      weight kept place ≤ weight other otherExponent := by
  have reach := target_ge stored otherStored positive otherPositive
  have below := stored.exponent_le small
  have lowest := stored.lowest
  obtain ⟨lowered, rfl⟩ : ∃ lowered : Nat, exponent = -lowered := ⟨(-exponent).toNat, by omega⟩
  have fraction : digits ≤ 2 ^ lowered := by
    apply Nat.le_of_mul_le_mul_right _ (Nat.two_pow_pos (-(lowered : Int) + 149).toNat)
    rw [← Nat.pow_add, show lowered + (-(lowered : Int) + 149).toNat = 149 by omega]
    exact small
  have bound : digits * other ≤ other * 2 ^ lowered := by
    rw [Nat.mul_comm]
    exact Nat.mul_le_mul_left _ fraction
  have product : UnpackedFloat.mul Format.binary32
      (.finite .positive digits (-(lowered : Int)) positive)
      (.finite .positive other otherExponent otherPositive) =
        roundWithAccuracy Format.binary32 .positive (digits * other)
          (-(lowered : Int) + otherExponent) .exact := rfl
  rw [product]
  rw [show -(lowered : Int) + otherExponent = otherExponent - lowered by omega] at reach ⊢
  obtain ⟨places, dropped⟩ := Int.eq_ofNat_of_zero_le (Int.sub_nonneg.mpr reach)
  exact round_le .positive otherStored (Nat.mul_pos positive otherPositive) bound
    (show _ = otherExponent - lowered + (places : Int) by omega)

end Product

theorem InUnit.mul {left right : UnpackedFloat} (inUnit : InUnit left)
    (otherInUnit : InUnit right) :
    InUnit (UnpackedFloat.mul Format.binary32 left right) ∧
      grains (UnpackedFloat.mul Format.binary32 left right) ≤ grains right := by
  cases inUnit with
  | notANumber => cases otherInUnit <;> exact ⟨.notANumber, Nat.zero_le _⟩
  | zero sign =>
      cases otherInUnit with
      | notANumber => exact ⟨.notANumber, Nat.zero_le _⟩
      | zero otherSign => exact ⟨.zero _, Nat.zero_le _⟩
      | finite _ _ _ => exact ⟨.zero _, Nat.zero_le _⟩
  | finite positive stored small =>
      cases otherInUnit with
      | notANumber => exact ⟨.notANumber, Nat.zero_le _⟩
      | zero otherSign => exact ⟨.zero _, Nat.zero_le _⟩
      | finite otherPositive otherStored otherSmall =>
          obtain ⟨kept, place, same, fits, most⟩ :=
            mul_le stored otherStored positive otherPositive small
          rw [same, grains_settled]
          exact ⟨inUnit_settled fits (Nat.le_trans most otherSmall), most⟩

theorem clampUnit_of_one_lt {value : Float32} (above : 1.0 < value) :
    Tint.clampUnit value = 1.0 := by
  have notNegative : ¬value < 0.0 := by
    rw [lt_iff_compare] at above ⊢
    generalize value.toModel.unpack = number at above
    cases number with
    | notANumber => exact nofun
    | zero sign => exact nofun
    | infinity sign =>
        cases sign with
        | negative => exact absurd above nofun
        | positive => exact nofun
    | finite sign digits exponent positive =>
        cases sign with
        | negative => exact absurd above nofun
        | positive => exact nofun
  rw [Tint.clampUnit, if_neg notNegative, if_pos above]

theorem grains_clampUnit {value : Float32} {digits : Nat} {exponent : Int} {positive : 0 < digits}
    (found : value.toModel.unpack = .finite .positive digits exponent positive) :
    grains (Tint.clampUnit value).toModel.unpack = min (grains value.toModel.unpack) (2 ^ 149) := by
  have order : 1.0 < value ↔ 2 ^ 149 < grains value.toModel.unpack :=
    lt_iff_grains unpack_one found
  by_cases above : 1.0 < value
  · rw [clampUnit_of_one_lt above, Nat.min_eq_right (Nat.le_of_lt (order.mp above))]
    rfl
  · have small := Nat.not_lt.mp (mt order.mpr above)
    have inUnit : InUnit value.toModel.unpack := by
      rw [found] at small ⊢
      exact .finite positive (stored_of_unpack found) small
    rw [clampUnit_of_inUnit inUnit, Nat.min_eq_left small]

theorem unpack_least : (1.0 / 256.0 : Float32).toModel.unpack =
    .finite .positive (2 ^ 23) (-31) (Nat.two_pow_pos 23) := rfl

theorem grains_clampUnit_lt_iff (value : Float32) :
    grains (Tint.clampUnit value).toModel.unpack < 2 ^ 141 ↔
      value.isNaN = true ∨ value < 1.0 / 256.0 := by
  have isNaN : value.isNaN = value.toModel.unpack.isNaN := rfl
  have cleared (negative : value < 0.0) :
      grains (Tint.clampUnit value).toModel.unpack < 2 ^ 141 := by
    rw [Tint.clampUnit, if_pos negative]
    decide
  rw [lt_iff_compare] at cleared
  rw [isNaN, lt_iff_compare, unpack_least]
  cases found : value.toModel.unpack with
  | notANumber =>
      rw [clampUnit_of_inUnit (found ▸ .notANumber), found]
      exact iff_of_true (Nat.two_pow_pos 141) (.inl rfl)
  | zero sign =>
      rw [clampUnit_of_inUnit (found ▸ .zero sign), found]
      exact iff_of_true (Nat.two_pow_pos 141) (.inr rfl)
  | infinity sign =>
      cases sign with
      | negative => exact iff_of_true (cleared (found ▸ rfl)) (.inr rfl)
      | positive =>
          have above : 1.0 < value := (lt_iff_compare _ _).mpr (found ▸ rfl)
          rw [clampUnit_of_one_lt above]
          exact iff_of_false (by decide) (by rintro (none | less) <;> contradiction)
  | finite sign digits exponent positive =>
      cases sign with
      | negative => exact iff_of_true (cleared (found ▸ rfl)) (.inr rfl)
      | positive =>
          have order : value < 1.0 / 256.0 ↔ grains value.toModel.unpack < 2 ^ 141 :=
            lt_iff_grains found unpack_least
          rw [lt_iff_compare, unpack_least, found] at order
          rw [grains_clampUnit found, found, order]
          simp only [UnpackedFloat.isNaN, Bool.false_eq_true, false_or]
          omega

end Single

namespace Tint

theorem toFactor_mul_le (colour alpha : Float32) :
    toFactor (clampUnit colour * clampUnit alpha) ≤ toFactor (clampUnit alpha) := by
  have inUnit := Single.inUnit_clampUnit alpha
  obtain ⟨product, less⟩ := (Single.inUnit_clampUnit colour).mul inUnit
  have stored : (clampUnit colour * clampUnit alpha).toModel.unpack = _ :=
    (Single.unpack_mul _ _).trans product.unpack_pack
  rw [UInt32.le_iff_toNat_le, toNat_toFactor inUnit, toNat_toFactor (stored ▸ product), stored]
  exact Nat.div_le_div_right less

/-- No colour counts for more than alpha, and alpha for no more than all of it. -/
structure Factors.Premultiplied (factors : Factors) : Prop where
  alpha : factors.alpha ≤ 256
  red : factors.red ≤ factors.alpha
  green : factors.green ≤ factors.alpha
  blue : factors.blue ≤ factors.alpha

theorem factors_premultiplied (tint : Tint) : tint.factors.Premultiplied where
  alpha := UInt32.le_iff_toNat_le.mpr (toFactor_le _)
  red := toFactor_mul_le _ _
  green := toFactor_mul_le _ _
  blue := toFactor_mul_le _ _

theorem Factors.Premultiplied.eq_zero {factors : Factors} (premultiplied : factors.Premultiplied)
    (clear : factors.alpha = 0) : factors = ⟨0, 0, 0, 0⟩ := by
  obtain ⟨-, red, green, blue⟩ := premultiplied
  rw [clear, UInt32.le_zero_iff] at red green blue
  cases factors
  simp only at clear red green blue
  rw [clear, red, green, blue]

theorem factors_alpha_eq_zero_iff (tint : Tint) :
    tint.factors.alpha = 0 ↔ tint.alpha.isNaN = true ∨ tint.alpha < 1.0 / 256.0 := by
  have inUnit := Single.inUnit_clampUnit tint.alpha
  have alpha : tint.factors.alpha = toFactor (clampUnit tint.alpha) := rfl
  rw [← Single.grains_clampUnit_lt_iff, alpha, ← UInt32.toNat_inj, toNat_toFactor inUnit,
    UInt32.toNat_zero, Nat.div_eq_zero_iff_lt (Nat.two_pow_pos 141)]

end Tint

end Raster
