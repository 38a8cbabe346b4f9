import Raster.Proofs.Rounding.Double

/-!
The order of double-precision numbers, infinities included. What is not a number compares with
nothing; any two numbers compare, and the two ways round agree.
-/

namespace Raster

namespace Rounding

open Float.Model Float.Model.UnpackedFloat

theorem compare_swap (left right : UnpackedFloat) :
    right.compare left = (left.compare right).map Ordering.swap := by
  cases left with
  | notANumber => cases right <;> rfl
  | infinity sign =>
      cases right with
      | infinity otherSign => cases sign <;> cases otherSign <;> rfl
      | notANumber => cases sign <;> rfl
      | zero otherSign => cases sign <;> rfl
      | finite otherSign other otherExponent otherPositive => cases sign <;> rfl
  | zero sign =>
      cases right with
      | notANumber => rfl
      | zero otherSign => rfl
      | infinity otherSign => cases otherSign <;> rfl
      | finite otherSign other otherExponent otherPositive => cases otherSign <;> rfl
  | finite sign digits exponent positive =>
      cases right with
      | notANumber => cases sign <;> rfl
      | infinity otherSign => cases sign <;> cases otherSign <;> rfl
      | zero otherSign => cases sign <;> rfl
      | finite otherSign other otherExponent otherPositive =>
          have reversed : (compare otherExponent exponent).then (compare other digits) =
              ((compare exponent otherExponent).then (compare digits other)).swap := by
            rw [Ordering.swap_then, ← Std.OrientedCmp.eq_swap, ← Std.OrientedCmp.eq_swap]
          cases sign <;> cases otherSign
          · simp only [UnpackedFloat.compare, reversed, Option.map_some]
          · rfl
          · rfl
          · simp only [UnpackedFloat.compare, reversed, Option.map_some]

theorem isNaN_of_compare {left right : UnpackedFloat} (incomparable : left.compare right = none) :
    left.isNaN = true ∨ right.isNaN = true := by
  cases left with
  | notANumber => exact .inl rfl
  | infinity sign =>
      cases right with
      | notANumber => exact .inr rfl
      | infinity otherSign => cases incomparable
      | zero otherSign => cases sign <;> cases incomparable
      | finite otherSign other otherExponent otherPositive => cases sign <;> cases incomparable
  | zero sign =>
      cases right with
      | notANumber => exact .inr rfl
      | infinity otherSign => cases otherSign <;> cases incomparable
      | zero otherSign => cases incomparable
      | finite otherSign other otherExponent otherPositive =>
          cases otherSign <;> cases incomparable
  | finite sign digits exponent positive =>
      cases right with
      | notANumber => exact .inr rfl
      | infinity otherSign => cases sign <;> cases otherSign <;> cases incomparable
      | zero otherSign => cases sign <;> cases incomparable
      | finite otherSign other otherExponent otherPositive =>
          cases sign <;> cases otherSign <;> cases incomparable

end Rounding

namespace Double

open Rounding

variable {left right : Float}

theorem le_iff_compare : left ≤ right ↔
    ∃ order, left.toModel.unpack.compare right.toModel.unpack = some order ∧
      order.isLE = true := by
  change decide (left.toModel ≤ right.toModel) = true ↔ _
  rw [decide_eq_true_iff]
  exact Option.any_eq_true _ _

theorem not_lt_of_le (le : left ≤ right) : ¬right < left := by
  obtain ⟨order, compared, notGreater⟩ := le_iff_compare.mp le
  rw [lt_iff_compare, compare_swap, compared, Option.map_some]
  cases order with
  | lt => exact nofun
  | eq => exact nofun
  | gt => cases notGreater

theorem le_of_not_lt (known : left.isNaN = false) (otherKnown : right.isNaN = false)
    (notLess : ¬right < left) : left ≤ right := by
  rw [lt_iff_compare, compare_swap] at notLess
  rw [le_iff_compare]
  cases compared : left.toModel.unpack.compare right.toModel.unpack with
  | none =>
      rcases isNaN_of_compare compared with nan | nan
      · cases known.symm.trans nan
      · cases otherKnown.symm.trans nan
  | some order =>
      rw [compared] at notLess
      cases order with
      | lt => exact ⟨_, rfl, rfl⟩
      | eq => exact ⟨_, rfl, rfl⟩
      | gt => exact absurd rfl notLess

theorem isNaN_of_le (le : left ≤ right) : left.isNaN = false ∧ right.isNaN = false := by
  obtain ⟨order, compared, -⟩ := le_iff_compare.mp le
  rw [← Bool.not_eq_true, ← Bool.not_eq_true]
  constructor
  · intro nan
    rw [unpack_of_isNaN nan] at compared
    cases compared
  · intro nan
    rw [compare_swap, unpack_of_isNaN nan] at compared
    cases compared

end Double

end Raster
