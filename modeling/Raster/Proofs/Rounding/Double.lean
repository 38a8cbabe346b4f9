import Raster.Proofs.Rounding.Exact

/-!
Double-precision numbers by the rational numbers they stand for: comparisons of finite ones compare
these, and a finite result of an operation is the rounded exact one, its operands finite too but for
a division by something infinite.
-/

namespace Raster

namespace Rounding

open Float.Model Float.Model.UnpackedFloat

section Order

variable {spec : Format} {digits other : Nat} {exponent otherExponent : Int}

theorem Stored.magnitude_lt (stored : Stored spec digits exponent)
    (otherStored : Stored spec other otherExponent) (less : exponent < otherExponent) :
    (digits * 2 ^ exponent : ℚ) < other * 2 ^ otherExponent := by
  have lowest := stored.lowest
  have full := otherStored.full.resolve_right (by omega)
  have fits : (digits : ℚ) < 2 ^ spec.mantissaBits := by exact_mod_cast stored.fits
  calc (digits * 2 ^ exponent : ℚ)
      < 2 ^ spec.mantissaBits * 2 ^ exponent := mul_lt_mul_of_pos_right fits (two_zpow_pos _)
    _ = 2 ^ spec.mantissaBitsWithoutImplicit * 2 ^ (exponent + 1) := by
        rw [mantissaBits_eq, pow_succ, zpow_add_one₀ two_ne_zero, mul_assoc, mul_comm (2 : ℚ)]
    _ ≤ 2 ^ spec.mantissaBitsWithoutImplicit * 2 ^ otherExponent :=
        mul_le_mul_of_nonneg_left (zpow_le_zpow_right₀ one_le_two less) (by positivity)
    _ ≤ other * 2 ^ otherExponent := by
        refine mul_le_mul_of_nonneg_right ?_ (two_zpow_pos _).le
        exact_mod_cast full

theorem Stored.magnitude_lt_iff (stored : Stored spec digits exponent)
    (otherStored : Stored spec other otherExponent) :
    (compare exponent otherExponent).then (compare digits other) = .lt ↔
      (digits * 2 ^ exponent : ℚ) < other * 2 ^ otherExponent := by
  rw [Ordering.then_eq_lt, Int.compare_eq_lt, Int.compare_eq_eq, Nat.compare_eq_lt]
  obtain less | rfl | greater := lt_trichotomy exponent otherExponent
  · exact iff_of_true (.inl less) (stored.magnitude_lt otherStored less)
  · rw [mul_lt_mul_iff_left₀ (two_zpow_pos _), Nat.cast_lt]
    omega
  · have above := otherStored.magnitude_lt stored greater
    exact iff_of_false (by omega) above.not_gt

theorem Stored.eq_of_magnitude (stored : Stored spec digits exponent)
    (otherStored : Stored spec other otherExponent)
    (same : (digits * 2 ^ exponent : ℚ) = other * 2 ^ otherExponent) :
    exponent = otherExponent ∧ digits = other := by
  obtain less | rfl | greater := lt_trichotomy exponent otherExponent
  · exact absurd same (stored.magnitude_lt otherStored less).ne
  · exact ⟨rfl, by exact_mod_cast mul_right_cancel₀ (two_zpow_pos exponent).ne' same⟩
  · exact absurd same (otherStored.magnitude_lt stored greater).ne'

theorem exact_ne_zero {sign : Sign} (positive : 0 < digits) :
    exact (.finite sign digits exponent positive) ≠ 0 := by
  have some := magnitude_pos positive exponent
  rw [exact_finite]
  cases sign
  · exact (neg_neg_of_pos some).ne
  · exact some.ne'

variable {left right : UnpackedFloat}

theorem Held.eq_of_exact_eq (held : Held spec left) (otherHeld : Held spec right)
    (same : exact left = exact right) : left = right ∨
      ∃ sign otherSign, left = .zero sign ∧ right = .zero otherSign := by
  cases held with
  | zero sign =>
      cases otherHeld with
      | zero otherSign => exact .inr ⟨_, _, rfl, rfl⟩
      | finite positive stored => exact absurd same.symm (exact_ne_zero positive)
  | @finite sign digits exponent positive stored =>
      cases otherHeld with
      | zero otherSign => exact absurd same (exact_ne_zero positive)
      | @finite otherSign other otherExponent otherPositive otherStored =>
          have some := magnitude_pos positive exponent
          have otherSome := magnitude_pos otherPositive otherExponent
          rw [exact_finite, exact_finite] at same
          left
          cases sign <;> cases otherSign
          · obtain ⟨rfl, rfl⟩ := stored.eq_of_magnitude otherStored (neg_injective same)
            rfl
          · exact absurd same ((neg_neg_of_pos some).trans otherSome).ne
          · exact absurd same.symm ((neg_neg_of_pos otherSome).trans some).ne
          · obtain ⟨rfl, rfl⟩ := stored.eq_of_magnitude otherStored same
            rfl

theorem compare_eq_lt_iff (held : Held spec left) (otherHeld : Held spec right) :
    left.compare right = some .lt ↔ exact left < exact right := by
  cases held with
  | zero sign =>
      cases otherHeld with
      | zero otherSign => exact iff_of_false (by rintro ⟨⟩) (lt_irrefl _)
      | @finite otherSign other otherExponent otherPositive otherStored =>
          have some := magnitude_pos otherPositive otherExponent
          rw [exact_finite, exact_zero]
          cases otherSign
          · exact iff_of_false (by rintro ⟨⟩) (neg_neg_of_pos some).not_gt
          · exact iff_of_true rfl some
  | @finite sign digits exponent positive stored =>
      have some := magnitude_pos positive exponent
      cases otherHeld with
      | zero otherSign =>
          rw [exact_finite, exact_zero]
          cases sign
          · exact iff_of_true rfl (neg_neg_of_pos some)
          · exact iff_of_false (by rintro ⟨⟩) some.not_gt
      | @finite otherSign other otherExponent otherPositive otherStored =>
          have otherSome := magnitude_pos otherPositive otherExponent
          rw [exact_finite, exact_finite]
          cases sign <;> cases otherSign
          · have reversed : ((compare exponent otherExponent).then (compare digits other)).swap =
                (compare otherExponent exponent).then (compare other digits) := by
              rw [Ordering.swap_then, ← Std.OrientedCmp.eq_swap, ← Std.OrientedCmp.eq_swap]
            rw [signed, signed, neg_lt_neg_iff, ← otherStored.magnitude_lt_iff stored, ← reversed]
            exact Option.some_inj
          · exact iff_of_true rfl ((neg_neg_of_pos some).trans otherSome)
          · exact iff_of_false (by rintro ⟨⟩) ((neg_neg_of_pos otherSome).trans some).not_gt
          · rw [signed, signed, ← stored.magnitude_lt_iff otherStored]
            exact Option.some_inj

theorem held_of_isFinite {bits : BitVec spec.numBits}
    (finite : (UnpackedFloat.unpack spec bits).isFinite = true) :
    Held spec (UnpackedFloat.unpack spec bits) := by
  cases found : UnpackedFloat.unpack spec bits with
  | notANumber =>
      rw [found] at finite
      cases finite
  | infinity sign =>
      rw [found] at finite
      cases finite
  | zero sign => exact .zero sign
  | finite sign digits exponent positive => exact .finite positive (stored_of_unpack found)

theorem exact_unpack_pack {number : ℚ} (rounds : Rounds spec number left)
    (finite : (UnpackedFloat.unpack spec (UnpackedFloat.pack spec left)).isFinite = true) :
    exact (UnpackedFloat.unpack spec (UnpackedFloat.pack spec left)) = nearest spec number := by
  cases rounds with
  | zero sign nothing =>
      rw [UnpackedFloat.pack, unpack_packedZero, nothing]
      rfl
  | finite positive stored found =>
      obtain kept | lost := unpack_pack positive stored
      · rw [kept, found]
      · rw [lost, unpack_infinity] at finite
        cases finite

theorem isFinite_of_unpack_pack
    (finite : (UnpackedFloat.unpack spec (UnpackedFloat.pack spec left)).isFinite = true) :
    left.isFinite = true := by
  cases left with
  | notANumber => rwa [UnpackedFloat.pack, unpack_packedNaN] at finite
  | infinity sign => rwa [unpack_infinity] at finite
  | zero sign => rfl
  | finite sign digits exponent positive => rfl

theorem isFinite_of_add (finite : (UnpackedFloat.add spec left right).isFinite = true) :
    left.isFinite = true ∧ right.isFinite = true := by
  cases left <;> cases right <;> first
    | exact ⟨rfl, rfl⟩
    | (simp only [UnpackedFloat.add] at finite
       first | cases finite | (split at finite <;> cases finite))

theorem isFinite_of_sub (finite : (UnpackedFloat.sub spec left right).isFinite = true) :
    left.isFinite = true ∧ right.isFinite = true := by
  cases left <;> cases right <;> first
    | exact ⟨rfl, rfl⟩
    | (simp only [UnpackedFloat.sub] at finite
       first | cases finite | (split at finite <;> cases finite))

theorem isFinite_of_mul (finite : (UnpackedFloat.mul spec left right).isFinite = true) :
    left.isFinite = true ∧ right.isFinite = true := by
  cases left <;> cases right <;> first
    | exact ⟨rfl, rfl⟩
    | cases finite

theorem div_infinity (finite : left.isFinite = true) (sign : Sign) :
    ∃ zeroSign, UnpackedFloat.div spec left (.infinity sign) = .zero zeroSign := by
  cases left with
  | notANumber => cases finite
  | infinity sign => cases finite
  | zero sign => exact ⟨_, rfl⟩
  | finite sign digits exponent positive => exact ⟨_, rfl⟩

theorem isFinite_of_div (finite : (UnpackedFloat.div spec left right).isFinite = true) :
    left.isFinite = true ∧ (right.isFinite = true ∧ exact right ≠ 0 ∨
      ∃ sign, right = .infinity sign) := by
  cases left <;> cases right <;> first
    | exact ⟨rfl, .inr ⟨_, rfl⟩⟩
    | cases finite
    | skip
  all_goals exact ⟨rfl, .inl ⟨rfl, exact_ne_zero _⟩⟩

end Order

end Rounding

namespace Double

open Float.Model Float.Model.UnpackedFloat Rounding

def value (number : Float) : ℚ := exact number.toModel.unpack

theorem held {number : Float} (finite : number.isFinite = true) :
    Held Format.binary64 number.toModel.unpack := held_of_isFinite finite

variable {left right : Float}

theorem lt_iff_compare : left < right ↔
    left.toModel.unpack.compare right.toModel.unpack = some .lt := by
  change decide (left.toModel < right.toModel) = true ↔ _
  rw [decide_eq_true_iff]
  exact beq_iff_eq

theorem lt_iff_value (finite : left.isFinite = true) (otherFinite : right.isFinite = true) :
    left < right ↔ value left < value right :=
  lt_iff_compare.trans (compare_eq_lt_iff (held finite) (held otherFinite))

theorem unpack_add : (left + right).toModel.unpack = UnpackedFloat.unpack Format.binary64
    (UnpackedFloat.pack Format.binary64
      (UnpackedFloat.add Format.binary64 left.toModel.unpack right.toModel.unpack)) := rfl

theorem unpack_sub : (left - right).toModel.unpack = UnpackedFloat.unpack Format.binary64
    (UnpackedFloat.pack Format.binary64
      (UnpackedFloat.sub Format.binary64 left.toModel.unpack right.toModel.unpack)) := rfl

theorem unpack_mul : (left * right).toModel.unpack = UnpackedFloat.unpack Format.binary64
    (UnpackedFloat.pack Format.binary64
      (UnpackedFloat.mul Format.binary64 left.toModel.unpack right.toModel.unpack)) := rfl

theorem unpack_div : (left / right).toModel.unpack = UnpackedFloat.unpack Format.binary64
    (UnpackedFloat.pack Format.binary64
      (UnpackedFloat.div Format.binary64 left.toModel.unpack right.toModel.unpack)) := rfl

theorem isFinite_add (finite : (left + right).isFinite = true) :
    left.isFinite = true ∧ right.isFinite = true ∧
      value (left + right) = nearest Format.binary64 (value left + value right) := by
  obtain ⟨leftFinite, rightFinite⟩ := isFinite_of_add (isFinite_of_unpack_pack finite)
  exact ⟨leftFinite, rightFinite, exact_unpack_pack
    (rounds_add (held leftFinite) (held rightFinite)) finite⟩

theorem isFinite_sub (finite : (left - right).isFinite = true) :
    left.isFinite = true ∧ right.isFinite = true ∧
      value (left - right) = nearest Format.binary64 (value left - value right) := by
  obtain ⟨leftFinite, rightFinite⟩ := isFinite_of_sub (isFinite_of_unpack_pack finite)
  exact ⟨leftFinite, rightFinite, exact_unpack_pack
    (rounds_sub (held leftFinite) (held rightFinite)) finite⟩

theorem isFinite_mul (finite : (left * right).isFinite = true) :
    left.isFinite = true ∧ right.isFinite = true ∧
      value (left * right) = nearest Format.binary64 (value left * value right) := by
  obtain ⟨leftFinite, rightFinite⟩ := isFinite_of_mul (isFinite_of_unpack_pack finite)
  exact ⟨leftFinite, rightFinite, exact_unpack_pack
    (rounds_mul (held leftFinite) (held rightFinite)) finite⟩

theorem isFinite_div (finite : (left / right).isFinite = true) :
    left.isFinite = true ∧ (right.isFinite = true ∧ value right ≠ 0 ∧
        value (left / right) = nearest Format.binary64 (value left / value right) ∨
      right.isFinite = false ∧ value (left / right) = 0) := by
  obtain ⟨leftFinite, ⟨rightFinite, nonzero⟩ | ⟨sign, infinite⟩⟩ :=
    isFinite_of_div (isFinite_of_unpack_pack finite)
  · exact ⟨leftFinite, .inl ⟨rightFinite, nonzero, exact_unpack_pack
      (rounds_div (held leftFinite) (held rightFinite) nonzero) finite⟩⟩
  · refine ⟨leftFinite, .inr ⟨?_, ?_⟩⟩
    · change right.toModel.unpack.isFinite = false
      rw [infinite]
      rfl
    · obtain ⟨zeroSign, quotient⟩ := @div_infinity Format.binary64 _ leftFinite sign
      rw [value, unpack_div, infinite, quotient, UnpackedFloat.pack, unpack_packedZero]
      rfl

theorem value_onGrid (finite : left.isFinite = true) : OnGrid Format.binary64 (value left) :=
  (held finite).onGrid

theorem unpack_of_isNaN (nan : left.isNaN = true) : left.toModel.unpack = .notANumber :=
  isNaN_iff.mp nan

theorem isFinite_of_isNaN (nan : left.isNaN = true) : left.isFinite = false := by
  change left.toModel.unpack.isFinite = false
  rw [unpack_of_isNaN nan]
  rfl

theorem not_lt_of_isNaN (nan : left.isNaN = true ∨ right.isNaN = true) : ¬left < right := by
  rw [lt_iff_compare]
  obtain nan | nan := nan
  · rw [unpack_of_isNaN nan]
    exact nofun
  · rw [unpack_of_isNaN nan]
    cases left.toModel.unpack <;> exact nofun

instance irreflLt : Std.Irrefl (fun first second : Float => first < second) where
  irrefl number less := by
    rw [lt_iff_compare] at less
    cases unpacked : number.toModel.unpack with
    | notANumber => exact not_lt_of_isNaN (.inl (isNaN_iff.mpr unpacked)) (lt_iff_compare.mpr less)
    | infinity sign =>
        rw [unpacked] at less
        cases sign <;> cases less
    | zero sign =>
        rw [unpacked] at less
        cases less
    | finite sign digits exponent positive =>
        have finite : number.isFinite = true := by
          change number.toModel.unpack.isFinite = true
          rw [unpacked]
          rfl
        exact lt_irrefl _ ((lt_iff_value finite finite).mp (lt_iff_compare.mpr less))

theorem isNaN_of_unpack (unpacked : left.toModel.unpack =
    UnpackedFloat.unpack Format.binary64 (UnpackedFloat.pack Format.binary64 .notANumber)) :
    left.isNaN = true := by
  rw [UnpackedFloat.pack, unpack_packedNaN] at unpacked
  exact isNaN_iff.mpr unpacked

theorem isNaN_add (nan : left.isNaN = true ∨ right.isNaN = true) :
    (left + right).isNaN = true := by
  refine isNaN_of_unpack ?_
  rw [unpack_add]
  obtain nan | nan := nan
  · rw [unpack_of_isNaN nan]
    rfl
  · rw [unpack_of_isNaN nan]
    cases left.toModel.unpack <;> rfl

theorem div_of_not_isFinite (infinite : right.isFinite = false) :
    (left / right).isNaN = true ∨
      left.isFinite = true ∧ ∃ sign, (left / right).toModel.unpack = .zero sign := by
  change right.toModel.unpack.isFinite = false at infinite
  change _ ∨ left.toModel.unpack.isFinite = true ∧ _
  rw [unpack_div]
  have nan : (left / right).toModel.unpack = _ → _ := isNaN_of_unpack
  rw [unpack_div] at nan
  generalize left.toModel.unpack = dividend at nan ⊢
  generalize right.toModel.unpack = divisor at infinite nan ⊢
  cases divisor with
  | zero sign => cases infinite
  | finite sign digits exponent positive => cases infinite
  | notANumber => exact .inl (nan (by cases dividend <;> rfl))
  | infinity sign =>
      cases dividend with
      | notANumber => exact .inl (nan rfl)
      | infinity sign => exact .inl (nan rfl)
      | zero sign => exact .inr ⟨rfl, _, unpack_packedZero⟩
      | finite sign digits exponent positive => exact .inr ⟨rfl, _, unpack_packedZero⟩

theorem pack_unpack (number : Float) : UnpackedFloat.pack Format.binary64 number.toModel.unpack =
    number.toModel.toBits.toBitVec :=
  pack_unpack_of_valid number.toModel.valid

theorem add_of_zero (finite : left.isFinite = true) {sign : Sign}
    (zero : right.toModel.unpack = .zero sign) :
    (left + right).isFinite = true ∧ value (left + right) = value left := by
  change (left + right).toModel.unpack.isFinite = true ∧ exact (left + right).toModel.unpack = _
  have known := held finite
  have stored : UnpackedFloat.unpack Format.binary64
      (UnpackedFloat.pack Format.binary64 left.toModel.unpack) = left.toModel.unpack := by
    rw [pack_unpack]
    rfl
  rw [unpack_add, zero, value]
  generalize left.toModel.unpack = number at known stored ⊢
  cases known with
  | zero otherSign =>
      rw [UnpackedFloat.add]
      split <;> rw [UnpackedFloat.pack, unpack_packedZero] <;> exact ⟨rfl, rfl⟩
  | finite positive fits =>
      rw [UnpackedFloat.add.eq_def]
      simp only
      rw [stored]
      exact ⟨rfl, rfl⟩

theorem isNaN_of_not_lt {low high : Float} (lowFinite : low.isFinite = true)
    (highFinite : high.isFinite = true) (infinite : left.isFinite = false) (notBelow : ¬left < low)
    (notAbove : ¬high < left) : left.isNaN = true := by
  rw [lt_iff_compare] at notBelow notAbove
  change left.toModel.unpack.isFinite = false at infinite
  change left.toModel.unpack.isNaN = true
  have lowHeld := held lowFinite
  have highHeld := held highFinite
  generalize left.toModel.unpack = number at infinite notBelow notAbove ⊢
  generalize low.toModel.unpack = least at lowHeld notBelow
  generalize high.toModel.unpack = most at highHeld notAbove
  cases number with
  | notANumber => rfl
  | zero sign => cases infinite
  | finite sign digits exponent positive => cases infinite
  | infinity sign =>
      cases sign with
      | negative => cases lowHeld <;> exact absurd rfl notBelow
      | positive => cases highHeld <;> exact absurd rfl notAbove

theorem eq_of_unpack (same : left.toModel.unpack = right.toModel.unpack) : left = right := by
  obtain ⟨⟨⟨bits⟩, valid⟩⟩ := left
  obtain ⟨⟨⟨otherBits⟩, otherValid⟩⟩ := right
  obtain rfl : bits = otherBits := (unpack_inj_of_valid valid otherValid).mp same
  rfl

theorem sub_eq_of_value_eq {number : Float} (finite : left.isFinite = true)
    (otherFinite : right.isFinite = true) (numberFinite : number.isFinite = true)
    (same : value left = value right) (apart : value left ≠ value number) :
    left - number = right - number := by
  refine eq_of_unpack ?_
  rw [unpack_sub, unpack_sub]
  obtain equal | ⟨sign, otherSign, zero, otherZero⟩ :=
    (held finite).eq_of_exact_eq (held otherFinite) same
  · rw [equal]
  · have numberHeld := held numberFinite
    rw [value, value, zero] at apart
    rw [zero, otherZero]
    generalize number.toModel.unpack = subtrahend at numberHeld apart ⊢
    cases numberHeld with
    | zero numberSign => exact absurd rfl apart
    | finite positive stored => rfl

end Double

end Raster
