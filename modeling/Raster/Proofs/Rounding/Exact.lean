import Raster.Proofs.Rounding.Stored

/-!
The numbers that floating-point numbers stand for. What an operation rounds is the exact result, and
if the rounded number is stored as a finite one, that is what it stands for.
-/

namespace Raster

namespace Rounding

open Float.Model Float.Model.UnpackedFloat

def exact : UnpackedFloat → ℚ
  | .finite sign digits exponent _ => sign.apply digits * 2 ^ exponent
  | _ => 0

/-- Digits with the bits behind them describe a number if they are its whole part, one bit says
whether the rest is at least a half, and the other whether anything is behind that. -/
structure Describes (extended : ExtendedMantissa) (number : ℚ) : Prop where
  floor : (extended.mantissa : ℤ) = ⌊number⌋
  half : extended.roundBit = true ↔ 1 ≤ 2 * Int.fract number
  rest : extended.stickyBit = true ↔ Int.fract (2 * number) ≠ 0

section Describing

variable {extended : ExtendedMantissa} {number : ℚ}

theorem fract_two_mul (number : ℚ) : Int.fract (2 * number) =
    2 * Int.fract number - if 1 ≤ 2 * Int.fract number then 1 else 0 := by
  have parts := Int.floor_add_fract number
  have lower := Int.fract_nonneg number
  have upper := Int.fract_lt_one number
  split
  · rw [Int.fract_eq_iff]
    refine ⟨by linarith, by linarith, 2 * ⌊number⌋ + 1, ?_⟩
    push_cast
    linarith
  · rw [Int.fract_eq_iff]
    refine ⟨by linarith, by linarith, 2 * ⌊number⌋, ?_⟩
    push_cast
    linarith

theorem Describes.roundedMantissa (describes : Describes extended number) :
    (extended.roundedMantissa : ℤ) = toEven number := by
  obtain ⟨floor, half, rest⟩ := describes
  rw [fract_two_mul] at rest
  obtain ⟨digits, round, sticky⟩ := extended
  rw [ExtendedMantissa.roundedMantissa, toEven, ← floor]
  cases round <;> cases sticky <;>
    simp only [Bool.false_eq_true, false_iff, true_iff, not_le, ne_eq, not_not] at half rest
  · rw [if_pos half]
    rfl
  · rw [if_pos half]
    rfl
  · rw [if_pos half, sub_eq_zero] at rest
    rw [if_neg (by rw [rest]; exact lt_irrefl _), if_neg (by rw [rest]; exact lt_irrefl _)]
    rfl
  · rw [if_pos half, sub_eq_zero] at rest
    rw [if_neg (not_lt.mpr half), if_pos (lt_of_le_of_ne half (Ne.symm rest))]
    rfl

theorem Describes.shiftRightOne (describes : Describes extended number) :
    Describes extended.shiftRightOne (number / 2) := by
  obtain ⟨floor, half, rest⟩ := describes
  rw [fract_two_mul] at rest
  have lower := Int.fract_nonneg number
  have upper := Int.fract_lt_one number
  have whole : ⌊number / 2⌋ = ⌊number⌋ / 2 := Int.floor_div_natCast number 2
  have bit : 2 * Int.fract (number / 2) = (⌊number⌋ % 2 : ℤ) + Int.fract number := by
    have parts := Int.floor_add_fract number
    have others := Int.floor_add_fract (number / 2)
    have digits : ((2 * (⌊number⌋ / 2) + ⌊number⌋ % 2 : ℤ) : ℚ) = ⌊number⌋ := by
      rw [Int.mul_ediv_add_emod]
    rw [whole] at others
    push_cast at digits
    linarith
  refine ⟨?_, ?_, ?_⟩
  · rw [whole, ← floor]
    exact Int.natCast_div _ _
  · have odd : (extended.mantissa % 2 != 0) = true ↔ ⌊number⌋ % 2 = 1 := by
      rw [bne_iff_ne, ← floor]
      omega
    rw [bit]
    refine odd.trans ⟨fun one => ?_, fun more => ?_⟩
    · rw [one]
      push_cast
      linarith
    · by_contra even
      rw [(Int.emod_two_eq_zero_or_one _).resolve_right even, Int.cast_zero] at more
      linarith
  · rw [mul_div_cancel₀ number two_ne_zero]
    refine Bool.or_eq_true_iff.trans ?_
    rw [half, rest]
    split
    · rename_i most
      exact iff_of_true (.inl most) (by intro none; rw [none] at most; norm_num at most)
    · rename_i less
      rw [sub_zero, or_iff_right less, mul_ne_zero_iff_left two_ne_zero]

theorem Describes.shiftRight (describes : Describes extended number) (places : Nat) :
    Describes (extended >>> places) (number / 2 ^ places) := by
  change Describes (places.repeat ExtendedMantissa.shiftRightOne extended) _
  induction places with
  | zero =>
      rw [pow_zero, div_one]
      exact describes
  | succ places ih =>
      rw [pow_succ, ← div_div]
      exact ih.shiftRightOne

end Describing

section Rounded

variable {spec : Format} {digits : Nat} {exponent : Int} {number : ℚ}

theorem log_eq (floor : (digits : ℤ) = ⌊number / 2 ^ exponent⌋) (positive : 0 < digits) :
    Int.log 2 number = digits.log2 + exponent := by
  have scale := two_zpow_pos exponent
  have nonzero := Nat.ne_of_gt positive
  have lower : (2 : ℚ) ^ digits.log2 ≤ number / 2 ^ exponent := by
    calc (2 : ℚ) ^ digits.log2 ≤ digits := by exact_mod_cast Nat.log2_self_le nonzero
      _ ≤ number / 2 ^ exponent := by
        have below := Int.floor_le (number / 2 ^ exponent)
        rwa [← floor] at below
  have upper : number / 2 ^ exponent < (2 : ℚ) ^ (digits.log2 + 1) := by
    calc number / 2 ^ exponent < digits + 1 := by
          have above := Int.lt_floor_add_one (number / 2 ^ exponent)
          rwa [← floor] at above
      _ ≤ 2 ^ (digits.log2 + 1) := by exact_mod_cast Nat.lt_log2_self
  rw [le_div_iff₀ scale, ← zpow_natCast, ← zpow_add₀ two_ne_zero] at lower
  rw [div_lt_iff₀ scale, ← zpow_natCast, ← zpow_add₀ two_ne_zero] at upper
  have nonneg : 0 < number := (two_zpow_pos _).trans_le lower
  refine le_antisymm (Int.lt_add_one_iff.mp ?_) ?_
  · rw [← Int.lt_zpow_iff_log_lt one_lt_two nonneg]
    push_cast at upper ⊢
    rwa [add_right_comm] at upper
  · rw [← Int.zpow_le_iff_le_log one_lt_two nonneg]
    exact_mod_cast lower

theorem targetExponent_eq (floor : (digits : ℤ) = ⌊number / 2 ^ exponent⌋) (positive : 0 < number)
    (enough : exponent ≤ spacing spec number) :
    spec.targetExponent (totalExponent digits exponent) = spacing spec number := by
  rw [spacing_of_pos spec positive] at enough ⊢
  rw [Format.targetExponent, totalExponent]
  obtain rfl | some := Nat.eq_zero_or_pos digits
  · have small : number < 2 ^ exponent := by
      rw [Nat.cast_zero, eq_comm, Int.floor_eq_zero_iff] at floor
      exact (div_lt_one (two_zpow_pos exponent)).mp floor.2
    have low : Int.log 2 number < exponent := by
      rw [← Int.lt_zpow_iff_log_lt one_lt_two positive]
      exact_mod_cast small
    have length := mantissaBits_eq spec
    rw [Nat.log2_zero]
    omega
  · rw [log_eq floor some]
    omega

theorem shift_short (short : digits < 2 ^ spec.mantissaBits) (least : spec.minExponent ≤ exponent) :
    shiftToTargetExponent spec digits exponent .exact = (⟨digits, false, false⟩, exponent) := by
  have low : spec.targetExponent (totalExponent digits exponent) ≤ exponent := by
    rw [Format.targetExponent, totalExponent]
    obtain rfl | some := Nat.eq_zero_or_pos digits
    · have length := mantissaBits_eq spec
      rw [Nat.log2_zero]
      omega
    · have length := (Nat.log2_lt (Nat.ne_of_gt some)).mpr short
      omega
  have kept : (spec.targetExponent (totalExponent digits exponent) - exponent).toNat = 0 := by omega
  rw [shiftToTargetExponent, shiftToExponent, kept, Nat.cast_zero, add_zero]
  rfl

theorem shift_carry (least : spec.minExponent ≤ exponent) :
    shiftToTargetExponent spec (2 ^ spec.mantissaBits) exponent .exact =
      (⟨2 ^ spec.mantissaBitsWithoutImplicit, false, false⟩, exponent + 1) := by
  have next : spec.targetExponent (totalExponent (2 ^ spec.mantissaBits) exponent) =
      exponent + 1 := by
    rw [Format.targetExponent, totalExponent, Nat.log2_two_pow]
    omega
  have one : (exponent + 1 - exponent).toNat = 1 := by omega
  rw [shiftToTargetExponent, next, shiftToExponent, one, mantissaBits_eq, Nat.pow_succ]
  change (ExtendedMantissa.mk (_ * 2 / 2) (_ * 2 % 2 != 0) false, _) = _
  rw [Nat.mul_mod_left, Nat.mul_div_cancel _ two_pos]
  rfl

def signed (number : ℚ) : Sign → ℚ
  | .negative => -number
  | .positive => number

theorem signed_natCast (count : Nat) (sign : Sign) :
    (sign.apply count : ℚ) = signed count sign := by
  cases sign <;> simp only [Sign.apply, signed, Int.cast_neg, Int.cast_natCast]

theorem signed_mul (left right : ℚ) (sign : Sign) :
    signed left sign * right = signed (left * right) sign := by
  cases sign <;> simp only [signed, neg_mul]

theorem nearest_signed (number : ℚ) (sign : Sign) :
    nearest spec (signed number sign) = signed (nearest spec number) sign := by
  cases sign
  · exact nearest_neg number
  · rfl

/-- The result of rounding a number, as the format stores it unless its exponent is too large. -/
inductive Rounds (spec : Format) (number : ℚ) : UnpackedFloat → Prop
  | zero (sign : Sign) (nothing : nearest spec number = 0) : Rounds spec number (.zero sign)
  | finite {sign : Sign} {digits : Nat} {exponent : Int} (positive : 0 < digits)
      (stored : Stored spec digits exponent)
      (found : exact (.finite sign digits exponent positive) = nearest spec number) :
      Rounds spec number (.finite sign digits exponent positive)

theorem rounds_of_rounded {sign : Sign} (least : spec.minExponent ≤ exponent)
    (fits : digits ≤ 2 ^ spec.mantissaBits)
    (full : 2 ^ spec.mantissaBitsWithoutImplicit ≤ digits ∨ exponent = spec.minExponent)
    (rounded : (digits : ℚ) * 2 ^ exponent = nearest spec number)
    {place : ExtendedMantissa × Int}
    (shifted : shiftToTargetExponent spec digits exponent .exact = place) :
    Rounds spec (signed number sign) (if empty : place.1.mantissa = 0 then .zero sign
      else .finite sign place.1.mantissa place.2 (Nat.pos_of_ne_zero empty)) := by
  obtain short | long := fits.lt_or_eq
  · rw [shift_short short least] at shifted
    subst shifted
    split
    · rename_i empty
      refine .zero sign ?_
      change digits = 0 at empty
      rw [nearest_signed, ← rounded, empty, Nat.cast_zero, zero_mul]
      cases sign <;> simp only [signed, neg_zero]
    · refine .finite _ ⟨short, least, full⟩ ?_
      rw [exact, signed_natCast, signed_mul, rounded, nearest_signed]
  · rw [long, shift_carry least] at shifted
    subst shifted
    have some : ¬2 ^ spec.mantissaBitsWithoutImplicit = 0 := Nat.two_pow_pos _ |>.ne'
    rw [dif_neg some]
    refine .finite _ ⟨?_, by omega, .inl (le_refl _)⟩ ?_
    · rw [mantissaBits_eq]
      exact Nat.pow_lt_pow_right one_lt_two (Nat.lt_succ_self _)
    · rw [exact, signed_natCast, signed_mul, nearest_signed, ← rounded, long, mantissaBits_eq,
        zpow_add_one₀ two_ne_zero, pow_succ]
      push_cast
      rw [mul_assoc, mul_comm (2 : ℚ)]

theorem rounds_roundWithAccuracy (sign : Sign) {accuracy : Accuracy} (positive : 0 < number)
    (describes : Describes (.ofMantissaAndAccuracy digits accuracy) (number / 2 ^ exponent))
    (enough : exponent ≤ spacing spec number) :
    Rounds spec (signed number sign) (roundWithAccuracy spec sign digits exponent accuracy) := by
  have given : (ExtendedMantissa.ofMantissaAndAccuracy digits accuracy).mantissa = digits := by
    obtain _ | _ | _ | _ := accuracy <;> rfl
  have floor := describes.floor
  rw [given] at floor
  obtain ⟨places, reached⟩ := Int.le.dest enough
  have shifted : shiftToTargetExponent spec digits exponent accuracy =
      (ExtendedMantissa.ofMantissaAndAccuracy digits accuracy >>> places, spacing spec number) := by
    simp only [shiftToTargetExponent, shiftToExponent, targetExponent_eq floor positive enough]
    rw [← reached, add_sub_cancel_left, Int.toNat_natCast]
  have scaled := describes.shiftRight places
  rw [div_div, ← zpow_natCast, ← zpow_add₀ two_ne_zero, reached] at scaled
  have rounded := scaled.roundedMantissa
  rw [roundWithAccuracy, shifted]
  refine rounds_of_rounded (minExponent_le_spacing spec number) ?_ ?_ ?_ rfl
  · have fits := toEven_fits spec positive
    rw [← rounded] at fits
    exact_mod_cast fits
  · obtain least | more := (minExponent_le_spacing spec number).eq_or_lt
    · exact .inr least.symm
    · have full : ((2 ^ spec.mantissaBitsWithoutImplicit : ℤ) : ℚ) ≤
          number / 2 ^ spacing spec number := by
        rw [spacing_of_pos spec positive] at more ⊢
        have binade : Int.log 2 number = spec.mantissaBitsWithoutImplicit +
            max (Int.log 2 number + 1 - spec.mantissaBits) spec.minExponent := by
          have length := mantissaBits_eq spec
          omega
        rw [le_div_iff₀ (two_zpow_pos _)]
        push_cast
        rw [← zpow_natCast, ← zpow_add₀ two_ne_zero, ← binade]
        exact two_zpow_log_le positive
      have many := le_toEven full
      rw [← rounded] at many
      exact .inl (by exact_mod_cast many)
  · rw [nearest_of_pos positive, ← rounded, Int.cast_natCast]

end Rounded

section Operations

variable {spec : Format} {left right : UnpackedFloat}

inductive Held (spec : Format) : UnpackedFloat → Prop
  | zero (sign : Sign) : Held spec (.zero sign)
  | finite {sign : Sign} {digits : Nat} {exponent : Int} (positive : 0 < digits)
      (stored : Stored spec digits exponent) : Held spec (.finite sign digits exponent positive)

theorem exact_finite (sign : Sign) {digits : Nat} (exponent : Int) (positive : 0 < digits) :
    exact (.finite sign digits exponent positive) = signed (digits * 2 ^ exponent) sign := by
  rw [exact, signed_natCast, signed_mul]

theorem exact_zero (sign : Sign) : exact (.zero sign) = 0 := rfl

theorem magnitude_pos {digits : Nat} (positive : 0 < digits) (exponent : Int) :
    (0 : ℚ) < digits * 2 ^ exponent :=
  mul_pos (Nat.cast_pos.mpr positive) (two_zpow_pos exponent)

theorem Stored.onGrid {sign : Sign} {digits : Nat} {exponent : Int}
    (stored : Stored spec digits exponent) (positive : 0 < digits) :
    OnGrid spec (exact (.finite sign digits exponent positive)) := by
  have grid : OnGrid spec (digits * 2 ^ exponent) := by
    refine ⟨digits, exponent, ?_, stored.lowest, rfl⟩
    rw [abs_of_nonneg (Int.natCast_nonneg _)]
    exact_mod_cast stored.fits.le
  rw [exact_finite]
  cases sign
  · exact grid.neg
  · exact grid

theorem Held.onGrid (held : Held spec left) : OnGrid spec (exact left) := by
  cases held with
  | zero sign => exact onGrid_zero spec
  | finite positive stored => exact stored.onGrid positive

theorem Held.rounds (held : Held spec left) : Rounds spec (exact left) left := by
  cases held with
  | zero sign => exact .zero sign nearest_zero
  | finite positive stored =>
      exact .finite positive stored (nearest_of_onGrid (stored.onGrid positive)).symm

theorem rounds_zero (sign : Sign) : Rounds spec 0 (.zero sign) := .zero sign nearest_zero

theorem describes_natCast (count : Nat) :
    Describes (.ofMantissaAndAccuracy count .exact) count := by
  have none : Int.fract (count : ℚ) = 0 := Int.fract_natCast count
  refine ⟨(Int.floor_natCast count).symm, ?_, ?_⟩
  · rw [none, mul_zero]
    exact iff_of_false Bool.false_ne_true (by norm_num)
  · rw [fract_two_mul, none, mul_zero, if_neg (by norm_num), sub_zero]
    exact iff_of_false Bool.false_ne_true (fun some => some rfl)

theorem signed_mul_signed (first second : ℚ) (sign other : Sign) :
    signed first sign * signed second other = signed (first * second) (sign * other) := by
  cases sign <;> cases other <;> simp only [signed, neg_mul, mul_neg, neg_neg]

theorem signed_div_signed (first second : ℚ) (sign other : Sign) :
    signed first sign / signed second other = signed (first / second) (sign / other) := by
  cases sign <;> cases other <;> simp only [signed, neg_div, div_neg, neg_neg] <;> rfl

theorem minExponent_le_zero (spec : Format) : spec.minExponent ≤ 0 := by
  rw [minExponent_eq]
  have some := spec.hm
  omega

theorem le_spacing {count : Nat} {exponent : Int} (positive : 0 < count)
    (enough : 2 ^ spec.mantissaBitsWithoutImplicit ≤ count ∨ exponent ≤ spec.minExponent) :
    exponent ≤ spacing spec (count * 2 ^ exponent) := by
  have scale := two_zpow_pos exponent
  obtain many | low := enough
  · have floor : (count : ℤ) = ⌊(count * 2 ^ exponent : ℚ) / 2 ^ exponent⌋ := by
      rw [mul_div_cancel_right₀ _ scale.ne', Int.floor_natCast]
    have length := (Nat.le_log2 (Nat.ne_of_gt positive)).mpr many
    have whole := mantissaBits_eq spec
    rw [spacing_of_pos spec (magnitude_pos positive exponent), log_eq floor positive]
    omega
  · exact low.trans (minExponent_le_spacing spec _)

theorem rounds_mul (held : Held spec left) (other : Held spec right) :
    Rounds spec (exact left * exact right) (UnpackedFloat.mul spec left right) := by
  cases held with
  | zero sign =>
      rw [exact_zero, zero_mul]
      cases other <;> exact rounds_zero _
  | @finite sign digits exponent positive stored =>
      cases other with
      | zero sign =>
          rw [exact_zero, mul_zero]
          exact rounds_zero _
      | @finite otherSign otherDigits otherExponent otherPositive otherStored =>
          have scale := two_zpow_pos (exponent + otherExponent)
          have product : (digits * 2 ^ exponent * (otherDigits * 2 ^ otherExponent) : ℚ) =
              (digits * otherDigits : Nat) * 2 ^ (exponent + otherExponent) := by
            rw [zpow_add₀ two_ne_zero]
            push_cast
            ring
          rw [exact_finite, exact_finite, signed_mul_signed, product]
          refine rounds_roundWithAccuracy _
            (magnitude_pos (Nat.mul_pos positive otherPositive) _) ?_ ?_
          · rw [mul_div_cancel_right₀ _ scale.ne']
            exact describes_natCast _
          · refine le_spacing (Nat.mul_pos positive otherPositive) ?_
            have least := minExponent_le_zero spec
            obtain full | low := stored.full
            · exact .inl (full.trans (Nat.le_mul_of_pos_right _ otherPositive))
            · obtain full | otherLow := otherStored.full
              · exact .inl (full.trans (Nat.le_mul_of_pos_left _ positive))
              · right
                omega

theorem rounds_round (sign : Sign) {count : Nat} (exponent : Int) (positive : 0 < count) :
    Rounds spec (signed (count * 2 ^ exponent) sign)
      (UnpackedFloat.round spec sign count exponent) := by
  have above := magnitude_pos positive exponent
  have floor : (count : ℤ) = ⌊(count * 2 ^ exponent : ℚ) / 2 ^ exponent⌋ := by
    rw [mul_div_cancel_right₀ _ (two_zpow_pos exponent).ne', Int.floor_natCast]
  have target : spec.targetExponent (totalExponent count exponent) =
      spacing spec (count * 2 ^ exponent) := by
    rw [spacing_of_pos spec above, log_eq floor positive, Format.targetExponent, totalExponent]
    omega
  rw [UnpackedFloat.round, target, decreaseExponent]
  generalize moved : (exponent - spacing spec (count * 2 ^ exponent)).toNat = places
  have value : (count * 2 ^ exponent : ℚ) / 2 ^ (exponent - places) = (count <<< places : Nat) := by
    rw [zpow_sub₀ two_ne_zero, Nat.shiftLeft_eq, zpow_natCast]
    field_simp
    push_cast
    ring
  refine rounds_roundWithAccuracy sign above ?_ (by omega)
  rw [value]
  exact describes_natCast _

variable (spec) in
theorem rounds_normalize (whole : Int) (exponent : Int) (sign : Sign) :
    Rounds spec (whole * 2 ^ exponent) (UnpackedFloat.normalize spec whole exponent sign) := by
  rw [UnpackedFloat.normalize]
  obtain negative | rfl | positive := lt_trichotomy whole 0
  · obtain ⟨count, rfl⟩ : ∃ count : Nat, whole = -count := ⟨(-whole).toNat, by omega⟩
    have some : 0 < count := by omega
    rw [Int.compare_eq_lt.mpr negative, neg_neg, Int.cast_neg, Int.cast_natCast, neg_mul]
    exact rounds_round .negative exponent some
  · rw [compare_eq_iff_eq.mpr rfl, Int.cast_zero, zero_mul]
    exact rounds_zero sign
  · obtain ⟨count, rfl⟩ : ∃ count : Nat, whole = count := ⟨whole.toNat, by omega⟩
    have some : 0 < count := by omega
    rw [Int.compare_eq_gt.mpr positive, Int.cast_natCast]
    exact rounds_round .positive exponent some

theorem exact_lowered (sign : Sign) {digits : Nat} {exponent lower : Int} (positive : 0 < digits)
    (le : lower ≤ exponent) :
    (sign.apply (digits <<< (exponent - lower).toNat : Nat) : ℚ) * 2 ^ lower =
      exact (.finite sign digits exponent positive) := by
  obtain ⟨places, rfl⟩ := Int.le.dest le
  rw [exact_finite, signed_natCast, signed_mul, add_sub_cancel_left, Int.toNat_natCast,
    Nat.shiftLeft_eq, zpow_add₀ two_ne_zero, zpow_natCast]
  push_cast
  rw [mul_assoc, mul_comm (2 ^ lower : ℚ)]

theorem rounds_add (held : Held spec left) (other : Held spec right) :
    Rounds spec (exact left + exact right) (UnpackedFloat.add spec left right) := by
  cases held with
  | zero sign =>
      rw [exact_zero, zero_add]
      cases other with
      | zero otherSign =>
          rw [UnpackedFloat.add]
          split <;> exact rounds_zero _
      | finite positive stored => exact (Held.finite positive stored).rounds
  | @finite sign digits exponent positive stored =>
      cases other with
      | zero otherSign =>
          rw [exact_zero, add_zero]
          exact (Held.finite positive stored).rounds
      | @finite otherSign otherDigits otherExponent otherPositive otherStored =>
          have sum := rounds_normalize spec
            (sign.apply (digits <<< (exponent - min exponent otherExponent).toNat : Nat) +
              otherSign.apply (otherDigits <<< (otherExponent - min exponent otherExponent).toNat :
                Nat)) (min exponent otherExponent) .positive
          rw [Int.cast_add, add_mul, exact_lowered sign positive (min_le_left _ _),
            exact_lowered otherSign otherPositive (min_le_right _ _)] at sum
          exact sum

theorem rounds_sub (held : Held spec left) (other : Held spec right) :
    Rounds spec (exact left - exact right) (UnpackedFloat.sub spec left right) := by
  cases held with
  | zero sign =>
      rw [exact_zero, zero_sub]
      cases other with
      | zero otherSign =>
          rw [exact_zero, neg_zero, UnpackedFloat.sub]
          split <;> exact rounds_zero _
      | @finite otherSign otherDigits otherExponent otherPositive otherStored =>
          have mirrored : exact (.finite (-otherSign) otherDigits otherExponent otherPositive) =
              -exact (.finite otherSign otherDigits otherExponent otherPositive) := by
            rw [exact_finite, exact_finite]
            cases otherSign
            · exact (neg_neg _).symm
            · rfl
          rw [← mirrored]
          exact (Held.finite otherPositive otherStored).rounds
  | @finite sign digits exponent positive stored =>
      cases other with
      | zero otherSign =>
          rw [exact_zero, sub_zero]
          exact (Held.finite positive stored).rounds
      | @finite otherSign otherDigits otherExponent otherPositive otherStored =>
          have difference := rounds_normalize spec
            (sign.apply (digits <<< (exponent - min exponent otherExponent).toNat : Nat) -
              otherSign.apply (otherDigits <<< (otherExponent - min exponent otherExponent).toNat :
                Nat)) (min exponent otherExponent) .positive
          rw [Int.cast_sub, sub_mul, exact_lowered sign positive (min_le_left _ _),
            exact_lowered otherSign otherPositive (min_le_right _ _)] at difference
          exact difference

theorem describes_div (count : Nat) {divisor : Nat} (positive : 0 < divisor) :
    Describes (.ofMantissaAndAccuracy (count / divisor)
      (accuracyOfFraction (count % divisor) divisor)) (count / divisor) := by
  have some : (0 : ℚ) < divisor := by exact_mod_cast positive
  have floor : ⌊(count / divisor : ℚ)⌋ = (count / divisor : Nat) := by
    rw [Int.floor_div_natCast, Int.floor_natCast]
    rfl
  have part : Int.fract (count / divisor : ℚ) = (count % divisor : Nat) / divisor := by
    have parts := Int.floor_add_fract (count / divisor : ℚ)
    have digits : ((divisor * (count / divisor) + count % divisor : Nat) : ℚ) = count := by
      rw [Nat.div_add_mod]
    rw [floor] at parts
    push_cast at digits
    rw [eq_div_iff some.ne']
    rw [← eq_sub_iff_add_eq'] at parts
    rw [parts, sub_mul, div_mul_cancel₀ _ some.ne', Int.cast_natCast]
    linarith
  rw [accuracyOfFraction]
  generalize count % divisor = left at part
  split
  · rename_i none
    rw [none, Nat.cast_zero, zero_div] at part
    refine ⟨floor.symm, iff_of_false Bool.false_ne_true ?_, iff_of_false Bool.false_ne_true ?_⟩
    · rw [part]
      norm_num
    · rw [fract_two_mul, part]
      norm_num
  · rename_i more
    have positiveLeft : (0 : ℚ) < left := by exact_mod_cast Nat.pos_of_ne_zero more
    have double : 2 * Int.fract (count / divisor : ℚ) = (2 * left : Nat) / divisor := by
      rw [part]
      push_cast
      ring
    obtain less | same | greater := lt_trichotomy (2 * left) divisor
    · have below : 2 * Int.fract (count / divisor : ℚ) < 1 := by
        rw [double, div_lt_one some]
        exact_mod_cast less
      rw [Nat.compare_eq_lt.mpr less]
      refine ⟨floor.symm, iff_of_false Bool.false_ne_true (not_le.mpr below), iff_of_true rfl ?_⟩
      rw [fract_two_mul, if_neg (not_le.mpr below), sub_zero, part]
      positivity
    · have half : 2 * Int.fract (count / divisor : ℚ) = 1 := by
        rw [double, same, div_self some.ne']
      rw [Nat.compare_eq_eq.mpr same]
      refine ⟨floor.symm, iff_of_true rfl half.ge, iff_of_false Bool.false_ne_true ?_⟩
      rw [fract_two_mul, if_pos half.ge, half, sub_self]
      exact fun some => some rfl
    · have above : 1 < 2 * Int.fract (count / divisor : ℚ) := by
        rw [double, one_lt_div some]
        exact_mod_cast greater
      rw [Nat.compare_eq_gt.mpr greater]
      refine ⟨floor.symm, iff_of_true rfl above.le, iff_of_true rfl ?_⟩
      rw [fract_two_mul, if_pos above.le]
      exact (sub_pos.mpr above).ne'

theorem le_spacing_div {digits divisor : Nat} {exponent other : Int} (positive : 0 < digits)
    (otherPositive : 0 < divisor) :
    spec.targetExponent (totalExponent digits exponent - totalExponent divisor other) ≤
      spacing spec (digits * 2 ^ exponent / (divisor * 2 ^ other)) := by
  have some : (0 : ℚ) < digits := by exact_mod_cast positive
  have otherSome : (0 : ℚ) < divisor := by exact_mod_cast otherPositive
  have scale := two_zpow_pos exponent
  have otherScale := two_zpow_pos other
  have quotient := div_pos (mul_pos some scale) (mul_pos otherSome otherScale)
  have large : (2 : ℚ) ^ (digits.log2 + exponent - (divisor.log2 + 1 + other)) ≤
      digits * 2 ^ exponent / (divisor * 2 ^ other) := by
    have leading : (2 : ℚ) ^ (digits.log2 : ℤ) ≤ digits := by
      exact_mod_cast Nat.log2_self_le (Nat.ne_of_gt positive)
    have short : (divisor : ℚ) ≤ 2 ^ (divisor.log2 + 1 : ℤ) := by
      exact_mod_cast Nat.lt_log2_self.le
    rw [le_div_iff₀ (mul_pos otherSome otherScale)]
    calc (2 : ℚ) ^ (digits.log2 + exponent - (divisor.log2 + 1 + other)) * (divisor * 2 ^ other)
        ≤ 2 ^ (digits.log2 + exponent - (divisor.log2 + 1 + other)) *
            (2 ^ (divisor.log2 + 1 : ℤ) * 2 ^ other) :=
          mul_le_mul_of_nonneg_left (mul_le_mul_of_nonneg_right short otherScale.le)
            (two_zpow_pos _).le
      _ = 2 ^ (digits.log2 : ℤ) * 2 ^ exponent := by
          rw [← zpow_add₀ two_ne_zero, ← zpow_add₀ two_ne_zero, ← zpow_add₀ two_ne_zero,
            sub_add_cancel]
      _ ≤ digits * 2 ^ exponent := mul_le_mul_of_nonneg_right leading scale.le
  have log : (digits.log2 + exponent - (divisor.log2 + 1 + other) : ℤ) ≤
      Int.log 2 (digits * 2 ^ exponent / (divisor * 2 ^ other) : ℚ) := by
    rw [← Int.zpow_le_iff_le_log one_lt_two quotient]
    exact_mod_cast large
  rw [spacing_of_pos spec quotient, Format.targetExponent, totalExponent, totalExponent]
  omega

theorem rounds_div (held : Held spec left) (other : Held spec right)
    (nonzero : exact right ≠ 0) :
    Rounds spec (exact left / exact right) (UnpackedFloat.div spec left right) := by
  cases other with
  | zero sign => exact absurd rfl nonzero
  | @finite otherSign otherDigits otherExponent otherPositive otherStored =>
      cases held with
      | zero sign =>
          rw [exact_zero, zero_div]
          exact rounds_zero _
      | @finite sign digits exponent positive stored =>
          have quotient := div_pos (magnitude_pos positive exponent)
            (magnitude_pos otherPositive otherExponent)
          rw [exact_finite, exact_finite, signed_div_signed, UnpackedFloat.div, divCore]
          refine rounds_roundWithAccuracy _ quotient ?_
            ((min_le_right _ _).trans (le_spacing_div positive otherPositive))
          have lowered := min_le_left (exponent - otherExponent) (spec.targetExponent
            (totalExponent digits exponent - totalExponent otherDigits otherExponent))
          generalize min (exponent - otherExponent) _ = target at lowered ⊢
          have shifted : (digits * 2 ^ exponent / (otherDigits * 2 ^ otherExponent) : ℚ) /
              2 ^ target =
                (digits <<< (exponent - otherExponent - target).toNat : Nat) / otherDigits := by
            obtain ⟨places, reached⟩ := Int.le.dest lowered
            obtain rfl : exponent = target + places + otherExponent := by omega
            rw [add_sub_cancel_right, add_sub_cancel_left, Int.toNat_natCast, Nat.shiftLeft_eq,
              zpow_add₀ two_ne_zero, zpow_add₀ two_ne_zero, zpow_natCast]
            push_cast
            field_simp
          rw [shifted]
          exact describes_div _ otherPositive

end Operations

end Rounding

end Raster
