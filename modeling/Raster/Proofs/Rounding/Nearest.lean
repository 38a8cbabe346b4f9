import Mathlib

/-!
Rounding to the nearest number of a floating-point format, as a function on rational numbers and
without a largest exponent: the numbers of the format keep still, nothing else of the format is
closer, and so the rounding is monotone and off by no more than half the spacing.
-/

namespace Raster

namespace Rounding

open Float.Model

/-- The nearest whole number, and the even one where two are as near. -/
def toEven (number : ℚ) : ℤ :=
  if 2 * Int.fract number < 1 then ⌊number⌋
  else if 1 < 2 * Int.fract number then ⌊number⌋ + 1
  else ⌊number⌋ + ⌊number⌋ % 2

theorem toEven_intCast (whole : ℤ) : toEven whole = whole := by
  rw [toEven, Int.fract_intCast, if_pos (by norm_num), Int.floor_intCast]

theorem toEven_cases (number : ℚ) :
    toEven number = ⌊number⌋ ∧ 2 * Int.fract number ≤ 1 ∨
      toEven number = ⌊number⌋ + 1 ∧ 1 ≤ 2 * Int.fract number := by
  rw [toEven]
  split_ifs with less greater
  · exact .inl ⟨rfl, less.le⟩
  · exact .inr ⟨rfl, greater.le⟩
  · obtain even | odd := Int.emod_two_eq_zero_or_one ⌊number⌋
    · exact .inl ⟨by rw [even, add_zero], le_of_not_gt greater⟩
    · exact .inr ⟨by rw [odd], le_of_not_gt less⟩

theorem toEven_closest (number : ℚ) (other : ℤ) :
    |(toEven number : ℚ) - number| ≤ |(other : ℚ) - number| := by
  have parts := Int.floor_add_fract number
  have lower := Int.fract_nonneg number
  have upper := Int.fract_lt_one number
  have sides : (other : ℚ) ≤ ⌊number⌋ ∨ (⌊number⌋ : ℚ) + 1 ≤ other := by
    rw [← Int.cast_one, ← Int.cast_add, Int.cast_le, Int.cast_le]
    omega
  obtain ⟨rounded, half⟩ | ⟨rounded, half⟩ := toEven_cases number <;>
    rw [rounded] <;> push_cast <;> obtain below | above := sides
  · rw [abs_of_nonpos (by linarith), abs_of_nonpos (by linarith)]
    linarith
  · rw [abs_of_nonpos (by linarith), abs_of_nonneg (by linarith)]
    linarith
  · rw [abs_of_nonneg (by linarith), abs_of_nonpos (by linarith)]
    linarith
  · rw [abs_of_nonneg (by linarith), abs_of_nonneg (by linarith)]
    linarith

theorem abs_toEven_sub_le (number : ℚ) : |(toEven number : ℚ) - number| ≤ 1 / 2 := by
  have parts := Int.floor_add_fract number
  have lower := Int.fract_nonneg number
  have upper := Int.fract_lt_one number
  rw [abs_le]
  obtain ⟨rounded, half⟩ | ⟨rounded, half⟩ := toEven_cases number <;>
    rw [rounded] <;> push_cast <;> constructor <;> linarith

theorem le_toEven {number : ℚ} {bound : ℤ} (above : bound ≤ number) : bound ≤ toEven number := by
  have floor := Int.le_floor.mpr above
  obtain ⟨rounded, -⟩ | ⟨rounded, -⟩ := toEven_cases number <;> omega

theorem toEven_le {number : ℚ} {bound : ℤ} (below : number ≤ bound) : toEven number ≤ bound := by
  by_contra above
  have near := toEven_closest number bound
  have next : (bound : ℚ) + 1 ≤ toEven number := by
    exact_mod_cast Int.add_one_le_of_lt (lt_of_not_ge above)
  rw [abs_of_nonneg (by linarith), abs_of_nonneg (by linarith)] at near
  linarith

section Format

variable (spec : Format)

theorem mantissaBits_eq : spec.mantissaBits = spec.mantissaBitsWithoutImplicit + 1 :=
  Nat.add_comm _ _

/-- The exponent of the spacing of the numbers of a format around a number. -/
def spacing (number : ℚ) : ℤ := max (Int.log 2 |number| + 1 - spec.mantissaBits) spec.minExponent

/-- The nearest number of a format without a largest exponent. -/
def nearest (number : ℚ) : ℚ :=
  SignType.sign number * (toEven (|number| / 2 ^ spacing spec number) * 2 ^ spacing spec number)

/-- The numbers of a format without a largest exponent. -/
def OnGrid (number : ℚ) : Prop :=
  ∃ (digits exponent : ℤ), |digits| ≤ 2 ^ spec.mantissaBits ∧ spec.minExponent ≤ exponent ∧
    number = digits * 2 ^ exponent

theorem two_zpow_pos (exponent : ℤ) : (0 : ℚ) < 2 ^ exponent := zpow_pos two_pos exponent

variable {spec : Format} {number other : ℚ}

theorem OnGrid.neg (onGrid : OnGrid spec number) : OnGrid spec (-number) := by
  obtain ⟨digits, exponent, fits, least, rfl⟩ := onGrid
  exact ⟨-digits, exponent, by rwa [abs_neg], least, by rw [Int.cast_neg, neg_mul]⟩

variable (spec) in
theorem onGrid_zero : OnGrid spec 0 :=
  ⟨0, spec.minExponent, by rw [abs_zero]; positivity, le_refl _, by rw [Int.cast_zero, zero_mul]⟩

variable (spec) in
theorem minExponent_le_spacing (number : ℚ) : spec.minExponent ≤ spacing spec number :=
  le_max_right _ _

theorem spacing_neg (number : ℚ) : spacing spec (-number) = spacing spec number := by
  rw [spacing, abs_neg, spacing]

theorem nearest_neg (number : ℚ) : nearest spec (-number) = -nearest spec number := by
  rw [nearest, spacing_neg, abs_neg, Left.sign_neg, SignType.coe_neg, neg_mul, nearest]

theorem nearest_zero : nearest spec 0 = 0 := by
  rw [nearest, sign_zero, SignType.coe_zero, zero_mul]

theorem nearest_of_pos (positive : 0 < number) : nearest spec number =
    toEven (number / 2 ^ spacing spec number) * 2 ^ spacing spec number := by
  rw [nearest, sign_pos positive, SignType.coe_one, one_mul, abs_of_pos positive]

theorem two_zpow_log_le (positive : 0 < number) : (2 : ℚ) ^ Int.log 2 number ≤ number := by
  exact_mod_cast Int.zpow_log_le_self one_lt_two positive

theorem lt_two_zpow_log (number : ℚ) : number < (2 : ℚ) ^ (Int.log 2 number + 1) := by
  exact_mod_cast Int.lt_zpow_succ_log_self one_lt_two number

variable (spec) in
theorem spacing_of_pos (positive : 0 < number) : spacing spec number =
    max (Int.log 2 number + 1 - spec.mantissaBits) spec.minExponent := by
  rw [spacing, abs_of_pos positive]

theorem lt_two_zpow_spacing (positive : 0 < number) :
    number < 2 ^ spec.mantissaBits * 2 ^ spacing spec number := by
  rw [spacing_of_pos spec positive, ← zpow_natCast, ← zpow_add₀ two_ne_zero]
  exact (lt_two_zpow_log number).trans_le (zpow_le_zpow_right₀ one_le_two (by omega))

variable (spec) in
theorem toEven_fits (positive : 0 < number) :
    toEven (number / 2 ^ spacing spec number) ≤ 2 ^ spec.mantissaBits := by
  refine toEven_le ?_
  rw [div_le_iff₀ (two_zpow_pos _)]
  push_cast
  exact (lt_two_zpow_spacing positive).le

theorem onGrid_nearest_of_pos (positive : 0 < number) : OnGrid spec (nearest spec number) := by
  have scale := two_zpow_pos (spacing spec number)
  have nonneg : 0 ≤ toEven (number / 2 ^ spacing spec number) :=
    le_toEven (Int.cast_zero.trans_le (div_pos positive scale).le)
  exact ⟨_, _, (abs_of_nonneg nonneg).trans_le (toEven_fits spec positive),
    minExponent_le_spacing spec _, nearest_of_pos positive⟩

variable (spec) in
theorem onGrid_nearest (number : ℚ) : OnGrid spec (nearest spec number) := by
  obtain negative | rfl | positive := lt_trichotomy number 0
  · rw [← neg_neg number, nearest_neg]
    exact (onGrid_nearest_of_pos (neg_pos.mpr negative)).neg
  · rw [nearest_zero]
    exact onGrid_zero spec
  · exact onGrid_nearest_of_pos positive

variable (spec) in
theorem nearest_closest_of_multiple (positive : 0 < number) (digits : ℤ) :
    |nearest spec number - number| ≤ |digits * 2 ^ spacing spec number - number| := by
  have scale := two_zpow_pos (spacing spec number)
  have whole := div_mul_cancel₀ number scale.ne'
  have near := mul_le_mul_of_nonneg_right
    (toEven_closest (number / 2 ^ spacing spec number) digits) scale.le
  rw [← abs_of_pos scale, ← abs_mul, ← abs_mul, abs_of_pos scale, sub_mul, sub_mul, whole] at near
  rwa [nearest_of_pos positive]

theorem nearest_closest_of_pos (positive : 0 < number) (onGrid : OnGrid spec other) :
    |nearest spec number - number| ≤ |other - number| := by
  obtain ⟨digits, exponent, fits, least, rfl⟩ := onGrid
  by_cases wide : spacing spec number ≤ exponent
  · obtain ⟨more, rfl⟩ := Int.le.dest wide
    refine (nearest_closest_of_multiple spec positive (digits * 2 ^ more)).trans_eq ?_
    push_cast
    rw [mul_assoc, ← zpow_natCast (2 : ℚ), ← zpow_add₀ two_ne_zero, add_comm (more : ℤ)]
  · have spaced := spacing_of_pos spec positive
    have length := mantissaBits_eq spec
    have binade : Int.log 2 number = spec.mantissaBitsWithoutImplicit + spacing spec number := by
      omega
    have floor := two_zpow_log_le positive
    have small : (digits : ℚ) * 2 ^ exponent ≤ 2 ^ Int.log 2 number := by
      calc (digits : ℚ) * 2 ^ exponent
          ≤ 2 ^ spec.mantissaBits * 2 ^ exponent := by
            refine mul_le_mul_of_nonneg_right ?_ (two_zpow_pos exponent).le
            exact_mod_cast (le_abs_self digits).trans fits
        _ = 2 ^ ((spec.mantissaBits : ℤ) + exponent) := by
            rw [zpow_add₀ two_ne_zero, zpow_natCast]
        _ ≤ 2 ^ Int.log 2 number := zpow_le_zpow_right₀ one_le_two (by omega)
    have between := nearest_closest_of_multiple spec positive (2 ^ spec.mantissaBitsWithoutImplicit)
    have same : ((2 ^ spec.mantissaBitsWithoutImplicit : ℤ) : ℚ) * 2 ^ spacing spec number =
        2 ^ Int.log 2 number := by
      rw [binade, zpow_add₀ two_ne_zero, zpow_natCast, Int.cast_pow, Int.cast_ofNat]
    rw [same] at between
    refine between.trans ?_
    rw [abs_of_nonpos (by linarith), abs_of_nonpos (by linarith)]
    linarith

theorem nearest_closest (number : ℚ) (onGrid : OnGrid spec other) :
    |nearest spec number - number| ≤ |other - number| := by
  obtain negative | rfl | positive := lt_trichotomy number 0
  · have mirrored := nearest_closest_of_pos (neg_pos.mpr negative) onGrid.neg
    rwa [nearest_neg, ← neg_sub', abs_neg, ← neg_sub', abs_neg] at mirrored
  · rw [nearest_zero, sub_self, abs_zero]
    exact abs_nonneg _
  · exact nearest_closest_of_pos positive onGrid

theorem nearest_of_onGrid (onGrid : OnGrid spec number) : nearest spec number = number := by
  have near := nearest_closest number onGrid
  rwa [sub_self, abs_zero, abs_nonpos_iff, sub_eq_zero] at near

variable (spec) in
theorem nearest_mono : Monotone (nearest spec) := by
  intro first second le
  by_contra! more
  have lower := sq_le_sq.mpr (nearest_closest first (onGrid_nearest spec second))
  have upper := sq_le_sq.mpr (nearest_closest second (onGrid_nearest spec first))
  -- each is on its own side of the middle between what they round to
  have above : nearest spec second + nearest spec first ≤ 2 * first := by nlinarith
  have below : 2 * second ≤ nearest spec second + nearest spec first := by nlinarith
  obtain rfl : first = second := by linarith
  exact more.false

theorem nearest_nonneg (nonneg : 0 ≤ number) : 0 ≤ nearest spec number :=
  nearest_zero.symm.trans_le (nearest_mono spec nonneg)

variable (spec) in
def unit : ℚ := 2 ^ spec.minExponent

variable (spec) in
def Whole (number : ℚ) : Prop := ∃ count : ℤ, number = count * unit spec

variable (spec) in
theorem unit_pos : 0 < unit spec := two_zpow_pos _

theorem OnGrid.whole (onGrid : OnGrid spec number) : Whole spec number := by
  obtain ⟨digits, exponent, -, least, rfl⟩ := onGrid
  obtain ⟨more, rfl⟩ := Int.le.dest least
  refine ⟨digits * 2 ^ more, ?_⟩
  rw [unit, zpow_add₀ two_ne_zero, zpow_natCast]
  push_cast
  ring

theorem Whole.sub (whole : Whole spec number) (otherWhole : Whole spec other) :
    Whole spec (number - other) := by
  obtain ⟨count, rfl⟩ := whole
  obtain ⟨otherCount, rfl⟩ := otherWhole
  exact ⟨count - otherCount, by rw [Int.cast_sub, sub_mul]⟩

theorem Whole.unit_le (whole : Whole spec number) (positive : 0 < number) :
    unit spec ≤ number := by
  obtain ⟨count, rfl⟩ := whole
  have counted : 0 < count := by exact_mod_cast pos_of_mul_pos_left positive (unit_pos spec).le
  have one : (1 : ℚ) ≤ count := by exact_mod_cast counted
  exact le_mul_of_one_le_left (unit_pos spec).le one

theorem Whole.eq_unit_or (whole : Whole spec number) (positive : 0 < number) :
    number = unit spec ∨ 2 * unit spec ≤ number := by
  obtain ⟨count, rfl⟩ := whole
  have counted : 0 < count := by exact_mod_cast pos_of_mul_pos_left positive (unit_pos spec).le
  obtain rfl | more : count = 1 ∨ 2 ≤ count := by omega
  · exact .inl (by rw [Int.cast_one, one_mul])
  · have two : (2 : ℚ) ≤ count := by exact_mod_cast more
    exact .inr (mul_le_mul_of_nonneg_right two (unit_pos spec).le)

variable (spec) in
theorem whole_nearest (number : ℚ) : Whole spec (nearest spec number) :=
  (onGrid_nearest spec number).whole

variable (spec) in
theorem abs_nearest_sub_le (positive : 0 < number) :
    |nearest spec number - number| ≤ 2 ^ spacing spec number / 2 := by
  have scale := two_zpow_pos (spacing spec number)
  have whole := div_mul_cancel₀ number scale.ne'
  have near := mul_le_mul_of_nonneg_right
    (abs_toEven_sub_le (number / 2 ^ spacing spec number)) scale.le
  rw [← abs_of_pos scale, ← abs_mul, abs_of_pos scale, sub_mul, whole] at near
  rw [nearest_of_pos positive]
  linarith

variable (spec) in
theorem half_spacing_le (positive : 0 < number) :
    spacing spec number = spec.minExponent ∨
      2 ^ spacing spec number / 2 ≤ number / 2 ^ spec.mantissaBits := by
  rw [spacing_of_pos spec positive]
  obtain above | below := le_total spec.minExponent (Int.log 2 number + 1 - spec.mantissaBits)
  · right
    rw [max_eq_left above, zpow_sub₀ two_ne_zero, zpow_add₀ two_ne_zero, zpow_one, zpow_natCast,
      div_right_comm, mul_div_cancel_right₀ _ two_ne_zero]
    exact div_le_div_of_nonneg_right (two_zpow_log_le positive) (by positivity)
  · exact .inl (max_eq_right below)

theorem Whole.abs_nearest_sub_le (whole : Whole spec number) (positive : 0 < number) :
    |nearest spec number - number| ≤ number / 2 ^ spec.mantissaBits := by
  obtain least | small := half_spacing_le spec positive
  · obtain ⟨count, rfl⟩ := whole
    have exact : nearest spec (count * unit spec) = count * unit spec := by
      rw [nearest_of_pos positive, least, ← unit, mul_div_cancel_right₀ _ (unit_pos spec).ne',
        toEven_intCast]
    rw [exact, sub_self, abs_zero]
    positivity
  · exact (Rounding.abs_nearest_sub_le spec positive).trans small

theorem unit_le_two_mul_of_nearest_pos (nonneg : 0 ≤ number) (positive : 0 < nearest spec number) :
    unit spec ≤ 2 * number := by
  have near := nearest_closest number (onGrid_zero spec)
  have least := (whole_nearest spec number).unit_le positive
  rw [zero_sub, abs_neg, abs_of_nonneg nonneg] at near
  linarith [(abs_le.mp near).2]

theorem nearest_le_of_two_units (large : 2 * unit spec ≤ nearest spec number)
    (wide : 2 ≤ spec.mantissaBits) : nearest spec number ≤ 4 / 3 * number := by
  have least := unit_pos spec
  have positive : 0 < number := by
    by_contra none
    have below := nearest_mono spec (le_of_not_gt none)
    rw [nearest_zero] at below
    linarith
  have near := (abs_le.mp (abs_nearest_sub_le spec positive)).2
  obtain lowest | small := half_spacing_le spec positive
  · rw [lowest, ← unit] at near
    linarith
  · have digits : (4 : ℚ) ≤ 2 ^ spec.mantissaBits := by
      calc (4 : ℚ) = 2 ^ 2 := by norm_num
        _ ≤ 2 ^ spec.mantissaBits := pow_le_pow_right₀ one_le_two wide
    have part : number / 2 ^ spec.mantissaBits ≤ number / 4 :=
      div_le_div_of_nonneg_left positive.le (by norm_num) digits
    linarith

end Format

end Rounding

end Raster
