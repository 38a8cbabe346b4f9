import Raster.Proofs.Rounding.Nearest

/-!
How a floating-point format stores numbers. Packing one that has the form the format gives its
digits and exponents, and unpacking it again, gives it back.
-/

namespace Raster

namespace Rounding

open Float.Model Float.Model.UnpackedFloat

/-- Digits and exponent as a format stores them: the digits fit, and only the lowest exponent comes
with fewer than all of them. -/
structure Stored (spec : Format) (digits : Nat) (exponent : Int) : Prop where
  fits : digits < 2 ^ spec.mantissaBits
  lowest : spec.minExponent ≤ exponent
  full : 2 ^ spec.mantissaBitsWithoutImplicit ≤ digits ∨ exponent = spec.minExponent

section Packing

variable {spec : Format} {sign : Sign} {digits : Nat} {exponent : Int}

theorem exponentBias_eq (spec : Format) : (spec.exponentBias : Int) =
    2 ^ (spec.exponentBits - 1) - 1 := by
  rw [Format.exponentBias, Nat.cast_sub Nat.one_le_two_pow]
  push_cast
  rfl

theorem minExponent_eq (spec : Format) : spec.minExponent =
    1 - (spec.exponentBias + spec.mantissaBitsWithoutImplicit) := by
  rw [Format.minExponent, exponentBias_eq, mantissaBits_eq]
  push_cast
  omega

theorem stored_of_unpack {bits : BitVec spec.numBits} {positive : 0 < digits}
    (found : UnpackedFloat.unpack spec bits = .finite sign digits exponent positive) :
    Stored spec digits exponent := by
  have fraction := (unpackMantissa bits).isLt
  have least := minExponent_eq spec
  simp only [UnpackedFloat.unpack] at found
  split at found
  · split at found <;> cases found
  · split at found
    · rename_i lowest
      split at found
      · cases found
      · cases found
        rw [lowest]
        refine ⟨fraction.trans_le (Nat.pow_le_pow_right two_pos ?_), ?_, .inr ?_⟩
        · rw [mantissaBits_eq]
          omega
        · rw [BitVec.toNat_zero]
          omega
        · rw [BitVec.toNat_zero]
          omega
    · rename_i higher
      cases found
      have above : (unpackExponent bits).toNat ≠ 0 :=
        fun zero => higher (BitVec.eq_of_toNat_eq (by rw [zero, BitVec.toNat_zero]))
      rw [BitVec.toNat_append, ← Nat.shiftLeft_add_eq_or_of_lt fraction, BitVec.toNat_one one_pos,
        Nat.shiftLeft_eq, one_mul]
      refine ⟨?_, by omega, .inl (Nat.le_add_right _ _)⟩
      rw [mantissaBits_eq, Nat.pow_succ, Nat.mul_two]
      exact Nat.add_lt_add_left fraction _

theorem unpack_normal (positive : 0 < digits) {field : Nat} (fits : digits < 2 ^ spec.mantissaBits)
    (full : 2 ^ spec.mantissaBitsWithoutImplicit ≤ digits) (low : 0 < field)
    (high : field + 1 < 2 ^ spec.exponentBits) :
    UnpackedFloat.unpack spec (packComponents spec sign (BitVec.ofNat spec.exponentBits field)
        (BitVec.ofNat spec.mantissaBitsWithoutImplicit digits)) =
      .finite sign digits (field - (spec.exponentBias + spec.mantissaBitsWithoutImplicit))
        positive := by
  have fieldBits : (BitVec.ofNat spec.exponentBits field).toNat = field := by
    rw [BitVec.toNat_ofNat, Nat.mod_eq_of_lt (by omega)]
  rw [mantissaBits_eq, Nat.pow_succ, Nat.mul_two] at fits
  have fraction : (BitVec.ofNat spec.mantissaBitsWithoutImplicit digits).toNat =
      digits - 2 ^ spec.mantissaBitsWithoutImplicit := by
    rw [BitVec.toNat_ofNat, Nat.mod_eq_sub_mod full, Nat.mod_eq_of_lt (by omega)]
  have notLowest : ¬BitVec.ofNat spec.exponentBits field = 0#(spec.exponentBits) := by
    intro same
    rw [← BitVec.toNat_inj, fieldBits, BitVec.toNat_zero] at same
    omega
  have notSpecial : ¬BitVec.ofNat spec.exponentBits field = -1#(spec.exponentBits) := by
    intro same
    rw [← BitVec.toNat_inj, fieldBits, BitVec.neg_one_eq_allOnes, BitVec.toNat_allOnes] at same
    omega
  simp only [UnpackedFloat.unpack, unpackExponent_packComponents, unpackMantissa_packComponents,
    unpackSign_packComponents, Sign.ofBitVec_toBitVec, if_neg notLowest, if_neg notSpecial]
  congr 1
  · rw [BitVec.toNat_append, ← Nat.shiftLeft_add_eq_or_of_lt (BitVec.isLt _),
      BitVec.toNat_one one_pos, Nat.shiftLeft_eq, one_mul, fraction]
    omega
  · rw [fieldBits]

theorem unpack_subnormal (positive : 0 < digits)
    (few : digits < 2 ^ spec.mantissaBitsWithoutImplicit) :
    UnpackedFloat.unpack spec (packComponents spec sign 0#(spec.exponentBits)
        (BitVec.ofNat spec.mantissaBitsWithoutImplicit digits)) =
      .finite sign digits spec.minExponent positive := by
  have fraction : (BitVec.ofNat spec.mantissaBitsWithoutImplicit digits).toNat = digits := by
    rw [BitVec.toNat_ofNat, Nat.mod_eq_of_lt few]
  have notZero : ¬BitVec.ofNat spec.mantissaBitsWithoutImplicit digits =
      0#(spec.mantissaBitsWithoutImplicit) := by
    intro same
    rw [← BitVec.toNat_inj, fraction, BitVec.toNat_zero] at same
    omega
  have notSpecial : ¬0#(spec.exponentBits) = -1#(spec.exponentBits) := by
    intro same
    have many := Nat.pow_le_pow_right two_pos spec.he
    rw [← BitVec.toNat_inj, BitVec.neg_one_eq_allOnes, BitVec.toNat_allOnes,
      BitVec.toNat_zero] at same
    omega
  simp only [UnpackedFloat.unpack, unpackExponent_packComponents, unpackMantissa_packComponents,
    unpackSign_packComponents, Sign.ofBitVec_toBitVec]
  rw [if_neg notSpecial, if_pos trivial, dif_neg notZero]
  congr 1
  rw [minExponent_eq, BitVec.toNat_zero]
  omega

theorem unpack_pack_of_reach (positive : 0 < digits) (stored : Stored spec digits exponent)
    (reach : exponent + spec.exponentBias + spec.mantissaBitsWithoutImplicit + 1 <
      2 ^ spec.exponentBits) :
    UnpackedFloat.unpack spec (UnpackedFloat.pack spec (.finite sign digits exponent positive)) =
      .finite sign digits exponent positive := by
  obtain ⟨fits, lowest, full⟩ := stored
  have least := minExponent_eq spec
  simp only [UnpackedFloat.pack]
  generalize biased : (exponent + spec.exponentBias + spec.mantissaBitsWithoutImplicit).toNat =
    field
  obtain rfl : exponent = field - (spec.exponentBias + spec.mantissaBitsWithoutImplicit) := by
    omega
  have high : field + 1 < 2 ^ spec.exponentBits := by
    zify
    omega
  rw [if_neg (Nat.not_le.mpr high)]
  split
  · rename_i whole
    have leading := Nat.log2_self_le (Nat.ne_of_gt positive)
    rw [mantissaBits_eq, Nat.add_right_cancel_iff] at whole
    rw [whole] at leading
    exact unpack_normal positive fits leading (by omega) high
  · rename_i part
    have short := (Nat.log2_lt (Nat.ne_of_gt positive)).mpr fits
    rw [mantissaBits_eq] at short part
    have few : digits < 2 ^ spec.mantissaBitsWithoutImplicit :=
      (Nat.log2_lt (Nat.ne_of_gt positive)).mp (by omega)
    rw [unpack_subnormal positive few]
    congr 1
    exact (full.resolve_left (Nat.not_le.mpr few)).symm

theorem unpack_pack (positive : 0 < digits) (stored : Stored spec digits exponent) :
    UnpackedFloat.unpack spec (UnpackedFloat.pack spec (.finite sign digits exponent positive)) =
        .finite sign digits exponent positive ∨
      UnpackedFloat.pack spec (.finite sign digits exponent positive) =
        UnpackedFloat.pack spec (.infinity sign) := by
  by_cases reach : exponent + spec.exponentBias + spec.mantissaBitsWithoutImplicit + 1 <
      2 ^ spec.exponentBits
  · exact .inl (unpack_pack_of_reach positive stored reach)
  · right
    have least := minExponent_eq spec
    have lowest := stored.lowest
    have high : 2 ^ spec.exponentBits ≤
        (exponent + spec.exponentBias + spec.mantissaBitsWithoutImplicit).toNat + 1 := by
      zify
      omega
    simp only [UnpackedFloat.pack]
    rw [if_pos high]

theorem unpack_infinity (sign : Sign) :
    UnpackedFloat.unpack spec (UnpackedFloat.pack spec (.infinity sign)) = .infinity sign := by
  simp only [UnpackedFloat.pack, packedInfinity, UnpackedFloat.unpack,
    unpackExponent_packComponents, unpackMantissa_packComponents, unpackSign_packComponents,
    Sign.ofBitVec_toBitVec, if_true]
  exact if_pos rfl

end Packing

end Rounding

end Raster
