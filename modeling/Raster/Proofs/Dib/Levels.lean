import Mathlib.Algebra.Order.Round
import Mathlib.Data.Rat.Floor
import Mathlib.Tactic.FieldSimp
import Raster.Proofs.Dib.Mask

/-!
Levels of masked fields: the number that a mask makes of a pixel is the field of its run of bits on
the scale of 255, rounded to the nearest.
-/

namespace Raster.Dib

theorem round_natCast_div (number : ℕ) {divisor : ℕ} (positive : 0 < divisor) :
    round ((number : ℚ) / divisor) = ((number + divisor / 2) / divisor : ℕ) := by
  have nonzero : (divisor : ℚ) ≠ 0 := Nat.cast_ne_zero.mpr (Nat.ne_of_gt positive)
  have doubled : (number : ℚ) / divisor + 1 / 2 =
      (2 * number + divisor : ℕ) / (2 * divisor : ℕ) := by
    push_cast
    field_simp
  have halved : (2 * number + divisor) / 2 = number + divisor / 2 := by omega
  calc round ((number : ℚ) / divisor)
      = ⌊((2 * number + divisor : ℕ) : ℚ) / (2 * divisor : ℕ)⌋ := by rw [round_eq, doubled]
    _ = ((2 * number + divisor) / (2 * divisor) : ℕ) := by
        rw [Rat.floor_natCast_div_natCast, Int.natCast_ediv]
    _ = ((number + divisor / 2) / divisor : ℕ) := by rw [← Nat.div_div_eq_div_mul, halved]

namespace BitRun

/-- A mask makes the levels of a run: it takes each pixel to the field that the run cuts out, on the
scale of 255 and rounded to the nearest (a half up), and heeds nothing else of the pixel. -/
structure LeveledBy (run : BitRun) (mask : Mask) : Prop where
  nearest : ∀ value : UInt32, ((mask.extract value).toNat : ℤ) =
    round ((run.field value.toNat * 255 : ℚ) / (2 ^ run.count - 1))
  clear : ∀ value : UInt32, run.field value.toNat = 0 → mask.extract value = 0
  full : ∀ value : UInt32, run.field value.toNat = 2 ^ run.count - 1 → mask.extract value = 255
  mono : ∀ value other : UInt32, run.field value.toNat ≤ run.field other.toNat →
    mask.extract value ≤ mask.extract other
  confined : ∀ value other : UInt32, value.toNat &&& run.word = other.toNat &&& run.word →
    mask.extract value = mask.extract other
  fits : ∀ value : UInt32, mask.scaled value ≤ 255

variable (run : BitRun)

theorem level_eq_round (value : Nat) :
    (run.level value : ℤ) = round ((run.field value * 255 : ℚ) / (2 ^ run.count - 1)) := by
  have divisor : (2 ^ run.count - 1 : ℚ) = run.largest := by
    rw [largest, Nat.cast_sub Nat.one_le_two_pow]
    norm_cast
  have number : (run.field value * 255 : ℚ) = (run.field value * 255 : ℕ) := by norm_cast
  rw [divisor, number, round_natCast_div _ run.largest_pos, level_eq]

variable {run}

theorem level_clear {value : Nat} (clear : run.field value = 0) : run.level value = 0 := by
  rw [level_eq, clear, Nat.zero_mul, Nat.zero_add, Nat.div_eq_of_lt run.half_lt]

theorem level_full {value : Nat} (full : run.field value = run.largest) :
    run.level value = 255 := by
  rw [level_eq, full, Nat.mul_add_div run.largest_pos, Nat.div_eq_of_lt run.half_lt,
    Nat.add_zero]

theorem level_mono {value other : Nat} (ordered : run.field value ≤ run.field other) :
    run.level value ≤ run.level other :=
  Nat.div_le_div_right (Nat.add_le_add_right (Nat.mul_le_mul_right _ ordered) _)

theorem level_confined {value other : Nat}
    (same : value &&& run.word = other &&& run.word) : run.level value = run.level other := by
  rw [level_eq, level_eq, ← and_word_shiftRight, ← and_word_shiftRight, same]

theorem leveledBy_mask : run.LeveledBy run.mask where
  nearest value := by rw [extract_toNat, level_eq_round]
  clear value clear := by
    rw [← UInt8.toNat_inj, extract_toNat, level_clear clear]
    rfl
  full value full := by
    rw [← UInt8.toNat_inj, extract_toNat, level_full full]
    rfl
  mono value other ordered := by
    rw [UInt8.le_iff_toNat_le, extract_toNat, extract_toNat]
    exact level_mono ordered
  confined value other same := by
    rw [← UInt8.toNat_inj, extract_toNat, extract_toNat, level_confined same]
  fits value := by
    rw [UInt64.le_iff_toNat_le, scaled_toNat]
    exact run.level_le _

end BitRun

/-- Words make masks just if they are runs of bits, and such a mask makes the levels of its run. -/
theorem mask_levels_exact (word : UInt32) :
    ((Mask.ofWord? word).isSome = true ↔ ∃ run : BitRun, run.word = word.toNat) ∧
    ∀ run : BitRun, run.word = word.toNat →
      ∃ mask, Mask.ofWord? word = some mask ∧ run.LeveledBy mask := by
  have made : ∀ run : BitRun, run.word = word.toNat → Mask.ofWord? word = some run.mask := by
    intro run same
    rw [← run.ofWord?_word, same, UInt32.ofNat_toNat]
  refine ⟨⟨?_, ?_⟩, ?_⟩
  · intro accepted
    obtain ⟨mask, found⟩ := Option.isSome_iff_exists.mp accepted
    obtain ⟨run, same, -⟩ := Mask.ofWord?_eq_some found
    exact ⟨run, same⟩
  · rintro ⟨run, same⟩
    rw [made run same]
    rfl
  · intro run same
    exact ⟨run.mask, made run same, run.leveledBy_mask⟩

namespace BitRun

def middleTen : BitRun := ⟨10, 10, by decide, by decide⟩

def entire : BitRun := ⟨32, 0, by decide, by decide⟩

end BitRun

theorem mask_levels_exact_samples :
    (BitRun.middleTen.word = (0xffc00 : UInt32).toNat ∧
      ∃ mask, Mask.ofWord? 0xffc00 = some mask ∧ BitRun.middleTen.LeveledBy mask ∧
        mask.extract 0x3ff80000 = 128) ∧
    (BitRun.entire.word = (0xffffffff : UInt32).toNat ∧
      ∃ mask, Mask.ofWord? 0xffffffff = some mask ∧ BitRun.entire.LeveledBy mask ∧
        mask.extract 0xffffffff = 255) ∧
    ¬∃ run : BitRun, run.word = (0xf00f00 : UInt32).toNat := by
  have middle : BitRun.middleTen.word = (0xffc00 : UInt32).toNat := by decide
  have all : BitRun.entire.word = (0xffffffff : UInt32).toNat := by decide
  obtain ⟨ten, made, leveled⟩ := (mask_levels_exact 0xffc00).2 BitRun.middleTen middle
  obtain ⟨full, found, spread⟩ := (mask_levels_exact 0xffffffff).2 BitRun.entire all
  have level : (ten.extract 0x3ff80000).toNat = 128 := by
    have nearest := leveled.nearest 0x3ff80000
    have field : BitRun.middleTen.field (0x3ff80000 : UInt32).toNat = 512 := by decide
    have rounded : round (((512 : ℕ) * 255 : ℚ) / (2 ^ 10 - 1)) = 128 := by
      rw [round_eq_iff]
      norm_num
    rw [field, show BitRun.middleTen.count = 10 from rfl, rounded] at nearest
    exact Int.ofNat_inj.mp nearest
  refine ⟨⟨middle, ten, made, leveled, UInt8.toNat_inj.mp level⟩,
    ⟨all, full, found, spread, spread.full _ (by decide)⟩, fun scattered => ?_⟩
  cases (mask_levels_exact 0xf00f00).1.mpr scattered

end Raster.Dib
