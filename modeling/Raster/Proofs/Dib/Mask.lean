import Raster.Dib.Mask
import Raster.Proofs.Dib.Format

/-!
Masks of adjacent bits: the word of a run of bits is taken apart into that run again, and cuts its
level out of every pixel. No other words make masks.
-/

namespace Raster.Dib

namespace BitRun

variable (run : BitRun)

def largest : Nat := 2 ^ run.count - 1

theorem word_eq : run.word = run.largest * 2 ^ run.below := rfl

theorem count_le : run.count ≤ 32 := by
  have fits := run.fits
  omega

theorem below_lt : run.below < 32 := by
  have isSome := run.isSome
  have fits := run.fits
  omega

theorem largest_pos : 0 < run.largest := by
  have power : 2 ^ 1 ≤ 2 ^ run.count := Nat.pow_le_pow_right (by decide) run.isSome
  rw [largest]
  omega

theorem largest_lt : run.largest < 2 ^ 32 := by
  have power : 2 ^ run.count ≤ 2 ^ 32 := Nat.pow_le_pow_right (by decide) run.count_le
  have positive := Nat.two_pow_pos run.count
  rw [largest]
  omega

theorem word_lt : run.word < 2 ^ 32 := by
  have power : 2 ^ run.count * 2 ^ run.below ≤ 2 ^ 32 := by
    rw [← Nat.pow_add]
    exact Nat.pow_le_pow_right (by decide) run.fits
  have smaller : run.word < 2 ^ run.count * 2 ^ run.below :=
    Nat.mul_lt_mul_of_pos_right (Nat.sub_lt (Nat.two_pow_pos _) (by decide))
      (Nat.two_pow_pos _)
  omega

theorem fits_of_word_lt {count below : Nat} (isSome : 0 < count)
    (small : (2 ^ count - 1) * 2 ^ below < 2 ^ 32) : count + below ≤ 32 := by
  apply Nat.le_of_not_lt
  intro long
  have half : 2 ^ (count - 1) ≤ 2 ^ count - 1 := by
    have double := Nat.two_pow_pred_mul_two isSome
    have positive := Nat.two_pow_pos (count - 1)
    omega
  have large : 2 ^ 32 ≤ (2 ^ count - 1) * 2 ^ below :=
    calc 2 ^ 32 ≤ 2 ^ (count - 1 + below) := Nat.pow_le_pow_right (by decide) (by omega)
      _ = 2 ^ (count - 1) * 2 ^ below := Nat.pow_add ..
      _ ≤ (2 ^ count - 1) * 2 ^ below := Nat.mul_le_mul_right _ half
  omega

theorem word_pos : 0 < run.word := Nat.mul_pos run.largest_pos (Nat.two_pow_pos _)

theorem word_testBit (index : Nat) :
    run.word.testBit index = decide (run.below ≤ index ∧ index < run.below + run.count) := by
  rw [word_eq, largest, Nat.testBit_mul_two_pow, Nat.testBit_two_pow_sub_one, ← Bool.decide_and,
    decide_eq_decide]
  omega

theorem word_shiftRight : run.word >>> run.below = run.largest := by
  rw [Nat.shiftRight_eq_div_pow, word_eq, Nat.mul_div_cancel _ (Nat.two_pow_pos _)]

theorem lowestBit_word : Mask.lowestBit (UInt32.ofNat run.word) = run.below := by
  have within := run.below_lt
  have isSome := run.isSome
  rw [Mask.lowestBit, UInt32.toNat_ofNat_of_lt' run.word_lt,
    List.findIdx_eq (by simpa using within)]
  simp only [List.getElem_range, word_testBit]
  constructor
  · simp only [decide_eq_true_eq]
    omega
  · intro index earlier
    simp only [decide_eq_false_iff_not]
    omega

def mask : Mask := ⟨UInt32.ofNat run.word, UInt32.ofNat run.below, UInt32.ofNat run.largest⟩

theorem below_toNat : (UInt32.ofNat run.below).toNat % 32 = run.below := by
  have within := run.below_lt
  rw [UInt32.toNat_ofNat_of_lt' (show run.below < 2 ^ 32 by omega), Nat.mod_eq_of_lt within]

theorem largest_toNat : run.mask.largest.toNat = run.largest :=
  UInt32.toNat_ofNat_of_lt' run.largest_lt

theorem largest_and_next : run.mask.largest &&& (run.mask.largest + 1) = 0 := by
  have next : run.largest + 1 = 2 ^ run.count := Nat.sub_add_cancel (Nat.two_pow_pos _)
  have power : 2 ^ run.count ≤ 2 ^ 32 := Nat.pow_le_pow_right (by decide) run.count_le
  rw [← UInt32.toNat_inj, UInt32.toNat_and, UInt32.toNat_add, largest_toNat]
  change run.largest &&& (run.largest + 1) % 2 ^ 32 = 0
  rw [next]
  rcases Nat.lt_or_eq_of_le power with small | full
  · rw [Nat.mod_eq_of_lt small, largest, Nat.and_comm, Nat.and_two_pow_sub_one_eq_mod,
      Nat.mod_self]
  · rw [full, Nat.mod_self, Nat.and_zero]

theorem ofWord?_word : Mask.ofWord? (UInt32.ofNat run.word) = some run.mask := by
  have some : UInt32.ofNat run.word ≠ 0 := by
    rw [ne_eq, ← UInt32.toNat_inj, UInt32.toNat_ofNat_of_lt' run.word_lt]
    exact Nat.ne_of_gt run.word_pos
  have shifted : UInt32.ofNat run.word >>> UInt32.ofNat run.below = UInt32.ofNat run.largest := by
    rw [← UInt32.toNat_inj, UInt32.toNat_shiftRight, below_toNat,
      UInt32.toNat_ofNat_of_lt' run.word_lt, UInt32.toNat_ofNat_of_lt' run.largest_lt,
      word_shiftRight]
  rw [Mask.ofWord?, if_neg some, lowestBit_word]
  simp only [shifted]
  exact if_pos run.largest_and_next

theorem field_lt (value : Nat) : run.field value ≤ run.largest :=
  Nat.le_sub_one_of_lt (Nat.mod_lt _ (Nat.two_pow_pos _))

theorem and_word_shiftRight (value : Nat) :
    (value &&& run.word) >>> run.below = run.field value := by
  rw [Nat.shiftRight_and_distrib, word_shiftRight, largest, Nat.and_two_pow_sub_one_eq_mod,
    Nat.shiftRight_eq_div_pow, field]

theorem field_toNat (value : UInt32) :
    (run.mask.field value).toNat = run.field value.toNat := by
  change ((value &&& UInt32.ofNat run.word) >>> UInt32.ofNat run.below).toNat = _
  rw [UInt32.toNat_shiftRight, UInt32.toNat_and, below_toNat,
    UInt32.toNat_ofNat_of_lt' run.word_lt, and_word_shiftRight]

theorem half_lt : run.largest / 2 < run.largest := Nat.div_lt_self run.largest_pos (by decide)

theorem level_eq (value : Nat) :
    run.level value = (run.field value * 255 + run.largest / 2) / run.largest := rfl

theorem level_le (value : Nat) : run.level value ≤ 255 := by
  have bound := Nat.mul_le_mul_right 255 (run.field_lt value)
  have half := run.half_lt
  rw [level_eq, ← Nat.lt_succ_iff, Nat.div_lt_iff_lt_mul run.largest_pos, Nat.succ_mul,
    Nat.mul_comm 255]
  omega

theorem scaled_toNat (value : UInt32) : (run.mask.scaled value).toNat = run.level value.toNat := by
  have bound := run.field_lt value.toNat
  have top := run.largest_lt
  have numerator : (run.field value.toNat * 255 + run.largest / 2) < 2 ^ 64 := by omega
  simp only [Mask.scaled, UInt64.toNat_div, UInt64.toNat_add, UInt64.toNat_mul,
    UInt32.toNat_toUInt64, field_toNat, largest_toNat]
  change (run.field value.toNat * 255 % 2 ^ 64 + run.largest / 2) % 2 ^ 64 / run.largest = _
  rw [Nat.mod_eq_of_lt (Nat.lt_of_le_of_lt (Nat.le_add_right _ _) numerator),
    Nat.mod_eq_of_lt numerator]
  rfl

theorem extract_toNat (value : UInt32) :
    (run.mask.extract value).toNat = run.level value.toNat := by
  have bound := run.level_le value.toNat
  rw [Mask.extract, UInt64.toNat_toUInt8, scaled_toNat]
  omega

end BitRun

namespace Mask

theorem exists_two_pow {number : Nat} (ones : number &&& (number + 1) = 0) :
    ∃ count, number + 1 = 2 ^ count := by
  induction number using Nat.strongRecOn with
  | ind number ih =>
      have halved := congrArg (· / 2) ones
      simp only [Nat.and_div_two, Nat.zero_div] at halved
      rcases Nat.mod_two_eq_zero_or_one number with even | odd
      · rw [show (number + 1) / 2 = number / 2 by omega, Nat.and_self] at halved
        exact ⟨0, by omega⟩
      · rw [show (number + 1) / 2 = number / 2 + 1 by omega] at halved
        obtain ⟨count, power⟩ := ih (number / 2) (by omega) halved
        refine ⟨count + 1, ?_⟩
        rw [Nat.pow_succ, ← power]
        omega

theorem next_eq_two_pow {largest : UInt32} (ones : largest &&& (largest + 1) = 0) :
    ∃ count, largest.toNat + 1 = 2 ^ count := by
  rcases Nat.lt_or_eq_of_le (Nat.succ_le_of_lt largest.toNat_lt) with small | full
  · rw [← UInt32.toNat_inj, UInt32.toNat_and, UInt32.toNat_add] at ones
    change largest.toNat &&& (largest.toNat + 1) % 2 ^ 32 = 0 at ones
    rw [Nat.mod_eq_of_lt small] at ones
    exact exists_two_pow ones
  · exact ⟨32, full⟩

section Word

variable {word : UInt32}

theorem lowestBit_lt (filled : word ≠ 0) : lowestBit word < 32 := by
  obtain ⟨index, set⟩ := Nat.exists_testBit_of_ne_zero fun none =>
    filled (UInt32.toNat_inj.mp none)
  have below : index < 32 := by
    apply Nat.lt_of_not_le
    intro beyond
    have small : word.toNat < 2 ^ index :=
      Nat.lt_of_lt_of_le word.toNat_lt (Nat.pow_le_pow_right (by decide) beyond)
    rw [Nat.testBit_lt_two_pow small] at set
    cases set
  have found := List.findIdx_lt_length_of_exists (p := fun index => word.toNat.testBit index)
    ⟨index, List.mem_range.mpr below, set⟩
  simpa [lowestBit] using found

theorem two_pow_lowestBit_dvd (word : UInt32) : 2 ^ lowestBit word ∣ word.toNat := by
  apply Nat.dvd_of_mod_eq_zero
  apply Nat.eq_of_testBit_eq
  intro index
  rw [Nat.testBit_mod_two_pow, Nat.zero_testBit]
  by_cases below : index < lowestBit word
  · have clear := List.not_of_lt_findIdx below
    rw [List.getElem_range] at clear
    rw [clear, Bool.and_false]
  · rw [decide_eq_false below, Bool.false_and]

theorem lowestBit_toNat (filled : word ≠ 0) :
    (UInt32.ofNat (lowestBit word)).toNat = lowestBit word := by
  have within := lowestBit_lt filled
  exact UInt32.toNat_ofNat_of_lt' (show lowestBit word < 2 ^ 32 by omega)

theorem exists_run (filled : word ≠ 0) {largest : UInt32}
    (shifted : word >>> UInt32.ofNat (lowestBit word) = largest)
    (ones : largest &&& (largest + 1) = 0) :
    ∃ run : BitRun, run.word = word.toNat ∧
      run.mask = ⟨word, UInt32.ofNat (lowestBit word), largest⟩ := by
  obtain ⟨number, whole⟩ := two_pow_lowestBit_dvd word
  have value : largest.toNat = number := by
    rw [← shifted, UInt32.toNat_shiftRight, lowestBit_toNat filled,
      Nat.mod_eq_of_lt (lowestBit_lt filled), Nat.shiftRight_eq_div_pow, whole,
      Nat.mul_div_cancel_left _ (Nat.two_pow_pos _)]
  obtain ⟨count, power⟩ := next_eq_two_pow ones
  have most : 2 ^ count - 1 = largest.toNat := by omega
  have same : (2 ^ count - 1) * 2 ^ lowestBit word = word.toNat := by
    rw [whole, most, value, Nat.mul_comm]
  have isSome : 0 < count := by
    apply Nat.pos_of_ne_zero
    rintro rfl
    exact filled (UInt32.toNat_inj.mp (same.symm.trans (Nat.zero_mul _)))
  have fits : count + lowestBit word ≤ 32 :=
    BitRun.fits_of_word_lt isSome (by rw [same]; exact word.toNat_lt)
  let run : BitRun := ⟨count, lowestBit word, isSome, fits⟩
  refine ⟨run, same, ?_⟩
  rw [BitRun.mask, show run.word = word.toNat from same, BitRun.largest, most, UInt32.ofNat_toNat,
    UInt32.ofNat_toNat]

theorem ofWord?_eq_some {mask : Mask} (made : ofWord? word = some mask) :
    ∃ run : BitRun, run.word = word.toNat ∧ run.mask = mask := by
  rw [ofWord?] at made
  split at made
  · cases made
  · rename_i filled
    simp only at made
    split at made
    · rename_i ones
      cases made
      exact exists_run filled rfl ones
    · cases made

end Word

end Mask

end Raster.Dib
