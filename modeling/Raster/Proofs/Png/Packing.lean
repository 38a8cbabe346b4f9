import Raster.Png.Overlay
import Raster.Proofs.Png.Picture

/-!
Unpacking restores the samples of a packed row, gray ones on the scale of 255.
-/

namespace Raster.Png

def unpackedLevel (colour : ColourType) (depth value : Nat) : Nat :=
  if colour = .palette then value else value * 255 / (2 ^ depth - 1)

namespace Packed

variable {depth count : Nat} {value : Nat → Nat} {row : Array UInt8}

theorem sample_eq (packed : Packed depth count value row)
    (legal : depth = 1 ∨ depth = 2 ∨ depth = 4 ∨ depth = 8) {index : Nat} (inside : index < count)
    (small : value index < 2 ^ depth) :
    index * depth / 8 < row.size ∧
      value index = (row.getD (index * depth / 8) 0).toNat /
        2 ^ (8 - depth - index * depth % 8) % 2 ^ depth := by
  have room := packed.room
  have next : (index + 1) * depth ≤ count * depth := Nat.mul_le_mul_right _ inside
  rw [Nat.add_mul] at next
  have aligned : index * depth % 8 + depth ≤ 8 := by
    rcases legal with rfl | rfl | rfl | rfl <;> omega
  have positive : 0 < depth := by omega
  refine ⟨by omega, ?_⟩
  apply Nat.eq_of_testBit_eq
  intro bit
  rw [Nat.testBit_mod_two_pow, Nat.testBit_div_two_pow]
  by_cases low : bit < depth
  · have stored := packed.bits index (depth - 1 - bit) inside (by omega)
    have byte : (index * depth + (depth - 1 - bit)) / 8 = index * depth / 8 := by omega
    have place : 7 - (index * depth + (depth - 1 - bit)) % 8 =
        8 - depth - index * depth % 8 + bit := by omega
    have same : depth - 1 - (depth - 1 - bit) = bit := by omega
    rw [rowBit, byte, place, same] at stored
    simp only [low, decide_true, Bool.true_and]
    rw [← stored, Nat.add_comm]
  · have power : 2 ^ depth ≤ 2 ^ bit := Nat.pow_le_pow_right (by decide) (Nat.not_lt.mp low)
    rw [Nat.testBit_lt_two_pow (Nat.lt_of_lt_of_le small power)]
    simp [low]

theorem packedSample?_eq (packed : Packed depth count value row)
    (legal : depth = 1 ∨ depth = 2 ∨ depth = 4) {index : Nat} (inside : index < count)
    (small : value index < 2 ^ depth) :
    packedSample? row depth index = some (UInt8.ofNat (value index)) := by
  obtain ⟨bound, cut⟩ := packed.sample_eq (by omega) inside small
  have byte : row[index * depth / 8]? = some (row.getD (index * depth / 8) 0) := by
    simp [Array.getD, bound]
  rw [packedSample?, byte]
  simp only [Option.some.injEq]
  rw [← UInt8.toNat_inj, UInt8.toNat_and, UInt8.toNat_shiftRight, Nat.shiftRight_eq_div_pow]
  have shift : (UInt8.ofNat (8 - depth - index * depth % 8)).toNat % 8 =
      8 - depth - index * depth % 8 := by
    rw [UInt8.toNat_ofNat_of_lt' (show _ < 2 ^ 8 by omega)]
    exact Nat.mod_eq_of_lt (by omega)
  have mask : (UInt8.ofNat (1 <<< depth) - 1).toNat = 2 ^ depth - 1 := by
    rcases legal with rfl | rfl | rfl <;> rfl
  have fits : value index < 2 ^ 8 := by
    have power : 2 ^ depth ≤ 2 ^ 8 := Nat.pow_le_pow_right (by decide) (by omega)
    exact Nat.lt_of_lt_of_le small power
  rw [shift, mask, Nat.and_two_pow_sub_one_eq_mod, ← cut, UInt8.toNat_ofNat_of_lt' fits]

end Packed

theorem expandSample_eq {depth value : Nat} (legal : depth = 1 ∨ depth = 2 ∨ depth = 4)
    (small : value < 2 ^ depth) :
    expandSample (UInt8.ofNat value) depth = UInt8.ofNat (value * 255 / (2 ^ depth - 1)) := by
  have every : ∀ depth ∈ [1, 2, 4], ∀ value < 2 ^ depth,
      expandSample (UInt8.ofNat value) depth = UInt8.ofNat (value * 255 / (2 ^ depth - 1)) := by
    decide
  exact every depth (by simpa using legal) value small

theorem unpackFrom_toList {row : Array UInt8} {depth : Nat} {colour : ColourType}
    {value : Nat → Nat} (legal : depth = 1 ∨ depth = 2 ∨ depth = 4) :
    ∀ (count index : Nat) (samples : Array UInt8),
      (∀ place, index ≤ place → place < index + count → value place < 2 ^ depth ∧
        packedSample? row depth place = some (UInt8.ofNat (value place))) →
      (unpackFrom row depth colour index count samples).toList =
        samples.toList ++ (List.range' index count).map fun place =>
          UInt8.ofNat (unpackedLevel colour depth (value place)) := by
  intro count
  induction count with
  | zero =>
      intro index samples _
      simp [unpackFrom]
  | succ count ih =>
      intro index samples packed
      obtain ⟨small, first⟩ := packed index (Nat.le_refl _) (by omega)
      have level : (if colour = .palette then UInt8.ofNat (value index)
          else expandSample (UInt8.ofNat (value index)) depth) =
          UInt8.ofNat (unpackedLevel colour depth (value index)) := by
        rw [unpackedLevel, expandSample_eq legal small]
        split <;> rfl
      rw [unpackFrom, first]
      dsimp only
      rw [level, ih (index + 1) _ fun place lower upper => packed place (by omega) (by omega)]
      simp [List.range'_succ]

theorem unpackRow_toList (colour : ColourType) {depth count : Nat} {value : Nat → Nat}
    {row : Array UInt8} (packed : Packed depth count value row)
    (legal : depth = 1 ∨ depth = 2 ∨ depth = 4 ∨ depth = 8)
    (small : ∀ index, value index < 2 ^ depth) :
    (unpackRow row count depth colour).toList =
      (List.range count).map fun index =>
        UInt8.ofNat (unpackedLevel colour depth (value index)) := by
  by_cases whole : depth = 8
  · subst whole
    have room := packed.room
    rw [unpackRow, if_pos rfl]
    apply List.ext_getElem
    · simp only [Array.length_toList, Array.size_extract, List.length_map, List.length_range]
      omega
    · intro index bound inRange
      have inside : index < count := by simpa using inRange
      obtain ⟨byte, cut⟩ := packed.sample_eq legal inside (small index)
      have level : unpackedLevel colour 8 (value index) = value index := by
        rw [unpackedLevel]
        split
        · rfl
        · exact Nat.mul_div_cancel _ (by decide)
      have exact : value index = (row.getD index 0).toNat := by
        have fits := (row.getD index 0).toNat_lt
        simp only [Nat.mul_div_cancel index (show 0 < 8 by decide), Nat.mul_mod_left,
          Nat.sub_self, Nat.pow_zero, Nat.div_one] at cut
        omega
      have within : index < row.size := by omega
      rw [List.getElem_map, List.getElem_range, level, exact]
      simp [Array.getD, within]
  · have shallow : depth = 1 ∨ depth = 2 ∨ depth = 4 := by omega
    rw [unpackRow, if_neg whole, unpackFrom_toList shallow count 0 #[], List.range_eq_range']
    · rfl
    · intro index _ upper
      exact ⟨small index, packed.packedSample?_eq shallow (by omega) (small index)⟩

end Raster.Png
