import Raster.Proofs.Storage

/-!
The padding behind the visible part of each row. Changes of visible pixels leave it as it is, and
a bitmap whose padding is clear is known from its sizes and its visible pixels.
-/

namespace Raster.Bitmap

namespace WellFormed

variable {bitmap : Bitmap}

theorem valid_iff (formed : bitmap.WellFormed) :
    bitmap.valid = true ↔ 0 < bitmap.width ∧ 0 < bitmap.height := by
  simp only [valid, Bool.and_eq_true, decide_eq_true_eq]
  constructor
  · exact And.left
  · intro sides
    refine ⟨sides, ?_⟩
    have slotBound := formed.slot_inside (UInt32.lt_iff_toNat_lt.mp sides.2)
      (UInt32.lt_iff_toNat_lt.mp sides.1)
    have filled : bitmap.pixels ≠ #[] := by
      intro none
      rw [none] at slotBound
      exact Nat.not_lt_zero _ slotBound
    simpa using filled

theorem sides_pos (formed : bitmap.WellFormed) (filled : bitmap.valid = true) :
    0 < bitmap.width.toNat ∧ 0 < bitmap.height.toNat := by
  obtain ⟨hasColumns, hasRows⟩ := formed.valid_iff.mp filled
  exact ⟨UInt32.lt_iff_toNat_lt.mp hasColumns, UInt32.lt_iff_toNat_lt.mp hasRows⟩

theorem valid_congr {other : Bitmap} (formed : bitmap.WellFormed) (otherFormed : other.WellFormed)
    (width : bitmap.width = other.width) (height : bitmap.height = other.height) :
    bitmap.valid = true ↔ other.valid = true := by
  rw [formed.valid_iff, otherFormed.valid_iff, width, height]

end WellFormed

/-- A change of visible pixels alone: sizes and padding stay. -/
structure Repaints (before after : Bitmap) : Prop extends SameShape before after where
  padding : ∀ y x : Nat, before.width.toNat ≤ x → x < before.stride.toNat →
    after.pixels[y * before.stride.toNat + x]? = before.pixels[y * before.stride.toNat + x]?

namespace Repaints

theorem refl (bitmap : Bitmap) : bitmap.Repaints bitmap :=
  ⟨.refl bitmap, fun _ _ _ _ => rfl⟩

theorem trans {first second third : Bitmap} (one : first.Repaints second)
    (two : second.Repaints third) : first.Repaints third := by
  refine ⟨one.toSameShape.trans two.toSameShape, ?_⟩
  intro y x outside reach
  have later := two.padding y x
  rw [one.width, one.stride] at later
  rw [later outside reach, one.padding y x outside reach]

theorem changeRow (bitmap : Bitmap) (change : Nat → Pixel → Pixel) (y : Nat) :
    bitmap.Repaints (bitmap.changeRow change y) := by
  refine ⟨.changeRow .., ?_⟩
  intro row x outside reach
  -- There is padding only where the width stays below the stride.
  have narrow : bitmap.width ≤ bitmap.stride := by
    rw [UInt32.le_iff_toNat_le]
    omega
  rw [getElem?_changeRow _ _ _ _ narrow, slot_mod (Nat.le_refl _) reach, if_neg]
  rintro ⟨-, inside⟩
  omega

theorem changeRows (bitmap : Bitmap) (change : Nat → Nat → Pixel → Pixel) (y count : Nat) :
    bitmap.Repaints (Bitmap.changeRows change y count bitmap) := by
  induction count generalizing y bitmap with
  | zero => exact refl bitmap
  | succ count ih => exact (changeRow bitmap (change y) y).trans (ih _ (y + 1))

theorem mapVisible (bitmap : Bitmap) (change : Nat → Nat → Pixel → Pixel) :
    bitmap.Repaints (bitmap.mapVisible change) :=
  changeRows ..

theorem fill (bitmap : Bitmap) (color : Pixel) : bitmap.Repaints (bitmap.fill color) := by
  rw [Bitmap.fill]
  split
  · exact refl bitmap
  · exact mapVisible ..

theorem setPixel? {bitmap next : Bitmap} {y x : UInt32} {pixel : Pixel}
    (inside : x < bitmap.width) (set : bitmap.setPixel? y x pixel = some next) :
    bitmap.Repaints next := by
  rw [Bitmap.setPixel?] at set
  split at set
  · cases set
    refine ⟨⟨rfl, rfl, rfl, Array.size_setIfInBounds⟩, ?_⟩
    intro row column outside reach
    have visible := UInt32.lt_iff_toNat_lt.mp inside
    have apart : bitmap.slot y x ≠ row * bitmap.stride.toNat + column := by
      intro same
      have column' := congrArg (· % bitmap.stride.toNat) same
      simp only [slot] at column'
      rw [slot_mod (Nat.le_refl _) (by omega), slot_mod (Nat.le_refl _) reach] at column'
      omega
    exact Array.getElem?_setIfInBounds_ne apart
  · cases set

end Repaints

/-- Well-formed, and all padding is still transparent. -/
structure Tidy (bitmap : Bitmap) : Prop extends WellFormed bitmap where
  padding : ∀ y x : Nat, y < bitmap.height.toNat → bitmap.width.toNat ≤ x →
    x < bitmap.stride.toNat →
    bitmap.pixels[y * bitmap.stride.toNat + x]? = some Pixel.transparent

theorem cleared_tidy {width height stride : UInt32} (narrow : width ≤ stride) :
    (cleared width height stride).Tidy := by
  refine ⟨cleared_wellFormed narrow, ?_⟩
  intro y x below outside reach
  have next : (y + 1) * stride.toNat ≤ height.toNat * stride.toNat := Nat.mul_le_mul_right _ below
  have bound : y * stride.toNat + x < stride.toNat * height.toNat := by
    simp only [cleared] at reach
    rw [Nat.add_mul, Nat.mul_comm height.toNat] at next
    omega
  exact (Array.getElem?_replicate).trans (if_pos bound)

theorem tidy_of_packed {bitmap : Bitmap} (formed : bitmap.WellFormed)
    (packed : bitmap.stride = bitmap.width) : bitmap.Tidy := by
  refine ⟨formed, ?_⟩
  intro y x below outside reach
  rw [packed] at reach
  omega

theorem empty_tidy : empty.Tidy :=
  tidy_of_packed ⟨UInt32.le_rfl, rfl⟩ rfl

theorem ofPixels_tidy {width height : UInt32} {pixels : Array Pixel} {bitmap : Bitmap}
    (built : ofPixels width height pixels = .ok bitmap) : bitmap.Tidy := by
  obtain ⟨rfl, formed⟩ := ofPixels_eq_ok built
  exact tidy_of_packed formed rfl

namespace Tidy

variable {bitmap : Bitmap}

theorem repainted {before after : Bitmap} (tidy : before.Tidy) (repaints : before.Repaints after) :
    after.Tidy := by
  refine ⟨repaints.wellFormed tidy.toWellFormed, ?_⟩
  rw [repaints.width, repaints.height, repaints.stride]
  intro y x below outside reach
  rw [repaints.padding y x outside reach, tidy.padding y x below outside reach]

end Tidy

end Raster.Bitmap
