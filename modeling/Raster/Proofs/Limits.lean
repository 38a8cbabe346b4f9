import Mathlib.Algebra.Group.Nat.Defs
import Raster.Limits
import Raster.Proofs.Storage

/-!
Limits on decoding. For the sides that image headers can carry, the count of bytes never wraps, so
that the check lets through exactly the images that the limit has room for.
-/

namespace Raster

/-- Sides that a header can carry: at most `2 ^ 31` rows, and fewer columns than that. -/
structure Sides (width height : UInt32) : Prop where
  narrow : width.toNat < 2 ^ 31
  high : height.toNat ≤ 2 ^ 31

theorem Sides.bytes_lt {width height : UInt32} (sides : Sides width height) :
    width.toNat * height.toNat * 4 < 2 ^ 64 := by
  have area : width.toNat * height.toNat ≤ (2 ^ 31 - 1) * 2 ^ 31 :=
    Nat.mul_le_mul (Nat.le_sub_one_of_lt sides.narrow) sides.high
  exact Nat.lt_of_le_of_lt (Nat.mul_le_mul_right 4 area) (by decide)

namespace Limits

variable {limits : Limits} {width height : UInt32}

theorem imageBytes_toNat (sides : Sides width height) :
    (imageBytes width height).toNat = 4 * width.toNat * height.toNat := by
  have bytes := sides.bytes_lt
  rw [imageBytes, UInt64.toNat_mul, UInt64.toNat_mul, UInt32.toNat_toUInt64,
    UInt32.toNat_toUInt64, Nat.mod_eq_of_lt (show width.toNat * height.toNat < 2 ^ 64 by omega)]
  change width.toNat * height.toNat * 4 % 2 ^ 64 = _
  rw [Nat.mod_eq_of_lt bytes, Nat.mul_comm, ← Nat.mul_assoc]

theorem checkDimensions_eq_ok_iff (sides : Sides width height) :
    limits.checkDimensions width height = .ok () ↔
      0 < width.toNat ∧ 0 < height.toNat ∧
        4 * width.toNat * height.toNat ≤ limits.maxDecodeBytes.toNat := by
  have empty : (width = 0 ∨ height = 0) ↔ (width.toNat = 0 ∨ height.toNat = 0) := by
    rw [← UInt32.toNat_inj, ← UInt32.toNat_inj, UInt32.toNat_zero]
  have exceeds : limits.maxDecodeBytes < imageBytes width height ↔
      limits.maxDecodeBytes.toNat < 4 * width.toNat * height.toNat := by
    rw [UInt64.lt_iff_toNat_lt, imageBytes_toNat sides]
  rw [checkDimensions]
  split
  · rename_i none
    have pixelless := empty.mp none
    constructor
    · intro passed
      cases passed
    · omega
  · rename_i some
    have filled := mt empty.mpr some
    split
    · rename_i tooLarge
      have beyond := exceeds.mp tooLarge
      constructor
      · intro passed
        cases passed
      · omega
    · rename_i affordable
      have within := mt exceeds.mpr affordable
      exact ⟨fun _ => by omega, fun _ => rfl⟩

structure Exact (limits : Limits) (width height : UInt32) : Prop where
  product : (imageBytes width height).toNat = 4 * width.toNat * height.toNat
  check : limits.checkDimensions width height = .ok () ↔
    0 < width.toNat ∧ 0 < height.toNat ∧
      4 * width.toNat * height.toNat ≤ limits.maxDecodeBytes.toNat

theorem exact_of_sides (sides : Sides width height) : limits.Exact width height :=
  ⟨imageBytes_toNat sides, checkDimensions_eq_ok_iff sides⟩

/-- A bitmap that decoding within the limits can give: rows stand close together, and there are
pixels, but no more of them than the limit has room for. -/
structure Admits (limits : Limits) (bitmap : Bitmap) : Prop where
  formed : bitmap.WellFormed
  packed : bitmap.stride = bitmap.width
  hasColumns : 0 < bitmap.width.toNat
  hasRows : 0 < bitmap.height.toNat
  affordable : 4 * bitmap.width.toNat * bitmap.height.toNat ≤ limits.maxDecodeBytes.toNat

theorem admits_of_check {bitmap : Bitmap} (formed : bitmap.WellFormed)
    (packed : bitmap.stride = bitmap.width) (sides : Sides bitmap.width bitmap.height)
    (checked : limits.checkDimensions bitmap.width bitmap.height = .ok ()) :
    limits.Admits bitmap := by
  obtain ⟨hasColumns, hasRows, affordable⟩ := (checkDimensions_eq_ok_iff sides).mp checked
  exact ⟨formed, packed, hasColumns, hasRows, affordable⟩

theorem Admits.sameShape {before after : Bitmap} (admitted : limits.Admits before)
    (same : before.SameShape after) : limits.Admits after where
  formed := same.wellFormed admitted.formed
  packed := by rw [same.stride, same.width, admitted.packed]
  hasColumns := by rw [same.width]; exact admitted.hasColumns
  hasRows := by rw [same.height]; exact admitted.hasRows
  affordable := by rw [same.width, same.height]; exact admitted.affordable

end Limits

end Raster
