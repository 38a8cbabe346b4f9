import Raster.Png.Image
import Raster.Proofs.Channels
import Raster.Proofs.Decoders
import Raster.Proofs.Limits
import Raster.Proofs.Opacity

/-!
What a PNG image is like once it is loaded as a whole: it has the size that the decoder announced
and has passed the check of the limits, and it is judged solid exactly if it is.
-/

namespace Raster.Png

theorem Rgba.alpha_toPixel (rgba : Rgba) : rgba.toPixel.alpha = rgba.alpha :=
  Pixel.alpha_ofChannels ..

theorem readBitmap_fst (decoder : Decoder) (limits : Limits) (stream : Stream) :
    (readBitmap decoder limits stream).1 =
      (decoder.image limits.maxDecodeBytes stream).1.elim (.error (.refused (.during .pngDecoding)))
        fun image => image.toBitmap limits := by
  rw [readBitmap]
  cases decoder.image limits.maxDecodeBytes stream with
  | mk found rest => cases found <;> rfl

namespace Image

variable {image : Image} {limits : Limits} {bitmap : Bitmap} {transparency : Transparency}

theorem common_eq_full : image.toPixels.2 = 0xff ↔
    ∀ pixel ∈ image.toPixels.1, pixel.alpha = 0xff := by
  have each (common : UInt8) (rgba : Rgba) :
      common &&& rgba.alpha = 0xff ↔ common = 0xff ∧ rgba.alpha = 0xff :=
    UInt8.and_eq_neg_one_iff
  simp only [toPixels, Array.mem_map, forall_exists_index, and_imp, forall_apply_eq_imp_iff₂,
    Rgba.alpha_toPixel]
  rw [← Array.foldl_toList, Transparency.foldl_eq_full each]
  simp only [true_and, Array.mem_toList_iff]

theorem toBitmap_eq_ok (made : image.toBitmap limits = .ok (bitmap, transparency)) :
    limits.checkDimensions image.width image.height = .ok () ∧
      bitmap = ⟨image.width, image.height, image.width, image.toPixels.1⟩ ∧
      bitmap.WellFormed ∧ (transparency = .solid ↔ bitmap.Solid) := by
  obtain ⟨⟨⟩, passed, made⟩ := bind_eq_ok made
  obtain ⟨built, wrapped, made⟩ := bind_eq_ok made
  cases made
  obtain ⟨rfl, formed⟩ := Bitmap.ofPixels_eq_ok wrapped
  refine ⟨passed, rfl, formed, ?_⟩
  rw [Transparency.ofCommonAlpha_eq_solid, Bitmap.solid_iff_of_packed formed rfl]
  exact common_eq_full

end Image

variable {decoder : Decoder} {limits : Limits} {stream : Stream} {bitmap : Bitmap}
  {transparency : Transparency}

theorem readBitmap_eq_ok
    (read : (readBitmap decoder limits stream).1 = .ok (bitmap, transparency)) :
    ∃ image, (decoder.image limits.maxDecodeBytes stream).1 = some image ∧
      image.toBitmap limits = .ok (bitmap, transparency) := by
  rw [readBitmap_fst] at read
  cases found : (decoder.image limits.maxDecodeBytes stream).1 with
  | none =>
      rw [found] at read
      cases read
  | some image =>
      rw [found] at read
      exact ⟨image, rfl, read⟩

theorem readBitmap_admitted (bounded : decoder.Bounded)
    (read : (readBitmap decoder limits stream).1 = .ok (bitmap, transparency)) :
    limits.Admits bitmap := by
  obtain ⟨image, found, made⟩ := readBitmap_eq_ok read
  obtain ⟨passed, rfl, formed, -⟩ := Image.toBitmap_eq_ok made
  obtain ⟨narrow, low⟩ := bounded _ _ _ found
  exact Limits.admits_of_check formed rfl ⟨narrow, Nat.le_of_lt low⟩ passed

theorem readBitmap_judged
    (read : (readBitmap decoder limits stream).1 = .ok (bitmap, transparency)) :
    transparency = .solid ↔ bitmap.Solid := by
  obtain ⟨image, -, made⟩ := readBitmap_eq_ok read
  obtain ⟨-, -, -, judged⟩ := Image.toBitmap_eq_ok made
  exact judged

end Raster.Png
