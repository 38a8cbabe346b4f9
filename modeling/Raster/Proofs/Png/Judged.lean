import Raster.Proofs.Channels
import Raster.Proofs.Failure
import Raster.Proofs.Opacity
import Raster.Proofs.Png.Plane

/-!
What a mask tells about the bitmap that it was laid over. The bits that its alphas have in common
are gathered row by row while they are set, so a mask that was laid tells exactly whether the
bitmap has become solid, however many pixels there are.
-/

namespace Raster

namespace Bitmap

theorem solidRow_changeRow_of_ne {bitmap : Bitmap} (formed : bitmap.WellFormed)
    (change : Nat → Pixel → Pixel) {y row : Nat} (apart : row ≠ y) :
    (bitmap.changeRow change y).SolidRow row ↔ bitmap.SolidRow row := by
  apply forall₂_congr
  intro x inside
  rw [changeRow_stride, getElem?_changeRow_place _ _ _ formed.widthBound inside, if_neg apart]

end Bitmap

namespace Png

theorem alphaStop_eq (width row : UInt32) : alphaStop width row = alphaStart width row + width := by
  rw [alphaStop, alphaStart, UInt32.add_mul, UInt32.one_mul]

theorem size_extract_row {plane : Array UInt8} {width row : UInt32}
    (ordered : (alphaStart width row).toNat ≤ (alphaStop width row).toNat)
    (inside : (alphaStop width row).toNat ≤ plane.size) :
    (plane.extract (alphaStart width row).toNat (alphaStop width row).toNat).size =
      width.toNat := by
  have start := (alphaStart width row).toNat_lt
  have wide := width.toNat_lt
  have stop : (alphaStop width row).toNat =
      ((alphaStart width row).toNat + width.toNat) % 2 ^ 32 := by
    rw [alphaStop_eq, UInt32.toNat_add]
  rw [Array.size_extract, Nat.min_eq_left inside]
  -- A stop that has wrapped lies before its start, so one behind it is a width away.
  omega

theorem commonBits_eq_full {alphas : Array UInt8} {width : Nat} {common : UInt8}
    (whole : alphas.size = width) :
    commonBits alphas width common = 0xff ↔ common = 0xff ∧ ∀ alpha ∈ alphas, alpha = 0xff := by
  have each (common alpha : UInt8) : common &&& alpha = 0xff ↔ common = 0xff ∧ alpha = 0xff :=
    UInt8.and_eq_neg_one_iff
  rw [commonBits, ← whole, Array.extract_size, ← Array.foldl_toList,
    Transparency.foldl_eq_full each]
  simp only [Array.mem_toList_iff]

theorem solidRow_setAlphas {bitmap : Bitmap} (formed : bitmap.WellFormed) {alphas : Array UInt8}
    (whole : alphas.size = bitmap.width.toNat) {y : Nat} (below : y < bitmap.height.toNat) :
    (bitmap.changeRow (setAlphas alphas) y).SolidRow y ↔ ∀ alpha ∈ alphas, alpha = 0xff := by
  have shown {x : Nat} (inside : x < bitmap.width.toNat) :
      (bitmap.changeRow (setAlphas alphas) y).pixels[y * bitmap.stride.toNat + x]?.map
        Pixel.alpha = alphas[x]? := by
    have given : alphas[x]? = some alphas[x] := Array.getElem?_eq_getElem (whole ▸ inside)
    rw [Bitmap.getElem?_changeRow_place _ _ _ formed.widthBound inside, if_pos rfl,
      Array.getElem?_eq_getElem (formed.slot_inside below inside), Option.map_some,
      Option.map_some, setAlphas, given]
    exact congrArg some (Pixel.alpha_withAlpha ..)
  constructor
  · intro solid alpha member
    obtain ⟨x, bound, rfl⟩ := Array.mem_iff_getElem.mp member
    have inside : x < bitmap.width.toNat := whole ▸ bound
    have full := solid x inside
    rw [Bitmap.changeRow_stride, shown inside, Array.getElem?_eq_getElem bound] at full
    exact Option.some.inj full
  · intro full x inside
    rw [Bitmap.changeRow_width, ← whole] at inside
    rw [Bitmap.changeRow_stride, shown (whole ▸ inside), Array.getElem?_eq_getElem inside,
      full _ (Array.getElem_mem _)]

/-- What setting the alphas of some rows has led to: sizes and earlier rows are as before, and what
is told is right about those rows. -/
structure Judged (y count : Nat) (common : UInt8) (before after : Bitmap)
    (transparency : Transparency) : Prop where
  shape : before.SameShape after
  earlier : ∀ row, row < y → (after.SolidRow row ↔ before.SolidRow row)
  verdict : transparency = .solid ↔
    common = 0xff ∧ ∀ row, y ≤ row → row < y + count → after.SolidRow row

theorem writeRows_judged {plane : Array UInt8} {y count : Nat} {common : UInt8}
    {bitmap next : Bitmap} {transparency : Transparency} (formed : bitmap.WellFormed)
    (rows : y + count ≤ bitmap.height.toNat)
    (written : writeRows plane y count common bitmap = (.ok transparency, next)) :
    Judged y count common bitmap next transparency := by
  induction count generalizing y common bitmap with
  | zero =>
      cases written
      refine ⟨.refl _, fun _ _ => Iff.rfl, ?_⟩
      rw [Transparency.ofCommonAlpha_eq_solid]
      exact ⟨fun full => ⟨full, fun row first last => absurd first (by omega)⟩, And.left⟩
  | succ count ih =>
      rw [writeRows] at written
      dsimp only at written
      split at written
      · rename_i taken
        split at written
        · have whole := size_extract_row taken.1 taken.2
          have changed := formed.changeRow
            (setAlphas (plane.extract (alphaStart bitmap.width (UInt32.ofNat y)).toNat
              (alphaStop bitmap.width (UInt32.ofNat y)).toNat)) y
          obtain ⟨shape, earlier, verdict⟩ :=
            ih changed (show y + 1 + count ≤ bitmap.height.toNat by omega) written
          -- Later rows leave this one alone, so what it has become can be read off at the end.
          have here := earlier y (Nat.lt_succ_self y)
          rw [solidRow_setAlphas formed whole (by omega)] at here
          refine ⟨(Bitmap.SameShape.changeRow ..).trans shape, ?_, ?_⟩
          · intro row before
            rw [earlier row (by omega), Bitmap.solidRow_changeRow_of_ne formed _ (by omega)]
          · rw [verdict, commonBits_eq_full whole, ← here, and_assoc]
            refine and_congr_right fun _ => ?_
            constructor
            · rintro ⟨first, later⟩ row start stop
              rcases Nat.eq_or_lt_of_le start with rfl | beyond
              · exact first
              · exact later row beyond (by omega)
            · intro all
              exact ⟨all y (Nat.le_refl y) (by omega),
                fun row start stop => all row (by omega) (by omega)⟩
        · cases written
      · cases written

theorem Mask.apply_judged {mask : Mask} {bitmap next : Bitmap} {transparency : Transparency}
    (formed : bitmap.WellFormed) (applied : mask.apply bitmap = (.ok transparency, next)) :
    transparency = .solid ↔ next.Solid := by
  rw [Mask.apply] at applied
  split at applied
  · cases applied
  · rename_i checked
    split at applied
    · cases applied
    · rename_i plane read
      have same := (Mask.check_eq_ok checked).2.1
      rw [same] at applied
      obtain ⟨shape, -, verdict⟩ := writeRows_judged formed (Nat.le_of_eq (Nat.zero_add _)) applied
      rw [verdict, Bitmap.solid_iff_rows, shape.height]
      simp only [true_and, Nat.zero_le, Nat.zero_add, forall_const]

theorem overlayAlpha_judged {decoder : Decoder} {limit : UInt64} {bitmap next : Bitmap}
    {stream rest : Stream} {transparency : Transparency} (formed : bitmap.WellFormed)
    (laid : overlayAlpha decoder limit bitmap stream = (.ok transparency, next, rest)) :
    transparency = .solid ↔ next.Solid := by
  cases read : (decoder.rows limit stream).1 with
  | none =>
      rw [overlayAlpha_of_none _ _ _ _ read] at laid
      cases laid
  | some mask =>
      rw [overlayAlpha_of_some _ _ _ _ read] at laid
      obtain ⟨told, rfl, -⟩ := Prod.mk.injEq .. ▸ laid
      exact mask.apply_judged formed (Prod.ext told rfl)

end Png

end Raster
