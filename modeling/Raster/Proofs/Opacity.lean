import Raster.Proofs.Storage
import Raster.Transparency

/-!
Solid bitmaps, and the bits that alphas have in common: all of them are set exactly if every alpha
has all of its bits set. Main statement: a scan of a bitmap judges it solid exactly if it is.
-/

namespace Raster

namespace Transparency

theorem ofCommonAlpha_eq_solid {common : UInt8} :
    ofCommonAlpha common = .solid ↔ common = 0xff := by
  rw [ofCommonAlpha]
  split
  · rename_i full
    exact ⟨fun _ => full, fun _ => rfl⟩
  · rename_i cleared
    exact ⟨nofun, fun full => absurd full cleared⟩

theorem foldl_eq_full {α : Type} {step : UInt8 → α → UInt8} {Full : α → Prop}
    (each : ∀ common value, step common value = 0xff ↔ common = 0xff ∧ Full value)
    (values : List α) (common : UInt8) :
    values.foldl step common = 0xff ↔ common = 0xff ∧ ∀ value ∈ values, Full value := by
  -- Nothing brings a cleared bit back, so the start value and each value have to be full.
  induction values generalizing common with
  | nil => simp
  | cons value later ih => rw [List.foldl_cons, ih, each, List.forall_mem_cons, and_assoc]

theorem commonAlpha_eq_full {pixels : Array Pixel} {common : UInt8} :
    commonAlpha pixels common = 0xff ↔ common = 0xff ∧ ∀ pixel ∈ pixels, pixel.alpha = 0xff := by
  have each (common : UInt8) (pixel : Pixel) :
      common &&& pixel.alpha = 0xff ↔ common = 0xff ∧ pixel.alpha = 0xff :=
    UInt8.and_eq_neg_one_iff
  rw [commonAlpha, ← Array.foldl_toList, foldl_eq_full each]
  simp only [Array.mem_toList_iff]

end Transparency

namespace Bitmap

variable {bitmap : Bitmap}

def Solid (bitmap : Bitmap) : Prop :=
  ∀ y x : UInt32, y < bitmap.height → x < bitmap.width →
    (bitmap.pixel? y x).map Pixel.alpha = some 0xff

def SolidRow (bitmap : Bitmap) (y : Nat) : Prop :=
  ∀ x : Nat, x < bitmap.width.toNat →
    bitmap.pixels[y * bitmap.stride.toNat + x]?.map Pixel.alpha = some 0xff

theorem solid_iff_rows : bitmap.Solid ↔ ∀ y : Nat, y < bitmap.height.toNat → bitmap.SolidRow y := by
  rw [Solid, forall_visible_iff]
  apply forall₂_congr
  intro y below
  apply forall₂_congr
  intro x inside
  rw [pixel?, slot, (counted below).2, (counted inside).2]

theorem solidRow_iff (formed : bitmap.WellFormed) {y : UInt32} (below : y < bitmap.height) :
    bitmap.SolidRow y.toNat ↔
      ∀ pixel ∈ (bitmap.row? y).getD #[], pixel.alpha = 0xff := by
  have shown : bitmap.row? y = some (bitmap.pixels.extract (bitmap.rowStart y)
      (bitmap.rowStart y + bitmap.width.toNat)) := by
    rw [row?, if_pos (formed.hasRow below)]
  have row := UInt32.lt_iff_toNat_lt.mp below
  rw [shown, Option.getD_some]
  constructor
  · intro solid pixel member
    obtain ⟨x, inside, found⟩ := (formed.mem_row below pixel).mp member
    have opacity := solid x inside
    rw [found, Option.map_some] at opacity
    exact Option.some.inj opacity
  · intro opacity x inside
    have found := Array.getElem?_eq_getElem (formed.slot_inside row inside)
    rw [found, Option.map_some]
    exact congrArg some (opacity _ ((formed.mem_row below _).mpr ⟨x, inside, found⟩))

theorem commonAlpha_eq_full (formed : bitmap.WellFormed) :
    bitmap.commonAlpha = 0xff ↔ bitmap.Solid := by
  have each (common : UInt8) (y : Nat) :
      Transparency.commonAlpha ((bitmap.row? (UInt32.ofNat y)).getD #[]) common = 0xff ↔
        common = 0xff ∧ ∀ pixel ∈ (bitmap.row? (UInt32.ofNat y)).getD #[], pixel.alpha = 0xff :=
    Transparency.commonAlpha_eq_full
  rw [commonAlpha, Transparency.foldl_eq_full each, solid_iff_rows]
  simp only [true_and, List.mem_range]
  apply forall₂_congr
  intro y below
  obtain ⟨row, same⟩ := counted below
  rw [← solidRow_iff formed row, same]

theorem transparency_eq_solid_iff (formed : bitmap.WellFormed) :
    bitmap.transparency = .solid ↔ bitmap.Solid := by
  rw [transparency, Transparency.ofCommonAlpha_eq_solid, commonAlpha_eq_full formed]

theorem solid_iff_of_packed (formed : bitmap.WellFormed) (packed : bitmap.stride = bitmap.width) :
    bitmap.Solid ↔ ∀ pixel ∈ bitmap.pixels, pixel.alpha = 0xff := by
  rw [solid_iff_rows]
  constructor
  · intro rows pixel member
    obtain ⟨slot, bound, rfl⟩ := Array.mem_iff_getElem.mp member
    obtain ⟨row, reach⟩ := formed.place bound
    have opacity := rows _ row (slot % bitmap.stride.toNat) (by rw [← packed]; exact reach)
    rw [Nat.div_add_mod', Array.getElem?_eq_getElem bound, Option.map_some] at opacity
    exact Option.some.inj opacity
  · intro opacity y below x inside
    have found := formed.slot_inside below inside
    rw [Array.getElem?_eq_getElem found, Option.map_some]
    exact congrArg some (opacity _ (Array.getElem_mem found))

end Bitmap

end Raster
