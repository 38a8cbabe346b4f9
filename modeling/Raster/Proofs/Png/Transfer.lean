import Mathlib.Data.List.Forall2
import Raster.Proofs.Png.Overlaid

/-!
Indices in the laying of a mask over a bitmap. Sizes and places of passes stay below `2 ^ 32`. Main
statement: the bounds of the rows of alphas do so as well just if the bitmap has less than `2 ^ 32`
pixels; with more of them the transfer ends in its midst, behind rows that it has changed.
-/

namespace Raster.Png

namespace Pass

/-- Along one side of an image, sizes and places of a pass are those of whole numbers. -/
structure AxisExact (side bias shift count : UInt32) (place : UInt32 → UInt32) : Prop where
  sum : side.toNat + bias.toNat < 2 ^ 32
  shallow : shift.toNat < 32
  small : bias.toNat < 2 ^ shift.toNat
  counted : count.toNat = (side.toNat + bias.toNat) / 2 ^ shift.toNat
  shifted : ∀ index < count.toNat, index * 2 ^ shift.toNat < 2 ^ 32
  placed : ∀ index < count.toNat, (place (UInt32.ofNat index)).toNat =
    index * 2 ^ shift.toNat + (2 ^ shift.toNat - bias.toNat - 1)
  inside : ∀ index < count.toNat, (place (UInt32.ofNat index)).toNat < side.toNat

structure Exact (pass : Pass) (width height : UInt32) : Prop where
  columns : AxisExact width pass.biasX pass.shiftX (pass.width width) pass.imageX
  lines : AxisExact height pass.biasY pass.shiftY (pass.height height) pass.imageY

theorem axisExact {side bias shift : UInt32} (sum : side.toNat + bias.toNat < 2 ^ 32)
    (shallow : shift.toNat ≤ 3) (small : bias.toNat < 2 ^ shift.toNat) :
    AxisExact side bias shift ((side + bias) >>> shift)
      fun index => (index <<< shift) + ((1 <<< shift) - bias - 1) := by
  have positive : 0 < 2 ^ shift.toNat := Nat.two_pow_pos _
  have counted := extent_toNat sum shallow small
  have back : 2 ^ shift.toNat - 1 - (2 ^ shift.toNat - 1 - bias.toNat) = bias.toNat := by omega
  rw [UInt32.ofNat_toNat, length_along (by omega), back] at counted
  have reach {index : Nat} (taken : index < ((side + bias) >>> shift).toNat) :
      index * 2 ^ shift.toNat + 2 ^ shift.toNat ≤ side.toNat + bias.toNat := by
    rw [counted] at taken
    rw [← Nat.succ_mul]
    exact (Nat.le_div_iff_mul_le positive).mp taken
  have found {index : Nat} (taken : index < ((side + bias) >>> shift).toNat) :
      ((UInt32.ofNat index <<< shift) + ((1 <<< shift) - bias - 1)).toNat =
        index * 2 ^ shift.toNat + (2 ^ shift.toNat - bias.toNat - 1) := by
    have bound := reach taken
    rw [place_toNat (by omega) shallow small]
    omega
  refine ⟨sum, by omega, small, counted, ?_, ?_, ?_⟩
  · intro index taken
    have bound := reach taken
    omega
  · intro index taken
    exact found taken
  · intro index taken
    have bound := reach taken
    rw [found taken]
    omega

theorem Regular.exact {pass : Pass} {width height : UInt32}
    (regular : pass.Regular width.toNat height.toNat) : pass.Exact width height :=
  ⟨axisExact regular.fitsX regular.shallowX regular.smallX,
    axisExact regular.fitsY regular.shallowY regular.smallY⟩

end Pass

theorem storedRows_whole {width : Nat} (hasColumns : 0 < width) (height : Nat) :
    storedRows false width height =
      (List.range height).map fun y => (List.range width).map fun x => (y, x) := by
  have every (extent : Nat) : along 0 1 extent = List.range extent := by
    simp [along, Nat.mod_one]
  simp [storedRows, Lattice.all, Lattice.rows, Lattice.whole, every, Nat.ne_of_gt hasColumns]

structure RowExact (width : UInt32) (y : Nat) : Prop where
  start : (alphaStart width (UInt32.ofNat y)).toNat = y * width.toNat
  stop : (alphaStop width (UInt32.ofNat y)).toNat = (y + 1) * width.toNat

theorem forall_rowExact_iff (width height : UInt32) :
    (∀ y < height.toNat, RowExact width y) ↔ width.toNat * height.toNat < 2 ^ 32 := by
  constructor
  · intro exact
    by_cases none : height.toNat = 0
    · simp [none]
    · have last := (exact (height.toNat - 1) (by omega)).stop
      have bound := (alphaStop width (UInt32.ofNat (height.toNat - 1))).toNat_lt
      rw [last, Nat.sub_add_cancel (by omega), Nat.mul_comm] at bound
      exact bound
  · intro fits y below
    have small := height.toNat_lt
    have stop : (y + 1) * width.toNat ≤ width.toNat * height.toNat := by
      rw [Nat.mul_comm width.toNat]
      exact Nat.mul_le_mul_right _ below
    have start : y * width.toNat ≤ (y + 1) * width.toNat := Nat.mul_le_mul_right _ (Nat.le_succ y)
    exact ⟨alphaStart_toNat width (by omega) (by omega),
      alphaStop_toNat width (by omega) (by omega)⟩

section Transfer

variable {plane : Array UInt8} {bitmap : Bitmap}

theorem writeRows_of_wrapped {y : Nat} (count : Nat) (common : UInt8) (row : y + 1 < 2 ^ 32)
    (fits : y * bitmap.width.toNat < 2 ^ 32) (wraps : 2 ^ 32 ≤ (y + 1) * bitmap.width.toNat) :
    writeRows plane y (count + 1) common bitmap = (.error .panicked, bitmap) := by
  have start := alphaStart_toNat bitmap.width fits (by omega)
  have narrow := bitmap.width.toNat_lt
  have sum : (y + 1) * bitmap.width.toNat = y * bitmap.width.toNat + bitmap.width.toNat :=
    Nat.succ_mul ..
  have stop : (alphaStop bitmap.width (UInt32.ofNat y)).toNat =
      (y + 1) * bitmap.width.toNat - 2 ^ 32 := by
    rw [alphaStop, UInt32.toNat_mul, nextRow_toNat row, Nat.mod_eq_sub_mod wraps]
    exact Nat.mod_eq_of_lt (by omega)
  have crossed : ¬((alphaStart bitmap.width (UInt32.ofNat y)).toNat ≤
      (alphaStop bitmap.width (UInt32.ofNat y)).toNat ∧
      (alphaStop bitmap.width (UInt32.ofNat y)).toNat ≤ plane.size) := by
    rw [start, stop]
    omega
  rw [writeRows]
  exact if_neg crossed

theorem writeRows_overflows (formed : bitmap.WellFormed)
    (whole : plane.size = bitmap.height.toNat * bitmap.width.toNat) (common : UInt8)
    (wide : 2 ^ 32 ≤ bitmap.width.toNat * bitmap.height.toNat) :
    writeRows plane 0 bitmap.height.toNat common bitmap = (.error .panicked,
      Bitmap.changeRows (setPlane plane bitmap.width.toNat) 0
        ((2 ^ 32 - 1) / bitmap.width.toNat) bitmap) := by
  have hasColumns : 0 < bitmap.width.toNat := by
    apply Nat.pos_of_ne_zero
    intro none
    simp [none] at wide
  generalize written : (2 ^ 32 - 1) / bitmap.width.toNat = rows
  have fits : rows * bitmap.width.toNat < 2 ^ 32 := by
    have quotient := Nat.div_mul_le_self (2 ^ 32 - 1) bitmap.width.toNat
    rw [written] at quotient
    omega
  have wraps : 2 ^ 32 ≤ (rows + 1) * bitmap.width.toNat := by
    have beyond := Nat.lt_mul_div_succ (2 ^ 32 - 1) hasColumns
    rw [written, Nat.mul_comm] at beyond
    omega
  have below : rows < bitmap.height.toNat := by
    rw [Nat.mul_comm] at wide
    exact Nat.lt_of_mul_lt_mul_right (Nat.lt_of_lt_of_le fits wide)
  obtain ⟨count, height⟩ : ∃ count, bitmap.height.toNat = rows + (count + 1) :=
    ⟨bitmap.height.toNat - rows - 1, by omega⟩
  obtain ⟨next, run⟩ := writeRows_run formed whole rows (count + 1) common
    (show 0 + rows ≤ bitmap.height.toNat by omega) (by rw [Nat.zero_add]; exact fits)
  have bound := bitmap.height.toNat_lt
  rw [height, run, Nat.zero_add]
  exact writeRows_of_wrapped count next (by omega) (by simpa using fits) (by simpa using wraps)

end Transfer

/-- What comes of a mask that has been read whole. The passes and places of its image never leave
the 32 bits. The bounds of the rows of alphas do if there are `2 ^ 32` pixels or more, and then the
transfer panics, with all rows changed up to the first that has a bound beyond. -/
theorem overlay_transfer {mask : Mask} {bitmap : Bitmap} {plane : Array UInt8}
    (formed : bitmap.WellFormed)
    (short : bitmap.width.toNat < 2 ^ 31 ∧ bitmap.height.toNat < 2 ^ 31)
    (checked : mask.check bitmap = .ok ()) (read : mask.alphas = .ok plane) :
    (∀ pass ∈ Pass.all mask.header.interlaced, pass.Exact bitmap.width bitmap.height) ∧
    ((∀ y < bitmap.height.toNat, RowExact bitmap.width y) ↔
      bitmap.width.toNat * bitmap.height.toNat < 2 ^ 32) ∧
    (bitmap.width.toNat * bitmap.height.toNat < 2 ^ 32 → ∃ transparency, mask.apply bitmap =
      (.ok transparency, bitmap.mapVisible (setPlane plane bitmap.width.toNat))) ∧
    (2 ^ 32 ≤ bitmap.width.toNat * bitmap.height.toNat → mask.apply bitmap =
      (.error .panicked, Bitmap.changeRows (setPlane plane bitmap.width.toNat) 0
        ((2 ^ 32 - 1) / bitmap.width.toNat) bitmap)) ∧
    (∀ decoder limit stream, (Decoder.rows decoder limit stream).1 = some mask →
      (overlayAlpha decoder limit bitmap stream).1 = (mask.apply bitmap).1 ∧
      (overlayAlpha decoder limit bitmap stream).2.1 = (mask.apply bitmap).2) := by
  have applied := Mask.apply_of_read checked read
  have whole := Mask.plane_size checked read
  refine ⟨?_, forall_rowExact_iff .., ?_, ?_, ?_⟩
  · intro pass member
    exact (Pass.all_regular (by omega) (by omega) (fun _ => by omega) pass member).exact
  · intro fits
    rw [applied]
    exact writeRows_eq formed whole 0xff (Nat.zero_add _) (by rwa [Nat.mul_comm])
  · intro wide
    rw [applied]
    exact writeRows_overflows formed whole 0xff wide
  · intro decoder limit stream accepted
    rw [overlayAlpha_of_some _ _ _ _ accepted]
    exact ⟨rfl, rfl⟩

namespace Wide

def picture : Picture where
  width := 65536
  height := 131072
  colour := .gray
  depth := 1
  palette := #[]
  sample _ _ _ := 1
  hasColumns := by decide
  hasRows := by decide
  widthBound := by decide
  heightBound := by decide
  suits := by decide
  shallow := by decide
  small _ _ _ := by decide

def mask : Mask :=
  ⟨⟨65536, 131072, 1, .gray, false⟩, #[], List.replicate 131072 (Array.replicate 8192 0xff),
    .exhausted⟩

def bitmap : Bitmap := .blank 65536 131072

theorem rowBit_white {count index : Nat} (inside : index < count * 8) :
    rowBit (Array.replicate count 0xff) index = true := by
  have byte : index / 8 < count := by omega
  have bits : ∀ bit < 8, Nat.testBit 255 bit = true := by decide
  rw [rowBit, Array.getD_eq_getD_getElem?, Array.getElem?_replicate, if_pos byte]
  exact bits (7 - index % 8) (by omega)

theorem stored : picture.StoredIn false mask where
  header := rfl
  palette := nofun
  rows := by
    have rows : storedRows false picture.width picture.height =
        (List.range 131072).map fun y => (List.range 65536).map fun x => (y, x) :=
      storedRows_whole (by decide) _
    have white : mask.rows = (List.range 131072).map fun _ => Array.replicate 8192 0xff := by
      rw [List.map_const', List.length_range]
      rfl
    rw [rows, white, List.forall₂_map_left_iff, List.forall₂_map_right_iff, List.forall₂_same]
    intro y _
    have length : ((List.range 65536).map fun x => (y, x)).length = 65536 := by
      rw [List.length_map, List.length_range]
    have room : (Array.replicate 8192 (0xff : UInt8)).size = 8192 := Array.size_replicate
    refine ⟨?_, ?_⟩
    · rw [length, room]
      decide
    · intro index bit inside below
      have only : bit = 0 := Nat.lt_one_iff.mp below
      have bound : index < 8192 * 8 := by
        rw [length] at inside
        exact inside
      have place : index * picture.depth + bit = index := by
        rw [only]
        exact Nat.mul_one index
      rw [place, rowBit_white bound, only]
      change true = Nat.testBit 1 0
      decide
  roundsUp := nofun

theorem alphas_eq : mask.alphas = .ok picture.plane :=
  stored.alphas_eq_plane fun y x _ _ => picture.covers_of_colour (by decide) y x

theorem check_eq : mask.check bitmap = .ok () := stored.check_eq rfl rfl

theorem formed : bitmap.WellFormed := Bitmap.blank_wellFormed ..

theorem apply_eq : mask.apply bitmap = (.error .panicked,
    Bitmap.changeRows (setPlane picture.plane 65536) 0 65535 bitmap) := by
  rw [Mask.apply_of_read check_eq alphas_eq]
  exact writeRows_overflows formed (Mask.plane_size check_eq alphas_eq) 0xff (by decide)

end Wide

theorem overlay_transfer_samples :
    (∃ mask plane,
      (Ramp.decoder.rows 64 (Ramp.stream true)).1 = some mask ∧
      mask.check Ramp.target = .ok () ∧ mask.alphas = .ok plane ∧
      Ramp.target.WellFormed ∧ Ramp.target.width.toNat * Ramp.target.height.toNat < 2 ^ 32 ∧
      (overlayAlpha Ramp.decoder 64 Ramp.target (Ramp.stream true)).2.1 =
        Ramp.target.mapVisible (setPlane plane Ramp.target.width.toNat)) ∧
    (Wide.bitmap.WellFormed ∧ Wide.mask.check Wide.bitmap = .ok () ∧
      Wide.mask.alphas = .ok Wide.picture.plane ∧
      2 ^ 32 ≤ Wide.bitmap.width.toNat * Wide.bitmap.height.toNat ∧
      (Wide.mask.apply Wide.bitmap).1 = .error .panicked) := by
  obtain ⟨mask, accepted, stored⟩ := Ramp.readFrom true
  have check := @Picture.StoredIn.check_eq _ _ _ Ramp.target stored rfl rfl
  have read := stored.alphas_eq_plane fun y x _ _ =>
    Ramp.picture.covers_of_colour (by decide) y x
  have formed : Ramp.target.WellFormed := ⟨by decide, by decide⟩
  have few : Ramp.target.width.toNat * Ramp.target.height.toNat < 2 ^ 32 := by decide
  obtain ⟨-, -, succeeds, -, fromStream⟩ :=
    overlay_transfer formed ⟨by decide, by decide⟩ check read
  obtain ⟨transparency, applied⟩ := succeeds few
  obtain ⟨-, same⟩ := fromStream Ramp.decoder 64 _ accepted
  rw [applied] at same
  have many : 2 ^ 32 ≤ Wide.bitmap.width.toNat * Wide.bitmap.height.toNat := by decide
  obtain ⟨-, -, -, overflows, -⟩ :=
    overlay_transfer Wide.formed ⟨by decide, by decide⟩ Wide.check_eq Wide.alphas_eq
  exact ⟨⟨mask, _, accepted, check, read, formed, few, same⟩,
    Wide.formed, Wide.check_eq, Wide.alphas_eq, many, congrArg Prod.fst (overflows many)⟩

/-- In the midst of the image the bound behind a row wraps; the rows before it are changed by
then, those behind it never. -/
theorem overlay_overflows :
    Wide.bitmap.WellFormed ∧
    (Wide.bitmap.width.toNat < 2 ^ 31 ∧ Wide.bitmap.height.toNat < 2 ^ 31) ∧
    Wide.mask.check Wide.bitmap = .ok () ∧ Wide.mask.alphas = .ok Wide.picture.plane ∧
    ¬RowExact Wide.bitmap.width 65535 ∧
    (Wide.mask.apply Wide.bitmap).1 = .error .panicked ∧
    Wide.bitmap.pixel? 0 0 = some ⟨0⟩ ∧
    (Wide.mask.apply Wide.bitmap).2.pixel? 0 0 = some ⟨0xff000000⟩ := by
  have shown : Wide.bitmap.pixel? 0 0 = some ⟨0⟩ :=
    Array.getElem?_replicate.trans (if_pos (by decide))
  refine ⟨Wide.formed, ⟨by decide, by decide⟩, Wide.check_eq, Wide.alphas_eq, ?_, ?_, shown, ?_⟩
  · intro exact
    exact absurd exact.stop (by decide)
  · rw [Wide.apply_eq]
  · have first : (0, 0).1 < Wide.picture.height ∧ (0, 0).2 < Wide.picture.width := by decide
    have laid := Wide.picture.setPlane_plane first.1 first.2 ⟨0⟩
    rw [Wide.apply_eq, Bitmap.pixel?_changeRows _ _ Wide.formed.widthBound
      ⟨Nat.zero_le _, by decide⟩ (by decide), shown, Option.map_some]
    exact congrArg some (laid.trans (by decide))

end Raster.Png
