import Raster.Bitmap

/-!
What row and pixel changes do to the storage of a bitmap, slot by slot. A slot belongs to row
`slot / stride` and column `slot % stride`; it is visible when its column is below the width.
-/

namespace Raster.Bitmap

theorem counted {side : UInt32} {index : Nat} (below : index < side.toNat) :
    UInt32.ofNat index < side ∧ (UInt32.ofNat index).toNat = index := by
  have fits := UInt32.toNat_ofNat_of_lt' (Nat.lt_trans below side.toNat_lt)
  rw [UInt32.lt_iff_toNat_lt, fits]
  exact ⟨below, rfl⟩

theorem forall_visible_iff {height width : UInt32} {holds : UInt32 → UInt32 → Prop} :
    (∀ y x : UInt32, y < height → x < width → holds y x) ↔
      ∀ y : Nat, y < height.toNat → ∀ x : Nat, x < width.toNat →
        holds (UInt32.ofNat y) (UInt32.ofNat x) := by
  constructor
  · intro all y below x inside
    exact all _ _ (counted below).1 (counted inside).1
  · intro all y x below inside
    have place := all y.toNat (UInt32.lt_iff_toNat_lt.mp below) x.toNat
      (UInt32.lt_iff_toNat_lt.mp inside)
    rw [UInt32.ofNat_toNat, UInt32.ofNat_toNat] at place
    exact place

theorem getElem?_changeSlots (change : Nat → Pixel → Pixel) (start offset count : Nat)
    (pixels : Array Pixel) (slot : Nat) :
    (changeSlots change start offset count pixels)[slot]? =
      if start + offset ≤ slot ∧ slot < start + offset + count then
        pixels[slot]?.map (change (slot - start))
      else pixels[slot]? := by
  induction count generalizing offset pixels with
  | zero =>
      have never : ¬(start + offset ≤ slot ∧ slot < start + offset + 0) := by omega
      rw [if_neg never]
      rfl
  | succ count ih =>
      rw [changeSlots, ih, Array.getElem?_modify]
      by_cases first : start + offset = slot
      · have later : ¬(start + (offset + 1) ≤ slot ∧ slot < start + (offset + 1) + count) := by
          omega
        have inside : start + offset ≤ slot ∧ slot < start + offset + (count + 1) := by omega
        have column : slot - start = offset := by omega
        rw [if_neg later, if_pos inside, if_pos first, column]
      · have same : (start + (offset + 1) ≤ slot ∧ slot < start + (offset + 1) + count) ↔
            (start + offset ≤ slot ∧ slot < start + offset + (count + 1)) := by omega
        simp only [same, if_neg first]

@[simp] theorem size_changeSlots (change : Nat → Pixel → Pixel) (start offset count : Nat)
    (pixels : Array Pixel) :
    (changeSlots change start offset count pixels).size = pixels.size := by
  induction count generalizing offset pixels with
  | zero => rfl
  | succ count ih => rw [changeSlots, ih, Array.size_modify]

section Row

variable (bitmap : Bitmap) (change : Nat → Pixel → Pixel) (y : Nat)

@[simp] theorem changeRow_width : (bitmap.changeRow change y).width = bitmap.width := rfl

@[simp] theorem changeRow_height : (bitmap.changeRow change y).height = bitmap.height := rfl

@[simp] theorem changeRow_stride : (bitmap.changeRow change y).stride = bitmap.stride := rfl

theorem changeRow_pixels : (bitmap.changeRow change y).pixels =
    changeSlots change (y * bitmap.stride.toNat) 0 bitmap.width.toNat bitmap.pixels := rfl

@[simp] theorem changeRow_size : (bitmap.changeRow change y).pixels.size = bitmap.pixels.size := by
  rw [changeRow_pixels, size_changeSlots]

end Row

theorem mem_row_iff {stride width : Nat} (narrow : width ≤ stride) (y slot : Nat) :
    (y * stride ≤ slot ∧ slot < y * stride + width) ↔
      (slot / stride = y ∧ slot % stride < width) := by
  have split := Nat.div_add_mod slot stride
  constructor
  · rintro ⟨lower, upper⟩
    have row : slot / stride = y := by
      apply Nat.div_eq_of_lt_le lower
      rw [Nat.add_mul]
      omega
    rw [row, Nat.mul_comm] at split
    exact ⟨row, by omega⟩
  · rintro ⟨row, column⟩
    rw [row, Nat.mul_comm] at split
    omega

theorem slot_div {stride width y x : Nat} (narrow : width ≤ stride) (inside : x < width) :
    (y * stride + x) / stride = y :=
  ((mem_row_iff narrow _ _).mp ⟨Nat.le_add_right _ _, by omega⟩).1

theorem slot_mod {stride width y x : Nat} (narrow : width ≤ stride) (inside : x < width) :
    (y * stride + x) % stride = x := by
  rw [Nat.mul_comm, Nat.mul_add_mod]
  exact Nat.mod_eq_of_lt (by omega)

theorem getElem?_changeRow (bitmap : Bitmap) (change : Nat → Pixel → Pixel) (y slot : Nat)
    (narrow : bitmap.width ≤ bitmap.stride) :
    (bitmap.changeRow change y).pixels[slot]? =
      if slot / bitmap.stride.toNat = y ∧ slot % bitmap.stride.toNat < bitmap.width.toNat then
        bitmap.pixels[slot]?.map (change (slot % bitmap.stride.toNat))
      else bitmap.pixels[slot]? := by
  have inRow := mem_row_iff (UInt32.le_iff_toNat_le.mp narrow) y slot
  rw [changeRow_pixels, getElem?_changeSlots, Nat.add_zero]
  by_cases visible : y * bitmap.stride.toNat ≤ slot ∧
      slot < y * bitmap.stride.toNat + bitmap.width.toNat
  · have place := inRow.mp visible
    have column : slot - y * bitmap.stride.toNat = slot % bitmap.stride.toNat := by
      have split := Nat.div_add_mod slot bitmap.stride.toNat
      rw [place.1, Nat.mul_comm] at split
      omega
    rw [if_pos visible, if_pos place, column]
  · rw [if_neg visible, if_neg fun place => visible (inRow.mpr place)]

theorem getElem?_changeRow_place (bitmap : Bitmap) (change : Nat → Pixel → Pixel) (y : Nat)
    {row x : Nat} (narrow : bitmap.width ≤ bitmap.stride) (inside : x < bitmap.width.toNat) :
    (bitmap.changeRow change y).pixels[row * bitmap.stride.toNat + x]? =
      if row = y then bitmap.pixels[row * bitmap.stride.toNat + x]?.map (change x)
      else bitmap.pixels[row * bitmap.stride.toNat + x]? := by
  have reach := UInt32.le_iff_toNat_le.mp narrow
  rw [getElem?_changeRow _ _ _ _ narrow, slot_div reach inside, slot_mod reach inside]
  simp only [inside, and_true]

section Rows

variable (bitmap : Bitmap) (change : Nat → Nat → Pixel → Pixel) (y count : Nat)

@[simp] theorem changeRows_width : (changeRows change y count bitmap).width = bitmap.width := by
  induction count generalizing y bitmap with
  | zero => rfl
  | succ count ih => rw [changeRows, ih, changeRow_width]

@[simp] theorem changeRows_height : (changeRows change y count bitmap).height = bitmap.height := by
  induction count generalizing y bitmap with
  | zero => rfl
  | succ count ih => rw [changeRows, ih, changeRow_height]

@[simp] theorem changeRows_stride : (changeRows change y count bitmap).stride = bitmap.stride := by
  induction count generalizing y bitmap with
  | zero => rfl
  | succ count ih => rw [changeRows, ih, changeRow_stride]

@[simp] theorem changeRows_size :
    (changeRows change y count bitmap).pixels.size = bitmap.pixels.size := by
  induction count generalizing y bitmap with
  | zero => rfl
  | succ count ih => rw [changeRows, ih, changeRow_size]

end Rows

theorem getElem?_changeRows (bitmap : Bitmap) (change : Nat → Nat → Pixel → Pixel)
    (y count slot : Nat) (narrow : bitmap.width ≤ bitmap.stride) :
    (changeRows change y count bitmap).pixels[slot]? =
      if y ≤ slot / bitmap.stride.toNat ∧ slot / bitmap.stride.toNat < y + count ∧
          slot % bitmap.stride.toNat < bitmap.width.toNat then
        bitmap.pixels[slot]?.map (change (slot / bitmap.stride.toNat) (slot % bitmap.stride.toNat))
      else bitmap.pixels[slot]? := by
  induction count generalizing y bitmap with
  | zero =>
      have never : ¬(y ≤ slot / bitmap.stride.toNat ∧ slot / bitmap.stride.toNat < y + 0 ∧
          slot % bitmap.stride.toNat < bitmap.width.toNat) := by omega
      rw [if_neg never]
      rfl
  | succ count ih =>
      rw [changeRows, ih (bitmap.changeRow (change y) y) (y + 1) narrow,
        getElem?_changeRow _ _ _ _ narrow]
      simp only [changeRow_stride, changeRow_width]
      by_cases visible : slot % bitmap.stride.toNat < bitmap.width.toNat
      · by_cases first : slot / bitmap.stride.toNat = y
        · have later : ¬(y + 1 ≤ y) := by omega
          simp [visible, first, later]
        · have same : (y + 1 ≤ slot / bitmap.stride.toNat ∧
              slot / bitmap.stride.toNat < y + 1 + count ∧
              slot % bitmap.stride.toNat < bitmap.width.toNat) ↔
              (y ≤ slot / bitmap.stride.toNat ∧ slot / bitmap.stride.toNat < y + (count + 1) ∧
              slot % bitmap.stride.toNat < bitmap.width.toNat) := by omega
          simp only [same, first, false_and, if_false]
      · simp only [visible, and_false, if_false]

section Visible

variable (bitmap : Bitmap) (change : Nat → Nat → Pixel → Pixel)

@[simp] theorem mapVisible_width : (bitmap.mapVisible change).width = bitmap.width :=
  changeRows_width ..

@[simp] theorem mapVisible_height : (bitmap.mapVisible change).height = bitmap.height :=
  changeRows_height ..

@[simp] theorem mapVisible_stride : (bitmap.mapVisible change).stride = bitmap.stride :=
  changeRows_stride ..

@[simp] theorem mapVisible_size :
    (bitmap.mapVisible change).pixels.size = bitmap.pixels.size :=
  changeRows_size ..

end Visible

theorem getElem?_mapVisible (bitmap : Bitmap) (change : Nat → Nat → Pixel → Pixel) (slot : Nat)
    (narrow : bitmap.width ≤ bitmap.stride) :
    (bitmap.mapVisible change).pixels[slot]? =
      if slot / bitmap.stride.toNat < bitmap.height.toNat ∧
          slot % bitmap.stride.toNat < bitmap.width.toNat then
        bitmap.pixels[slot]?.map (change (slot / bitmap.stride.toNat) (slot % bitmap.stride.toNat))
      else bitmap.pixels[slot]? := by
  rw [mapVisible, getElem?_changeRows _ _ _ _ _ narrow]
  simp only [Nat.zero_le, true_and, Nat.zero_add]

theorem pixel?_changeRows (bitmap : Bitmap) (change : Nat → Nat → Pixel → Pixel)
    {first count : Nat} {y x : UInt32} (narrow : bitmap.width ≤ bitmap.stride)
    (changed : first ≤ y.toNat ∧ y.toNat < first + count) (inside : x < bitmap.width) :
    (changeRows change first count bitmap).pixel? y x =
      (bitmap.pixel? y x).map (change y.toNat x.toNat) := by
  have reach := UInt32.le_iff_toNat_le.mp narrow
  have column := UInt32.lt_iff_toNat_lt.mp inside
  rw [pixel?, pixel?, slot, changeRows_stride, slot, getElem?_changeRows _ _ _ _ _ narrow,
    slot_div reach column, slot_mod reach column, if_pos ⟨changed.1, changed.2, column⟩]

theorem pixel?_mapVisible (bitmap : Bitmap) (change : Nat → Nat → Pixel → Pixel) {y x : UInt32}
    (narrow : bitmap.width ≤ bitmap.stride) (below : y < bitmap.height)
    (inside : x < bitmap.width) :
    (bitmap.mapVisible change).pixel? y x =
      (bitmap.pixel? y x).map (change y.toNat x.toNat) := by
  have row := UInt32.lt_iff_toNat_lt.mp below
  exact pixel?_changeRows bitmap change narrow ⟨Nat.zero_le _, by omega⟩ inside

theorem eq_of_slots {left right : Bitmap} (width : left.width = right.width)
    (height : left.height = right.height) (stride : left.stride = right.stride)
    (slots : ∀ slot : Nat, left.pixels[slot]? = right.pixels[slot]?) : left = right := by
  have pixels : left.pixels = right.pixels := Array.ext_getElem? slots
  cases left
  cases right
  simp only at width height stride pixels
  rw [width, height, stride, pixels]

theorem mapVisible_congr {bitmap : Bitmap} {change other : Nat → Nat → Pixel → Pixel}
    (narrow : bitmap.width ≤ bitmap.stride)
    (same : ∀ y x, y < bitmap.height.toNat → x < bitmap.width.toNat → change y x = other y x) :
    bitmap.mapVisible change = bitmap.mapVisible other := by
  apply eq_of_slots
  · rw [mapVisible_width, mapVisible_width]
  · rw [mapVisible_height, mapVisible_height]
  · rw [mapVisible_stride, mapVisible_stride]
  · intro slot
    rw [getElem?_mapVisible _ _ _ narrow, getElem?_mapVisible _ _ _ narrow]
    split
    · rename_i visible
      rw [same _ _ visible.1 visible.2]
    · rfl

theorem changeSlots_of_keeps {change : Nat → Pixel → Pixel}
    (keeps : ∀ offset pixel, change offset pixel = pixel) (start offset count : Nat)
    (pixels : Array Pixel) : changeSlots change start offset count pixels = pixels := by
  apply Array.ext_getElem?
  intro slot
  have same : change (slot - start) = id := funext (keeps _)
  rw [getElem?_changeSlots, same, Option.map_id, id, ite_self]

section Keeps

variable {change : Nat → Nat → Pixel → Pixel} (keeps : ∀ y x pixel, change y x pixel = pixel)

include keeps

theorem changeRows_of_keeps (y count : Nat) (bitmap : Bitmap) :
    changeRows change y count bitmap = bitmap := by
  induction count generalizing y bitmap with
  | zero => rfl
  | succ count ih =>
      rw [changeRows, ih, changeRow, changeSlots_of_keeps (keeps y)]

theorem mapVisible_of_keeps (bitmap : Bitmap) : bitmap.mapVisible change = bitmap :=
  changeRows_of_keeps keeps ..

end Keeps

/-- The same sizes, and as much storage: what no change within a bitmap touches. -/
structure SameShape (before after : Bitmap) : Prop where
  width : after.width = before.width
  height : after.height = before.height
  stride : after.stride = before.stride
  size : after.pixels.size = before.pixels.size

namespace SameShape

theorem refl (bitmap : Bitmap) : bitmap.SameShape bitmap := ⟨rfl, rfl, rfl, rfl⟩

theorem trans {first second third : Bitmap} (one : first.SameShape second)
    (two : second.SameShape third) : first.SameShape third :=
  ⟨two.width.trans one.width, two.height.trans one.height, two.stride.trans one.stride,
    two.size.trans one.size⟩

theorem changeRow (bitmap : Bitmap) (change : Nat → Pixel → Pixel) (y : Nat) :
    bitmap.SameShape (bitmap.changeRow change y) :=
  ⟨rfl, rfl, rfl, changeRow_size ..⟩

theorem changeRows (bitmap : Bitmap) (change : Nat → Nat → Pixel → Pixel) (y count : Nat) :
    bitmap.SameShape (Bitmap.changeRows change y count bitmap) :=
  ⟨changeRows_width .., changeRows_height .., changeRows_stride .., changeRows_size ..⟩

theorem mapVisible (bitmap : Bitmap) (change : Nat → Nat → Pixel → Pixel) :
    bitmap.SameShape (bitmap.mapVisible change) :=
  changeRows ..

theorem wellFormed {before after : Bitmap} (same : before.SameShape after)
    (formed : before.WellFormed) : after.WellFormed := by
  refine ⟨?_, ?_⟩
  · rw [same.width, same.stride]
    exact formed.widthBound
  · rw [same.size, same.stride, same.height]
    exact formed.sizeExact

end SameShape

namespace WellFormed

theorem narrow {bitmap : Bitmap} (formed : bitmap.WellFormed) :
    bitmap.width.toNat ≤ bitmap.stride.toNat :=
  UInt32.le_iff_toNat_le.mp formed.widthBound

theorem row_inside {bitmap : Bitmap} (formed : bitmap.WellFormed) {y : Nat}
    (below : y < bitmap.height.toNat) :
    y * bitmap.stride.toNat + bitmap.width.toNat ≤ bitmap.pixels.size := by
  have next : (y + 1) * bitmap.stride.toNat ≤ bitmap.height.toNat * bitmap.stride.toNat :=
    Nat.mul_le_mul_right _ below
  have narrow := formed.narrow
  rw [formed.sizeExact, Nat.mul_comm bitmap.stride.toNat]
  rw [Nat.add_mul] at next
  omega

theorem slot_inside {bitmap : Bitmap} (formed : bitmap.WellFormed) {y x : Nat}
    (below : y < bitmap.height.toNat) (inside : x < bitmap.width.toNat) :
    y * bitmap.stride.toNat + x < bitmap.pixels.size := by
  have row := formed.row_inside below
  omega

theorem place {bitmap : Bitmap} (formed : bitmap.WellFormed) {slot : Nat}
    (bound : slot < bitmap.pixels.size) :
    slot / bitmap.stride.toNat < bitmap.height.toNat ∧
      slot % bitmap.stride.toNat < bitmap.stride.toNat := by
  rw [formed.sizeExact] at bound
  have filled : 0 < bitmap.stride.toNat := by
    apply Nat.pos_of_ne_zero
    intro none
    rw [none, Nat.zero_mul] at bound
    omega
  refine ⟨?_, Nat.mod_lt slot filled⟩
  rw [Nat.div_lt_iff_lt_mul filled, Nat.mul_comm]
  exact bound

theorem hasRow {bitmap : Bitmap} (formed : bitmap.WellFormed) {y : UInt32}
    (below : y < bitmap.height) : bitmap.hasRow y = true :=
  decide_eq_true (formed.row_inside (UInt32.lt_iff_toNat_lt.mp below))

theorem mem_row {bitmap : Bitmap} (formed : bitmap.WellFormed) {y : UInt32}
    (below : y < bitmap.height) (pixel : Pixel) :
    pixel ∈ bitmap.pixels.extract (bitmap.rowStart y) (bitmap.rowStart y + bitmap.width.toNat) ↔
      ∃ x, x < bitmap.width.toNat ∧
        bitmap.pixels[y.toNat * bitmap.stride.toNat + x]? = some pixel := by
  have row := formed.row_inside (UInt32.lt_iff_toNat_lt.mp below)
  rw [rowStart, Array.mem_extract_iff_getElem]
  constructor
  · rintro ⟨x, inside, rfl⟩
    exact ⟨x, by omega, Array.getElem?_eq_getElem _⟩
  · rintro ⟨x, inside, found⟩
    obtain ⟨bound, same⟩ := Array.getElem?_eq_some_iff.mp found
    exact ⟨x, by omega, same⟩

theorem changeRow {bitmap : Bitmap} (formed : bitmap.WellFormed)
    (change : Nat → Pixel → Pixel) (y : Nat) : (bitmap.changeRow change y).WellFormed :=
  (SameShape.changeRow ..).wellFormed formed

theorem changeRows {bitmap : Bitmap} (formed : bitmap.WellFormed)
    (change : Nat → Nat → Pixel → Pixel) (y count : Nat) :
    (Bitmap.changeRows change y count bitmap).WellFormed :=
  (SameShape.changeRows ..).wellFormed formed

end WellFormed

theorem cleared_wellFormed {width height stride : UInt32} (narrow : width ≤ stride) :
    (cleared width height stride).WellFormed :=
  ⟨narrow, by simp [cleared]⟩

theorem blank_wellFormed (width height : UInt32) : (blank width height).WellFormed :=
  cleared_wellFormed UInt32.le_rfl

theorem allocate_eq_ok {width height stride : UInt32} {bitmap : Bitmap} :
    allocate width height stride = .ok bitmap ↔
      storageBytes height stride ≤ largestAllocation ∧ bitmap = cleared width height stride := by
  rw [allocate]
  split
  · rename_i fits
    simp [fits, eq_comm]
  · rename_i large
    simp [large]

theorem allocate_eq_error {width height stride : UInt32} {failure : Failure} :
    allocate width height stride = .error failure ↔
      largestAllocation < storageBytes height stride ∧ failure = .panicked := by
  rw [allocate]
  split
  · rename_i fits
    simp [Nat.not_lt.mpr fits]
  · rename_i large
    simp [Nat.lt_of_not_le large, eq_comm]

theorem ofPixels_eq_ok {width height : UInt32} {pixels : Array Pixel} {bitmap : Bitmap}
    (built : ofPixels width height pixels = .ok bitmap) :
    bitmap = ⟨width, height, width, pixels⟩ ∧ bitmap.WellFormed := by
  rw [ofPixels] at built
  split at built
  · rename_i size
    cases built
    exact ⟨rfl, UInt32.le_rfl, size⟩
  · cases built

end Raster.Bitmap
