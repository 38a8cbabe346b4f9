import Raster.Jpeg.Decode
import Raster.Proofs.Channels
import Raster.Proofs.Decoders
import Raster.Proofs.Limits
import Raster.Proofs.Opacity

/-!
What a JPEG image is like once it is loaded: it has the size that the decoder announced, which takes
sixteen bits to a side, it has passed the check of the limits, and it is solid.
-/

namespace Raster.Jpeg

section Outcome

variable (decoder : Decoder) (stream : Stream)

def outcome (limits : Limits) : Option (Option Info × Option (Array UInt8)) → Except Failure Bitmap
  | none => .error aborted
  | some (none, _) => .error (.refused (.decode .jpegFrameMissing))
  | some (some info, data) => do
      let channels ← info.check limits
      match data with
      | none => .error aborted
      | some data => info.toBitmap channels data

theorem readBitmap_outcome (limits : Limits) :
    (readBitmap decoder limits stream).1 =
      outcome limits (decoder.answer (some limits.maxDecodeBytes) (.ofStream stream)) := by
  rw [readBitmap, Decoder.answer]
  cases decoder.readInfo (some limits.maxDecodeBytes) (.ofStream stream) with
  | mk started input =>
      cases started with
      | none => rfl
      | some state =>
          dsimp only [outcome]
          cases decoder.info state with
          | none => rfl
          | some info =>
              dsimp only [outcome]
              cases info.check limits with
              | error failure => rfl
              | ok channels =>
                  cases decoder.decode state input with
                  | mk data rest => cases data <;> rfl

theorem verifyHeader_fst :
    (verifyHeader decoder stream).1 =
      (decoder.answer none (.ofStream stream)).elim (.error aborted) fun _ => .ok () := by
  rw [verifyHeader, Decoder.answer]
  cases decoder.readInfo none (.ofStream stream) with
  | mk started input => cases started <;> rfl

end Outcome

theorem channels_of_known {format : PixelFormat} {channels : Nat}
    (known : format.channels? = some channels) : channels = 1 ∨ channels = 3 := by
  cases format <;> simp [PixelFormat.channels?] at known <;> omega

theorem samplePixel?_solid {channels : Nat} (known : channels = 1 ∨ channels = 3)
    {row : Array UInt8} {column : Nat} (inside : (column + 1) * channels ≤ row.size) :
    ∃ pixel, samplePixel? channels row column = some pixel ∧ pixel.alpha = 0xff := by
  rcases known with rfl | rfl
  · have found : row[column]? = some row[column] := Array.getElem?_eq_getElem (by omega)
    refine ⟨Pixel.solid row[column] row[column] row[column], ?_, Pixel.alpha_solid ..⟩
    rw [samplePixel?, if_pos rfl, found]
    rfl
  · have red : row[3 * column]? = some row[3 * column] := Array.getElem?_eq_getElem (by omega)
    have green : row[3 * column + 1]? = some row[3 * column + 1] :=
      Array.getElem?_eq_getElem (by omega)
    have blue : row[3 * column + 2]? = some row[3 * column + 2] :=
      Array.getElem?_eq_getElem (by omega)
    refine ⟨Pixel.solid row[3 * column] row[3 * column + 1] row[3 * column + 2], ?_,
      Pixel.alpha_solid ..⟩
    rw [samplePixel?, if_neg (by decide), red, green, blue]
    rfl

def laid (channels length : Nat) (data : Array UInt8) (y column : Nat) (old : Pixel) : Pixel :=
  (samplePixel? channels (data.extract (y * length) ((y + 1) * length)) column).getD old

theorem layRows_eq {channels length : Nat} {data : Array UInt8} {y count : Nat} {bitmap : Bitmap}
    (formed : bitmap.WellFormed) (rows : y + count ≤ bitmap.height.toNat) :
    layRows channels length data y count bitmap =
      .ok (bitmap.changeRows (laid channels length data) y count) := by
  induction count generalizing y bitmap with
  | zero => rfl
  | succ count ih =>
      obtain ⟨below, same⟩ := Bitmap.counted (show y < bitmap.height.toNat by omega)
      have changed := formed.changeRow (laid channels length data y) y
      rw [layRows]
      simp only [Bitmap.mapRow?, formed.hasRow below, if_true, same]
      exact ih changed (by rw [Bitmap.changeRow_height]; omega)

theorem laid_alpha {channels : Nat} (known : channels = 1 ∨ channels = 3) {width y column : Nat}
    {data : Array UInt8} (whole : (y + 1) * (width * channels) ≤ data.size)
    (inside : column < width) (old : Pixel) :
    (laid channels (width * channels) data y column old).alpha = 0xff := by
  have reach : (column + 1) * channels ≤ width * channels := Nat.mul_le_mul_right _ inside
  have row : (data.extract (y * (width * channels)) ((y + 1) * (width * channels))).size =
      width * channels := by
    rw [Array.size_extract, Nat.min_eq_left whole, Nat.add_mul, Nat.one_mul,
      Nat.add_sub_cancel_left]
  obtain ⟨pixel, found, solid⟩ := samplePixel?_solid known (row ▸ reach)
  rw [laid, found, Option.getD_some, solid]

namespace Info

variable (info : Info)

theorem sides : Sides info.width.toUInt32 info.height.toUInt32 := by
  have width := info.width.toNat_lt
  have height := info.height.toNat_lt
  constructor <;> simp only [UInt16.toNat_toUInt32] <;> omega

theorem withSize_eq : Bitmap.withSize info.width.toUInt32 info.height.toUInt32 =
    .ok (.blank info.width.toUInt32 info.height.toUInt32) := by
  have sides := info.sides
  have bytes : info.width.toUInt32.toNat * info.height.toUInt32.toNat ≤ 2 ^ 16 * 2 ^ 16 := by
    simp only [UInt16.toNat_toUInt32]
    exact Nat.mul_le_mul (Nat.le_of_lt info.width.toNat_lt) (Nat.le_of_lt info.height.toNat_lt)
  refine Bitmap.allocate_eq_ok.mpr ⟨?_, rfl⟩
  rw [Bitmap.storageBytes, Bitmap.largestAllocation]
  omega

variable {info}

theorem check_eq_ok {limits : Limits} {channels : Nat}
    (checked : info.check limits = .ok channels) :
    limits.checkDimensions info.width.toUInt32 info.height.toUInt32 = .ok () ∧
      info.format.channels? = some channels := by
  rw [check] at checked
  obtain ⟨⟨⟩, passed, checked⟩ := bind_eq_ok checked
  refine ⟨passed, ?_⟩
  cases known : info.format.channels? with
  | none =>
      rw [known] at checked
      cases checked
  | some count =>
      rw [known] at checked
      cases checked
      rfl

theorem toBitmap_eq_ok {channels : Nat} (known : channels = 1 ∨ channels = 3)
    {data : Array UInt8} {bitmap : Bitmap} (filled : 0 < info.width.toNat)
    (made : info.toBitmap channels data = .ok bitmap) :
    info.height.toNat * (info.width.toNat * channels) ≤ data.size ∧
      bitmap = (Bitmap.blank info.width.toUInt32 info.height.toUInt32).mapVisible
        (laid channels (info.width.toNat * channels) data) := by
  have length : 0 < info.width.toNat * channels := Nat.mul_pos filled (by omega)
  rw [toBitmap] at made
  dsimp only at made
  split at made
  · cases made
  · rename_i enough
    rw [withSize_eq] at made
    have whole : info.height.toNat * (info.width.toNat * channels) ≤ data.size := by
      rw [Nat.mul_comm]
      exact Nat.le_of_not_lt enough
    have rows : min info.height.toNat (data.size / (info.width.toNat * channels)) =
        info.height.toNat := Nat.min_eq_left ((Nat.le_div_iff_mul_le length).mpr whole)
    have formed := Bitmap.blank_wellFormed info.width.toUInt32 info.height.toUInt32
    have tall : (Bitmap.blank info.width.toUInt32 info.height.toUInt32).height.toNat =
        info.height.toNat := info.height.toNat_toUInt32
    rw [rows, ok_bind, layRows_eq formed (by rw [tall]; omega)] at made
    cases made
    rw [Bitmap.mapVisible, tall]
    exact ⟨whole, rfl⟩

end Info

section Loaded

variable {decoder : Decoder} {limits : Limits} {stream : Stream} {bitmap : Bitmap}

theorem readBitmap_eq_ok (read : (readBitmap decoder limits stream).1 = .ok bitmap) :
    ∃ (info : Info) (channels : Nat) (data : Array UInt8), (channels = 1 ∨ channels = 3) ∧
      limits.checkDimensions info.width.toUInt32 info.height.toUInt32 = .ok () ∧
      info.height.toNat * (info.width.toNat * channels) ≤ data.size ∧
      bitmap = (Bitmap.blank info.width.toUInt32 info.height.toUInt32).mapVisible
        (laid channels (info.width.toNat * channels) data) := by
  rw [readBitmap_outcome] at read
  cases answered : decoder.answer (some limits.maxDecodeBytes) (.ofStream stream) with
  | none =>
      rw [answered] at read
      cases read
  | some told =>
      obtain ⟨announced, delivered⟩ := told
      rw [answered] at read
      cases announced with
      | none => cases read
      | some info =>
          obtain ⟨channels, checked, read⟩ := bind_eq_ok read
          obtain ⟨passed, format⟩ := Info.check_eq_ok checked
          have known := channels_of_known format
          cases delivered with
          | none => cases read
          | some data =>
              have filled := ((Limits.checkDimensions_eq_ok_iff info.sides).mp passed).1
              rw [UInt16.toNat_toUInt32] at filled
              obtain ⟨whole, rfl⟩ := Info.toBitmap_eq_ok known filled read
              exact ⟨info, channels, data, known, passed, whole, rfl⟩

theorem readBitmap_admitted (read : (readBitmap decoder limits stream).1 = .ok bitmap) :
    limits.Admits bitmap := by
  obtain ⟨info, channels, data, -, passed, -, rfl⟩ := readBitmap_eq_ok read
  have blank : limits.Admits (Bitmap.blank info.width.toUInt32 info.height.toUInt32) :=
    Limits.admits_of_check (Bitmap.blank_wellFormed ..) rfl info.sides passed
  exact blank.sameShape (Bitmap.SameShape.mapVisible ..)

theorem readBitmap_solid (read : (readBitmap decoder limits stream).1 = .ok bitmap) :
    bitmap.Solid := by
  obtain ⟨info, channels, data, known, -, whole, rfl⟩ := readBitmap_eq_ok read
  have formed := Bitmap.blank_wellFormed info.width.toUInt32 info.height.toUInt32
  intro y x below inside
  rw [Bitmap.mapVisible_height] at below
  rw [Bitmap.mapVisible_width] at inside
  have row := UInt32.lt_iff_toNat_lt.mp below
  have column := UInt32.lt_iff_toNat_lt.mp inside
  have slot := formed.slot_inside row column
  change y.toNat < info.height.toUInt32.toNat at row
  change x.toNat < info.width.toUInt32.toNat at column
  rw [UInt16.toNat_toUInt32] at row column
  have stored : (y.toNat + 1) * (info.width.toNat * channels) ≤ data.size :=
    Nat.le_trans (Nat.mul_le_mul_right _ row) whole
  rw [Bitmap.pixel?_mapVisible _ _ formed.widthBound below inside, Bitmap.pixel?, Bitmap.slot,
    Array.getElem?_eq_getElem slot, Option.map_some, Option.map_some,
    laid_alpha known stored column]

end Loaded

end Raster.Jpeg
