import Raster.Proofs.Dib.Rows
import Raster.Proofs.Failure
import Raster.Proofs.Limits

/-!
Loading of device-independent bitmaps. Main statement: from a stream on which nothing fails, a
described file is loaded pixel by pixel as the format has it, and if its data ends too early the
load fails. A file whose bitmap is larger than any allocation makes it panic.
-/

namespace Raster

namespace Dib.Description

variable {file : Description} {bytes : Array UInt8} {start : Nat} {progress : Progress}

theorem layout_eq_iff :
    file.info.layout = .blueGreenRedAlpha32 ↔ file.encoding.storesAlpha = true := by
  rw [info]
  cases file.encoding <;> simp [Encoding.layout, Encoding.storesAlpha]

theorem alpha_eq_zero_iff (stored : file.encoding.storesAlpha = true) (index : Nat) :
    (file.encoding.pixel bytes index).alpha = 0 ↔ byteOf bytes (index + 3) = 0 := by
  have alpha : (file.encoding.pixel bytes index).alpha.toNat =
      (file.encoding.colour bytes index).alpha :=
    congrArg Colour.alpha (file.encoding.pixel_colour index)
  have fourth : (file.encoding.colour bytes index).alpha = byteOf bytes (index + 3) := by
    cases encoding : file.encoding <;> simp [encoding, Encoding.storesAlpha] at stored
    rfl
  rw [← UInt8.toNat_inj, alpha, fourth]
  rfl

theorem Filled.unused_iff (filled : file.Filled bytes start file.height progress) :
    (file.info.layout = .blueGreenRedAlpha32 ∧ progress.alphaSeen = 0) ↔
      file.AlphaUnused bytes start := by
  rw [layout_eq_iff, filled.alphas, AlphaUnused]
  apply and_congr_right
  intro stored
  simp only [alpha_eq_zero_iff stored]
  constructor
  · intro zero y row x column
    exact zero y x row column (file.storedRow_lt row)
  · intro zero y x row column _
    exact zero y row x column

theorem Filled.shown (filled : file.Filled bytes start file.height progress)
    (narrow : file.width < 2 ^ 31) (high : file.height ≤ 2 ^ 31) :
    file.ShownBy bytes start (progress.finish file.info.layout) := by
  have wide : progress.bitmap.width.toNat = file.width := by
    rw [filled.width, UInt32.toNat_ofNat_of_lt' (show file.width < 2 ^ 32 by omega)]
  have tall : progress.bitmap.height.toNat = file.height := by
    rw [filled.height, UInt32.toNat_ofNat_of_lt' (show file.height < 2 ^ 32 by omega)]
  have apart : progress.bitmap.stride.toNat = file.width := by
    rw [filled.stride, UInt32.toNat_ofNat_of_lt' (show file.width < 2 ^ 32 by omega)]
  have size : progress.bitmap.pixels.size = file.width * file.height := by
    rw [filled.formed.sizeExact, apart, tall]
  have decoded {y x : UInt32} (row : y < progress.bitmap.height)
      (column : x < progress.bitmap.width) :
      progress.bitmap.pixel? y x =
        some (file.encoding.pixel bytes (file.pixelAt start y.toNat x.toNat)) := by
    have rowBound := UInt32.lt_iff_toNat_lt.mp row
    have columnBound := UInt32.lt_iff_toNat_lt.mp column
    rw [tall] at rowBound
    rw [wide] at columnBound
    rw [Bitmap.pixel?, Bitmap.slot, apart]
    exact filled.rows _ _ rowBound columnBound (file.storedRow_lt rowBound)
  rw [Progress.finish]
  split
  · rename_i found
    have unused := filled.unused_iff.mp found
    refine ⟨?_, ?_, ?_, ?_, ?_⟩
    · rw [Bitmap.mapVisible_width, wide]
    · rw [Bitmap.mapVisible_height, tall]
    · rw [Bitmap.mapVisible_stride, apart]
    · rw [Bitmap.mapVisible_size, size]
    · intro y x row column
      rw [Bitmap.mapVisible_height] at row
      rw [Bitmap.mapVisible_width] at column
      rw [Bitmap.pixel?_mapVisible _ _ filled.formed.widthBound row column, decoded row column,
        Description.colour, if_pos unused]
      simp only [Option.map_some, Pixel.colour_withAlpha, Encoding.pixel_colour]
      rfl
  · rename_i found
    have used : ¬file.AlphaUnused bytes start := fun unused => found (filled.unused_iff.mpr unused)
    refine ⟨wide, tall, apart, size, ?_⟩
    intro y x row column
    rw [decoded row column, Description.colour, if_neg used]
    simp only [Option.map_some, Encoding.pixel_colour]

section Reading

variable {limits : Limits} {stream : Stream}

theorem StandsAt.sides_toNat (stands : file.StandsAt bytes start) :
    file.info.width.toNat = file.width ∧ file.info.height.toNat = file.height := by
  have narrow := stands.width_lt
  have high := stands.height_le
  exact ⟨UInt32.toNat_ofNat_of_lt' (show file.width < 2 ^ 32 by omega),
    UInt32.toNat_ofNat_of_lt' (show file.height < 2 ^ 32 by omega)⟩

theorem StandsAt.storageBytes_eq (stands : file.StandsAt bytes start) :
    Bitmap.storageBytes file.info.height file.info.width = 4 * file.width * file.height := by
  obtain ⟨wide, tall⟩ := stands.sides_toNat
  rw [Bitmap.storageBytes, wide, tall, Nat.mul_assoc]

theorem checkDimensions_eq (stands : file.StandsAt bytes start)
    (affordable : 4 * file.width * file.height ≤ limits.maxDecodeBytes.toNat) :
    limits.checkDimensions file.info.width file.info.height = .ok () := by
  obtain ⟨wide, tall⟩ := stands.sides_toNat
  have sides : Sides file.info.width file.info.height := by
    refine ⟨?_, ?_⟩
    · rw [wide]
      exact stands.width_lt
    · rw [tall]
      exact stands.height_le
  rw [Limits.checkDimensions_eq_ok_iff sides, wide, tall]
  exact ⟨stands.hasColumns, stands.hasRows, affordable⟩

theorem readPlan_eq (quiet : stream.Quiet) (stands : file.StandsAt stream.bytes stream.position)
    (affordable : 4 * file.width * file.height ≤ limits.maxDecodeBytes.toNat) :
    ∃ rest, readPlan limits stream = (.ok file.info, rest) ∧
      stream.MovedTo (stream.position + file.pixelOffset) rest := by
  have offset : (UInt32.ofNat file.pixelOffset).toNat = file.pixelOffset :=
    UInt32.toNat_ofNat_of_lt' stands.pixelOffset_lt
  obtain ⟨first, asked, movedFirst⟩ := Reading.position_eq (.during .dibPosition) quiet
  have standsFirst : file.StandsAt first.bytes first.position := by
    rw [movedFirst.bytes, movedFirst.position]
    exact stands
  obtain ⟨second, header, movedSecond⟩ :=
    standsFirst.readFileHeader_eq (movedFirst.quiet quiet)
  have quietSecond := movedSecond.quiet (movedFirst.quiet quiet)
  have standsSecond : file.StandsAt second.bytes first.position := by
    rw [movedSecond.bytes]
    exact standsFirst
  obtain ⟨position, third, info, movedThird⟩ :=
    standsSecond.readInfo_eq quietSecond movedSecond.position
  obtain ⟨rest, sought, movedRest⟩ := Reading.seek_eq (stream.position + file.pixelOffset)
    (.during .dibSeek) (movedThird.quiet quietSecond)
  refine ⟨rest, ?_, ((movedFirst.trans movedSecond).trans movedThird).trans movedRest⟩
  rw [readPlan, Reading.bind_ok asked, Reading.bind_ok header, Reading.bind_ok info,
    checkDimensions_eq stands affordable, Reading.bind_ok (Reading.lift_eq _), offset,
    Reading.bind_ok sought]
  rfl

theorem readBitmap_eq_filled (quiet : stream.Quiet)
    (stands : file.StandsAt stream.bytes stream.position)
    (affordable : 4 * file.width * file.height ≤ limits.maxDecodeBytes.toNat)
    (fits : 4 * file.width * file.height ≤ Bitmap.largestAllocation) :
    ∃ rest, readBitmap limits stream =
        readFilled file.info (Bitmap.blank file.info.width file.info.height) rest ∧
      stream.MovedTo (stream.position + file.pixelOffset) rest := by
  obtain ⟨rest, planned, moved⟩ := readPlan_eq quiet stands affordable
  refine ⟨rest, ?_, moved⟩
  rw [readBitmap_eq_plan, Reading.bind_ok planned,
    readPixels_of_le (stands.storageBytes_eq ▸ fits)]

theorem readBitmap_eq_ok (quiet : stream.Quiet)
    (stands : file.StandsAt stream.bytes stream.position)
    (affordable : 4 * file.width * file.height ≤ limits.maxDecodeBytes.toNat)
    (fits : 4 * file.width * file.height ≤ Bitmap.largestAllocation)
    (whole : file.pixelsEnd stream.position ≤ stream.bytes.size) :
    ∃ bitmap rest, readBitmap limits stream = (.ok bitmap, rest) ∧
      file.ShownBy stream.bytes stream.position bitmap ∧
      rest.position = file.pixelsEnd stream.position := by
  obtain ⟨middle, filling, moved⟩ := readBitmap_eq_filled quiet stands affordable fits
  obtain ⟨progress, rest, rows, filled, movedRest⟩ :=
    readRows_eq_ok stands.width_lt stands.height_le whole file.height 0 _ middle (Nat.zero_add _)
      filled_zero (moved.quiet quiet) moved.bytes
      (by rw [moved.position, Nat.zero_mul, Nat.add_zero])
  refine ⟨_, rest, ?_, filled.shown stands.width_lt stands.height_le, movedRest.position⟩
  rw [filling, readFilled, stands.sides_toNat.2, Reading.bind_ok rows]
  rfl

theorem readBitmap_eq_truncated (quiet : stream.Quiet)
    (stands : file.StandsAt stream.bytes stream.position)
    (affordable : 4 * file.width * file.height ≤ limits.maxDecodeBytes.toNat)
    (fits : 4 * file.width * file.height ≤ Bitmap.largestAllocation)
    (short : stream.bytes.size < file.pixelsEnd stream.position) :
    (readBitmap limits stream).1 = .error (.refused (.decode (.dibTruncated .pixelData))) := by
  obtain ⟨middle, filling, moved⟩ := readBitmap_eq_filled quiet stands affordable fits
  obtain ⟨rest, refused⟩ := readRows_eq_error stands.width_lt stands.height_le stands.hasColumns
    short file.height 0 _ middle (Nat.zero_add _) stands.hasRows filled_zero (moved.quiet quiet)
    moved.bytes (by rw [moved.position, Nat.zero_mul, Nat.add_zero])
  rw [filling, readFilled, stands.sides_toNat.2, Reading.bind_error refused]

theorem readBitmap_eq_panicked (quiet : stream.Quiet)
    (stands : file.StandsAt stream.bytes stream.position)
    (affordable : 4 * file.width * file.height ≤ limits.maxDecodeBytes.toNat)
    (large : Bitmap.largestAllocation < 4 * file.width * file.height) :
    (readBitmap limits stream).1 = .error .panicked := by
  obtain ⟨rest, planned, -⟩ := readPlan_eq quiet stands affordable
  rw [readBitmap_panics planned (stands.storageBytes_eq ▸ large)]

end Reading

end Dib.Description

theorem loadDib_eq_panicked {limits : Limits} (target : Bitmap) {stream : Stream}
    (panicked : (Dib.readBitmap limits stream).1 = .error .panicked) :
    (loadDib limits target stream).outcome = .error .panicked := by
  rw [loadDib_eq, panicked]
  rfl

/-- Where a described file stands within the limits, and an allocation has room for its bitmap,
loading it succeeds exactly if all of its pixels are there; then the bitmap shows them, and the
stream stands behind them. Else the load reports truncated pixels and leaves the empty bitmap.
Without the room it panics, whether the pixels are there or not. -/
theorem loadDib_exact (limits : Limits) (target : Bitmap) {stream : Stream} (quiet : stream.Quiet)
    {file : Dib.Description} (stands : file.StandsAt stream.bytes stream.position)
    (affordable : 4 * file.width * file.height ≤ limits.maxDecodeBytes.toNat) :
    (4 * file.width * file.height ≤ Bitmap.largestAllocation →
      (file.pixelsEnd stream.position ≤ stream.bytes.size →
        (loadDib limits target stream).outcome = .ok () ∧
        file.ShownBy stream.bytes stream.position (loadDib limits target stream).bitmap ∧
        (loadDib limits target stream).stream.position = file.pixelsEnd stream.position) ∧
      (stream.bytes.size < file.pixelsEnd stream.position →
        (loadDib limits target stream).outcome =
          .error (.refused (.decode (.dibTruncated .pixelData))) ∧
        (loadDib limits target stream).bitmap = Bitmap.empty)) ∧
    (Bitmap.largestAllocation < 4 * file.width * file.height →
      (loadDib limits target stream).outcome = .error .panicked) := by
  refine ⟨fun fits => ⟨?_, ?_⟩, ?_⟩
  · intro whole
    obtain ⟨bitmap, rest, read, shown, position⟩ :=
      Dib.Description.readBitmap_eq_ok quiet stands affordable fits whole
    rw [loadDib_eq, read]
    exact ⟨rfl, shown, position⟩
  · intro short
    rw [loadDib_eq, Dib.Description.readBitmap_eq_truncated quiet stands affordable fits short]
    exact ⟨rfl, rfl⟩
  · intro large
    exact loadDib_eq_panicked target
      (Dib.Description.readBitmap_eq_panicked quiet stands affordable large)

namespace Dib.Tiles

def file : Description where
  width := 2
  height := 2
  topDown := false
  encoding := .fields32 ⟨5, 10, by decide, by decide⟩ ⟨5, 5, by decide, by decide⟩
    ⟨5, 0, by decide, by decide⟩ (some ⟨1, 15, by decide, by decide⟩)
  headerSize := 56
  pixelOffset := 72

def bytes : Array UInt8 := #[
    0xaa, 0xbb, 0x42, 0x4d, 0x58, 0x00, 0x00, 0x00, 0x00, 0x00, 0x00, 0x00, 0x48, 0x00,
    0x00, 0x00, 0x38, 0x00, 0x00, 0x00, 0x02, 0x00, 0x00, 0x00, 0x02, 0x00, 0x00, 0x00,
    0x01, 0x00, 0x20, 0x00, 0x03, 0x00, 0x00, 0x00, 0x00, 0x00, 0x00, 0x00, 0x00, 0x00,
    0x00, 0x00, 0x00, 0x00, 0x00, 0x00, 0x00, 0x00, 0x00, 0x00, 0x00, 0x00, 0x00, 0x00,
    0x00, 0x7c, 0x00, 0x00, 0xe0, 0x03, 0x00, 0x00, 0x1f, 0x00, 0x00, 0x00, 0x00, 0x80,
    0x00, 0x00, 0xee, 0xee, 0x00, 0xfc, 0x00, 0x00, 0xe0, 0x03, 0x00, 0x00, 0x1f, 0x80,
    0x00, 0x00, 0xff, 0x7f, 0x00, 0x00]

def stream : Stream := Stream.ofBytes bytes 2 (FaultPlan.none.shorten 7)

theorem stream_quiet : stream.Quiet :=
  ⟨fun _ _ => by simp [stream, Stream.ofBytes, FaultPlan.none, FaultPlan.shorten],
    fun _ => rfl, fun _ => rfl⟩

theorem file_stands : file.StandsAt stream.bytes stream.position where
  signature := by decide
  pixelOffset := by decide
  headerSize := by decide
  gap := by decide
  whole := by decide
  hasColumns := by decide
  hasRows := by decide
  header := .inr ⟨by decide, by decide, by decide, by decide, by decide, by decide, by decide,
    by decide, by decide, by decide, by decide, by decide, by decide⟩

end Dib.Tiles

theorem loadDib_exact_tiles :
    Dib.Tiles.stream.Quiet ∧ Dib.Tiles.file.StandsAt Dib.Tiles.stream.bytes 2 ∧
    4 * Dib.Tiles.file.width * Dib.Tiles.file.height ≤ Limits.standard.maxDecodeBytes.toNat ∧
    (loadDib Limits.standard Bitmap.marked Dib.Tiles.stream).outcome = .ok () ∧
    Dib.Tiles.file.ShownBy Dib.Tiles.stream.bytes 2
      (loadDib Limits.standard Bitmap.marked Dib.Tiles.stream).bitmap ∧
    (loadDib Limits.standard Bitmap.marked Dib.Tiles.stream).stream.position = 90 := by
  have affordable : 4 * Dib.Tiles.file.width * Dib.Tiles.file.height ≤
      Limits.standard.maxDecodeBytes.toNat := by decide
  obtain ⟨loads, -⟩ := (loadDib_exact Limits.standard Bitmap.marked Dib.Tiles.stream_quiet
    Dib.Tiles.file_stands affordable).1 (by decide)
  exact ⟨Dib.Tiles.stream_quiet, Dib.Tiles.file_stands, affordable, loads (by decide)⟩

namespace Dib.Vast

def file : Description where
  width := 0x7fffffff
  height := 0x7fffffff
  topDown := false
  encoding := .colour24
  headerSize := 40
  pixelOffset := 54

def bytes : Array UInt8 := #[
    0x42, 0x4d, 0x36, 0x00, 0x00, 0x00, 0x00, 0x00, 0x00, 0x00, 0x36, 0x00, 0x00, 0x00,
    0x28, 0x00, 0x00, 0x00, 0xff, 0xff, 0xff, 0x7f, 0xff, 0xff, 0xff, 0x7f, 0x01, 0x00,
    0x18, 0x00, 0x00, 0x00, 0x00, 0x00, 0x00, 0x00, 0x00, 0x00, 0x00, 0x00, 0x00, 0x00,
    0x00, 0x00, 0x00, 0x00, 0x00, 0x00, 0x00, 0x00, 0x00, 0x00, 0x00, 0x00]

def stream : Stream := Stream.ofBytes bytes 0 FaultPlan.none

def limits : Limits := ⟨0xffffffffffffffff⟩

theorem stream_quiet : stream.Quiet := ⟨fun _ _ => nofun, fun _ => rfl, fun _ => rfl⟩

theorem file_stands : file.StandsAt stream.bytes stream.position where
  signature := by decide
  pixelOffset := by decide
  headerSize := by decide
  gap := by decide
  whole := by decide
  hasColumns := by decide
  hasRows := by decide
  header := .inr ⟨by decide, by decide, by decide, by decide, by decide, by decide, by decide,
    by decide, trivial⟩

theorem readBitmap_panics : (readBitmap limits stream).1 = .error .panicked :=
  Description.readBitmap_eq_panicked stream_quiet file_stands (by decide) (by decide)

end Dib.Vast

/-- Of a header alone, within the limits, no truncated pixels are reported. -/
theorem loadDib_panics_vast :
    Dib.Vast.stream.Quiet ∧ Dib.Vast.file.StandsAt Dib.Vast.stream.bytes 0 ∧
    4 * Dib.Vast.file.width * Dib.Vast.file.height ≤ Dib.Vast.limits.maxDecodeBytes.toNat ∧
    Dib.Vast.stream.bytes.size < Dib.Vast.file.pixelsEnd 0 ∧
    (loadDib Dib.Vast.limits Bitmap.marked Dib.Vast.stream).outcome = .error .panicked :=
  ⟨Dib.Vast.stream_quiet, Dib.Vast.file_stands, by decide, by decide,
    loadDib_eq_panicked _ Dib.Vast.readBitmap_panics⟩

end Raster
