import Mathlib.Order.CompletePartialOrder
import Mathlib.Order.Interval.Set.Disjoint
import Raster.Proofs.Dib.Front

/-!
Where the headers of a device-independent bitmap end, and where its pixels are read. Main statement:
whatever the data and the faults, no byte is read both as header and as pixel, unless the masks
behind a short info header reach past the place where the pixels start.
-/

namespace Raster

def Stream.passed (stream rest : Stream) : Set Nat := Set.Ico stream.position rest.position

namespace Dib

variable {stream rest : Stream} {file : FileHeader} {info : Info}

def readFront : Reading (FileHeader × Info) := do
  let _ ← Reading.position (.during .dibPosition)
  let file ← readFileHeader
  let info ← readInfo file.headerSize
  return (file, info)

namespace FileHeader

def span (file : FileHeader) (layout : Layout) : Nat :=
  fileHeaderSize.toNat + file.headerSize.toNat + layout.trailing file.headerSize

structure Checked (file : FileHeader) : Prop where
  known : file.headerSize = coreHeaderSize ∨ file.headerSize ∈ infoHeaderSizes
  apart : fileHeaderSize.toNat + file.headerSize.toNat ≤ file.pixelOffset.toNat

/-- The pixels start inside of the masks that stand behind the info header. -/
def MasksShared (file : FileHeader) (layout : Layout) : Prop :=
  layout.isMasked = true ∧ file.headerSize = 40 ∧ file.pixelOffset.toNat < 66

theorem Checked.span_le_iff (checked : file.Checked) {layout : Layout}
    (notCore : layout.isMasked = true → file.headerSize ≠ coreHeaderSize) :
    file.span layout ≤ file.pixelOffset.toNat ↔ ¬file.MasksShared layout := by
  obtain ⟨known, apart⟩ := checked
  rw [span, Layout.trailing, MasksShared]
  by_cases masked : layout.isMasked = true
  · have sizes : ∀ size ∈ infoHeaderSizes, size = 40 ∨ 52 ≤ size := by simp [infoHeaderSizes]
    rcases sizes _ (known.resolve_left (notCore masked)) with short | long
    · simp [masked, short, fileHeaderSize]
    · have other : file.headerSize ≠ 40 := by
        intro same
        rw [same] at long
        exact absurd long (by decide)
      simp [long, other, apart]
  · simp [masked, apart]

end FileHeader

theorem readFileHeader_eq_ok (read : readFileHeader stream = (.ok file, rest)) :
    file.Checked ∧ stream.MovedTo (stream.position + 18) rest := by
  obtain ⟨bytes, between, block, read⟩ := Reading.bind_eq_ok read
  obtain ⟨made, rfl⟩ := Reading.lift_eq_ok read
  obtain ⟨-, known, apart⟩ := FileHeader.ofBytes_eq_ok made
  refine ⟨⟨known, ?_⟩, Reading.exactly_moved block⟩
  have bounds := headerSize_bounds known
  have fits : fileHeaderSize.toNat + file.headerSize.toNat < 2 ^ 32 := by
    change 14 + _ < _
    omega
  rw [UInt32.lt_iff_toNat_lt, UInt32.toNat_add, Nat.mod_eq_of_lt fits] at apart
  exact Nat.le_of_not_lt apart

theorem readFront_eq_ok (read : readFront stream = (.ok (file, info), rest)) :
    (file.span info.layout ≤ file.pixelOffset.toNat ↔ ¬file.MasksShared info.layout) ∧
      Sides info.width info.height ∧
      stream.MovedTo (stream.position + file.span info.layout) rest := by
  obtain ⟨start, second, asked, read⟩ := Reading.bind_eq_ok read
  obtain ⟨header, third, first, read⟩ := Reading.bind_eq_ok read
  obtain ⟨described, fourth, last, read⟩ := Reading.bind_eq_ok read
  cases read
  obtain ⟨-, here⟩ := Reading.position_moved asked
  obtain ⟨checked, behindFile⟩ := readFileHeader_eq_ok first
  obtain ⟨-, notCore, behindInfo⟩ := readInfo_eq_ok last
  have whole := (here.trans behindFile).trans behindInfo
  refine ⟨checked.span_le_iff notCore, readInfo_sides last, whole.bytes, whole.faults, ?_⟩
  have bounds := headerSize_bounds checked.known
  rw [whole.position, behindFile.position, here.position, FileHeader.span]
  change _ = _ + (14 + _ + _)
  omega

theorem Info.rowBytes_pos (info : Info) (hasColumns : 0 < info.width.toNat) :
    0 < info.rowBytes := by
  rw [rowBytes]
  cases info.layout <;> simp only [Layout.bits] <;> omega

theorem readRows_moved {count stored : Nat} {progress last : Progress}
    (read : readRows info stored count progress stream = (.ok last, rest)) :
    stream.MovedTo (stream.position + count * info.rowBytes) rest := by
  induction count generalizing stored progress stream with
  | zero =>
      cases read
      exact ⟨rfl, rfl, by simp⟩
  | succ count ih =>
      obtain ⟨row, between, block, read⟩ := Reading.bind_eq_ok read
      obtain ⟨next, -, read⟩ := Reading.lift_bind_eq_ok read
      have moved := Reading.exactly_moved block
      have movedOn := ih read
      rw [moved.position] at movedOn
      refine ⟨movedOn.bytes.trans moved.bytes, movedOn.faults.trans moved.faults, ?_⟩
      rw [movedOn.position, Nat.succ_mul]
      omega

/-- The parts of a reading that has succeeded, with the states of the stream in between. -/
structure Parts (limits : Limits) (stream rest : Stream) (file : FileHeader) (info : Info)
    (behind sought : Stream) : Prop where
  front : readFront stream = (.ok (file, info), behind)
  admitted : limits.checkDimensions info.width info.height = .ok ()
  moved : behind.MovedTo (stream.position + file.pixelOffset.toNat) sought
  pixels : ∃ progress,
    readRows info 0 info.height.toNat ⟨Bitmap.blank info.width info.height, 0⟩ sought =
      (.ok progress, rest)

section Parts

variable {limits : Limits} {behind sought : Stream}
  (parts : Parts limits stream rest file info behind sought)

theorem readBitmap_parts {bitmap : Bitmap}
    (read : readBitmap limits stream = (.ok bitmap, rest)) :
    ∃ file info behind sought, Parts limits stream rest file info behind sought := by
  rw [readBitmap] at read
  obtain ⟨start, second, asked, read⟩ := Reading.bind_eq_ok read
  obtain ⟨file, third, header, read⟩ := Reading.bind_eq_ok read
  obtain ⟨info, behind, described, read⟩ := Reading.bind_eq_ok read
  obtain ⟨passed, checked, read⟩ := Reading.lift_bind_eq_ok read
  obtain ⟨placed, sought, moved, read⟩ := Reading.bind_eq_ok read
  obtain ⟨blank, built, read⟩ := Reading.lift_bind_eq_ok read
  obtain ⟨-, rfl⟩ := Bitmap.allocate_eq_ok.mp built
  obtain ⟨progress, last, rows, read⟩ := Reading.bind_eq_ok read
  cases read
  obtain ⟨rfl, -⟩ := Reading.position_moved asked
  refine ⟨file, info, behind, sought, ?_, checked, Reading.seek_moved moved, progress, rows⟩
  rw [readFront, Reading.bind_ok asked, Reading.bind_ok header, Reading.bind_ok described]
  rfl

namespace Parts

include parts

theorem front_moved : stream.MovedTo (stream.position + file.span info.layout) behind :=
  (readFront_eq_ok parts.front).2.2

theorem pixels_moved :
    sought.MovedTo (sought.position + info.height.toNat * info.rowBytes) rest := by
  obtain ⟨progress, rows⟩ := parts.pixels
  exact readRows_moved rows

theorem pixels_pos : 0 < info.height.toNat * info.rowBytes := by
  have sides := (readFront_eq_ok parts.front).2.1
  obtain ⟨hasColumns, hasRows, -⟩ := (Limits.checkDimensions_eq_ok_iff sides).mp parts.admitted
  exact Nat.mul_pos hasRows (info.rowBytes_pos hasColumns)

theorem behind_le (unshared : ¬file.MasksShared info.layout) :
    behind.position ≤ sought.position := by
  have clear := (readFront_eq_ok parts.front).1.mpr unshared
  rw [parts.front_moved.position, parts.moved.position]
  exact Nat.add_le_add_left clear stream.position

theorem disjoint (unshared : ¬file.MasksShared info.layout) :
    Disjoint (stream.passed behind) (sought.passed rest) := by
  have order := parts.behind_le unshared
  exact Set.Ico_disjoint_Ico.mpr (min_le_of_left_le (le_max_of_le_right order))

theorem mem_both (shared : file.MasksShared info.layout) :
    sought.position ∈ stream.passed behind ∧ sought.position ∈ sought.passed rest := by
  have short := mt (readFront_eq_ok parts.front).1.mp (not_not_intro shared)
  have place := parts.moved.position
  have ending := parts.front_moved.position
  have later := parts.pixels_moved.position
  have filled := parts.pixels_pos
  exact ⟨⟨by omega, by omega⟩, ⟨Nat.le_refl _, by omega⟩⟩

end Parts

end Parts

end Dib

/-- Both headers are read up to their end, and the pixels from the place the file header gives. No
byte is passed both times, and the pixels start behind all of the headers, unless the masks stand
behind the info header and the pixels start among them. The first byte of the first pixel is then
also a byte of a mask. -/
theorem dib_headers_apart (limits : Limits) {stream rest : Stream} {bitmap : Bitmap}
    (read : Dib.readBitmap limits stream = (.ok bitmap, rest)) :
    ∃ file info behind sought, Dib.Parts limits stream rest file info behind sought ∧
      stream.MovedTo (stream.position + file.span info.layout) behind ∧
      sought.MovedTo (sought.position + info.height.toNat * info.rowBytes) rest ∧
      (¬file.MasksShared info.layout →
        behind.position ≤ sought.position ∧ Disjoint (stream.passed behind) (sought.passed rest)) ∧
      (file.MasksShared info.layout →
        sought.position ∈ stream.passed behind ∧ sought.position ∈ sought.passed rest) := by
  obtain ⟨file, info, behind, sought, parts⟩ := Dib.readBitmap_parts read
  refine ⟨file, info, behind, sought, parts, parts.front_moved, parts.pixels_moved, ?_, ?_⟩
  · intro unshared
    exact ⟨parts.behind_le unshared, parts.disjoint unshared⟩
  · intro shared
    exact parts.mem_both shared

namespace Dib

def short (offset : UInt8) : Stream := .ofBytes
  #[0x42, 0x4d, 70, 0, 0, 0, 0, 0, 0, 0, offset, 0, 0, 0, 40, 0, 0, 0, 1, 0, 0, 0, 1, 0, 0, 0, 1, 0,
    32, 0, 3, 0, 0, 0, 0, 0, 0, 0, 0, 0, 0, 0, 0, 0, 0, 0, 0, 0, 0, 0, 0, 0, 0, 0, 0, 0, 0xff, 0, 0,
    0xff, 0, 0, 0xff, 0, 0, 0, 0x33, 0x22, 0x11, 0] 0 (FaultPlan.none.shorten 5)

def short.info : Info :=
  ⟨1, 1, false, .masked32 ⟨0xff0000, 16, 0xff⟩ ⟨0xff00, 8, 0xff⟩ ⟨0xff, 0, 0xff⟩ none⟩

theorem readFront_short {file : FileHeader} {info : Info} {rest : Stream} {offset : UInt8}
    (sample : offset = 54 ∨ offset = 66)
    (read : readFront (short offset) = (.ok (file, info), rest)) :
    file = ⟨offset.toUInt32, 40⟩ ∧ info = short.info := by
  have front : (readFront (short offset)).1 = .ok (⟨offset.toUInt32, 40⟩, short.info) := by
    rcases sample with rfl | rfl <;> decide +kernel
  rw [read] at front
  cases front
  exact ⟨rfl, rfl⟩

end Dib

theorem dib_headers_apart_short :
    ∃ rest, Dib.readBitmap Limits.standard (Dib.short 66) =
        (.ok ⟨1, 1, 1, #[⟨0xff112233⟩]⟩, rest) ∧
      ∃ file info behind sought,
        Dib.Parts Limits.standard (Dib.short 66) rest file info behind sought ∧
        ¬file.MasksShared info.layout ∧
        Disjoint ((Dib.short 66).passed behind) (sought.passed rest) := by
  have shown : (Dib.readBitmap Limits.standard (Dib.short 66)).1 =
      .ok ⟨1, 1, 1, #[⟨0xff112233⟩]⟩ := by decide +kernel
  have read : Dib.readBitmap Limits.standard (Dib.short 66) =
      (.ok ⟨1, 1, 1, #[⟨0xff112233⟩]⟩, _) := Prod.ext shown rfl
  obtain ⟨file, info, behind, sought, parts, -, -, apart, -⟩ :=
    dib_headers_apart Limits.standard read
  obtain ⟨rfl, rfl⟩ := Dib.readFront_short (.inr rfl) parts.front
  have unshared : ¬Dib.FileHeader.MasksShared ⟨66, 40⟩ Dib.short.info.layout :=
    fun shared => absurd shared.2.2 (by decide)
  exact ⟨_, read, _, _, behind, sought, parts, unshared, (apart unshared).2⟩

/-- The pixels start where the red mask does, and the file is read with the mask as its pixel. -/
theorem dib_mask_read_as_pixel :
    ∃ rest, Dib.readBitmap Limits.standard (Dib.short 54) =
        (.ok ⟨1, 1, 1, #[⟨0xffff0000⟩]⟩, rest) ∧
      ∃ file info behind sought,
        Dib.Parts Limits.standard (Dib.short 54) rest file info behind sought ∧
        ¬behind.position ≤ sought.position ∧
        ¬Disjoint ((Dib.short 54).passed behind) (sought.passed rest) := by
  have shown : (Dib.readBitmap Limits.standard (Dib.short 54)).1 =
      .ok ⟨1, 1, 1, #[⟨0xffff0000⟩]⟩ := by decide +kernel
  have read : Dib.readBitmap Limits.standard (Dib.short 54) =
      (.ok ⟨1, 1, 1, #[⟨0xffff0000⟩]⟩, _) := Prod.ext shown rfl
  obtain ⟨file, info, behind, sought, parts⟩ := Dib.readBitmap_parts read
  obtain ⟨rfl, rfl⟩ := Dib.readFront_short (.inl rfl) parts.front
  have shared : Dib.FileHeader.MasksShared ⟨54, 40⟩ Dib.short.info.layout :=
    ⟨rfl, rfl, by decide⟩
  obtain ⟨inFront, inPixels⟩ := parts.mem_both shared
  refine ⟨_, read, _, _, behind, sought, parts, Nat.not_le_of_lt inFront.2, ?_⟩
  exact Set.not_disjoint_iff.mpr ⟨_, inFront, inPixels⟩

end Raster
