import Raster.Dib.Decode
import Raster.Proofs.Channels
import Raster.Proofs.Limits
import Raster.Proofs.Opacity
import Raster.Proofs.Reading

/-!
What a device-independent bitmap is like once it is decoded, from whatever stream and under
whatever faults: it has the size that its header gives and has passed the check of the limits, and
layouts without room for alpha come out solid.
-/

namespace Raster.Dib

theorem magnitude_le (word : UInt32) : (magnitude word).toNat ≤ 2 ^ 31 := by
  rw [magnitude]
  split
  · rename_i negative
    have large := UInt32.le_iff_toNat_le.mp (of_decide_eq_true negative)
    rw [UInt32.toNat_sub]
    simp only [UInt32.reduceToNat] at large ⊢
    omega
  · rename_i positive
    have small := mt UInt32.le_iff_toNat_le.mpr
      (of_decide_eq_false (Bool.not_eq_true _ ▸ positive))
    simp only [UInt32.reduceToNat] at small
    omega

theorem magnitude_lt {word : UInt32} (positive : isNegative word = false) :
    (magnitude word).toNat < 2 ^ 31 := by
  have small := mt UInt32.le_iff_toNat_le.mpr (of_decide_eq_false positive)
  rw [magnitude, positive]
  simp only [UInt32.reduceToNat] at small
  change word.toNat < _
  omega

theorem byteAt_eq_ok {bytes : Array UInt8} {index : Nat} {value : UInt8}
    (read : byteAt bytes index = .ok value) : bytes[index]? = some value := by
  rw [byteAt] at read
  split at read
  · rename_i byte found
    cases read
    exact found
  · cases read

theorem FileHeader.ofBytes_eq_ok {bytes : Array UInt8} {file : FileHeader}
    (read : FileHeader.ofBytes bytes = .ok file) :
    (bytes[0]? = some 0x42 ∧ bytes[1]? = some 0x4d) ∧
      (file.headerSize = coreHeaderSize ∨ file.headerSize ∈ infoHeaderSizes) ∧
      ¬file.pixelOffset < fileHeaderSize + file.headerSize := by
  rw [ofBytes] at read
  obtain ⟨first, firstRead, read⟩ := bind_eq_ok read
  obtain ⟨second, secondRead, read⟩ := bind_eq_ok read
  split at read
  · rename_i signed
    rw [byteAt_eq_ok firstRead, byteAt_eq_ok secondRead, signed.1, signed.2]
    obtain ⟨pixelOffset, -, read⟩ := bind_eq_ok read
    obtain ⟨headerSize, -, read⟩ := bind_eq_ok read
    by_cases known : headerSize = coreHeaderSize ∨ headerSize ∈ infoHeaderSizes
    · rw [if_pos known] at read
      simp only at read
      split at read
      · cases read
      · rename_i apart
        cases read
        exact ⟨⟨rfl, rfl⟩, known, apart⟩
    · rw [if_neg known] at read
      cases read
  · cases read

theorem Info.ofCore_eq_ok {bytes : Array UInt8} {info : Info}
    (read : Info.ofCore bytes = .ok info) :
    ∃ width height : UInt16, info = ⟨width.toUInt32, height.toUInt32, false, .blueGreenRed24⟩ := by
  rw [Info.ofCore] at read
  obtain ⟨width, -, read⟩ := bind_eq_ok read
  obtain ⟨height, -, read⟩ := bind_eq_ok read
  obtain ⟨planes, -, read⟩ := bind_eq_ok read
  split at read
  · obtain ⟨bits, -, read⟩ := bind_eq_ok read
    have whole : Except.ok ⟨width.toUInt32, height.toUInt32, false, .blueGreenRed24⟩ =
        (.ok info : Except Failure Info) := by
      split at read
      · exact read
      · cases read
    cases whole
    exact ⟨width, height, rfl⟩
  · cases read

theorem Info.ofCore_sides {bytes : Array UInt8} {info : Info}
    (read : Info.ofCore bytes = .ok info) : Sides info.width info.height := by
  obtain ⟨width, height, rfl⟩ := Info.ofCore_eq_ok read
  have widthBound := width.toNat_lt
  have heightBound := height.toNat_lt
  refine ⟨?_, ?_⟩
  · simp only [UInt16.toNat_toUInt32]
    omega
  · simp only [UInt16.toNat_toUInt32]
    omega

theorem readInfo_sides {headerSize : UInt32} {stream rest : Stream} {info : Info}
    (read : readInfo headerSize stream = (.ok info, rest)) : Sides info.width info.height := by
  rw [readInfo] at read
  obtain ⟨bytes, second, -, read⟩ := Reading.bind_eq_ok read
  split at read
  · exact Info.ofCore_sides (Reading.lift_eq_ok read).1
  · obtain ⟨width, third, -, read⟩ := Reading.bind_eq_ok read
    obtain ⟨height, fourth, -, read⟩ := Reading.bind_eq_ok read
    split at read
    · cases read
    · rename_i filled
      obtain ⟨planes, fifth, -, read⟩ := Reading.bind_eq_ok read
      split at read
      · obtain ⟨layout, sixth, -, read⟩ := Reading.bind_eq_ok read
        cases read
        have positive : isNegative width = false := by
          simpa using fun negative => filled (.inr (.inl negative))
        exact ⟨magnitude_lt positive, magnitude_le height⟩
      · cases read

def readHeaders : Reading Info := do
  let _ ← Reading.position (.during .dibPosition)
  let file ← readFileHeader
  readInfo file.headerSize

def readPlan (limits : Limits) : Reading Info := do
  let start ← Reading.position (.during .dibPosition)
  let file ← readFileHeader
  let info ← readInfo file.headerSize
  limits.checkDimensions info.width info.height
  Reading.seek (start + file.pixelOffset.toNat) (.during .dibSeek)
  return info

def readFilled (info : Info) (bitmap : Bitmap) : Reading Bitmap := do
  let progress ← readRows info 0 info.height.toNat ⟨bitmap, 0⟩
  return progress.finish info.layout

def readPixels (info : Info) : Reading Bitmap := do
  let bitmap ← Bitmap.withSize info.width info.height
  readFilled info bitmap

theorem readBitmap_eq_plan (limits : Limits) :
    readBitmap limits = readPlan limits >>= readPixels := by
  simp only [readBitmap, readPlan, readPixels, readFilled, bind_assoc, pure_bind]

section Allocation

variable {info : Info} {stream : Stream}

theorem readPixels_of_le
    (fits : Bitmap.storageBytes info.height info.width ≤ Bitmap.largestAllocation) :
    readPixels info stream = readFilled info (Bitmap.blank info.width info.height) stream := by
  have built : Bitmap.withSize info.width info.height =
      .ok (Bitmap.blank info.width info.height) := Bitmap.allocate_eq_ok.mpr ⟨fits, rfl⟩
  rw [readPixels, built, Reading.bind_ok (Reading.lift_eq _)]

theorem readPixels_of_lt
    (large : Bitmap.largestAllocation < Bitmap.storageBytes info.height info.width) :
    readPixels info stream = (.error .panicked, stream) := by
  have refused : Bitmap.withSize info.width info.height = .error .panicked :=
    Bitmap.allocate_eq_error.mpr ⟨large, rfl⟩
  rw [readPixels, refused, Reading.bind_error (Reading.lift_eq _)]

theorem readBitmap_panics {limits : Limits} {rest : Stream}
    (planned : readPlan limits stream = (.ok info, rest))
    (large : Bitmap.largestAllocation < Bitmap.storageBytes info.height info.width) :
    readBitmap limits stream = (.error .panicked, rest) := by
  rw [readBitmap_eq_plan, Reading.bind_ok planned, readPixels_of_lt large]

end Allocation

namespace Info

variable {info : Info}

theorem targetRow_toNat {stored : UInt32} (below : stored < info.height) :
    (info.targetRow stored).toNat =
      if info.topDown then stored.toNat else info.height.toNat - 1 - stored.toNat := by
  have row := UInt32.lt_iff_toNat_lt.mp below
  rw [targetRow]
  split
  · rfl
  · have one : (1 : UInt32) ≤ info.height := by
      rw [UInt32.le_iff_toNat_le]
      exact Nat.one_le_of_lt row
    have last : (info.height - 1).toNat = info.height.toNat - 1 := UInt32.toNat_sub_of_le _ _ one
    have earlier : stored ≤ info.height - 1 := by
      rw [UInt32.le_iff_toNat_le, last]
      omega
    rw [UInt32.toNat_sub_of_le _ _ earlier, last]

theorem exists_targetRow {y : Nat} (below : y < info.height.toNat) :
    ∃ stored : Nat, stored < info.height.toNat ∧
      (info.targetRow (UInt32.ofNat stored)).toNat = y := by
  have found {stored : Nat} (row : stored < info.height.toNat) :
      (info.targetRow (UInt32.ofNat stored)).toNat =
        if info.topDown then stored else info.height.toNat - 1 - stored := by
    obtain ⟨inside, same⟩ := Bitmap.counted row
    rw [targetRow_toNat inside, same]
  by_cases topDown : info.topDown
  · exact ⟨y, below, by rw [found below, if_pos topDown]⟩
  · have row : info.height.toNat - 1 - y < info.height.toNat := by omega
    refine ⟨_, row, ?_⟩
    rw [found row, if_neg topDown]
    omega

theorem rowBytes_fits (plain : info.layout.bits = 24 ∨ info.layout.bits = 48) {x : Nat}
    (inside : x < info.width.toNat) :
    (x + 1) * (info.layout.bits / 8) ≤ info.rowBytes := by
  rw [rowBytes]
  rcases plain with bits | bits
  · rw [bits]
    omega
  · rw [bits]
    omega

end Info

theorem Layout.pixel?_solid {layout : Layout} (plain : layout.bits = 24 ∨ layout.bits = 48)
    {row : Array UInt8} {column : Nat} (fits : (column + 1) * (layout.bits / 8) ≤ row.size) :
    (layout.pixel? row column).map Pixel.alpha = some 0xff := by
  have byte (place : Nat) (below : place < row.size) : row[place]? = some row[place] :=
    Array.getElem?_eq_getElem below
  cases layout with
  | blueGreenRed24 =>
      simp only [bits] at fits
      simp only [pixel?, byte (column * 3) (by omega), byte (column * 3 + 1) (by omega),
        byte (column * 3 + 2) (by omega)]
      exact congrArg some (Pixel.alpha_solid ..)
  | blueGreenRedAlpha32 => simp [bits] at plain
  | masked32 => simp [bits] at plain
  | blueGreenRed48 =>
      simp only [bits] at fits
      simp only [pixel?, byte (column * 6 + 1) (by omega), byte (column * 6 + 3) (by omega),
        byte (column * 6 + 5) (by omega)]
      exact congrArg some (Pixel.alpha_solid ..)

theorem decodeRow_bitmap {info : Info} {stored : UInt32} {row : Array UInt8}
    {progress next : Progress} (decoded : decodeRow info stored row progress = .ok next) :
    next.bitmap = progress.bitmap.changeRow
      (fun column old => (info.layout.pixel? row column).getD old)
      (info.targetRow stored).toNat := by
  rw [decodeRow, Bitmap.mapRow?] at decoded
  split at decoded
  · cases decoded
  · rename_i bitmap changed
    split at decoded
    · cases decoded
    · cases decoded
      split at changed
      · exact (Option.some.inj changed).symm
      · cases changed

theorem decodeRow_sameShape {info : Info} {stored : UInt32} {row : Array UInt8}
    {progress next : Progress} (decoded : decodeRow info stored row progress = .ok next) :
    progress.bitmap.SameShape next.bitmap := by
  rw [decodeRow_bitmap decoded]
  exact Bitmap.SameShape.changeRow ..

theorem decodeRow_solid {info : Info} {stored : UInt32} {row : Array UInt8}
    {progress next : Progress} (decoded : decodeRow info stored row progress = .ok next)
    (plain : info.layout.bits = 24 ∨ info.layout.bits = 48) (whole : row.size = info.rowBytes)
    (formed : progress.bitmap.WellFormed) (wide : progress.bitmap.width = info.width)
    (below : (info.targetRow stored).toNat < progress.bitmap.height.toNat) {y : Nat}
    (solid : y = (info.targetRow stored).toNat ∨ progress.bitmap.SolidRow y) :
    next.bitmap.SolidRow y := by
  rw [decodeRow_bitmap decoded]
  intro x inside
  rw [Bitmap.changeRow_width] at inside
  rw [Bitmap.changeRow_stride,
    Bitmap.getElem?_changeRow_place _ _ _ formed.widthBound inside]
  split
  · rename_i here
    rw [Array.getElem?_eq_getElem (formed.slot_inside (here ▸ below) inside), Option.map_some,
      Option.map_some]
    rw [wide] at inside
    have shown := Layout.pixel?_solid plain
      (show (x + 1) * _ ≤ row.size by rw [whole]; exact Info.rowBytes_fits plain inside)
    obtain ⟨pixel, found, full⟩ := Option.map_eq_some_iff.mp shown
    rw [found, Option.getD_some, full]
  · rename_i elsewhere
    exact solid.resolve_left elsewhere x inside

/-- The first rows in the order of the file have become solid. -/
structure Solidified (info : Info) (count : Nat) (bitmap : Bitmap) : Prop where
  shape : (Bitmap.blank info.width info.height).SameShape bitmap
  rows : ∀ stored : Nat, stored < count →
    bitmap.SolidRow (info.targetRow (UInt32.ofNat stored)).toNat

theorem Solidified.step {info : Info} {count : Nat} {row : Array UInt8} {progress next : Progress}
    (solidified : Solidified info count progress.bitmap)
    (plain : info.layout.bits = 24 ∨ info.layout.bits = 48) (available : count < info.height.toNat)
    (whole : row.size = info.rowBytes)
    (decoded : decodeRow info (UInt32.ofNat count) row progress = .ok next) :
    Solidified info (count + 1) next.bitmap := by
  obtain ⟨shape, rows⟩ := solidified
  have below : (info.targetRow (UInt32.ofNat count)).toNat < progress.bitmap.height.toNat := by
    obtain ⟨inside, same⟩ := Bitmap.counted available
    rw [shape.height, Info.targetRow_toNat inside]
    change _ < info.height.toNat
    rw [same]
    split
    · exact available
    · omega
  refine ⟨shape.trans (decodeRow_sameShape decoded), ?_⟩
  intro stored earlier
  have formed := shape.wellFormed (Bitmap.blank_wellFormed ..)
  apply decodeRow_solid decoded plain whole formed shape.width below
  rcases Nat.lt_succ_iff_lt_or_eq.mp earlier with before | last
  · exact .inr (rows stored before)
  · exact .inl (by rw [last])

theorem readRows_sameShape {info : Info} {count stored : Nat} {progress last : Progress}
    {stream rest : Stream} (read : readRows info stored count progress stream = (.ok last, rest)) :
    progress.bitmap.SameShape last.bitmap := by
  induction count generalizing stored progress stream with
  | zero =>
      cases read
      exact .refl _
  | succ count ih =>
      rw [readRows] at read
      obtain ⟨row, between, -, read⟩ := Reading.bind_eq_ok read
      obtain ⟨next, after, lifted, read⟩ := Reading.bind_eq_ok read
      exact (decodeRow_sameShape (Reading.lift_eq_ok lifted).1).trans (ih read)

theorem readRows_solidified {info : Info} {count stored : Nat} {progress last : Progress}
    {stream rest : Stream} (plain : info.layout.bits = 24 ∨ info.layout.bits = 48)
    (reach : stored + count = info.height.toNat)
    (solidified : Solidified info stored progress.bitmap)
    (read : readRows info stored count progress stream = (.ok last, rest)) :
    Solidified info info.height.toNat last.bitmap := by
  induction count generalizing stored progress stream with
  | zero =>
      cases read
      rw [← reach]
      exact solidified
  | succ count ih =>
      rw [readRows] at read
      obtain ⟨row, between, asked, read⟩ := Reading.bind_eq_ok read
      obtain ⟨next, after, lifted, read⟩ := Reading.bind_eq_ok read
      exact ih (by omega) (solidified.step plain (by omega) (Reading.exactly_size asked)
        (Reading.lift_eq_ok lifted).1) read

theorem Progress.finish_sameShape (progress : Progress) (layout : Layout) :
    progress.bitmap.SameShape (progress.finish layout) := by
  rw [finish]
  split
  · exact Bitmap.SameShape.mapVisible ..
  · exact .refl _

theorem readBitmap_eq_ok {limits : Limits} {stream rest : Stream} {bitmap : Bitmap}
    (read : readBitmap limits stream = (.ok bitmap, rest)) :
    ∃ info between before progress, readHeaders stream = (.ok info, between) ∧
      limits.checkDimensions info.width info.height = .ok () ∧
      readRows info 0 info.height.toNat ⟨Bitmap.blank info.width info.height, 0⟩ before =
        (.ok progress, rest) ∧
      bitmap = progress.finish info.layout := by
  rw [readBitmap] at read
  obtain ⟨start, second, asked, read⟩ := Reading.bind_eq_ok read
  obtain ⟨file, third, header, read⟩ := Reading.bind_eq_ok read
  obtain ⟨info, fourth, described, read⟩ := Reading.bind_eq_ok read
  obtain ⟨passed, fifth, checked, read⟩ := Reading.bind_eq_ok read
  obtain ⟨placed, before, sought, read⟩ := Reading.bind_eq_ok read
  obtain ⟨blank, built, read⟩ := Reading.lift_bind_eq_ok read
  obtain ⟨-, rfl⟩ := Bitmap.allocate_eq_ok.mp built
  obtain ⟨progress, last, rows, read⟩ := Reading.bind_eq_ok read
  cases read
  refine ⟨info, fourth, before, progress, ?_, (Reading.lift_eq_ok checked).1, rows, rfl⟩
  rw [readHeaders, Reading.bind_ok asked, Reading.bind_ok header, described]

theorem readHeaders_sides {stream rest : Stream} {info : Info}
    (read : readHeaders stream = (.ok info, rest)) : Sides info.width info.height := by
  rw [readHeaders] at read
  obtain ⟨start, second, -, read⟩ := Reading.bind_eq_ok read
  obtain ⟨file, third, -, read⟩ := Reading.bind_eq_ok read
  exact readInfo_sides read

theorem readBitmap_admitted {limits : Limits} {stream rest : Stream} {bitmap : Bitmap}
    (read : readBitmap limits stream = (.ok bitmap, rest)) : limits.Admits bitmap := by
  obtain ⟨info, between, before, progress, headers, checked, rows, rfl⟩ := readBitmap_eq_ok read
  have blank : limits.Admits (Bitmap.blank info.width info.height) :=
    Limits.admits_of_check (Bitmap.blank_wellFormed ..) rfl (readHeaders_sides headers) checked
  exact blank.sameShape
    ((readRows_sameShape rows).trans (progress.finish_sameShape info.layout))

theorem readBitmap_solid {limits : Limits} {stream rest : Stream} {bitmap : Bitmap}
    (read : readBitmap limits stream = (.ok bitmap, rest)) :
    ∃ info between, readHeaders stream = (.ok info, between) ∧
      (info.layout.bits = 24 ∨ info.layout.bits = 48 → bitmap.Solid) := by
  obtain ⟨info, between, before, progress, headers, checked, rows, rfl⟩ := readBitmap_eq_ok read
  refine ⟨info, between, headers, ?_⟩
  intro plain
  have blank : Solidified info 0 (Bitmap.blank info.width info.height) :=
    ⟨.refl _, nofun⟩
  have solidified := readRows_solidified plain (Nat.zero_add _) blank rows
  have kept : progress.finish info.layout = progress.bitmap := by
    rw [Progress.finish, if_neg]
    rintro ⟨layout, -⟩
    rw [layout] at plain
    simp [Layout.bits] at plain
  rw [kept, Bitmap.solid_iff_rows]
  intro y below
  rw [solidified.shape.height] at below
  obtain ⟨stored, row, rfl⟩ := info.exists_targetRow below
  exact solidified.rows stored row

end Raster.Dib
