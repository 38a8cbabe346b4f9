import Raster.Proofs.Dib.Rows
import Raster.Proofs.InRange
import Raster.Proofs.Resample.Walk

/-!
Reading of device-independent bitmaps with every step checked on the way. Where the layout has masks
of bit runs, and a stored row is whole, it has a pixel for each column, and decoding it passes.
-/

namespace Raster

namespace Dib

namespace Checked

/-- The mask of a word, or none where its bits have gaps. -/
def mask? (word : UInt32) : Option (Option Mask) :=
  if word = 0 then some none
  else do
    let shift := UInt32.ofNat (Mask.lowestBit word)
    let largest ← shifted? word shift
    return if largest &&& (largest + 1) = 0 then some ⟨word, shift, largest⟩ else none

def extract? (mask : Mask) (value : UInt32) : Option UInt8 := do
  let field ← shifted? (value &&& mask.bits) mask.shift
  let product ← Resample.doubleWord? (field.toNat * 255)
  let sum ← Resample.doubleWord? (product.toNat + mask.largest.toNat / 2)
  let level ← quotient? sum.toNat mask.largest.toNat
  byte? level

def pixel? (layout : Layout) (row : Array UInt8) (column : Nat) : Option Pixel :=
  match layout with
  | .masked32 red green blue alpha => do
      let start := column * 4
      let value := (← row[start]?).toUInt32 ||| ((← row[start + 1]?).toUInt32 <<< 8)
        ||| ((← row[start + 2]?).toUInt32 <<< 16) ||| ((← row[start + 3]?).toUInt32 <<< 24)
      let opacity ← match alpha with
        | some mask => extract? mask value
        | none => some 0xff
      return Pixel.ofChannels opacity (← extract? red value) (← extract? green value)
        (← extract? blue value)
  | plain => plain.pixel? row column

def rowBytes? (info : Info) : Option Nat := do
  let bits ← Resample.doubleWord? (info.width.toNat * info.layout.bits)
  let bytes ← Resample.doubleWord? ((bits.toNat + 31) / 32 * 4)
  return bytes.toNat

def targetRow? (info : Info) (stored : UInt32) : Option UInt32 :=
  if info.topDown then some stored
  else do
    let last ← difference? info.height.toNat 1
    let row ← difference? last stored.toNat
    Resample.word? row

/-- Decodes one stored row into its place, which has to get a pixel in each of its columns. -/
def decodeRow (info : Info) (stored : UInt32) (row : Array UInt8) :
    Progress → Except Failure Progress
  | ⟨bitmap, alphaSeen⟩ => do
      let target ← demand (targetRow? info stored)
      unless ∀ column < info.width.toNat, (pixel? info.layout row column).isSome do
        throw .panicked
      let bitmap ← demand <| bitmap.mapRow? target fun column old =>
        (pixel? info.layout row column).getD old
      let pixels ← demand (bitmap.row? target)
      return ⟨bitmap, alphaUnion pixels alphaSeen⟩

def readRows (info : Info) (rowBytes stored : Nat) : Nat → Progress → Reading Progress
  | 0, progress => return progress
  | count + 1, progress => do
      let row ← Reading.exactly rowBytes (.decode (.dibTruncated .pixelData))
      let progress ← decodeRow info (UInt32.ofNat stored) row progress
      readRows info rowBytes (stored + 1) count progress

def finish (progress : Progress) (layout : Layout) : Except Failure Bitmap := do
  unless ∀ y < progress.bitmap.height.toNat, progress.bitmap.hasRow (UInt32.ofNat y) do
    throw .panicked
  return progress.finish layout

def fileHeader (bytes : Array UInt8) : Except Failure FileHeader := do
  let first ← byteAt bytes 0
  let second ← byteAt bytes 1
  unless first = 0x42 ∧ second = 0x4d do
    throw (.refused (.decode .dibSignatureMissing))
  let pixelOffset ← wordAt bytes 10
  let headerSize ← wordAt bytes 14
  unless headerSize = coreHeaderSize ∨ headerSize ∈ infoHeaderSizes do
    throw (.refused (.decode (.dibHeaderSizeUnknown headerSize)))
  let headers ← demand (Resample.word? (fileHeaderSize.toNat + headerSize.toNat))
  if pixelOffset < headers then
    throw (.refused (.decode .dibHeadersOverlap))
  return ⟨pixelOffset, headerSize⟩

def readFileHeader : Reading FileHeader := do
  let bytes ← Reading.exactly 18 (.decode (.dibTruncated .fileHeader))
  fileHeader bytes

def readInfo (headerSize : UInt32) : Reading Info := do
  let _ ← demand (difference? headerSize.toNat 4)
  Dib.readInfo headerSize

def checkDimensions (limits : Limits) (width height : UInt32) : Except Failure Unit := do
  let area ← demand (Resample.doubleWord? (width.toNat * height.toNat))
  let _ ← demand (Resample.doubleWord? (area.toNat * 4))
  limits.checkDimensions width height

def readBitmap (limits : Limits) : Reading Bitmap := do
  let start ← Reading.position (.during .dibPosition)
  let file ← readFileHeader
  let info ← readInfo file.headerSize
  checkDimensions limits info.width info.height
  let rowBytes ← demand (rowBytes? info)
  let target ← demand (Resample.doubleWord? (start + file.pixelOffset.toNat))
  Reading.seek target.toNat (.during .dibSeek)
  let bitmap ← Bitmap.withSize info.width info.height
  let progress ← readRows info rowBytes 0 info.height.toNat ⟨bitmap, 0⟩
  finish progress info.layout

section Numbers

theorem mask?_eq (word : UInt32) : mask? word = some (Mask.ofWord? word) := by
  rw [mask?, Mask.ofWord?]
  split
  · rfl
  · rename_i filled
    have within : UInt32.ofNat (Mask.lowestBit word) < 32 := by
      rw [UInt32.lt_iff_toNat_lt, Mask.lowestBit_toNat filled]
      exact Mask.lowestBit_lt filled
    simp only [shifted?_eq_some within]
    rfl

theorem extract?_eq (run : BitRun) (value : UInt32) :
    extract? run.mask value = some (run.mask.extract value) := by
  have small := run.largest_lt
  have bounded := run.field_lt value.toNat
  have sum : run.field value.toNat * 255 + run.largest / 2 < 2 ^ 64 := by omega
  have product : run.field value.toNat * 255 < 2 ^ 64 :=
    Nat.lt_of_le_of_lt (Nat.le_add_right _ _) sum
  have within : run.mask.shift < 32 := by
    have below := run.below_lt
    rw [UInt32.lt_iff_toNat_lt]
    change (UInt32.ofNat run.below).toNat < 32
    rwa [UInt32.toNat_ofNat_of_lt' (show run.below < 2 ^ 32 by omega)]
  have cut : shifted? (value &&& run.mask.bits) run.mask.shift = some (run.mask.field value) :=
    shifted?_eq_some within
  have level : quotient? (run.field value.toNat * 255 + run.largest / 2) run.largest =
      some (run.level value.toNat) := if_neg (Nat.ne_of_gt run.largest_pos)
  have byte : byte? (run.level value.toNat) = some (UInt8.ofNat (run.level value.toNat)) :=
    if_pos (Nat.lt_succ_of_le (run.level_le _))
  simp only [extract?, cut, Option.bind_eq_bind, Option.bind_some, run.field_toNat,
    run.largest_toNat, Resample.doubleWord?_eq_some product, UInt64.toNat_ofNat_of_lt' product,
    Resample.doubleWord?_eq_some sum, UInt64.toNat_ofNat_of_lt' sum, level, byte]
  rw [← run.extract_toNat, UInt8.ofNat_toNat]

theorem pixel?_eq_pixel? (encoding : Encoding) (row : Array UInt8) (column : Nat) :
    pixel? encoding.layout row column = encoding.layout.pixel? row column := by
  cases encoding with
  | colour24 => rfl
  | colourAlpha32 => rfl
  | colour48 => rfl
  | fields32 red green blue alpha =>
      cases alpha with
      | none =>
          simp only [Encoding.layout, pixel?, Layout.pixel?, extract?_eq]
          rfl
      | some run =>
          simp only [Encoding.layout, Option.map_some, pixel?, Layout.pixel?, extract?_eq]
          rfl

end Numbers

section Rows

variable {info : Info}

theorem bits_le (layout : Layout) : layout.bits ≤ 48 := by
  cases layout <;> simp [Layout.bits]

theorem rowBytes?_eq (info : Info) : rowBytes? info = some info.rowBytes := by
  have width := info.width.toNat_lt
  have product : info.width.toNat * info.layout.bits < 2 ^ 64 :=
    Nat.lt_of_le_of_lt (Nat.mul_le_mul_left _ (bits_le _)) (by omega)
  have bytes : (info.width.toNat * info.layout.bits + 31) / 32 * 4 < 2 ^ 64 := by omega
  simp only [rowBytes?, Option.bind_eq_bind, Resample.doubleWord?_eq_some product, Option.bind_some,
    UInt64.toNat_ofNat_of_lt' product, Resample.doubleWord?_eq_some bytes]
  rw [UInt64.toNat_ofNat_of_lt' bytes]
  rfl

theorem targetRow?_eq {stored : UInt32} (below : stored < info.height) :
    targetRow? info stored = some (info.targetRow stored) := by
  have row := UInt32.lt_iff_toNat_lt.mp below
  have target := Info.targetRow_toNat below
  have height := info.height.toNat_lt
  rw [targetRow?]
  split
  · rename_i topDown
    rw [Info.targetRow, if_pos topDown]
  · rename_i bottomUp
    rw [if_neg bottomUp] at target
    have last : difference? info.height.toNat 1 = some (info.height.toNat - 1) :=
      if_pos (by omega)
    have place : difference? (info.height.toNat - 1) stored.toNat =
        some (info.height.toNat - 1 - stored.toNat) := if_pos (by omega)
    have word : Resample.word? (info.height.toNat - 1 - stored.toNat) =
        some (UInt32.ofNat (info.height.toNat - 1 - stored.toNat)) := if_pos (by omega)
    simp only [last, place, word, Option.bind_eq_bind, Option.bind_some]
    rw [← target, UInt32.ofNat_toNat]

variable {encoding : Encoding} (layout : info.layout = encoding.layout)

include layout

theorem pixel?_isSome {row : Array UInt8} (whole : row.size = info.rowBytes) {column : Nat}
    (inside : column < info.width.toNat) : (pixel? info.layout row column).isSome = true := by
  have fits : column * encoding.size + encoding.size ≤ row.size := by
    rw [whole, Info.rowBytes, layout]
    cases encoding <;> simp only [Encoding.layout, Layout.bits, Encoding.size] <;> omega
  have found := Dib.pixel?_eq encoding fits (show 0 + row.size ≤ row.size by omega)
  rw [Nat.zero_add, Array.extract_size] at found
  rw [layout, pixel?_eq_pixel?, found]
  rfl

theorem decodeRow_passes {stored : UInt32} (below : stored < info.height) {row : Array UInt8}
    (whole : row.size = info.rowBytes) {progress : Progress}
    (formed : progress.bitmap.WellFormed) (tall : progress.bitmap.height = info.height) :
    decodeRow info stored row progress = Dib.decodeRow info stored row progress ∧
      InRange (Dib.decodeRow info stored row progress) := by
  obtain ⟨bitmap, seen⟩ := progress
  have filled : ∀ column < info.width.toNat, (pixel? info.layout row column).isSome = true :=
    fun column inside => pixel?_isSome layout whole inside
  have change : (fun column old => (pixel? info.layout row column).getD old) =
      fun column old => (info.layout.pixel? row column).getD old := by
    funext column old
    rw [layout, pixel?_eq_pixel?]
  have inside : info.targetRow stored < bitmap.height := by
    have target := Info.targetRow_toNat below
    have row := UInt32.lt_iff_toNat_lt.mp below
    rw [tall, UInt32.lt_iff_toNat_lt, target]
    split
    · exact row
    · omega
  obtain ⟨seenNext, decoded, -⟩ := decodeRow_eq_ok row seen formed inside
  refine ⟨?_, ?_⟩
  · simp only [decodeRow, Dib.decodeRow, targetRow?_eq below, demand, ok_bind]
    rw [if_pos filled, change]
    cases bitmap.mapRow? (info.targetRow stored)
        fun column old => (info.layout.pixel? row column).getD old with
    | none => rfl
    | some changed =>
        simp only [ok_bind]
        cases changed.row? (info.targetRow stored) with
        | none => rfl
        | some pixels => rfl
  · rw [decoded]
    exact inRange_ok _

theorem readRows_passes (count : Nat) {stored : Nat} (reach : stored + count = info.height.toNat)
    {progress : Progress} (formed : progress.bitmap.WellFormed)
    (tall : progress.bitmap.height = info.height) {granted : Prop} {stream : Stream} :
    Reading.Passes granted (readRows info info.rowBytes stored count progress)
      (Dib.readRows info stored count progress) stream := by
  induction count generalizing stored progress stream with
  | zero => exact Reading.passes_pure _
  | succ count ih =>
      have available : stored < info.height.toNat := by omega
      obtain ⟨below, -⟩ := Bitmap.counted available
      refine (Reading.passes_exactly _ _).bind fun row rest read => ?_
      obtain ⟨same, inRange⟩ :=
        decodeRow_passes layout below (Reading.exactly_size read) formed tall
      refine (Reading.passes_lift same inRange).bind fun next last decoded => ?_
      have shape := decodeRow_sameShape (Reading.lift_eq_ok decoded).1
      exact ih (by omega) (shape.wellFormed formed) (shape.height.trans tall)

omit layout in
theorem finish_passes {progress : Progress} (formed : progress.bitmap.WellFormed)
    (layout : Layout) : finish progress layout = .ok (progress.finish layout) := by
  have rows : ∀ y < progress.bitmap.height.toNat,
      progress.bitmap.hasRow (UInt32.ofNat y) = true := by
    intro y below
    exact formed.hasRow (Bitmap.counted below).1
  rw [finish, if_pos rows]
  rfl

end Rows

end Checked

end Dib

end Raster
