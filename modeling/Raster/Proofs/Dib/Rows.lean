import Raster.Proofs.Dib.Decoded
import Raster.Proofs.Dib.Pixels

/-!
Decoding rows one after the other. After some of them, those rows of the bitmap show the pixels of
the file, and the union of their alphas is zero if all of these are.
-/

namespace Raster.Dib

theorem alphaUnion_eq_zero (pixels : Array Pixel) (seen : UInt8) :
    alphaUnion pixels seen = 0 ↔ seen = 0 ∧ ∀ pixel ∈ pixels, pixel.alpha = 0 := by
  have union (remaining : List Pixel) : ∀ seen : UInt8,
      remaining.foldl (fun union pixel => union ||| pixel.alpha) seen = 0 ↔
        seen = 0 ∧ ∀ pixel ∈ remaining, pixel.alpha = 0 := by
    induction remaining with
    | nil => simp
    | cons pixel later ih =>
        intro seen
        rw [List.foldl_cons, ih, UInt8.or_eq_zero_iff, List.forall_mem_cons, and_assoc]
  rw [alphaUnion, ← Array.foldl_toList, union]
  simp only [Array.mem_toList_iff]

theorem decodeRow_eq_ok {info : Info} {stored : UInt32} (row : Array UInt8) {bitmap : Bitmap}
    (seen : UInt8) (formed : bitmap.WellFormed) (below : info.targetRow stored < bitmap.height) :
    let change (column : Nat) (old : Pixel) := (info.layout.pixel? row column).getD old
    let next := bitmap.changeRow change (info.targetRow stored).toNat
    ∃ seenNext, decodeRow info stored row ⟨bitmap, seen⟩ = .ok ⟨next, seenNext⟩ ∧
      (seenNext = 0 ↔ seen = 0 ∧ ∀ x pixel, x < bitmap.width.toNat →
        next.pixels[(info.targetRow stored).toNat * bitmap.stride.toNat + x]? = some pixel →
          pixel.alpha = 0) := by
  intro change next
  have formedNext : next.WellFormed := formed.changeRow change _
  have mapped : bitmap.mapRow? (info.targetRow stored) change = some next := by
    rw [Bitmap.mapRow?, if_pos (formed.hasRow below)]
  let visible := next.pixels.extract (next.rowStart (info.targetRow stored))
    (next.rowStart (info.targetRow stored) + next.width.toNat)
  have decoded : next.row? (info.targetRow stored) = some visible := by
    rw [Bitmap.row?, if_pos (formedNext.hasRow below)]
  refine ⟨alphaUnion visible seen, ?_, ?_⟩
  · simp only [decodeRow]
    rw [mapped]
    simp only [decoded]
  · rw [alphaUnion_eq_zero]
    apply and_congr_right'
    constructor
    · intro zero x pixel inside found
      exact zero pixel ((formedNext.mem_row below pixel).mpr ⟨x, inside, found⟩)
    · intro zero pixel member
      obtain ⟨x, inside, found⟩ := (formedNext.mem_row below pixel).mp member
      exact zero x pixel inside found

namespace Description

variable (file : Description) (bytes : Array UInt8) (start : Nat)

theorem storedRow_lt {y : Nat} (below : y < file.height) : file.storedRow y < file.height := by
  rw [storedRow]
  split
  · exact below
  · omega

theorem storedRow_storedRow {y : Nat} (below : y < file.height) :
    file.storedRow (file.storedRow y) = y := by
  simp only [storedRow]
  split
  · rfl
  · omega

theorem storedRow_lt_succ {y count : Nat} (below : y < file.height)
    (available : count < file.height) :
    file.storedRow y < count + 1 ↔ file.storedRow y < count ∨ y = file.storedRow count := by
  have back := file.storedRow_storedRow below
  have forth := file.storedRow_storedRow available
  constructor
  · intro reached
    rcases Nat.lt_succ_iff_lt_or_eq.mp reached with earlier | last
    · exact .inl earlier
    · right
      rw [← last, back]
  · rintro (earlier | last)
    · omega
    · rw [last, forth]
      exact Nat.lt_succ_self count

theorem targetRow_toNat (high : file.height ≤ 2 ^ 31) {count : Nat}
    (available : count < file.height) :
    (file.info.targetRow (UInt32.ofNat count)).toNat = file.storedRow count := by
  have counted := UInt32.toNat_ofNat_of_lt' (show count < 2 ^ 32 by omega)
  have tall : file.info.height.toNat = file.height :=
    UInt32.toNat_ofNat_of_lt' (show file.height < 2 ^ 32 by omega)
  have below : UInt32.ofNat count < file.info.height := by
    rw [UInt32.lt_iff_toNat_lt, counted, tall]
    exact available
  rw [Info.targetRow_toNat below, counted, tall, storedRow, info]

theorem columns_fit {x : Nat} (inside : x < file.width) :
    x * file.encoding.size + file.encoding.size ≤ file.rowSize := by
  have next : (x + 1) * file.encoding.size ≤ file.width * file.encoding.size :=
    Nat.mul_le_mul_right _ inside
  have bits : file.width * (8 * file.encoding.size) = 8 * (file.width * file.encoding.size) := by
    rw [Nat.mul_left_comm]
  rw [Nat.succ_mul] at next
  rw [rowSize, bits]
  omega

theorem rowSize_pos (hasColumns : 0 < file.width) : 0 < file.rowSize := by
  have fit := file.columns_fit hasColumns
  have size : 0 < file.encoding.size := by
    cases file.encoding <;> simp [Encoding.size]
  omega

/-- The first rows in the order of the file have been decoded. -/
structure Filled (count : Nat) (progress : Progress) : Prop where
  width : progress.bitmap.width = UInt32.ofNat file.width
  height : progress.bitmap.height = UInt32.ofNat file.height
  stride : progress.bitmap.stride = UInt32.ofNat file.width
  formed : progress.bitmap.WellFormed
  rows : ∀ y x, y < file.height → x < file.width → file.storedRow y < count →
    progress.bitmap.pixels[y * file.width + x]? =
      some (file.encoding.pixel bytes (file.pixelAt start y x))
  alphas : progress.alphaSeen = 0 ↔
    ∀ y x, y < file.height → x < file.width → file.storedRow y < count →
      (file.encoding.pixel bytes (file.pixelAt start y x)).alpha = 0

variable {file bytes start}

theorem filled_zero :
    file.Filled bytes start 0 ⟨Bitmap.blank file.info.width file.info.height, 0⟩ where
  width := rfl
  height := rfl
  stride := rfl
  formed := Bitmap.blank_wellFormed ..
  rows := by
    intro y x _ _ none
    omega
  alphas := by
    simp

theorem Filled.step {count : Nat} {progress : Progress}
    (filled : file.Filled bytes start count progress) (narrow : file.width < 2 ^ 31)
    (high : file.height ≤ 2 ^ 31) (available : count < file.height) {first : Nat}
    (place : first = start + file.pixelOffset + count * file.rowSize)
    (within : first + file.rowSize ≤ bytes.size) :
    ∃ next, decodeRow file.info (UInt32.ofNat count)
        (bytes.extract first (first + file.rowSize)) progress = .ok next ∧
      file.Filled bytes start (count + 1) next := by
  obtain ⟨bitmap, seen⟩ := progress
  obtain ⟨width, height, stride, formed, rows, alphas⟩ := filled
  simp only at width height stride formed rows alphas
  have target := file.targetRow_toNat high available
  have targetBound := file.storedRow_lt available
  have wide : bitmap.width.toNat = file.width := by
    rw [width, UInt32.toNat_ofNat_of_lt' (show file.width < 2 ^ 32 by omega)]
  have tall : bitmap.height.toNat = file.height := by
    rw [height, UInt32.toNat_ofNat_of_lt' (show file.height < 2 ^ 32 by omega)]
  have apart : bitmap.stride.toNat = file.width := by
    rw [stride, UInt32.toNat_ofNat_of_lt' (show file.width < 2 ^ 32 by omega)]
  have below : file.info.targetRow (UInt32.ofNat count) < bitmap.height := by
    rw [UInt32.lt_iff_toNat_lt, target, tall]
    exact targetBound
  let change (column : Nat) (old : Pixel) : Pixel :=
    (file.info.layout.pixel? (bytes.extract first (first + file.rowSize)) column).getD old
  have changed {x : Nat} (inside : x < file.width) (old : Pixel) :
      change x old =
        file.encoding.pixel bytes (file.pixelAt start (file.storedRow count) x) := by
    rw [pixelAt, file.storedRow_storedRow available, ← place]
    simp only [change, info, pixel?_eq file.encoding (file.columns_fit inside) within,
      Option.getD_some]
  have shown : ∀ y x, y < file.height → x < file.width → file.storedRow y < count + 1 →
      (bitmap.changeRow change (file.storedRow count)).pixels[y * file.width + x]? =
        some (file.encoding.pixel bytes (file.pixelAt start y x)) := by
    intro y x row column reached
    have old : bitmap.pixels[y * file.width + x]? ≠ none := by
      rw [← apart, Array.getElem?_eq_getElem (formed.slot_inside (by omega) (by omega))]
      exact Option.some_ne_none _
    rw [← apart, Bitmap.getElem?_changeRow_place _ _ _ formed.widthBound (by omega), apart]
    split
    · rename_i same
      obtain ⟨pixel, found⟩ := Option.ne_none_iff_exists'.mp old
      rw [found, Option.map_some, changed column, ← same]
    · rename_i other
      rcases (file.storedRow_lt_succ row available).mp reached with earlier | last
      · exact rows y x row column earlier
      · exact absurd last other
  obtain ⟨seenNext, decoded, union⟩ :=
    decodeRow_eq_ok (bytes.extract first (first + file.rowSize)) seen formed below
  rw [target] at decoded union
  rw [wide, apart, alphas] at union
  refine ⟨_, decoded, width, height, stride, formed.changeRow _ _, shown, union.trans ?_⟩
  constructor
  · rintro ⟨earlierZero, lastZero⟩ y x row column reached
    rcases (file.storedRow_lt_succ row available).mp reached with earlier | last
    · exact earlierZero y x row column earlier
    · exact lastZero x _ column (last ▸ shown y x row column reached)
  · intro zero
    constructor
    · intro y x row column earlier
      exact zero y x row column (by omega)
    · intro x pixel column found
      have reached : file.storedRow (file.storedRow count) < count + 1 := by
        rw [file.storedRow_storedRow available]
        exact Nat.lt_succ_self count
      have here := found.symm.trans (shown _ x targetBound column reached)
      rw [Option.some.inj here]
      exact zero _ x targetBound column reached

theorem rowBytes_eq (narrow : file.width < 2 ^ 31) : file.info.rowBytes = file.rowSize := by
  have width : file.info.width.toNat = file.width :=
    UInt32.toNat_ofNat_of_lt' (show file.width < 2 ^ 32 by omega)
  have bits : file.info.layout.bits = 8 * file.encoding.size := by
    rw [info]
    cases file.encoding <;> rfl
  rw [Info.rowBytes, width, bits, rowSize, Nat.mul_comm]

section Rows

variable (narrow : file.width < 2 ^ 31) (high : file.height ≤ 2 ^ 31)

include narrow high

theorem readRows_eq_ok (whole : file.pixelsEnd start ≤ bytes.size) :
    ∀ (count stored : Nat) (progress : Progress) (stream : Stream),
      stored + count = file.height → file.Filled bytes start stored progress →
      stream.Quiet → stream.bytes = bytes →
      stream.position = start + file.pixelOffset + stored * file.rowSize →
      ∃ next rest, readRows file.info stored count progress stream = (.ok next, rest) ∧
        file.Filled bytes start file.height next ∧
        stream.MovedTo (file.pixelsEnd start) rest := by
  intro count
  induction count with
  | zero =>
      intro stored progress stream reach filled _ _ place
      rw [Nat.add_zero] at reach
      rw [reach] at filled place
      exact ⟨progress, stream, rfl, filled, rfl, rfl, place⟩
  | succ count ih =>
      intro stored progress stream reach filled quiet same place
      have available : stored < file.height := by omega
      have later : (stored + 1) * file.rowSize ≤ file.height * file.rowSize :=
        Nat.mul_le_mul_right _ available
      have within : stream.position + file.rowSize ≤ bytes.size := by
        rw [pixelsEnd] at whole
        rw [Nat.succ_mul] at later
        omega
      obtain ⟨rest, read, moved⟩ := Reading.exactly_eq_ok (.decode (.dibTruncated .pixelData))
        quiet (show stream.position + file.rowSize ≤ stream.bytes.size by rw [same]; exact within)
      obtain ⟨next, decoded, filledNext⟩ := filled.step narrow high available place within
      obtain ⟨last, final, finished, filledLast, movedOn⟩ := ih (stored + 1) next rest (by omega)
        filledNext (moved.quiet quiet) (moved.bytes.trans same)
        (by rw [moved.position, place, Nat.succ_mul, Nat.add_assoc])
      refine ⟨last, final, ?_, filledLast, moved.trans movedOn⟩
      rw [readRows, rowBytes_eq narrow, Reading.bind_ok read, same, decoded,
        Reading.bind_ok (Reading.lift_eq _)]
      exact finished

theorem readRows_eq_error (hasColumns : 0 < file.width)
    (short : bytes.size < file.pixelsEnd start) :
    ∀ (count stored : Nat) (progress : Progress) (stream : Stream),
      stored + count = file.height → 0 < count → file.Filled bytes start stored progress →
      stream.Quiet → stream.bytes = bytes →
      stream.position = start + file.pixelOffset + stored * file.rowSize →
      ∃ rest, readRows file.info stored count progress stream =
        (.error (.refused (.decode (.dibTruncated .pixelData))), rest) := by
  intro count
  induction count with
  | zero =>
      intro stored progress stream _ none
      omega
  | succ count ih =>
      intro stored progress stream reach _ filled quiet same place
      have available : stored < file.height := by omega
      rw [readRows, rowBytes_eq narrow]
      by_cases within : stream.position + file.rowSize ≤ bytes.size
      · obtain ⟨rest, read, moved⟩ := Reading.exactly_eq_ok (.decode (.dibTruncated .pixelData))
          quiet (show stream.position + file.rowSize ≤ stream.bytes.size by rw [same]; exact within)
        obtain ⟨next, decoded, filledNext⟩ := filled.step narrow high available place within
        have behind : rest.position = start + file.pixelOffset + (stored + 1) * file.rowSize := by
          rw [moved.position, place, Nat.succ_mul, Nat.add_assoc]
        have more : 0 < count := by
          apply Nat.pos_of_ne_zero
          intro none
          have last : stored + 1 = file.height := by omega
          rw [moved.position, last, ← pixelsEnd] at behind
          omega
        rw [Reading.bind_ok read, same, decoded, Reading.bind_ok (Reading.lift_eq _)]
        exact ih (stored + 1) next rest (by omega) more filledNext (moved.quiet quiet)
          (moved.bytes.trans same) behind
      · obtain ⟨rest, refused, -⟩ := Reading.exactly_eq_error (.decode (.dibTruncated .pixelData))
          quiet (file.rowSize_pos hasColumns)
          (show stream.bytes.size < stream.position + file.rowSize by rw [same]; omega)
        exact ⟨rest, Reading.bind_error refused⟩

end Rows

end Description

end Raster.Dib
