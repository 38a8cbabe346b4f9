import Raster.Proofs.Dib.Checked
import Raster.Proofs.Dib.Exact
import Raster.Proofs.Dib.Front

/-!
Checked reading of device-independent bitmaps passes. Headers are read at places inside of them, and
what they have been checked for keeps all later numbers in range. Main statement: whatever the data,
the limits and the faults are, checked reading does what plain reading does, and nothing but an
allocation beyond all bounds makes either panic.
-/

namespace Raster

namespace Dib

section Plan

variable {limits : Limits} {stream : Stream}

/-- The headers ask for a bitmap that is larger than any allocation, and the limits let them. -/
def AsksTooMuch (limits : Limits) (stream : Stream) : Prop :=
  ∃ info rest, readPlan limits stream = (.ok info, rest) ∧
    Bitmap.largestAllocation < Bitmap.storageBytes info.height info.width

theorem AsksTooMuch.panics (asks : AsksTooMuch limits stream) :
    (readBitmap limits stream).1 = .error .panicked := by
  obtain ⟨info, rest, planned, large⟩ := asks
  rw [readBitmap_panics planned large]

theorem readPlan_affordable {info : Info} {rest : Stream}
    (planned : readPlan limits stream = (.ok info, rest)) :
    Bitmap.storageBytes info.height info.width ≤ limits.maxDecodeBytes.toNat := by
  rw [readPlan] at planned
  obtain ⟨start, second, -, planned⟩ := Reading.bind_eq_ok planned
  obtain ⟨file, third, -, planned⟩ := Reading.bind_eq_ok planned
  obtain ⟨info, fourth, described, planned⟩ := Reading.bind_eq_ok planned
  obtain ⟨passed, fifth, checked, planned⟩ := Reading.bind_eq_ok planned
  obtain ⟨placed, sixth, -, planned⟩ := Reading.bind_eq_ok planned
  cases planned
  have sides := readInfo_sides described
  have admitted := (Limits.checkDimensions_eq_ok_iff sides).mp (Reading.lift_eq_ok checked).1
  rw [Bitmap.storageBytes, ← Nat.mul_assoc]
  exact admitted.2.2

theorem not_asksTooMuch (modest : limits.maxDecodeBytes.toNat ≤ Bitmap.largestAllocation) :
    ¬AsksTooMuch limits stream := by
  rintro ⟨info, rest, planned, large⟩
  have affordable := readPlan_affordable planned
  omega

end Plan

namespace Checked

section Headers

variable {bytes : Array UInt8} {granted : Prop} {stream : Stream}

theorem shortAt_inRange {index : Nat} (inside : index + 1 < bytes.size) :
    InRange (shortAt bytes index) := by
  rw [shortAt_eq bytes inside]
  exact inRange_ok _

theorem wordAt_inRange {index : Nat} (inside : index + 3 < bytes.size) :
    InRange (wordAt bytes index) := by
  rw [wordAt_eq bytes inside]
  exact inRange_ok _

theorem fileHeader_passes (whole : bytes.size = 18) :
    fileHeader bytes = FileHeader.ofBytes bytes ∧ InRange (FileHeader.ofBytes bytes) := by
  rw [fileHeader, FileHeader.ofBytes, byteAt_eq bytes (by omega), byteAt_eq bytes (by omega),
    wordAt_eq bytes (by omega), wordAt_eq bytes (by omega)]
  simp only [ok_bind]
  split
  · split
    · rename_i known
      have bounds := headerSize_bounds known
      have sum : fileHeaderSize.toNat + (UInt32.ofNat (wordOf bytes 14)).toNat < 2 ^ 32 := by
        change 14 + _ < _
        omega
      rw [Resample.word?_add sum]
      simp only [demand, ok_bind, true_and]
      split
      · exact inRange_refused _
      · exact inRange_ok _
    · exact ⟨rfl, inRange_refused _⟩
  · exact ⟨rfl, inRange_refused _⟩

theorem maskOrError_inRange (word : UInt32) : InRange (maskOrError word) := by
  rw [maskOrError]
  split
  · exact inRange_ok _
  · exact inRange_refused _

theorem ofMasks_inRange (red green blue alpha : UInt32) :
    InRange (Layout.ofMasks red green blue alpha) := by
  refine (maskOrError_inRange red).bind fun _ _ => ?_
  refine (maskOrError_inRange green).bind fun _ _ => ?_
  exact (maskOrError_inRange blue).bind fun _ _ => inRange_ok _

theorem ofCore_inRange (whole : bytes.size = 8) : InRange (Info.ofCore bytes) := by
  refine (shortAt_inRange (by omega)).bind fun _ _ => ?_
  refine (shortAt_inRange (by omega)).bind fun _ _ => ?_
  refine (shortAt_inRange (by omega)).bind fun planes _ => ?_
  split
  · refine (shortAt_inRange (by omega)).bind fun bits _ => ?_
    split
    · exact inRange_ok _
    · exact inRange_refused _
  · exact inRange_refused _

theorem ofHeaderMasks_inRange {headerSize : UInt32} (long : 52 ≤ headerSize)
    (whole : bytes.size = headerSize.toNat - 4) :
    InRange (Layout.ofHeaderMasks headerSize bytes) := by
  have least := UInt32.le_iff_toNat_le.mp long
  simp only [UInt32.reduceToNat] at least
  have masks (alpha : UInt32) : InRange (do
      Layout.ofMasks (← wordAt bytes 36) (← wordAt bytes 40) (← wordAt bytes 44) alpha) := by
    refine (wordAt_inRange (by omega)).bind fun _ _ => ?_
    refine (wordAt_inRange (by omega)).bind fun _ _ => ?_
    exact (wordAt_inRange (by omega)).bind fun _ _ => ofMasks_inRange _ _ _ _
  rw [Layout.ofHeaderMasks]
  split
  · rename_i longer
    have enough := UInt32.le_iff_toNat_le.mp longer
    simp only [UInt32.reduceToNat] at enough
    exact (wordAt_inRange (by omega)).bind fun alpha _ => masks alpha
  · exact masks 0

theorem ofExtraMasks_inRange (whole : bytes.size = 12) :
    InRange (Layout.ofExtraMasks bytes) := by
  refine (wordAt_inRange (by omega)).bind fun _ _ => ?_
  refine (wordAt_inRange (by omega)).bind fun _ _ => ?_
  exact (wordAt_inRange (by omega)).bind fun _ _ => ofMasks_inRange _ _ _ _

theorem readLayout_passes {headerSize : UInt32} (known : headerSize ∈ infoHeaderSizes)
    (whole : bytes.size = headerSize.toNat - 4) :
    Reading.Passes granted (readLayout headerSize bytes) (readLayout headerSize bytes) stream := by
  have bounds := infoHeaderSize_bounds known
  refine (Reading.passes_lift rfl (shortAt_inRange (by omega))).bind fun bits _ _ => ?_
  refine (Reading.passes_lift rfl (wordAt_inRange (by omega))).bind fun compression _ _ => ?_
  split
  · exact Reading.passes_pure _
  · split
    · exact Reading.passes_pure _
    · split
      · exact Reading.passes_pure _
      · split
        · split
          · rename_i long
            exact Reading.passes_lift rfl (ofHeaderMasks_inRange long whole)
          · refine (Reading.passes_exactly _ _).bind fun masks _ read => ?_
            exact Reading.passes_lift rfl (ofExtraMasks_inRange (Reading.exactly_size read))
        · exact Reading.passes_throw _

theorem readInfo_passes {headerSize : UInt32}
    (known : headerSize = coreHeaderSize ∨ headerSize ∈ infoHeaderSizes) :
    Reading.Passes granted (readInfo headerSize) (Dib.readInfo headerSize) stream := by
  have bounds := headerSize_bounds known
  have length : difference? headerSize.toNat 4 = some (headerSize.toNat - 4) :=
    if_pos (by omega)
  refine Reading.passes_demand length ?_
  refine (Reading.passes_exactly _ _).bind fun bytes _ read => ?_
  have whole := Reading.exactly_size read
  split
  · rename_i core
    exact Reading.passes_lift rfl (ofCore_inRange (by rw [whole, core]; rfl))
  · rename_i notCore
    have info := known.resolve_left notCore
    have least := infoHeaderSize_bounds info
    refine (Reading.passes_lift rfl (wordAt_inRange (by omega))).bind fun width _ _ => ?_
    refine (Reading.passes_lift rfl (wordAt_inRange (by omega))).bind fun height _ _ => ?_
    split
    · exact Reading.passes_throw _
    · refine (Reading.passes_lift rfl (shortAt_inRange (by omega))).bind fun planes _ _ => ?_
      split
      · exact (readLayout_passes info whole).bind fun layout _ _ => Reading.passes_pure _
      · exact Reading.passes_throw _

end Headers

section Run

variable {granted : Prop} {stream rest : Stream}

theorem readFileHeader_passes :
    Reading.Passes granted readFileHeader Dib.readFileHeader stream := by
  refine (Reading.passes_exactly _ _).bind fun bytes _ read => ?_
  obtain ⟨same, inRange⟩ := fileHeader_passes (Reading.exactly_size read)
  exact Reading.passes_lift same inRange

theorem checkDimensions_passes (limits : Limits) {width height : UInt32}
    (sides : Sides width height) :
    checkDimensions limits width height = limits.checkDimensions width height ∧
      InRange (limits.checkDimensions width height) := by
  have bytes := sides.bytes_lt
  have area : width.toNat * height.toNat < 2 ^ 64 := by omega
  refine ⟨?_, ?_⟩
  · rw [checkDimensions, Resample.doubleWord?_eq_some area]
    simp only [demand, ok_bind]
    rw [UInt64.toNat_ofNat_of_lt' area, Resample.doubleWord?_eq_some bytes]
    rfl
  · rw [Limits.checkDimensions]
    split
    · exact inRange_refused _
    · split
      · exact inRange_refused _
      · exact inRange_ok _

theorem start_lt {error : Error} {middle : Stream} {start : Nat} {file : FileHeader}
    (asked : Reading.position error stream = (.ok start, middle))
    (header : Dib.readFileHeader middle = (.ok file, rest)) : start < stream.bytes.size := by
  obtain ⟨bytes, between, read, -⟩ := Reading.bind_eq_ok header
  have inside := Reading.exactly_inside read
  obtain ⟨rfl, moved⟩ := Reading.position_moved asked
  rw [Stream.remaining, moved.bytes, moved.position] at inside
  omega

theorem readBitmap_passes (limits : Limits) (addressable : stream.bytes.size < 2 ^ 63) :
    Reading.Passes (AsksTooMuch limits stream) (readBitmap limits) (Dib.readBitmap limits)
      stream := by
  refine (Reading.passes_position _).bind fun start second asked => ?_
  refine readFileHeader_passes.bind fun file third header => ?_
  have known : file.headerSize = coreHeaderSize ∨ file.headerSize ∈ infoHeaderSizes := by
    obtain ⟨bytes, between, -, read⟩ := Reading.bind_eq_ok header
    exact (FileHeader.ofBytes_eq_ok (Reading.lift_eq_ok read).1).2.1
  refine (readInfo_passes known).bind fun info fourth described => ?_
  have sides := readInfo_sides described
  obtain ⟨encoding, layout⟩ := (readInfo_eq_ok described).1
  obtain ⟨sameCheck, checkInRange⟩ := checkDimensions_passes limits sides
  refine (Reading.passes_lift sameCheck checkInRange).bind fun passed fifth checked => ?_
  refine Reading.passes_demand (rowBytes?_eq info) ?_
  have target : start + file.pixelOffset.toNat < 2 ^ 64 := by
    have inside := start_lt asked header
    have offset := file.pixelOffset.toNat_lt
    omega
  refine Reading.passes_demand (Resample.doubleWord?_eq_some target) ?_
  rw [UInt64.toNat_ofNat_of_lt' target]
  refine (Reading.passes_seek _ _).bind fun placed sixth sought => ?_
  have planned : readPlan limits stream = (.ok info, sixth) := by
    rw [readPlan, Reading.bind_ok asked, Reading.bind_ok header, Reading.bind_ok described,
      Reading.bind_ok checked, Reading.bind_ok sought]
    rfl
  refine (Reading.passes_granted _ fun panicked => ?_).bind fun bitmap seventh built => ?_
  · exact ⟨info, sixth, planned, (Bitmap.allocate_eq_error.mp panicked).1⟩
  · obtain ⟨-, rfl⟩ := Bitmap.allocate_eq_ok.mp (Reading.lift_eq_ok built).1
    have blank := Bitmap.blank_wellFormed info.width info.height
    refine (readRows_passes layout _ (Nat.zero_add _) blank rfl).bind fun progress last rows => ?_
    have formed := (readRows_sameShape rows).wellFormed blank
    exact Reading.passes_lift (finish_passes formed info.layout) (inRange_ok _)

end Run

end Checked

end Dib

/-- Every number in the reading of a device-independent bitmap fits, nothing is divided by zero,
and every byte, row and pixel that is asked for is there, whatever the data, the limits and the
faults. Each stored row has a pixel for every column. Only the allocation of the bitmap can
panic, and just where it is larger than any allocation, to which the limits have to agree. Data
has fewer than `2 ^ 63` bytes, as all data that memory or a file can hold. -/
theorem dib_in_range (limits : Limits) {stream : Stream}
    (addressable : stream.bytes.size < 2 ^ 63) :
    Dib.Checked.readBitmap limits stream = Dib.readBitmap limits stream ∧
    ((Dib.readBitmap limits stream).1 = .error .panicked ↔ Dib.AsksTooMuch limits stream) ∧
    (limits.maxDecodeBytes.toNat ≤ Bitmap.largestAllocation →
      (Dib.readBitmap limits stream).1 ≠ .error .panicked) ∧
    ∀ word, Dib.Checked.mask? word = some (Dib.Mask.ofWord? word) := by
  obtain ⟨same, inRange⟩ := Dib.Checked.readBitmap_passes limits addressable
  refine ⟨same, ⟨inRange.resolve_left ∘ not_not_intro, Dib.AsksTooMuch.panics⟩, ?_,
    Dib.Checked.mask?_eq⟩
  intro modest panicked
  exact Dib.not_asksTooMuch modest (inRange.resolve_left (not_not_intro panicked))

theorem dib_in_range_tiles :
    Dib.Tiles.stream.bytes.size < 2 ^ 63 ∧
    Dib.Checked.readBitmap Limits.standard Dib.Tiles.stream =
      Dib.readBitmap Limits.standard Dib.Tiles.stream ∧
    Limits.standard.maxDecodeBytes.toNat ≤ Bitmap.largestAllocation ∧
    (Dib.readBitmap Limits.standard Dib.Tiles.stream).1 ≠ .error .panicked := by
  have addressable : Dib.Tiles.stream.bytes.size < 2 ^ 63 := by decide
  have modest : Limits.standard.maxDecodeBytes.toNat ≤ Bitmap.largestAllocation := by decide
  obtain ⟨same, -, inRange, -⟩ := dib_in_range Limits.standard addressable
  exact ⟨addressable, same, modest, inRange modest⟩

/-- A header alone makes reading panic, if the limits allow all that it asks for. -/
theorem dib_allocation_panics :
    Dib.Vast.stream.bytes.size = 54 ∧ Dib.AsksTooMuch Dib.Vast.limits Dib.Vast.stream ∧
    (Dib.readBitmap Dib.Vast.limits Dib.Vast.stream).1 = .error .panicked := by
  have panicked := Dib.Vast.readBitmap_panics
  have addressable : Dib.Vast.stream.bytes.size < 2 ^ 63 := by decide
  obtain ⟨-, inRange⟩ := Dib.Checked.readBitmap_passes Dib.Vast.limits addressable
  exact ⟨by decide, inRange.resolve_left (not_not_intro panicked), panicked⟩

end Raster
