import Raster.Proofs.Channels
import Raster.Proofs.Dib.Mask
import Raster.Proofs.Reading

/-!
Headers of device-independent bitmaps. Where the headers of a described file stand, reading them
gives the info of the description.
-/

namespace Raster.Dib

section Numbers

variable (bytes : Array UInt8)

theorem byteOf_lt (index : Nat) : byteOf bytes index < 2 ^ 8 := UInt8.toNat_lt _

theorem shortOf_lt (index : Nat) : shortOf bytes index < 2 ^ 16 := by
  have low := byteOf_lt bytes index
  have high := byteOf_lt bytes (index + 1)
  rw [shortOf]
  omega

theorem wordOf_lt (index : Nat) : wordOf bytes index < 2 ^ 32 := by
  have low := shortOf_lt bytes index
  have high := shortOf_lt bytes (index + 2)
  rw [wordOf]
  omega

theorem byteAt_eq {index : Nat} (inside : index < bytes.size) :
    byteAt bytes index = .ok (UInt8.ofNat (byteOf bytes index)) := by
  rw [byteAt, byteOf, Array.getElem?_eq_getElem inside, UInt8.ofNat_toNat]
  simp [Array.getD, inside]

theorem shortAt_eq {index : Nat} (inside : index + 1 < bytes.size) :
    shortAt bytes index = .ok (UInt16.ofNat (shortOf bytes index)) := by
  have low := byteOf_lt bytes index
  have high := byteOf_lt bytes (index + 1)
  rw [shortAt, byteAt_eq bytes (show index < bytes.size by omega), byteAt_eq bytes inside]
  change Except.ok _ = _
  congr 1
  have place : (8 : UInt16).toNat % 16 = 8 := rfl
  rw [← UInt16.toNat_inj, UInt16.toNat_ofNat_of_lt' (shortOf_lt bytes index), UInt16.toNat_or,
    UInt16.toNat_shiftLeft, UInt8.toNat_toUInt16, UInt8.toNat_toUInt16,
    UInt8.toNat_ofNat_of_lt' low, UInt8.toNat_ofNat_of_lt' high, place, Nat.shiftLeft_eq,
    Nat.mod_eq_of_lt (show byteOf bytes (index + 1) * 2 ^ 8 < 2 ^ 16 by omega), Nat.or_comm,
    Pixel.mul_or_eq_add _ low, shortOf]
  omega

theorem wordAt_eq {index : Nat} (inside : index + 3 < bytes.size) :
    wordAt bytes index = .ok (UInt32.ofNat (wordOf bytes index)) := by
  have low := shortOf_lt bytes index
  have high := shortOf_lt bytes (index + 2)
  rw [wordAt, shortAt_eq bytes (show index + 1 < bytes.size by omega),
    shortAt_eq bytes (show index + 2 + 1 < bytes.size by omega)]
  change Except.ok _ = _
  congr 1
  have place : (16 : UInt32).toNat % 32 = 16 := rfl
  rw [← UInt32.toNat_inj, UInt32.toNat_ofNat_of_lt' (wordOf_lt bytes index), UInt32.toNat_or,
    UInt32.toNat_shiftLeft, UInt16.toNat_toUInt32, UInt16.toNat_toUInt32,
    UInt16.toNat_ofNat_of_lt' low, UInt16.toNat_ofNat_of_lt' high, place, Nat.shiftLeft_eq,
    Nat.mod_eq_of_lt (show shortOf bytes (index + 2) * 2 ^ 16 < 2 ^ 32 by omega), Nat.or_comm,
    Pixel.mul_or_eq_add _ low, wordOf]
  omega

end Numbers

section Part

variable {bytes : Array UInt8} {first length : Nat}

theorem byteOf_extract {index : Nat} (inside : index < length)
    (within : first + length ≤ bytes.size) :
    byteOf (bytes.extract first (first + length)) index = byteOf bytes (first + index) := by
  rw [byteOf, byteOf]
  simp only [Array.getD_eq_getD_getElem?, Array.getElem?_extract]
  rw [if_pos (by omega)]

theorem shortOf_extract {index : Nat} (inside : index + 1 < length)
    (within : first + length ≤ bytes.size) :
    shortOf (bytes.extract first (first + length)) index = shortOf bytes (first + index) := by
  rw [shortOf, shortOf, byteOf_extract (by omega) within, byteOf_extract inside within,
    Nat.add_assoc]

theorem wordOf_extract {index : Nat} (inside : index + 3 < length)
    (within : first + length ≤ bytes.size) :
    wordOf (bytes.extract first (first + length)) index = wordOf bytes (first + index) := by
  rw [wordOf, wordOf, shortOf_extract (by omega) within,
    shortOf_extract (show index + 2 + 1 < length from inside) within, Nat.add_assoc]

theorem byteAt_extract {index : Nat} (inside : index < length)
    (within : first + length ≤ bytes.size) :
    byteAt (bytes.extract first (first + length)) index =
      .ok (UInt8.ofNat (byteOf bytes (first + index))) := by
  rw [byteAt_eq _ (by rw [Array.size_extract]; omega), byteOf_extract inside within]

theorem shortAt_extract {index : Nat} (inside : index + 1 < length)
    (within : first + length ≤ bytes.size) :
    shortAt (bytes.extract first (first + length)) index =
      .ok (UInt16.ofNat (shortOf bytes (first + index))) := by
  rw [shortAt_eq _ (by rw [Array.size_extract]; omega), shortOf_extract inside within]

theorem wordAt_extract {index : Nat} (inside : index + 3 < length)
    (within : first + length ≤ bytes.size) :
    wordAt (bytes.extract first (first + length)) index =
      .ok (UInt32.ofNat (wordOf bytes (first + index))) := by
  rw [wordAt_eq _ (by rw [Array.size_extract]; omega), wordOf_extract inside within]

end Part

section Headers

variable {bytes : Array UInt8} {start size : Nat}

theorem FileHeader.ofBytes_eq {offset : Nat}
    (signature : byteOf bytes start = 0x42 ∧ byteOf bytes (start + 1) = 0x4d)
    (pixelOffset : wordOf bytes (start + 10) = offset)
    (headerSize : wordOf bytes (start + 14) = size) (known : size ∈ [12, 40, 52, 56, 108, 124])
    (gap : 14 + size ≤ offset) (within : start + 18 ≤ bytes.size) :
    FileHeader.ofBytes (bytes.extract start (start + 18)) =
      .ok ⟨UInt32.ofNat offset, UInt32.ofNat size⟩ := by
  have offsetBound : offset < 2 ^ 32 := by
    rw [← pixelOffset]
    exact wordOf_lt bytes _
  have sizes : ∀ size ∈ [12, 40, 52, 56, 108, 124],
      UInt32.ofNat size = coreHeaderSize ∨ UInt32.ofNat size ∈ infoHeaderSizes := by decide
  have headers : (fileHeaderSize + UInt32.ofNat size).toNat = 14 + size := by
    rw [UInt32.toNat_add, UInt32.toNat_ofNat_of_lt' (show size < 2 ^ 32 by omega)]
    exact Nat.mod_eq_of_lt (show 14 + size < 2 ^ 32 by omega)
  have apart : ¬(UInt32.ofNat offset < fileHeaderSize + UInt32.ofNat size) := by
    rw [UInt32.lt_iff_toNat_lt, headers, UInt32.toNat_ofNat_of_lt' offsetBound]
    omega
  rw [FileHeader.ofBytes, byteAt_extract (by decide) within, byteAt_extract (by decide) within,
    wordAt_extract (by decide) within, wordAt_extract (by decide) within, Nat.add_zero,
    signature.1, signature.2, pixelOffset, headerSize]
  simp only [ok_bind]
  rw [if_pos ⟨rfl, rfl⟩, if_pos (sizes size known), if_neg apart]
  rfl

theorem ofHeaderMasks_eq (long : 52 ≤ size) (short : size ≤ 124)
    (whole : start + 18 + (size - 4) ≤ bytes.size) :
    Layout.ofHeaderMasks (UInt32.ofNat size)
      (bytes.extract (start + 18) (start + 18 + (size - 4))) =
      Layout.ofMasks (UInt32.ofNat (wordOf bytes (start + 54)))
        (UInt32.ofNat (wordOf bytes (start + 58))) (UInt32.ofNat (wordOf bytes (start + 62)))
        (UInt32.ofNat (if 56 ≤ size then wordOf bytes (start + 66) else 0)) := by
  have longEnough : 56 ≤ UInt32.ofNat size ↔ 56 ≤ size := by
    rw [UInt32.le_iff_toNat_le, UInt32.toNat_ofNat_of_lt' (show size < 2 ^ 32 by omega)]
    rfl
  rw [Layout.ofHeaderMasks, wordAt_extract (show 36 + 3 < size - 4 by omega) whole,
    wordAt_extract (show 40 + 3 < size - 4 by omega) whole,
    wordAt_extract (show 44 + 3 < size - 4 by omega) whole]
  by_cases withAlpha : 56 ≤ size
  · rw [if_pos withAlpha, if_pos (longEnough.mpr withAlpha),
      wordAt_extract (show 48 + 3 < size - 4 by omega) whole]
    rfl
  · rw [if_neg withAlpha, if_neg fun enough => withAlpha (longEnough.mp enough)]
    rfl

theorem ofExtraMasks_eq (whole : start + 54 + 12 ≤ bytes.size) :
    Layout.ofExtraMasks (bytes.extract (start + 54) (start + 54 + 12)) =
      Layout.ofMasks (UInt32.ofNat (wordOf bytes (start + 54)))
        (UInt32.ofNat (wordOf bytes (start + 58))) (UInt32.ofNat (wordOf bytes (start + 62)))
        0 := by
  rw [Layout.ofExtraMasks, wordAt_extract (by decide) whole, wordAt_extract (by decide) whole,
    wordAt_extract (by decide) whole]
  rfl

theorem infoSize_bounds (known : size ∈ [40, 52, 56, 108, 124]) : 40 ≤ size ∧ size ≤ 124 := by
  have sizes : ∀ size ∈ [40, 52, 56, 108, 124], 40 ≤ size ∧ size ≤ 124 := by decide
  exact sizes size known

theorem infoSize_toNat (known : size ∈ [40, 52, 56, 108, 124]) :
    (UInt32.ofNat size).toNat = size := by
  have bounds := infoSize_bounds known
  exact UInt32.toNat_ofNat_of_lt' (show size < 2 ^ 32 by omega)

theorem readLayout_fields (known : size ∈ [40, 52, 56, 108, 124])
    (within : start + 18 + (size - 4) ≤ bytes.size) (bits : shortOf bytes (start + 28) = 32)
    (method : wordOf bytes (start + 30) = 3) :
    readLayout (UInt32.ofNat size) (bytes.extract (start + 18) (start + 18 + (size - 4))) =
      if 52 ≤ size then
        liftM (Layout.ofMasks (UInt32.ofNat (wordOf bytes (start + 54)))
          (UInt32.ofNat (wordOf bytes (start + 58))) (UInt32.ofNat (wordOf bytes (start + 62)))
          (UInt32.ofNat (if 56 ≤ size then wordOf bytes (start + 66) else 0)))
      else
        Reading.exactly 12 (.decode (.dibTruncated .colourMasks)) >>= fun masks =>
          liftM (Layout.ofExtraMasks masks) := by
  have bounds := infoSize_bounds known
  have longEnough : 52 ≤ UInt32.ofNat size ↔ 52 ≤ size := by
    rw [UInt32.le_iff_toNat_le, infoSize_toNat known]
    rfl
  have notPlain : (3 : UInt32) ≠ 0 := by decide
  have width : UInt16.ofNat 32 = 32 := rfl
  have kind : UInt32.ofNat 3 = 3 := rfl
  rw [readLayout, shortAt_extract (show 10 + 1 < size - 4 by omega) within,
    wordAt_extract (show 12 + 3 < size - 4 by omega) within]
  simp only [Nat.add_assoc, Nat.reduceAdd, bits, method, width, kind] at within ⊢
  funext stream
  rw [Reading.bind_ok (Reading.lift_eq _), Reading.bind_ok (Reading.lift_eq _)]
  simp only [notPlain, and_false, and_self, if_false, if_true]
  by_cases long : 52 ≤ size
  · have inside := ofHeaderMasks_eq long bounds.2 (by rwa [Nat.add_assoc])
    rw [Nat.add_assoc] at inside
    rw [if_pos long, if_pos (longEnough.mpr long), inside]
  · rw [if_neg long, if_neg fun enough => long (longEnough.mp enough)]

theorem isNegative_eq (word : Nat) (small : word < 2 ^ 32) :
    isNegative (UInt32.ofNat word) = decide (2 ^ 31 ≤ word) := by
  rw [isNegative, decide_eq_decide, UInt32.le_iff_toNat_le, UInt32.toNat_ofNat_of_lt' small]
  rfl

def infoOf (bytes : Array UInt8) (start : Nat) (layout : Layout) : Info :=
  ⟨magnitude (UInt32.ofNat (wordOf bytes (start + 18))),
    magnitude (UInt32.ofNat (wordOf bytes (start + 22))),
    isNegative (UInt32.ofNat (wordOf bytes (start + 22))), layout⟩

theorem readInfo_of_block {stream rest : Stream} (known : size ∈ [40, 52, 56, 108, 124])
    (within : start + 18 + (size - 4) ≤ bytes.size)
    (columns : 0 < wordOf bytes (start + 18) ∧ wordOf bytes (start + 18) < 2 ^ 31)
    (rows : wordOf bytes (start + 22) ≠ 0) (planes : shortOf bytes (start + 26) = 1)
    (read : Reading.exactly (size - 4) (.decode (.dibTruncated .infoHeader)) stream =
      (.ok (bytes.extract (start + 18) (start + 18 + (size - 4))), rest)) :
    readInfo (UInt32.ofNat size) stream =
      (readLayout (UInt32.ofNat size) (bytes.extract (start + 18) (start + 18 + (size - 4))) >>=
        fun layout => pure (infoOf bytes start layout)) rest := by
  have bounds := infoSize_bounds known
  have notCore : UInt32.ofNat size ≠ coreHeaderSize := by
    have sizes : ∀ size ∈ [40, 52, 56, 108, 124], UInt32.ofNat size ≠ coreHeaderSize := by decide
    exact sizes size known
  have someColumns : UInt32.ofNat (wordOf bytes (start + 18)) ≠ 0 := by
    rw [ne_eq, ← UInt32.toNat_inj, UInt32.toNat_ofNat_of_lt' (wordOf_lt bytes _)]
    exact Nat.ne_of_gt columns.1
  have widthSign : isNegative (UInt32.ofNat (wordOf bytes (start + 18))) = false := by
    rw [isNegative_eq _ (wordOf_lt bytes _)]
    exact decide_eq_false (Nat.not_le.mpr columns.2)
  have someRows : UInt32.ofNat (wordOf bytes (start + 22)) ≠ 0 := by
    rw [ne_eq, ← UInt32.toNat_inj, UInt32.toNat_ofNat_of_lt' (wordOf_lt bytes _)]
    exact rows
  have onePlane : UInt16.ofNat 1 = 1 := rfl
  rw [readInfo, infoSize_toNat known, Reading.bind_ok read, if_neg notCore,
    wordAt_extract (show 0 + 3 < size - 4 by omega) within,
    wordAt_extract (show 4 + 3 < size - 4 by omega) within,
    shortAt_extract (show 8 + 1 < size - 4 by omega) within,
    Reading.bind_ok (Reading.lift_eq _), Reading.bind_ok (Reading.lift_eq _)]
  simp only [Nat.add_zero, Nat.add_assoc, Nat.reduceAdd, someColumns, widthSign, someRows,
    Bool.false_eq_true, or_self, if_false]
  rw [Reading.bind_ok (Reading.lift_eq _), planes, if_pos onePlane]
  rfl

end Headers

def Encoding.layout : Encoding → Layout
  | .colour24 => .blueGreenRed24
  | .colourAlpha32 => .blueGreenRedAlpha32
  | .fields32 red green blue alpha =>
      .masked32 red.mask green.mask blue.mask (alpha.map BitRun.mask)
  | .colour48 => .blueGreenRed48

theorem maskOrError_word (run : BitRun) : maskOrError (UInt32.ofNat run.word) = .ok run.mask := by
  rw [maskOrError, run.ofWord?_word]

theorem ofMasks_runs (red green blue : BitRun) (alpha : UInt32) :
    Layout.ofMasks (UInt32.ofNat red.word) (UInt32.ofNat green.word) (UInt32.ofNat blue.word)
      alpha = .ok (.masked32 red.mask green.mask blue.mask (Mask.ofWord? alpha)) := by
  simp only [Layout.ofMasks, maskOrError_word, ok_bind]
  rfl

theorem ofMasks_eq (red green blue : BitRun) (alpha : Option BitRun) :
    Layout.ofMasks (UInt32.ofNat red.word) (UInt32.ofNat green.word) (UInt32.ofNat blue.word)
      (UInt32.ofNat ((alpha.map BitRun.word).getD 0)) =
      .ok (Encoding.fields32 red green blue alpha).layout := by
  have opacity : Mask.ofWord? (UInt32.ofNat ((alpha.map BitRun.word).getD 0)) =
      alpha.map BitRun.mask := by
    cases alpha with
    | none => rfl
    | some run => exact run.ofWord?_word
  rw [ofMasks_runs, opacity, Encoding.layout]

theorem maskOrError_eq_ok {word : UInt32} {mask : Mask} (made : maskOrError word = .ok mask) :
    ∃ run : BitRun, run.word = word.toNat ∧ run.mask = mask := by
  rw [maskOrError] at made
  split at made
  · rename_i same
    cases made
    exact Mask.ofWord?_eq_some same
  · cases made

theorem ofMasks_eq_ok {red green blue alpha : UInt32} {layout : Layout}
    (made : Layout.ofMasks red green blue alpha = .ok layout) :
    ∃ redRun greenRun blueRun opacity,
      layout = (Encoding.fields32 redRun greenRun blueRun opacity).layout := by
  rw [Layout.ofMasks] at made
  obtain ⟨redMask, redMade, made⟩ := bind_eq_ok made
  obtain ⟨greenMask, greenMade, made⟩ := bind_eq_ok made
  obtain ⟨blueMask, blueMade, made⟩ := bind_eq_ok made
  obtain ⟨redRun, -, rfl⟩ := maskOrError_eq_ok redMade
  obtain ⟨greenRun, -, rfl⟩ := maskOrError_eq_ok greenMade
  obtain ⟨blueRun, -, rfl⟩ := maskOrError_eq_ok blueMade
  cases made
  cases opacity : Mask.ofWord? alpha with
  | none => exact ⟨redRun, greenRun, blueRun, none, rfl⟩
  | some mask =>
      obtain ⟨run, -, rfl⟩ := Mask.ofWord?_eq_some opacity
      exact ⟨redRun, greenRun, blueRun, some run, rfl⟩

namespace Description

variable {file : Description} {bytes : Array UInt8} {start : Nat}

def info (file : Description) : Info :=
  ⟨UInt32.ofNat file.width, UInt32.ofNat file.height, file.topDown, file.encoding.layout⟩

namespace StandsAt

theorem headerSize_cases (stands : file.StandsAt bytes start) :
    file.headerSize ∈ [12, 40, 52, 56, 108, 124] := by
  rcases stands.header with core | info
  · simp [core.size]
  · exact List.mem_cons_of_mem _ info.size

theorem le_headerSize (stands : file.StandsAt bytes start) : 12 ≤ file.headerSize := by
  have sizes : ∀ size ∈ [12, 40, 52, 56, 108, 124], 12 ≤ size := by decide
  exact sizes _ stands.headerSize_cases

theorem width_lt (stands : file.StandsAt bytes start) : file.width < 2 ^ 31 := by
  rcases stands.header with core | info
  · have bound := shortOf_lt bytes (start + 18)
    rw [core.width] at bound
    omega
  · exact info.widthPositive

theorem height_le (stands : file.StandsAt bytes start) : file.height ≤ 2 ^ 31 := by
  rcases stands.header with core | info
  · have bound := shortOf_lt bytes (start + 20)
    rw [core.height] at bound
    omega
  · have signed := info.heightSigned
    split at signed
    · exact signed
    · exact Nat.le_of_lt signed

theorem pixelOffset_lt (stands : file.StandsAt bytes start) : file.pixelOffset < 2 ^ 32 := by
  rw [← stands.pixelOffset]
  exact wordOf_lt bytes _

theorem fileHeader_eq (stands : file.StandsAt bytes start) :
    FileHeader.ofBytes (bytes.extract start (start + 18)) =
      .ok ⟨UInt32.ofNat file.pixelOffset, UInt32.ofNat file.headerSize⟩ := by
  have whole := stands.whole
  have least := stands.le_headerSize
  exact FileHeader.ofBytes_eq stands.signature stands.pixelOffset stands.headerSize
    stands.headerSize_cases stands.gap (by omega)

end StandsAt

theorem CoreStands.info_eq (stands : file.CoreStands bytes start)
    (whole : start + 18 + 8 ≤ bytes.size) :
    Info.ofCore (bytes.extract (start + 18) (start + 18 + 8)) = .ok file.info := by
  have width : file.width < 2 ^ 16 := by
    rw [← stands.width]
    exact shortOf_lt bytes _
  have height : file.height < 2 ^ 16 := by
    rw [← stands.height]
    exact shortOf_lt bytes _
  have wide : (UInt16.ofNat file.width).toUInt32 = UInt32.ofNat file.width := by
    rw [← UInt32.toNat_inj, UInt16.toNat_toUInt32, UInt16.toNat_ofNat_of_lt' width,
      UInt32.toNat_ofNat_of_lt' (show file.width < 2 ^ 32 by omega)]
  have high : (UInt16.ofNat file.height).toUInt32 = UInt32.ofNat file.height := by
    rw [← UInt32.toNat_inj, UInt16.toNat_toUInt32, UInt16.toNat_ofNat_of_lt' height,
      UInt32.toNat_ofNat_of_lt' (show file.height < 2 ^ 32 by omega)]
  rw [Info.ofCore, shortAt_extract (by decide) whole, shortAt_extract (by decide) whole,
    shortAt_extract (by decide) whole, shortAt_extract (by decide) whole]
  simp only [ok_bind, Nat.add_assoc, Nat.reduceAdd, stands.width, stands.height, stands.planes,
    stands.bits, wide, high, info, stands.order, stands.encoding]
  rfl

namespace InfoStands

theorem headerSize_eq (stands : file.InfoStands bytes start) (short : file.headerSize < 52) :
    file.headerSize = 40 := by
  have sizes : ∀ size ∈ [40, 52, 56, 108, 124], size < 52 → size = 40 := by decide
  exact sizes _ stands.size short

theorem masks_eq (stands : file.InfoStands bytes start) {red green blue : BitRun}
    {alpha : Option BitRun} (fields : file.encoding = .fields32 red green blue alpha) :
    Layout.ofMasks (UInt32.ofNat (wordOf bytes (start + 54)))
      (UInt32.ofNat (wordOf bytes (start + 58))) (UInt32.ofNat (wordOf bytes (start + 62)))
      (UInt32.ofNat (if 56 ≤ file.headerSize then wordOf bytes (start + 66) else 0)) =
      .ok file.encoding.layout := by
  have masks := stands.masks
  rw [fields] at masks ⊢
  obtain ⟨-, redStands, greenStands, blueStands, alphaStands⟩ := masks
  have opacity : (if 56 ≤ file.headerSize then wordOf bytes (start + 66) else 0) =
      (alpha.map BitRun.word).getD 0 := by
    split
    · rename_i withAlpha
      rwa [if_pos withAlpha] at alphaStands
    · rename_i withoutAlpha
      rw [if_neg withoutAlpha] at alphaStands
      rw [alphaStands]
      rfl
  rw [redStands, greenStands, blueStands, opacity, ofMasks_eq]

theorem readLayout_eq (stands : file.InfoStands bytes start) {stream : Stream}
    (quiet : stream.Quiet) (same : stream.bytes = bytes)
    (behind : stream.position = start + 14 + file.headerSize)
    (whole : start + 18 + (file.headerSize - 4) ≤ bytes.size) :
    ∃ position rest, readLayout (UInt32.ofNat file.headerSize)
        (bytes.extract (start + 18) (start + 18 + (file.headerSize - 4))) stream =
        (.ok file.encoding.layout, rest) ∧ stream.MovedTo position rest := by
  have bounds := infoSize_bounds stands.size
  have bits := shortAt_extract (show 10 + 1 < file.headerSize - 4 by omega) whole
  have method := wordAt_extract (show 12 + 3 < file.headerSize - 4 by omega) whole
  rw [show start + 18 + 10 = start + 28 from rfl, stands.bits] at bits
  rw [show start + 18 + 12 = start + 30 from rfl, stands.method] at method
  cases encoding : file.encoding with
  | colour24 =>
      rw [encoding] at bits method
      rw [readLayout, bits, method]
      exact ⟨_, stream, rfl, rfl, rfl, rfl⟩
  | colourAlpha32 =>
      rw [encoding] at bits method
      rw [readLayout, bits, method]
      exact ⟨_, stream, rfl, rfl, rfl, rfl⟩
  | colour48 =>
      rw [encoding] at bits method
      rw [readLayout, bits, method]
      exact ⟨_, stream, rfl, rfl, rfl, rfl⟩
  | fields32 red green blue alpha =>
      have bits := stands.bits
      have method := stands.method
      have layout := stands.masks_eq encoding
      rw [encoding] at bits method layout
      rw [readLayout_fields stands.size whole bits method]
      by_cases long : 52 ≤ file.headerSize
      · rw [if_pos long, layout]
        exact ⟨_, stream, rfl, rfl, rfl, rfl⟩
      · have masks := stands.masks
        rw [encoding] at masks
        have present := masks.1
        have place : stream.position = start + 54 := by
          rw [behind, stands.headerSize_eq (by omega)]
        obtain ⟨rest, read, moved⟩ := Reading.exactly_eq_ok
          (.decode (.dibTruncated .colourMasks)) quiet
          (show stream.position + 12 ≤ stream.bytes.size by rw [place, same]; exact present)
        rw [if_neg (by omega)] at layout
        rw [if_neg long, Reading.bind_ok read, place, same, ofExtraMasks_eq present]
        exact ⟨_, rest, congrArg (fun outcome => (outcome, rest)) layout, moved⟩

theorem height_isNegative (stands : file.InfoStands bytes start) (hasRows : 0 < file.height) :
    isNegative (UInt32.ofNat (wordOf bytes (start + 22))) = file.topDown := by
  have signed := stands.heightSigned
  rw [isNegative_eq _ (wordOf_lt bytes _), stands.height]
  cases order : file.topDown with
  | false =>
      simp only [order, Bool.false_eq_true, if_false] at signed ⊢
      exact decide_eq_false (by omega)
  | true =>
      simp only [order, if_true] at signed ⊢
      exact decide_eq_true (by omega)

theorem height_magnitude (stands : file.InfoStands bytes start) (hasRows : 0 < file.height) :
    magnitude (UInt32.ofNat (wordOf bytes (start + 22))) = UInt32.ofNat file.height := by
  have signed := stands.heightSigned
  rw [magnitude, stands.height_isNegative hasRows, stands.height]
  cases order : file.topDown with
  | false => simp only [Bool.false_eq_true, if_false]
  | true =>
      simp only [order, if_true] at signed ⊢
      rw [← UInt32.toNat_inj, UInt32.toNat_sub,
        UInt32.toNat_ofNat_of_lt' (show 2 ^ 32 - file.height < 2 ^ 32 by omega),
        UInt32.toNat_ofNat_of_lt' (show file.height < 2 ^ 32 by omega)]
      change (2 ^ 32 - (2 ^ 32 - file.height) + 0) % 2 ^ 32 = file.height
      omega

theorem infoOf_eq (stands : file.InfoStands bytes start) (hasRows : 0 < file.height) :
    infoOf bytes start file.encoding.layout = file.info := by
  have positive := stands.widthPositive
  have widthSign : isNegative (UInt32.ofNat file.width) = false := by
    rw [isNegative_eq _ (by omega)]
    exact decide_eq_false (by omega)
  rw [infoOf, stands.height_magnitude hasRows, stands.height_isNegative hasRows, stands.width,
    magnitude, widthSign]
  rfl

theorem readInfo_eq (stands : file.InfoStands bytes start) {stream : Stream}
    (quiet : stream.Quiet) (same : stream.bytes = bytes) (behind : stream.position = start + 18)
    (whole : start + 18 + (file.headerSize - 4) ≤ bytes.size) (hasColumns : 0 < file.width)
    (hasRows : 0 < file.height) :
    ∃ position rest, readInfo (UInt32.ofNat file.headerSize) stream = (.ok file.info, rest) ∧
      stream.MovedTo position rest := by
  have bounds := infoSize_bounds stands.size
  have columns : 0 < wordOf bytes (start + 18) ∧ wordOf bytes (start + 18) < 2 ^ 31 := by
    rw [stands.width]
    exact ⟨hasColumns, stands.widthPositive⟩
  have rows : wordOf bytes (start + 22) ≠ 0 := by
    have signed := stands.heightSigned
    rw [stands.height]
    split
    · rename_i topDown
      rw [if_pos topDown] at signed
      omega
    · exact Nat.ne_of_gt hasRows
  obtain ⟨rest, read, moved⟩ := Reading.exactly_eq_ok (.decode (.dibTruncated .infoHeader)) quiet
    (show stream.position + (file.headerSize - 4) ≤ stream.bytes.size by
      rw [behind, same]; exact whole)
  rw [behind, same] at read
  rw [behind] at moved
  obtain ⟨position, last, layout, movedOn⟩ := stands.readLayout_eq (moved.quiet quiet)
    (moved.bytes.trans same) (by rw [moved.position]; omega) whole
  refine ⟨position, last, ?_, moved.trans movedOn⟩
  rw [readInfo_of_block stands.size whole columns rows stands.planes read,
    Reading.bind_ok layout, stands.infoOf_eq hasRows]
  rfl

end InfoStands

namespace StandsAt

theorem readFileHeader_eq {stream : Stream}
    (stands : file.StandsAt stream.bytes stream.position) (quiet : stream.Quiet) :
    ∃ rest, readFileHeader stream =
        (.ok ⟨UInt32.ofNat file.pixelOffset, UInt32.ofNat file.headerSize⟩, rest) ∧
      stream.MovedTo (stream.position + 18) rest := by
  have whole := stands.whole
  have least := stands.le_headerSize
  obtain ⟨rest, read, moved⟩ := Reading.exactly_eq_ok (.decode (.dibTruncated .fileHeader)) quiet
    (show stream.position + 18 ≤ stream.bytes.size by omega)
  refine ⟨rest, ?_, moved⟩
  rw [readFileHeader, Reading.bind_ok read, stands.fileHeader_eq]
  rfl

theorem readInfo_eq {stream : Stream} (stands : file.StandsAt stream.bytes start)
    (quiet : stream.Quiet) (behind : stream.position = start + 18) :
    ∃ position rest, readInfo (UInt32.ofNat file.headerSize) stream = (.ok file.info, rest) ∧
      stream.MovedTo position rest := by
  have least := stands.le_headerSize
  have fits := stands.whole
  have whole : start + 18 + (file.headerSize - 4) ≤ stream.bytes.size := by omega
  rcases stands.header with core | info
  · have size : file.headerSize = 12 := core.size
    rw [size] at whole ⊢
    obtain ⟨rest, read, moved⟩ := Reading.exactly_eq_ok (.decode (.dibTruncated .infoHeader)) quiet
      (show stream.position + 8 ≤ stream.bytes.size by rw [behind]; exact whole)
    rw [behind] at read
    refine ⟨_, rest, ?_, moved⟩
    change ((Reading.exactly 8 (.decode (.dibTruncated .infoHeader))) >>= fun bytes =>
      liftM (Info.ofCore bytes)) stream = _
    rw [Reading.bind_ok read, core.info_eq whole]
    rfl
  · exact info.readInfo_eq quiet rfl behind whole stands.hasColumns stands.hasRows

end StandsAt

end Description

end Raster.Dib
