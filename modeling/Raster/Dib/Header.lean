import Raster.Dib.Mask
import Raster.Limits
import Raster.Stream

/-!
Headers of device-independent bitmaps: the file header with its signature, then a core or an info
header that gives the size and the layout of the pixels.
-/

namespace Raster

abbrev Reading := ExceptT Failure (StateM Stream)

def Reading.exactly (count : Nat) (error : Error) : Reading (Array UInt8) := fun stream =>
  match stream.readExactly count #[] with
  | (some bytes, rest) => (.ok bytes, rest)
  | (none, rest) => (.error (.refused error), rest)

def Reading.position (error : Error) : Reading Nat := fun stream =>
  match stream.query with
  | (some position, rest) => (.ok position, rest)
  | (none, rest) => (.error (.refused error), rest)

def Reading.seek (target : Nat) (error : Error) : Reading Unit := fun stream =>
  match stream.seek target with
  | (some (), rest) => (.ok (), rest)
  | (none, rest) => (.error (.refused error), rest)

namespace Dib

def byteAt (bytes : Array UInt8) (index : Nat) : Except Failure UInt8 :=
  match bytes[index]? with
  | some byte => .ok byte
  | none => .error .panicked

def shortAt (bytes : Array UInt8) (index : Nat) : Except Failure UInt16 := do
  let low ← byteAt bytes index
  let high ← byteAt bytes (index + 1)
  return low.toUInt16 ||| (high.toUInt16 <<< 8)

def wordAt (bytes : Array UInt8) (index : Nat) : Except Failure UInt32 := do
  let low ← shortAt bytes index
  let high ← shortAt bytes (index + 2)
  return low.toUInt32 ||| (high.toUInt32 <<< 16)

def fileHeaderSize : UInt32 := 14

def coreHeaderSize : UInt32 := 12

def infoHeaderSizes : List UInt32 := [40, 52, 56, 108, 124]

structure FileHeader where
  pixelOffset : UInt32
  headerSize : UInt32
deriving DecidableEq, Repr

def FileHeader.ofBytes (bytes : Array UInt8) : Except Failure FileHeader := do
  let first ← byteAt bytes 0
  let second ← byteAt bytes 1
  unless first = 0x42 ∧ second = 0x4d do
    throw (.refused (.decode .dibSignatureMissing))
  let pixelOffset ← wordAt bytes 10
  let headerSize ← wordAt bytes 14
  unless headerSize = coreHeaderSize ∨ headerSize ∈ infoHeaderSizes do
    throw (.refused (.decode (.dibHeaderSizeUnknown headerSize)))
  if pixelOffset < fileHeaderSize + headerSize then
    throw (.refused (.decode .dibHeadersOverlap))
  return ⟨pixelOffset, headerSize⟩

def readFileHeader : Reading FileHeader := do
  let bytes ← Reading.exactly 18 (.decode (.dibTruncated .fileHeader))
  FileHeader.ofBytes bytes

inductive Layout where
  | blueGreenRed24
  | blueGreenRedAlpha32
  | masked32 (red green blue : Mask) (alpha : Option Mask)
  | blueGreenRed48
deriving DecidableEq, Repr

def Layout.bits : Layout → Nat
  | .blueGreenRed24 => 24
  | .blueGreenRedAlpha32 => 32
  | .masked32 .. => 32
  | .blueGreenRed48 => 48

structure Info where
  width : UInt32
  height : UInt32
  topDown : Bool
  layout : Layout
deriving DecidableEq, Repr

def Info.ofCore (bytes : Array UInt8) : Except Failure Info := do
  let width ← shortAt bytes 0
  let height ← shortAt bytes 2
  unless (← shortAt bytes 4) = 1 do
    throw (.refused (.decode .dibPlaneCount))
  let bits ← shortAt bytes 6
  unless bits = 24 do
    throw (.refused (.unsupported (.coreDibBits bits)))
  return ⟨width.toUInt32, height.toUInt32, false, .blueGreenRed24⟩

def maskOrError (word : UInt32) : Except Failure Mask :=
  match Mask.ofWord? word with
  | some mask => .ok mask
  | none => .error (.refused (.unsupported .scatteredMask))

/-- The layout of three colour masks and an alpha mask; an alpha mask with gaps counts as none. -/
def Layout.ofMasks (red green blue alpha : UInt32) : Except Failure Layout := do
  return .masked32 (← maskOrError red) (← maskOrError green) (← maskOrError blue)
    (Mask.ofWord? alpha)

def Layout.ofHeaderMasks (headerSize : UInt32) (bytes : Array UInt8) : Except Failure Layout := do
  let alpha ← if 56 ≤ headerSize then wordAt bytes 48 else .ok 0
  Layout.ofMasks (← wordAt bytes 36) (← wordAt bytes 40) (← wordAt bytes 44) alpha

def Layout.ofExtraMasks (bytes : Array UInt8) : Except Failure Layout := do
  Layout.ofMasks (← wordAt bytes 0) (← wordAt bytes 4) (← wordAt bytes 8) 0

/-- The layout an info header names; short headers have their masks read from the stream. -/
def readLayout (headerSize : UInt32) (bytes : Array UInt8) : Reading Layout := do
  let bits ← shortAt bytes 10
  let compression ← wordAt bytes 12
  if bits = 24 ∧ compression = 0 then
    return .blueGreenRed24
  else if bits = 32 ∧ compression = 0 then
    return .blueGreenRedAlpha32
  else if bits = 48 ∧ compression = 0 then
    return .blueGreenRed48
  else if bits = 32 ∧ compression = 3 then
    if 52 ≤ headerSize then
      Layout.ofHeaderMasks headerSize bytes
    else
      let masks ← Reading.exactly 12 (.decode (.dibTruncated .colourMasks))
      Layout.ofExtraMasks masks
  else
    throw (.refused (.unsupported (.dibLayout bits compression)))

def isNegative (word : UInt32) : Bool := decide (0x80000000 ≤ word)

def magnitude (word : UInt32) : UInt32 := if isNegative word then 0 - word else word

def readInfo (headerSize : UInt32) : Reading Info := do
  let bytes ← Reading.exactly (headerSize.toNat - 4) (.decode (.dibTruncated .infoHeader))
  if headerSize = coreHeaderSize then
    Info.ofCore bytes
  else
    let width ← wordAt bytes 0
    let height ← wordAt bytes 4
    if width = 0 ∨ isNegative width = true ∨ height = 0 then
      throw (.refused (.decode .dibEmptyDimensions))
    unless (← shortAt bytes 8) = 1 do
      throw (.refused (.decode .dibPlaneCount))
    let layout ← readLayout headerSize bytes
    return ⟨magnitude width, magnitude height, isNegative height, layout⟩

end Dib

end Raster
