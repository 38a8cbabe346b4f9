import Raster.Backend.Deflate.Checksum
import Raster.Backend.Png.Chunk
import Raster.Png.Decoder

/-!
What stands before the image data of a PNG image: the header, and chunks that say how to read the
data. Two sets of rules differ in what they forgive and in what they count against a budget of
bytes: decoding a whole image passes over faulty ancillary chunks, decoding row by row passes over
unknown critical ones.
-/

namespace Raster.Backend.Png

open Raster.Png

/-- What a reader of PNG data forgives. -/
inductive Rules where
  | whole
  | rows
deriving DecidableEq, Repr

structure Region where
  x : Nat
  y : Nat
  width : Nat
  height : Nat
deriving DecidableEq, Repr

/-- What the chunks so far have told. -/
structure Seen where
  header : Header
  palette : Option (Array UInt8)
  transparency : Option (Array UInt8)
  region : Option Region
  frames : Nat
  budget : Nat
  room : Nat
  significantBits : Bool
  physical : Bool
  gamma : Bool
  chromaticities : Bool
  standardColours : Bool
  codedColours : Bool
  profile : Bool

namespace Rules

inductive Handling where
  | read
  | skip
  | refuse
deriving DecidableEq, Repr

def lengthBounds : List (String × Nat × Nat) := [
  ("IHDR", 13, 13), ("PLTE", 3, 768), ("IEND", 0, 0), ("sBIT", 1, 4), ("tRNS", 1, 256),
  ("pHYs", 9, 9), ("gAMA", 4, 4), ("acTL", 8, 8), ("fcTL", 26, 26), ("cHRM", 32, 32),
  ("sRGB", 1, 1), ("cICP", 4, 4), ("mDCV", 24, 24), ("cLLI", 8, 8), ("bKGD", 1, 6)]

def unbounded : List String := ["eXIf", "iCCP", "tEXt", "zTXt", "iTXt"]

def isUseful (kind : ChunkKind) (length : Nat) : Bool :=
  match lengthBounds.find? fun entry => ChunkKind.ofLetters entry.1 == kind with
  | some (_, least, greatest) => least ≤ length && length ≤ greatest
  | none => unbounded.any fun letters => ChunkKind.ofLetters letters == kind

/--
Row by row, only chunks without content are skipped. For a whole image every chunk of no use is,
unless the image hangs on it.
-/
def handling : Rules → ChunkKind → Nat → Handling
  | .rows, _, length => if length = 0 then .skip else .read
  | .whole, kind, length =>
      if isUseful kind length then .read
      else if kind.isCritical ∨ kind = ChunkKind.frameControl then .refuse
      else .skip

def firstRoom : Rules → Nat
  | .whole => 128
  | .rows => 32768

def growth : Rules → Nat → Nat → Nat
  | .whole, room, budget => min room budget
  | .rows, room, budget => min room (budget - room)

def countsColours : Rules → Bool
  | .whole => false
  | .rows => true

def forgive : Rules → Seen → Option Seen
  | .whole, seen => some seen
  | .rows, _ => none

end Rules

namespace Seen

def ofHeader (header : Header) (budget room : Nat) : Seen where
  header := header
  palette := none
  transparency := none
  region := none
  frames := 0
  budget := budget
  room := room
  significantBits := false
  physical := false
  gamma := false
  chromaticities := false
  standardColours := false
  codedColours := false
  profile := false

def spend (seen : Seen) (size : Nat) : Option Seen :=
  if size ≤ seen.budget then some { seen with budget := seen.budget - size } else none

def acceptPalette (rules : Rules) (seen : Seen) (data : Array UInt8) : Option Seen := do
  guard seen.palette.isNone
  let seen ← if rules.countsColours then seen.spend data.size else some seen
  return { seen with palette := some data }

/-- Keeps the low bytes of the transparent colour, or all of it at sixteen bits. -/
def acceptTransparency (rules : Rules) (seen : Seen) (data : Array UInt8) : Option Seen := do
  guard seen.transparency.isNone
  let low (indices : List Nat) : Array UInt8 :=
    if seen.header.depth = 16 then data
    else (indices.map fun index => data.getD index 0).toArray
  let kept ← match seen.header.colour with
    | .gray => do
        guard (2 ≤ data.size)
        pure (low [1])
    | .truecolour => do
        guard (6 ≤ data.size)
        pure (low [1, 3, 5])
    | .palette => do
        guard seen.palette.isSome
        pure data
    | _ => none
  let seen ← if rules.countsColours then seen.spend data.size else some seen
  return { seen with transparency := some kept }

/--
A frame control must come in sequence and cover a part of the image. In front of a whole image it
covers all of it.
-/
def acceptFrame (rules : Rules) (seen : Seen) (data : Array UInt8) : Option Seen := do
  guard (26 ≤ data.size)
  guard (wordAt data 0 = seen.frames)
  let region : Region := ⟨wordAt data 12, wordAt data 16, wordAt data 4, wordAt data 8⟩
  guard (data.getD 24 0 ≤ 2 ∧ data.getD 25 0 ≤ 1)
  guard (0 < region.width ∧ 0 < region.height)
  guard (region.x + region.width ≤ seen.header.width.toNat)
  guard (region.y + region.height ≤ seen.header.height.toNat)
  guard (rules = .rows ∨
    (region.width = seen.header.width.toNat ∧ region.height = seen.header.height.toNat))
  return { seen with region := some region, frames := seen.frames + 1 }

def suitsBits (header : Header) (data : Array UInt8) : Bool :=
  let depth := if header.colour = .palette then 8 else header.depth
  let channels := if header.colour = .palette then 3 else header.colour.samples
  data.size == channels && data.all fun bits => 1 ≤ bits && bits.toNat ≤ depth

def acceptSignificantBits (rules : Rules) (seen : Seen) (data : Array UInt8) : Seen :=
  if rules = .whole ∨ seen.palette.isSome ∨ seen.significantBits then seen
  else
    match seen.spend data.size with
    | some seen => { seen with significantBits := suitsBits seen.header data }
    | none => seen

def keyword (longest : Nat) (data : Array UInt8) : Option Nat := do
  let length ← data.findIdx? (· == 0)
  guard (0 < length ∧ length ≤ longest)
  return length + 1

def profileSize? (budget : Nat) (data : Array UInt8) : Option Nat := do
  let start ← keyword 80 data
  guard (data[start]? = some 0)
  let profile ← Deflate.inflateChecked budget (data.extract (start + 1) data.size)
  return profile.size

/-- Only the first colour profile counts, and it is kept only if it can be made use of. -/
def acceptProfile (seen : Seen) (data : Array UInt8) : Seen :=
  if seen.profile then seen
  else
    { seen with
      profile := true
      budget := seen.budget - (profileSize? seen.budget data).getD 0 }

def isCompressedText (data : Array UInt8) : Bool :=
  match keyword 79 data with
  | some start => data[start]? == some 0
  | none => false

def isInternationalText (data : Array UInt8) : Bool :=
  Option.isSome do
    let start ← keyword 79 data
    let flag ← data[start]?
    let method ← data[start + 1]?
    guard (flag ≤ 1 ∧ (flag = 0 ∨ method = 0))
    let language := data.extract (start + 2) data.size
    let languageEnd ← language.findIdx? (· == 0)
    let localName := language.extract (languageEnd + 1) language.size
    let localNameEnd ← localName.findIdx? (· == 0)
    guard ((language.extract 0 languageEnd).all (· < 128))
    guard ((ByteArray.mk (localName.extract 0 localNameEnd)).validateUTF8)
    let text := localName.extract (localNameEnd + 1) localName.size
    guard (flag = 1 ∨ (ByteArray.mk text).validateUTF8)

def acceptText (rules : Rules) (seen : Seen) (data : Array UInt8) (suits : Bool) :
    Option Seen := do
  let seen ← seen.spend data.size
  if suits then return seen else rules.forgive seen

def acceptCodedColours (rules : Rules) (seen : Seen) (data : Array UInt8) : Option Seen := do
  if rules = .rows ∨ seen.palette.isSome ∨ seen.codedColours then return seen
  guard (data.getD 2 0 = 0 ∧ data.getD 3 0 ≤ 1)
  return { seen with codedColours := true }

def acceptBackground (rules : Rules) (seen : Seen) : Option Seen := do
  guard (rules = .rows ∨ seen.header.colour ≠ .palette ∨ seen.palette.isSome)
  return seen

def acceptMinor (seen : Seen) (kind : ChunkKind) (data : Array UInt8) : Option Seen :=
  if kind = ChunkKind.ofLetters "acTL" then do
    guard (8 ≤ data.size)
    return seen
  else if kind = ChunkKind.ofLetters "pHYs" then do
    guard (!seen.physical ∧ 9 ≤ data.size ∧ data.getD 8 0 ≤ 1)
    return { seen with physical := true }
  else if kind = ChunkKind.ofLetters "gAMA" then do
    guard (!seen.gamma ∧ 4 ≤ data.size)
    return { seen with gamma := true }
  else if kind = ChunkKind.ofLetters "cHRM" then do
    guard (!seen.chromaticities ∧ 32 ≤ data.size)
    return { seen with chromaticities := true }
  else if kind = ChunkKind.ofLetters "sRGB" then do
    guard (!seen.standardColours ∧ 1 ≤ data.size ∧ data.getD 0 0 ≤ 3)
    return { seen with standardColours := true }
  else some seen

def accept (rules : Rules) (seen : Seen) (kind : ChunkKind) (data : Array UInt8) : Option Seen :=
  if kind = ChunkKind.imageHeader then none
  else if kind = ChunkKind.palette then seen.acceptPalette rules data
  else if kind = ChunkKind.frameControl then seen.acceptFrame rules data
  else if kind = ChunkKind.ofLetters "sBIT" then some (seen.acceptSignificantBits rules data)
  else if kind = ChunkKind.ofLetters "iCCP" then some (seen.acceptProfile data)
  else if kind = ChunkKind.ofLetters "cICP" then seen.acceptCodedColours rules data
  else if kind = ChunkKind.ofLetters "bKGD" then seen.acceptBackground rules
  else if kind = ChunkKind.ofLetters "tEXt" then
    seen.acceptText rules data (keyword 79 data).isSome
  else if kind = ChunkKind.ofLetters "zTXt" then
    seen.acceptText rules data (isCompressedText data)
  else if kind = ChunkKind.ofLetters "iTXt" then
    seen.acceptText rules data (isInternationalText data)
  else if kind = ChunkKind.transparency then
    seen.acceptTransparency rules data <|> rules.forgive seen
  else seen.acceptMinor kind data <|> rules.forgive seen

end Seen

namespace Rules

def makeRoom (rules : Rules) (length : Nat) : Nat → Nat → Nat → Option (Nat × Nat)
  | 0, _, _ => none
  | fuel + 1, room, budget =>
      if length ≤ room then some (room, budget)
      else
        let growth := rules.growth room budget
        if growth = 0 then none
        else makeRoom rules length fuel (room + growth) (budget - growth)

def doublings : Nat := 64

def note (rules : Rules) (bytes : Array UInt8) (seen : Seen) (chunk : Chunk) : Option Seen := do
  guard (chunk.isIntact bytes ∨ !chunk.kind.isCritical)
  match rules.handling chunk.kind chunk.length with
  | .refuse => none
  | .skip => return seen
  | .read =>
      let (room, budget) ← rules.makeRoom chunk.length doublings seen.room seen.budget
      let seen := { seen with room, budget }
      if rules = .whole ∧ !chunk.isIntact bytes then return seen
      seen.accept rules chunk.kind (chunk.content bytes)

/-- The chunk holds image data. Data of a frame must have a frame control before it. -/
def isImageData (seen : Seen) (chunk : Chunk) : Option Bool := do
  if chunk.kind = ChunkKind.imageData then return true
  if chunk.kind = ChunkKind.frameData then
    guard (0 < seen.frames ∧ 4 ≤ chunk.length)
    return true
  return false

def chunksWithin (rules : Rules) (bytes : Array UInt8) : Nat → Nat → Seen → Option (Seen × Chunk)
  | 0, _, _ => none
  | fuel + 1, index, seen => do
      let chunk ← Chunk.at? bytes index
      if ← isImageData seen chunk then return (seen, chunk)
      guard (chunk.isWhole bytes)
      guard (chunk.kind ≠ ChunkKind.imageEnd)
      chunksWithin rules bytes fuel chunk.stop (← rules.note bytes seen chunk)

def admits : Rules → Header → Bool
  | .whole, header => header.width < 0x80000000 && header.height < 0x80000000
  | .rows, _ => true

def headerWithin (rules : Rules) (limit : Nat) (bytes : Array UInt8) :
    Nat → Nat → Option (Seen × Nat)
  | 0, _ => none
  | fuel + 1, index => do
      let chunk ← Chunk.at? bytes index
      guard (chunk.kind = ChunkKind.imageHeader ∧ chunk.isWhole bytes)
      guard (chunk.isIntact bytes)
      match rules.handling chunk.kind chunk.length with
      | .refuse => none
      | .skip => headerWithin rules limit bytes fuel chunk.stop
      | .read =>
          let (room, budget) ← rules.makeRoom chunk.length doublings rules.firstRoom limit
          let header ← header? (chunk.content bytes)
          guard (rules.admits header)
          return (Seen.ofHeader header budget room, chunk.stop)

def preamble (rules : Rules) (limit : Nat) (bytes : Array UInt8) : Option (Seen × Chunk) := do
  guard (bytes.extract 0 8 = signature)
  let (seen, index) ← rules.headerWithin limit bytes bytes.size 8
  rules.chunksWithin bytes bytes.size index seen

end Rules

end Raster.Backend.Png
