import Mathlib.Algebra.Group.Nat.Defs
import Mathlib.Data.List.Forall2
import Raster.Png.Decoder

/-!
Pictures as the format describes them: samples at rows, columns and channels, laid out in packed
rows, in one pass or in seven. Nothing here refers to how a mask is read.
-/

namespace Raster.Png

structure Picture where
  width : Nat
  height : Nat
  colour : ColourType
  depth : Nat
  palette : Array UInt8
  sample : Nat → Nat → Nat → Nat
  hasColumns : 0 < width
  hasRows : 0 < height
  widthBound : width < 2 ^ 32
  heightBound : height < 2 ^ 32
  suits : depth ∈ colour.depths
  shallow : depth ≤ 8
  small : ∀ y x channel, sample y x channel < 2 ^ depth

namespace Picture

/-- A whole entry of three bytes stands in the palette for each index that a pixel holds. -/
def Covers (picture : Picture) (y x : Nat) : Prop :=
  picture.colour = .palette → 3 * picture.sample y x 0 + 3 ≤ picture.palette.size

def luma (red green blue : Nat) : Nat := (222 * red + 707 * green + 71 * blue) / 1000

def entry (picture : Picture) (index channel : Nat) : Nat :=
  (picture.palette.getD (3 * index + channel) 0).toNat

/-- The alpha that a pixel stands for: its own, or its gray value on the scale of 255, or the
luma of its colour. -/
def alpha (picture : Picture) (y x : Nat) : Nat :=
  let sample := picture.sample y x
  match picture.colour with
  | .palette =>
      luma (picture.entry (sample 0) 0) (picture.entry (sample 0) 1) (picture.entry (sample 0) 2)
  | .gray => sample 0 * 255 / (2 ^ picture.depth - 1)
  | .grayAlpha => sample 1
  | .truecolour => luma (sample 0) (sample 1) (sample 2)
  | .truecolourAlpha => sample 3

end Picture

def rowBit (row : Array UInt8) (index : Nat) : Bool :=
  (row.getD (index / 8) 0).toNat.testBit (7 - index % 8)

/-- A row begins with `count` samples of `depth` bits each, without gaps. Bits behind them are
free. -/
structure Packed (depth count : Nat) (value : Nat → Nat) (row : Array UInt8) : Prop where
  room : count * depth ≤ row.size * 8
  bits : ∀ index bit, index < count → bit < depth →
    rowBit row (index * depth + bit) = (value index).testBit (depth - 1 - bit)

instance (depth count : Nat) (value : Nat → Nat) (row : Array UInt8) :
    Decidable (Packed depth count value row) :=
  decidable_of_iff
    (count * depth ≤ row.size * 8 ∧ ∀ index < count, ∀ bit < depth,
      rowBit row (index * depth + bit) = (value index).testBit (depth - 1 - bit))
    ⟨fun ⟨room, bits⟩ => ⟨room, fun index bit inside below => bits index inside bit below⟩,
      fun ⟨room, bits⟩ => ⟨room, fun index inside bit below => bits index bit inside below⟩⟩

def along (first step extent : Nat) : List Nat :=
  (List.range extent).filter fun place => first ≤ place ∧ (place - first) % step = 0

structure Lattice where
  firstX : Nat
  firstY : Nat
  stepX : Nat
  stepY : Nat
deriving DecidableEq

namespace Lattice

def whole : Lattice := ⟨0, 0, 1, 1⟩

def seven : List Lattice := [
  ⟨0, 0, 8, 8⟩, ⟨4, 0, 8, 8⟩, ⟨0, 4, 4, 8⟩, ⟨2, 0, 4, 4⟩,
  ⟨0, 2, 2, 4⟩, ⟨1, 0, 2, 2⟩, ⟨0, 1, 1, 2⟩]

def all (interlaced : Bool) : List Lattice := if interlaced then seven else [whole]

/-- The places of an image that a lattice takes, row by row; without columns there are no rows. -/
def rows (lattice : Lattice) (width height : Nat) : List (List (Nat × Nat)) :=
  let columns := along lattice.firstX lattice.stepX width
  if columns.isEmpty then []
  else (along lattice.firstY lattice.stepY height).map fun y => columns.map fun x => (y, x)

end Lattice

def storedRows (interlaced : Bool) (width height : Nat) : List (List (Nat × Nat)) :=
  (Lattice.all interlaced).flatMap fun lattice => lattice.rows width height

namespace Picture

/-- The sample at an index of a stored row: all channels of a place stand together. -/
def stored (picture : Picture) (places : List (Nat × Nat)) (index : Nat) : Nat :=
  let place := places.getD (index / picture.colour.samples) (0, 0)
  picture.sample place.1 place.2 (index % picture.colour.samples)

def PackedRow (picture : Picture) (places : List (Nat × Nat)) (row : Array UInt8) : Prop :=
  Packed picture.depth (places.length * picture.colour.samples) (picture.stored places) row

instance (picture : Picture) (places : List (Nat × Nat)) (row : Array UInt8) :
    Decidable (picture.PackedRow places row) :=
  inferInstanceAs (Decidable (Packed ..))

/-- What a decoder hands out for a file that holds the picture. -/
structure StoredIn (picture : Picture) (interlaced : Bool) (mask : Mask) : Prop where
  header : mask.header =
    ⟨UInt32.ofNat picture.width, UInt32.ofNat picture.height, picture.depth, picture.colour,
      interlaced⟩
  palette : picture.colour = .palette → mask.palette = picture.palette
  rows : List.Forall₂ picture.PackedRow
    (storedRows interlaced picture.width picture.height) mask.rows
  /-- Sides can be rounded up to whole passes in 32 bits. Those that the format allows have 31. -/
  roundsUp : interlaced = true → picture.width + 7 < 2 ^ 32 ∧ picture.height + 7 < 2 ^ 32

end Picture

end Raster.Png
