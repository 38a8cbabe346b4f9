import Raster.Png.Header

/-!
Image headers as PNG data holds them, and what follows from one for the rows behind it.
-/

namespace Raster.Backend.Png

open Raster.Png

def colourOfCode? (code : UInt8) : Option ColourType :=
  if code = 0 then some .gray
  else if code = 2 then some .truecolour
  else if code = 3 then some .palette
  else if code = 4 then some .grayAlpha
  else if code = 6 then some .truecolourAlpha
  else none

def wordAt (bytes : Array UInt8) (index : Nat) : Nat :=
  let byte (offset : Nat) := (bytes.getD (index + offset) 0).toNat
  ((byte 0 * 256 + byte 1) * 256 + byte 2) * 256 + byte 3

def header? (bytes : Array UInt8) : Option Header := do
  guard (13 ≤ bytes.size)
  let width := wordAt bytes 0
  let height := wordAt bytes 4
  guard (0 < width ∧ 0 < height)
  let depth := (bytes.getD 8 0).toNat
  let colour ← colourOfCode? (bytes.getD 9 0)
  guard (depth ∈ colour.depths)
  let interlace := bytes.getD 12 0
  guard (bytes.getD 10 0 = 0 ∧ bytes.getD 11 0 = 0 ∧ interlace ≤ 1)
  return ⟨UInt32.ofNat width, UInt32.ofNat height, depth, colour, interlace = 1⟩

def rowBytes (header : Header) (width : Nat) : Nat :=
  (width * header.colour.samples * header.depth + 7) / 8

def filterStep (header : Header) : Nat := max 1 (header.colour.samples * header.depth / 8)

end Raster.Backend.Png
