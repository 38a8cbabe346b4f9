import Raster.Backend.Delivery
import Raster.Backend.Png.Filter
import Raster.Backend.Png.PixelData
import Raster.Backend.Png.Preamble
import Raster.Png.Interlace

/-!
Decoding of whole PNG images into pixels with eight bits to a channel.
-/

namespace Raster.Backend.Png

open Raster.Png

def passRows (header : Header) (width height : UInt32) (data : Array UInt8) :
    List Pass → Nat → Array (Array UInt8) → Option (Array (Array UInt8))
  | [], _, rows => some rows
  | pass :: later, start, rows =>
      if pass.isEmpty width height then passRows header width height data later start rows
      else
        let count := (pass.height height).toNat
        let (found, next) := unfilterRows (filterStep header)
          (rowBytes header (pass.width width).toNat) data count start #[] #[]
        if found.size = count then passRows header width height data later next (rows ++ found)
        else none

def sampleAt (depth : Nat) (row : Array UInt8) (index : Nat) : Nat :=
  if depth = 16 then
    (row.getD (2 * index) 0).toNat * 256 + (row.getD (2 * index + 1) 0).toNat
  else
    ((row.getD (index * depth / 8) 0).toNat >>> (8 - depth - index * depth % 8)) % (1 <<< depth)

def sampleToByte (depth sample : Nat) : UInt8 :=
  if depth = 16 then ((sample + 128) / 257).toUInt8
  else (sample * 255 / ((1 <<< depth) - 1)).toUInt8

def isTransparentColour (seen : Seen) (samples : List Nat) : Bool :=
  match seen.transparency with
  | none => false
  | some key =>
      if seen.header.depth = 16 then
        key.toList == samples.flatMap fun sample => [(sample / 256).toUInt8, sample.toUInt8]
      else key.toList.map UInt8.toNat == samples

def paletteAlpha (seen : Seen) (palette : Array UInt8) (index : Nat) : UInt8 :=
  match seen.transparency with
  | some alphas => if alphas.size ≤ palette.size / 3 then alphas.getD index 0xff else 0xff
  | none => 0xff

def paletteColour (seen : Seen) (palette : Array UInt8) (index : Nat) : Rgba :=
  let entry (offset : Nat) : UInt8 := palette.getD (3 * index + offset) 0
  if 3 * index + 3 ≤ palette.size then
    ⟨entry 0, entry 1, entry 2, paletteAlpha seen palette index⟩
  else ⟨0, 0, 0, 0xff⟩

def imageColour (seen : Seen) (row : Array UInt8) (column : Nat) : Rgba :=
  let depth := seen.header.depth
  let first := column * seen.header.colour.samples
  let sample (offset : Nat) := sampleAt depth row (first + offset)
  let byte (offset : Nat) := sampleToByte depth (sample offset)
  match seen.header.colour with
  | .palette => paletteColour seen (seen.palette.getD #[]) (sample 0)
  | .gray =>
      ⟨byte 0, byte 0, byte 0, if isTransparentColour seen [sample 0] then 0 else 0xff⟩
  | .grayAlpha => ⟨byte 0, byte 0, byte 0, byte 1⟩
  | .truecolour =>
      let isKey := isTransparentColour seen [sample 0, sample 1, sample 2]
      ⟨byte 0, byte 1, byte 2, if isKey then 0 else 0xff⟩
  | .truecolourAlpha => ⟨byte 0, byte 1, byte 2, byte 3⟩

def placeRow (seen : Seen) (pass : Pass) (width : Nat) (y : UInt32) (row : Array UInt8)
    (count : Nat) (pixels : Array Rgba) : Array Rgba :=
  (Array.range count).foldl
    (fun pixels column =>
      pixels.setIfInBounds (y.toNat * width + (pass.imageX (UInt32.ofNat column)).toNat)
        (imageColour seen row column)) pixels

def placeRows (seen : Seen) (rows : Array (Array UInt8)) :
    List Pass → Nat → Array Rgba → Array Rgba
  | [], _, pixels => pixels
  | pass :: later, first, pixels =>
      let header := seen.header
      if pass.isEmpty header.width header.height then placeRows seen rows later first pixels
      else
        let count := (pass.height header.height).toNat
        let placed := (Array.range count).foldl
          (fun pixels y =>
            placeRow seen pass header.width.toNat (pass.imageY (UInt32.ofNat y))
              (rows.getD (first + y) #[]) (pass.width header.width).toNat pixels) pixels
        placeRows seen rows later (first + count) placed

def decodedChannels (seen : Seen) : Nat :=
  let keyed := if seen.transparency.isSome then 1 else 0
  match seen.header.colour with
  | .palette => 3 + keyed
  | .gray => 1 + keyed
  | .grayAlpha => 2
  | .truecolour => 3 + keyed
  | .truecolourAlpha => 4

def decodedRowBytes (seen : Seen) : Nat :=
  seen.header.width.toNat * decodedChannels seen * (if seen.header.depth = 16 then 2 else 1)

/--
The pixels of a whole image and its size; `none` if anything is wrong with it. Pixel data behind
the last row goes unnoticed, but damage to the chunks that hold it does not.
-/
def image? (limit : Nat) (delivery : Delivery) :
    Option Image := do
  let bytes := delivery.bytes
  let (seen, chunk) ← Rules.whole.preamble limit bytes
  let header := seen.header
  guard (decodedRowBytes seen ≤ seen.budget)
  guard (decodedRowBytes seen * header.height.toNat ≤ limit)
  guard (header.colour ≠ .palette ∨ seen.palette.isSome)
  let run := DataRun.ofChunk bytes chunk seen.frames
  guard run.isComplete
  let data := PixelData.ofRun header bytes delivery.blocks.toList run
  let passes := Pass.all header.interlaced
  let rows ← passRows header header.width header.height data.bytes passes 0 #[]
  let blank := Array.replicate (header.width.toNat * header.height.toNat) (⟨0, 0, 0, 0⟩ : Rgba)
  return ⟨header.width, header.height, placeRows seen rows passes 0 blank⟩

def imageBlock : Nat := 8192

end Raster.Backend.Png
