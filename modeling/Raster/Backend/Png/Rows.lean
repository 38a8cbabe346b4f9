import Raster.Backend.Delivery
import Raster.Backend.Png.Filter
import Raster.Backend.Png.PixelData
import Raster.Backend.Png.Preamble
import Raster.Png.Interlace

/-!
PNG images read row by row, for use as masks. Rows come out as soon as the data for them is there,
so damage behind the last row goes unnoticed.
-/

namespace Raster.Backend.Png

open Raster.Png

def rowsWithin (header : Header) (width height : UInt32) (data : Array UInt8) :
    List Pass → Nat → List (Array UInt8) → List (Array UInt8) × Bool
  | [], _, rows => (rows, true)
  | pass :: later, start, rows =>
      if pass.isEmpty width height then rowsWithin header width height data later start rows
      else
        let count := (pass.height height).toNat
        let (found, next) := unfilterRows (filterStep header)
          (rowBytes header (pass.width width).toNat) data count start #[] #[]
        if found.size = count then
          rowsWithin header width height data later next (rows ++ found.toList)
        else (rows ++ found.toList, false)

def isAddressable (header : Header) : Bool :=
  rowBytes header header.width.toNat * header.height.toNat < UInt64.size

def mask? (limit : Nat) (delivery : Delivery) : Option Mask := do
  let bytes := delivery.bytes
  let (seen, chunk) ← Rules.rows.preamble limit bytes
  let header := seen.header
  let (width, height) := match seen.region with
    | some region => (UInt32.ofNat region.width, UInt32.ofNat region.height)
    | none => (header.width, header.height)
  guard (isAddressable header ∧ rowBytes header width.toNat ≤ seen.budget)
  let data := PixelData.ofRun header bytes delivery.blocks.toList
    (DataRun.ofChunk bytes chunk seen.frames)
  let (rows, areAll) := rowsWithin header width height data.bytes (Pass.all header.interlaced) 0 []
  return ⟨header, seen.palette.getD #[], rows,
    if areAll && data.isSound then .exhausted else .damaged⟩

def rowsBlock : Nat := 32768

end Raster.Backend.Png
