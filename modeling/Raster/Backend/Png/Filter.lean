/-!
Row filters: each byte of a row is stored as its difference from a guess made of the bytes before
and above it.
-/

namespace Raster.Backend.Png

def paeth (left above corner : UInt8) : UInt8 :=
  let guess : Int := left.toNat + above.toNat - corner.toNat
  let toLeft := (guess - left.toNat).natAbs
  let toAbove := (guess - above.toNat).natAbs
  let toCorner := (guess - corner.toNat).natAbs
  if toLeft ≤ toAbove ∧ toLeft ≤ toCorner then left
  else if toAbove ≤ toCorner then above
  else corner

def filterGuess (kind left above corner : UInt8) : UInt8 :=
  if kind = 0 then 0
  else if kind = 1 then left
  else if kind = 2 then above
  else if kind = 3 then ((left.toNat + above.toNat) / 2).toUInt8
  else paeth left above corner

def unfilterFrom (kind : UInt8) (step start : Nat) (data previous : Array UInt8) :
    Nat → Array UInt8 → Array UInt8
  | 0, row => row
  | count + 1, row =>
      let index := row.size
      let left := if step ≤ index then row.getD (index - step) 0 else 0
      let corner := if step ≤ index then previous.getD (index - step) 0 else 0
      let guess := filterGuess kind left (previous.getD index 0) corner
      unfilterFrom kind step start data previous count
        (row.push (data.getD (start + index) 0 + guess))

/--
Restores up to `count` rows of a pass from filtered data: as many as are there in full and have a
known filter. Also gives the index behind them.
-/
def unfilterRows (step rowBytes : Nat) (data : Array UInt8) :
    Nat → Nat → Array UInt8 → Array (Array UInt8) → Array (Array UInt8) × Nat
  | 0, start, _, rows => (rows, start)
  | count + 1, start, previous, rows =>
      if data.size < start + 1 + rowBytes then (rows, start)
      else
        let kind := data.getD start 0
        if 4 < kind then (rows, start)
        else
          let row := unfilterFrom kind step (start + 1) data previous rowBytes #[]
          unfilterRows step rowBytes data count (start + 1 + rowBytes) row (rows.push row)

end Raster.Backend.Png
