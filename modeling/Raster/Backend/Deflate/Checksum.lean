import Raster.Backend.Deflate.Inflate

/-!
The checksum behind zlib data, and inflating that relies on it.
-/

namespace Raster.Backend.Deflate

/-- Sums of the bytes and of those sums, both modulo the largest prime below 2 ^ 16. -/
def checksumStep : Nat × Nat → UInt8 → Nat × Nat
  | (low, high), byte =>
      let low := (low + byte.toNat) % 65521
      (low, (high + low) % 65521)

def checksum (bytes : Array UInt8) : Nat :=
  let (low, high) := bytes.foldl checksumStep (1, 0)
  high * 65536 + low

def trailer (bytes : Array UInt8) (stop : Nat) : Nat :=
  (bytes.extract (stop - 4) stop).foldl (fun number byte => number * 256 + byte.toNat) 0

def inflateChecked (capacity : Nat) (bytes : Array UInt8) : Option (Array UInt8) :=
  match State.initial.run ⟨bytes, bytes.size * 8⟩ capacity with
  | .error _ => none
  | .ok state =>
      if state.isFinished && trailer bytes (state.index / 8) == checksum state.output then
        some state.output
      else none

end Raster.Backend.Deflate
