import Raster.Backend.PrefixCode

/-!
Bits of deflate data: bytes are read from their lowest bit up. Only the bits below a limit have
arrived; any further bit reads as zero until it has.
-/

namespace Raster.Backend.Deflate

/-- The bytes at hand and the number of their bits that have arrived. -/
structure Source where
  bytes : Array UInt8
  limit : Nat

namespace Source

def bit (source : Source) (index : Nat) : Nat :=
  if index < source.limit then
    ((source.bytes.getD (index / 8) 0) >>> (UInt8.ofNat (index % 8)) &&& 1).toNat
  else 0

def number (source : Source) (index : Nat) : Nat → Nat
  | 0 => 0
  | count + 1 => source.bit index + 2 * source.number (index + 1) count

def symbol? (source : Source) (index : Nat) (code : PrefixCode) : Option (Nat × Nat) :=
  code.lookup? fun offset => source.bit (index + offset)

end Source

end Raster.Backend.Deflate
