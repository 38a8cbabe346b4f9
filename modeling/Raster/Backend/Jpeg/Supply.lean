import Raster.Backend.Delivery
import Raster.Jpeg.Input

/-!
The bytes of JPEG data by their numbers.
-/

namespace Raster.Backend.Jpeg

open Raster.Jpeg (Input)

/-- All bytes that a stream has for JPEG decoding, and whether they end in a failure. -/
structure Supply where
  data : Array UInt8
  failed : Bool

namespace Supply

def ofStream (stream : Stream) : Supply :=
  let delivery := (stream.deliver Input.blockSize).1
  ⟨delivery.bytes, delivery.failed⟩

def byte? (supply : Supply) (index : Nat) : Option UInt8 :=
  if index < supply.data.size then supply.data[index]?
  else if supply.failed || supply.data.isEmpty then none
  else some (if (index - supply.data.size) % 2 = 0 then 0xff else 0xd9)

end Supply

end Raster.Backend.Jpeg
