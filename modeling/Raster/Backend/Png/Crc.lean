/-!
Cyclic redundancy checks of 32 bits, as chunks carry them.
-/

namespace Raster.Backend.Png

def crcBit (remainder : UInt32) : UInt32 :=
  if remainder &&& 1 = 1 then (remainder >>> 1) ^^^ 0xedb88320 else remainder >>> 1

def crcByte (remainder : UInt32) (byte : UInt8) : UInt32 :=
  Nat.repeat crcBit 8 (remainder ^^^ byte.toUInt32)

def crc (bytes : Array UInt8) (start stop : Nat) : UInt32 :=
  ~~~ (bytes.foldl crcByte 0xffffffff start stop)

end Raster.Backend.Png
