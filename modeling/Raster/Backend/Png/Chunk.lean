import Raster.Backend.Png.Crc
import Raster.Backend.Png.Header

/-!
Chunks of PNG data: a length, a type of four letters, content of that length, and a check.
-/

namespace Raster.Backend.Png

abbrev ChunkKind := Array UInt8

namespace ChunkKind

def ofLetters (letters : String) : ChunkKind :=
  (letters.toList.map fun letter => letter.toNat.toUInt8).toArray

def imageHeader : ChunkKind := ofLetters "IHDR"

def palette : ChunkKind := ofLetters "PLTE"

def transparency : ChunkKind := ofLetters "tRNS"

def imageData : ChunkKind := ofLetters "IDAT"

def imageEnd : ChunkKind := ofLetters "IEND"

def frameControl : ChunkKind := ofLetters "fcTL"

def frameData : ChunkKind := ofLetters "fdAT"

def isCritical (kind : ChunkKind) : Bool := kind.getD 0 0 &&& 0x20 == 0

end ChunkKind

structure Chunk where
  kind : ChunkKind
  start : Nat
  length : Nat

namespace Chunk

def at? (bytes : Array UInt8) (index : Nat) : Option Chunk :=
  if index + 8 ≤ bytes.size then
    some ⟨bytes.extract (index + 4) (index + 8), index + 8, wordAt bytes index⟩
  else none

def stop (chunk : Chunk) : Nat := chunk.start + chunk.length + 4

def isWhole (chunk : Chunk) (bytes : Array UInt8) : Bool := chunk.stop ≤ bytes.size

def content (chunk : Chunk) (bytes : Array UInt8) : Array UInt8 :=
  bytes.extract chunk.start (chunk.start + chunk.length)

def isIntact (chunk : Chunk) (bytes : Array UInt8) : Bool :=
  (crc bytes (chunk.start - 4) (chunk.start + chunk.length)).toNat ==
    wordAt bytes (chunk.start + chunk.length)

end Chunk

end Raster.Backend.Png
