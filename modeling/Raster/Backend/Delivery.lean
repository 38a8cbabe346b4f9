import Raster.Stream

/-!
Streams read to their end. The decoders behind the library take all that a stream has to give, block
by block, and decode it then.
-/

namespace Raster

/-- All that a reader gets out of a stream in blocks, and whether it ended in a failure. -/
structure Delivery where
  blocks : Array (Array UInt8)
  failed : Bool

namespace Delivery

def bytes (delivery : Delivery) : Array UInt8 :=
  delivery.blocks.foldl (· ++ ·) #[]

end Delivery

namespace Stream

def readOnce (stream : Stream) (count : Nat) : Option (Array UInt8) × Stream :=
  match stream.attempt count with
  | (.interrupted, rest) => (none, rest)
  | (.failed, rest) => (none, rest)
  | (.given block, rest) => (some block, rest)

def drain (reading : Stream → Nat → Option (Array UInt8) × Stream) (size : Nat) :
    Nat → Stream → Array (Array UInt8) → Delivery × Stream
  | 0, stream, blocks => (⟨blocks, true⟩, stream)
  | fuel + 1, stream, blocks =>
      match reading stream size with
      | (none, rest) => (⟨blocks, true⟩, rest)
      | (some block, rest) =>
          if block.isEmpty then (⟨blocks, false⟩, rest)
          else drain reading size fuel rest (blocks.push block)

/-- Delivery to a patient reader. Each block holds a byte, so the rounds are enough. -/
def deliver (stream : Stream) (size : Nat) : Delivery × Stream :=
  drain read size (stream.remaining + 1) stream #[]

def deliverOnce (stream : Stream) (size : Nat) : Delivery × Stream :=
  drain readOnce size (stream.remaining + 1) stream #[]

end Stream

end Raster
