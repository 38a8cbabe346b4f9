import Raster.Backend.Deflate.Inflate
import Raster.Backend.Png.Chunk

/-!
The pixel data of a PNG image: a run of image data chunks, whose contents are one stream of zlib
data. Contents are inflated as they arrive, block by block, so that what damage cuts off is known
exactly.
-/

namespace Raster.Backend.Png

open Raster.Png

structure DataRun where
  parts : List (Nat × Nat)
  isComplete : Bool
deriving Repr

namespace DataRun

def dataStart? (bytes : Array UInt8) (chunk : Chunk) (sequence : Nat) : Option Nat :=
  if chunk.kind = ChunkKind.frameData then
    if 4 ≤ chunk.length ∧ chunk.start + 4 ≤ bytes.size ∧ wordAt bytes chunk.start = sequence then
      some (chunk.start + 4)
    else none
  else some chunk.start

def within (bytes : Array UInt8) (kind : ChunkKind) : Nat → Nat → Nat → DataRun
  | 0, _, _ => ⟨[], false⟩
  | fuel + 1, index, sequence =>
      match Chunk.at? bytes index with
      | none => ⟨[], false⟩
      | some chunk =>
          if chunk.kind ≠ kind then ⟨[], true⟩
          else
            match dataStart? bytes chunk sequence with
            | none => ⟨[], false⟩
            | some start =>
                let later :=
                  if chunk.isWhole bytes && chunk.isIntact bytes then
                    within bytes kind fuel chunk.stop (sequence + 1)
                  else ⟨[], false⟩
                ⟨(start, chunk.start + chunk.length) :: later.parts, later.isComplete⟩

def ofChunk (bytes : Array UInt8) (chunk : Chunk) (sequence : Nat) : DataRun :=
  within bytes chunk.kind bytes.size (chunk.start - 8) sequence

end DataRun

/-- Pixel data on its way through inflating. Output is made in a buffer that slides along. -/
structure Unpacking where
  packed : Array UInt8
  state : Deflate.State
  room : Nat
  largest : Nat
  dropped : Nat

namespace Unpacking

def initial (expected : Nat) : Unpacking := ⟨#[], Deflate.State.initial, 0, expected, 0⟩

def window : Nat := 32768

def unlimited : Nat := 1 <<< 62

def makeRoom : Unpacking → Unpacking
  | ⟨packed, state, room, largest, dropped⟩ =>
      let filled := state.output.size - dropped
      let largest := if largest ≤ filled then unlimited else largest
      let room :=
        if min (filled + window) largest ≤ room then room
        else min (room + max window room) largest
      ⟨packed, state, room, largest, dropped⟩

def slide : Unpacking → Unpacking
  | ⟨packed, state, room, largest, dropped⟩ =>
      if 4 * window < state.output.size - dropped then
        ⟨packed, state, room, largest, state.output.size - window⟩
      else ⟨packed, state, room, largest, dropped⟩

def bytesTaken (state : Deflate.State) : Nat :=
  match state.mode with
  | .stored _ => (state.index + 7) / 8
  | _ => (state.index + 63) / 8

/--
Inflates all that has arrived, one bufferful after another, as long as bytes are left to be taken
in. If a fault shows, what its bufferful would have brought is lost, and the output before it is
given.
-/
def runAll : Nat → Unpacking → Except (Array UInt8) Unpacking
  | 0, unpacking => .ok unpacking
  | fuel + 1, unpacking =>
      let ⟨packed, state, room, largest, dropped⟩ := unpacking.makeRoom
      let output := state.output
      match state.run ⟨packed, packed.size * 8⟩ (dropped + room) with
      | .error _ => .error output
      | .ok next =>
          let isFull := dropped + room ≤ next.output.size
          let unpacking := slide ⟨packed, next, room, largest, dropped⟩
          if isFull ∧ bytesTaken next < packed.size then runAll fuel unpacking
          else .ok unpacking

def feed (block : Array UInt8) : Unpacking → Except (Array UInt8) Unpacking
  | ⟨packed, state, room, largest, dropped⟩ =>
      let packed := packed ++ block
      runAll (packed.size + 1) ⟨packed, state, room, largest, dropped⟩

def finish? : Unpacking → Option (Array UInt8)
  | ⟨packed, state, _, _, _⟩ =>
      match state.run ⟨packed, packed.size * 8⟩ unlimited with
      | .error _ => none
      | .ok next => if next.isFinished then some next.output else none

end Unpacking

def blockEnds (blocks : List (Array UInt8)) (start : Nat) : List Nat :=
  match blocks with
  | [] => []
  | block :: later => (start + block.size) :: blockEnds later (start + block.size)

structure PixelData where
  bytes : Array UInt8
  isSound : Bool

namespace PixelData

/--
Inflates content block by block up to an index, or gives the output if data is lacking. Content of
no length is let arrive as well, once there is anything behind it.
-/
def ofPart (bytes : Array UInt8) (ends : List Nat) (stop : Nat) :
    Nat → Nat → Unpacking → Except (Array UInt8) Unpacking
  | 0, _, unpacking => .ok unpacking
  | fuel + 1, index, unpacking =>
      match ends.find? fun blockEnd => index < blockEnd with
      | none => .error unpacking.state.output
      | some blockEnd =>
          match unpacking.feed (bytes.extract index (min stop blockEnd)) with
          | .error output => .error output
          | .ok unpacking =>
              if stop ≤ blockEnd then .ok unpacking
              else ofPart bytes ends stop fuel blockEnd unpacking

def ofParts (bytes : Array UInt8) (ends : List Nat) (isComplete : Bool) :
    List (Nat × Nat) → Unpacking → PixelData
  | [], unpacking =>
      match isComplete, unpacking.finish? with
      | true, some output => ⟨output, true⟩
      | _, _ => ⟨unpacking.state.output, false⟩
  | (start, stop) :: later, unpacking =>
      match ofPart bytes ends stop (stop - start + 1) start unpacking with
      | .error output => ⟨output, false⟩
      | .ok unpacking => ofParts bytes ends isComplete later unpacking

def expected (header : Header) : Nat :=
  header.height.toNat * (rowBytes header header.width.toNat + 1) *
    (if header.interlaced then 2 else 1)

def ofRun (header : Header) (bytes : Array UInt8) (blocks : List (Array UInt8)) (run : DataRun) :
    PixelData :=
  ofParts bytes (blockEnds blocks 0) run.isComplete run.parts (Unpacking.initial (expected header))

end PixelData

end Raster.Backend.Png
