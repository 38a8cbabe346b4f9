import Raster.Backend.Deflate.Block

/-!
Inflating zlib data that arrives piece by piece into output of limited size. A run goes on until
bits are missing, the output is full, the data is finished, or a fault shows.
-/

namespace Raster.Backend.Deflate

inductive Mode where
  | start
  | block
  | stored (left : Nat)
  | compressed (codes : Codes)
  | checksum
  | finished

inductive Pending where
  | nothing
  | literal (value : UInt8)
  | copy (distance length : Nat)

structure State where
  index : Nat
  mode : Mode
  last : Bool
  output : Array UInt8
  pending : Pending

namespace State

def initial : State := ⟨0, .start, false, #[], .nothing⟩

def afterBlock (last : Bool) : Mode := if last then .checksum else .block

def copyBack (distance : Nat) : Nat → Array UInt8 → Array UInt8
  | 0, output => output
  | length + 1, output =>
      copyBack distance length (output.push (output.getD (output.size - distance) 0))

def copyWithin (capacity distance length : Nat) (output : Array UInt8) : Array UInt8 × Pending :=
  let now := min length (capacity - output.size)
  (copyBack distance now output,
    if now < length then .copy distance (length - now) else .nothing)

def flush (capacity : Nat) : State → State
  | ⟨index, mode, last, output, pending⟩ =>
      match pending with
      | .nothing => ⟨index, mode, last, output, .nothing⟩
      | .literal value =>
          if output.size < capacity then ⟨index, mode, last, output.push value, .nothing⟩
          else ⟨index, mode, last, output, .literal value⟩
      | .copy distance length =>
          let (output, pending) := copyWithin capacity distance length output
          ⟨index, mode, last, output, pending⟩

end State

def lengthBases : Array Nat := #[3, 4, 5, 6, 7, 8, 9, 10, 11, 13, 15, 17, 19, 23, 27, 31, 35, 43,
  51, 59, 67, 83, 99, 115, 131, 163, 195, 227, 258]

def lengthExtras : Array Nat := #[0, 0, 0, 0, 0, 0, 0, 0, 1, 1, 1, 1, 2, 2, 2, 2, 3, 3, 3, 3, 4,
  4, 4, 4, 5, 5, 5, 5, 0]

def distanceBases : Array Nat := #[1, 2, 3, 4, 5, 7, 9, 13, 17, 25, 33, 49, 65, 97, 129, 193, 257,
  385, 513, 769, 1025, 1537, 2049, 3073, 4097, 6145, 8193, 12289, 16385, 24577]

def distanceExtras : Array Nat := #[0, 0, 0, 0, 1, 1, 2, 2, 3, 3, 4, 4, 5, 5, 6, 6, 7, 7, 8, 8, 9,
  9, 10, 10, 11, 11, 12, 12, 13, 13]

inductive Item where
  | waiting
  | literal (value : UInt8) (bits : Nat)
  | literals (first second : UInt8) (bits : Nat)
  | ending (bits : Nat)
  | copy (distance length bits : Nat)

def distanceItem (source : Source) (codes : Codes) (index length bits : Nat) :
    Except Fault Item :=
  match source.symbol? (index + bits) codes.distances with
  | some (symbol, width) =>
      match distanceBases[symbol]?, distanceExtras[symbol]? with
      | some base, some extra =>
          let total := bits + width + extra
          if source.limit < index + total then .ok .waiting
          else
            .ok (.copy (base + source.number (index + bits + width) extra) length total)
      | _, _ => if source.limit ≤ index + bits + 9 then .ok .waiting else .error .distance
  | none => if source.limit ≤ index + bits + 9 then .ok .waiting else .error .distance

def literalItem (source : Source) (codes : Codes) (index symbol width : Nat) : Item :=
  let single :=
    if source.limit < index + width then .waiting else .literal symbol.toUInt8 width
  match source.symbol? (index + width) codes.literals with
  | some (second, secondWidth) =>
      if second < 256 ∧ 2 ≤ secondWidth ∧ width + secondWidth ≤ 12 then
        if source.limit < index + width + secondWidth then .waiting
        else .literals symbol.toUInt8 second.toUInt8 (width + secondWidth)
      else single
  | none => single

/--
The item of a compressed block that stands at an index. The fixed code has two symbols too many,
behind all lengths; they end a block as well.
-/
def nextItem (source : Source) (codes : Codes) (index : Nat) : Except Fault Item :=
  match source.symbol? index codes.literals with
  | none => .error .literal
  | some (symbol, width) =>
      if symbol < 256 then .ok (literalItem source codes index symbol width)
      else if symbol = 256 ∨ 285 < symbol then
        .ok (if source.limit < index + width then .waiting else .ending width)
      else
        match lengthBases[symbol - 257]?, lengthExtras[symbol - 257]? with
        | some base, some extra =>
            distanceItem source codes index (base + source.number (index + width) extra)
              (width + extra)
        | _, _ => .error .literal

inductive Progress where
  | moved (state : State)
  | stuck (state : State)

namespace State

/-- An end of block that stands next is read even when the output is full. -/
def skipEnding (source : Source) (codes : Codes) : State → Progress
  | ⟨index, mode, last, output, pending⟩ =>
      match source.symbol? index codes.literals with
      | some (256, width) =>
          if source.limit < index + 15 then .stuck ⟨index, mode, last, output, pending⟩
          else .moved ⟨index + width, afterBlock last, last, output, pending⟩
      | _ => .stuck ⟨index, mode, last, output, pending⟩

def compressedStep (source : Source) (capacity : Nat) (codes : Codes) :
    State → Except Fault Progress
  | ⟨index, mode, last, output, pending⟩ =>
      if capacity ≤ output.size then
        .ok (skipEnding source codes ⟨index, mode, last, output, pending⟩)
      else
        match nextItem source codes index with
        | .error fault => .error fault
        | .ok .waiting => .ok (.stuck ⟨index, mode, last, output, pending⟩)
        | .ok (.literal value bits) =>
            .ok (.moved ⟨index + bits, mode, last, output.push value, pending⟩)
        | .ok (.literals first second bits) =>
            let output := output.push first
            if output.size < capacity then
              .ok (.moved ⟨index + bits, mode, last, output.push second, pending⟩)
            else .ok (.moved ⟨index + bits, mode, last, output, .literal second⟩)
        | .ok (.ending bits) =>
            .ok (.moved ⟨index + bits, afterBlock last, last, output, pending⟩)
        | .ok (.copy distance length bits) =>
            if output.size < distance then .error .distance
            else
              let (output, pending) := copyWithin capacity distance length output
              .ok (.moved ⟨index + bits, mode, last, output, pending⟩)

def copyStored (bytes : Array UInt8) (start : Nat) : Nat → Array UInt8 → Array UInt8
  | 0, output => output
  | count + 1, output =>
      copyStored bytes (start + 1) count (output.push (bytes.getD start 0))

def storedStep (source : Source) (capacity left : Nat) : State → Progress
  | ⟨index, mode, last, output, pending⟩ =>
      let count := min left (min ((source.limit - index) / 8) (capacity - output.size))
      if count = 0 then .stuck ⟨index, mode, last, output, pending⟩
      else
        .moved ⟨index + 8 * count,
          if count = left then afterBlock last else .stored (left - count), last,
          copyStored source.bytes (index / 8) count output, pending⟩

def isZlibHeader (first second : Nat) : Bool :=
  first % 16 == 8 && first / 16 ≤ 7 && second / 32 % 2 == 0 && (first * 256 + second) % 31 == 0

def step (source : Source) (capacity : Nat) : State → Except Fault Progress
  | ⟨index, mode, last, output, pending⟩ =>
      match mode with
      | .start =>
          if source.limit < index + 16 then .ok (.stuck ⟨index, mode, last, output, pending⟩)
          else if isZlibHeader (source.number index 8) (source.number (index + 8) 8) then
            .ok (.moved ⟨index + 16, .block, last, output, pending⟩)
          else .error .header
      | .block =>
          match blockHeader source index with
          | .error fault => .error fault
          | .ok .waiting => .ok (.stuck ⟨index, mode, last, output, pending⟩)
          | .ok (.empty last next) => .ok (.moved ⟨next, afterBlock last, last, output, pending⟩)
          | .ok (.stored last length next) =>
              let mode := if length = 0 then afterBlock last else .stored length
              .ok (.moved ⟨next, mode, last, output, pending⟩)
          | .ok (.compressed last codes next) =>
              .ok (.moved ⟨next, .compressed codes, last, output, pending⟩)
      | .stored left => .ok (storedStep source capacity left ⟨index, mode, last, output, pending⟩)
      | .compressed codes =>
          compressedStep source capacity codes ⟨index, mode, last, output, pending⟩
      | .checksum =>
          let start := (index + 7) / 8 * 8
          if source.limit < start + 32 then .ok (.stuck ⟨index, mode, last, output, pending⟩)
          else .ok (.moved ⟨start + 32, .finished, last, output, pending⟩)
      | .finished => .ok (.stuck ⟨index, mode, last, output, pending⟩)

def isFinished (state : State) : Bool :=
  match state.mode with
  | .finished => true
  | _ => false

def isPending (state : State) : Bool :=
  match state.pending with
  | .nothing => false
  | _ => true

def steps (source : Source) (capacity : Nat) : Nat → State → Except Fault State
  | 0, state => .ok state
  | fuel + 1, state =>
      if state.isPending then .ok state
      else
        match state.step source capacity with
        | .error fault => .error fault
        | .ok (.stuck state) => .ok state
        | .ok (.moved state) => steps source capacity fuel state

def run (source : Source) (capacity : Nat) (state : State) : Except Fault State :=
  let rounds := source.limit - state.index + 1
  steps source capacity rounds (state.flush capacity)

end State

end Raster.Backend.Deflate
