import Raster.Backend.Jpeg.Segment

/-!
Entropy-coded data: bits from stuffed bytes, codewords, and the coefficients of blocks. Once a
marker has been met, zero bits follow.
-/

namespace Raster.Backend.Jpeg

/-- Bits that have been read ahead, the next one on top, and the marker that ended the data. -/
structure Bits where
  position : Nat
  window : UInt64
  available : Nat
  marker : Option UInt8

abbrev Entropy := ReaderT Supply (ExceptT Problem (StateM Bits))

namespace Entropy

def byte : Entropy UInt8 := do
  let bits ← get
  set { bits with position := bits.position + 1 }
  match (← read).byte? bits.position with
  | some value => return value
  | none => throw .inputFailed

def afterFill : Nat → UInt8 → Entropy UInt8
  | 0, _ => throw .marker
  | fuel + 1, next => do
      if next = 0xff then afterFill fuel (← byte) else return next

def append (value : UInt8) : Entropy Unit :=
  modify fun bits =>
    { bits with
      window := bits.window ||| (value.toUInt64 <<< UInt64.ofNat (56 - bits.available))
      available := bits.available + 8 }

def fillWithin : Nat → Entropy Unit
  | 0 => return ()
  | fuel + 1 => do
      let bits ← get
      if 56 < bits.available then return ()
      if bits.marker.isSome then
        append 0
        fillWithin fuel
      else
        let value ← byte
        if value = 0xff then
          let next ← byte
          if next = 0 then
            append value
          else
            let code ← afterFill ((← read).data.size + 4) next
            if code = 0 then throw .marker
            modify fun bits => { bits with marker := some code }
          fillWithin fuel
        else
          append value
          fillWithin fuel

def fill : Entropy Unit := fillWithin 10

def fillBelow (count : Nat) : Entropy Unit := do
  if (← get).available < count then fill

def consume (count : Nat) : Entropy Unit :=
  modify fun bits =>
    { bits with
      window := if count < 64 then bits.window <<< UInt64.ofNat count else 0
      available := bits.available - count }

def bitOf (window : UInt64) (index : Nat) : Nat :=
  ((window >>> UInt64.ofNat (63 - index)) &&& 1).toNat

def number (count : Nat) : Entropy Nat := do
  fillBelow count
  let window := (← get).window
  consume count
  return if count = 0 then 0 else (window >>> UInt64.ofNat (64 - count)).toNat

def symbol (code : PrefixCode) : Entropy Nat := do
  fillBelow 16
  match code.lookup? (bitOf (← get).window) with
  | some (symbol, length) =>
      consume length
      return symbol
  | none => throw .codeword

def extend (bits count : Nat) : Int16 :=
  if bits < 1 <<< (count - 1) then Int16.ofInt ((bits : Int) - (1 <<< count : Nat) + 1)
  else Int16.ofInt bits

def extended (count : Nat) : Entropy Int16 := do
  return extend (← number count) count

def takeMarker : Entropy (Option UInt8) := do
  fill
  let bits ← get
  set { bits with marker := none }
  return bits.marker

def restart : Entropy Unit :=
  modify fun bits => { bits with window := 0, available := 0 }

end Entropy

abbrev Block := Array Int16

def zeroBlock : Block := Array.replicate 64 0

def zigzag : Array Nat := #[
  0, 1, 8, 16, 9, 2, 3, 10, 17, 24, 32, 25, 18, 11, 4, 5,
  12, 19, 26, 33, 40, 48, 41, 34, 27, 20, 13, 6, 7, 14, 21, 28,
  35, 42, 49, 56, 57, 50, 43, 36, 29, 22, 15, 23, 30, 37, 44, 51,
  58, 59, 52, 45, 38, 31, 39, 46, 53, 60, 61, 54, 47, 55, 62, 63]

namespace Block

def coded (block : Block) (index : Nat) : Int16 := block.getD (zigzag.getD index 0) 0

def setCoded (block : Block) (index : Nat) (value : Int16) : Block :=
  block.setIfInBounds (zigzag.getD index 0) value

end Block

structure Band where
  first : Nat
  last : Nat
  high : Nat
  low : Nat
deriving DecidableEq, Repr

/-- What carries over from block to block: the last leading coefficient, and blocks left empty. -/
structure Carry where
  predictors : Array Int16
  emptyBlocks : Nat

namespace Entropy

def shiftUp (value : Int16) (low : Nat) : Int16 := value <<< Int16.ofNat low

def emptyRun (size : Nat) : Entropy Nat := do
  let extra ← if size = 0 then pure 0 else number size
  return (1 <<< size) - 1 + extra

/--
First pass over the coefficients behind the leading one, from `index` on. A codeword that fits
into eight bits together with its value is taken at once, even if its place lies past the band.
-/
def fineCoefficients (code : PrefixCode) (band : Band) :
    Nat → Nat → Block → Entropy (Block × Nat)
  | 0, _, block => return (block, 0)
  | fuel + 1, index, block => do
      if band.last < index then return (block, 0)
      fillBelow 8
      match code.lookup? (bitOf (← get).window) with
      | some (symbol, length) =>
          if symbol % 16 ≠ 0 ∧ length + symbol % 16 ≤ 8 then
            consume length
            let value ← extended (symbol % 16)
            let index := index + symbol / 16
            if band.last < index then return (block, 0)
            return ← fineCoefficients code band fuel (index + 1)
              (block.setCoded index (shiftUp value band.low))
      | none => pure ()
      let symbol ← symbol code
      let run := symbol / 16
      let size := symbol % 16
      if size ≠ 0 then
        let index := index + run
        if band.last < index then return (block, 0)
        let value ← extended size
        fineCoefficients code band fuel (index + 1)
          (block.setCoded index (shiftUp value band.low))
      else if run = 15 then fineCoefficients code band fuel (index + 16) block
      else return (block, ← emptyRun run)

def firstPass (coarse fine : Option PrefixCode) (band : Band) (place : Nat) (carry : Carry)
    (block : Block) : Entropy (Block × Carry) := do
  let mut block := block
  let mut carry := carry
  if band.first = 0 then
    let some code := coarse | throw .missingTable
    let size ← symbol code
    if 11 < size then throw .coefficient
    let difference ← if size = 0 then pure 0 else extended size
    let value := carry.predictors.getD place 0 + difference
    carry := { carry with predictors := carry.predictors.setIfInBounds place value }
    block := block.setIfInBounds 0 (shiftUp value band.low)
  let start := max band.first 1
  if band.last < start then
    return (block, carry)
  if 0 < carry.emptyBlocks then
    return (block, { carry with emptyBlocks := carry.emptyBlocks - 1 })
  let some code := fine | throw .missingTable
  let (finished, emptyBlocks) ← fineCoefficients code band 64 start block
  return (finished, { carry with emptyBlocks })

/--
Gives each coefficient that is not zero its next bit, passing over `zeros` zero ones, and stops at
the next zero one; gives the place where it stopped.
-/
def refineNonZero (bit : Int16) (last : Nat) : Nat → Nat → Nat → Block → Entropy (Block × Nat)
  | 0, _, _, block => return (block, last)
  | fuel + 1, index, zeros, block => do
      if last < index then return (block, last)
      let value := block.coded index
      if value = 0 then
        if zeros = 0 then return (block, index)
        refineNonZero bit last fuel (index + 1) (zeros - 1) block
      else
        let sent ← number 1
        if sent = 1 ∧ value &&& bit = 0 then
          let refined := if 0 < value then value.toInt + bit.toInt else value.toInt - bit.toInt
          if refined < -32768 ∨ 32767 < refined then throw .coefficient
          refineNonZero bit last fuel (index + 1) zeros
            (block.setCoded index (Int16.ofInt refined))
        else refineNonZero bit last fuel (index + 1) zeros block

def refineCoefficients (code : PrefixCode) (bit : Int16) (last : Nat) :
    Nat → Nat → Block → Entropy (Block × Nat)
  | 0, _, block => return (block, 0)
  | fuel + 1, index, block => do
      if last < index then return (block, 0)
      let symbol ← symbol code
      let run := symbol / 16
      let size := symbol % 16
      if 1 < size then throw .codeword
      if size = 0 ∧ run ≠ 15 then
        let emptyBlocks ← emptyRun run
        let (block, _) ← refineNonZero bit last 64 index 64 block
        return (block, emptyBlocks)
      let value : Int16 ←
        if size = 0 then pure 0
        else do
          let sign ← number 1
          pure (if sign = 1 then bit else -bit)
      let (block, stop) ← refineNonZero bit last 64 index run block
      let block := if value = 0 then block else block.setCoded stop value
      refineCoefficients code bit last fuel (stop + 1) block

def laterPass (fine : Option PrefixCode) (band : Band) (carry : Carry) (block : Block) :
    Entropy (Block × Carry) := do
  let bit := shiftUp 1 band.low
  if band.first = 0 then
    let sent ← number 1
    let block :=
      if sent = 1 then block.setIfInBounds 0 (block.getD 0 0 ||| bit) else block
    return (block, carry)
  if 0 < carry.emptyBlocks then
    let (block, _) ← refineNonZero bit band.last 64 band.first 64 block
    return (block, { carry with emptyBlocks := carry.emptyBlocks - 1 })
  let some code := fine | throw .missingTable
  let (block, emptyBlocks) ← refineCoefficients code bit band.last 64 band.first block
  return (block, { carry with emptyBlocks })

def toParser {α : Type} (work : Entropy α) : Parser α := fun supply position =>
  let (result, bits) := work supply ⟨position, 0, 0, none⟩
  (result, bits.position)

end Entropy

end Raster.Backend.Jpeg
