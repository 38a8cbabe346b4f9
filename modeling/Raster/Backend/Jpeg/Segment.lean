import Raster.Backend.Jpeg.Supply
import Raster.Backend.PrefixCode

/-!
Marker segments of JPEG data: finding markers, and reading the tables and the frame header that
the segments hold. A parser keeps count of the bytes it has asked for, also when it fails.
-/

namespace Raster.Backend.Jpeg

inductive Problem where
  | inputFailed
  | signature
  | marker
  | segmentLength
  | table
  | frame
  | scan
  | codeword
  | coefficient
  | colour
  | missingTable
  | missingData
  | unsupported
deriving DecidableEq, Repr

abbrev Parser := ReaderT Supply (ExceptT Problem (StateM Nat))

namespace Parser

def byte : Parser UInt8 := do
  let position ← get
  set (position + 1)
  match (← read).byte? position with
  | some value => return value
  | none => throw .inputFailed

def short : Parser Nat := do
  let high ← byte
  let low ← byte
  return high.toNat * 256 + low.toNat

def bytes : Nat → Array UInt8 → Parser (Array UInt8)
  | 0, before => return before
  | count + 1, before => do
      let next ← byte
      bytes count (before.push next)

/-- More than the bytes between the position and the end of the data. -/
def bound : Parser Nat := do
  return (← read).data.size - (← get) + 4

def afterFill : Nat → Parser UInt8
  | 0 => throw .marker
  | fuel + 1 => do
      let next ← byte
      if next = 0xff then afterFill fuel else return next

def skipToFill : Nat → Parser Unit
  | 0 => throw .marker
  | fuel + 1 => do
      unless (← byte) = 0xff do
        skipToFill fuel

def markerWithin : Nat → Parser UInt8
  | 0 => throw .marker
  | fuel + 1 => do
      skipToFill (← bound)
      let code ← afterFill (← bound)
      if code = 0 then markerWithin fuel else return code

def marker : Parser UInt8 := do markerWithin (← bound)

def contentLength : Parser Nat := do
  let length ← short
  if length < 2 then throw .segmentLength
  return length - 2

def skip (count : Nat) : Parser Unit := do
  let _ ← bytes count #[]

end Parser

abbrev QuantTable := Array UInt16

structure Tables where
  quant : Array (Option QuantTable)
  coarse : Array (Option PrefixCode)
  fine : Array (Option PrefixCode)
  restartInterval : Nat

namespace Tables

def empty : Tables :=
  ⟨Array.replicate 4 none, Array.replicate 4 none, Array.replicate 4 none, 0⟩

def quantAt (tables : Tables) (index : Nat) : Option QuantTable := (tables.quant[index]?).join

def coarseAt (tables : Tables) (index : Nat) : Option PrefixCode := (tables.coarse[index]?).join

def fineAt (tables : Tables) (index : Nat) : Option PrefixCode := (tables.fine[index]?).join

end Tables

namespace Parser

def quantSteps (wide : Bool) : Nat → QuantTable → Parser QuantTable
  | 0, steps => return steps
  | count + 1, steps => do
      let step ← if wide then short else UInt8.toNat <$> byte
      quantSteps wide count (steps.push (UInt16.ofNat step))

def quantTables : Nat → Nat → Tables → Parser Tables
  | _, 0, tables => return tables
  | 0, _, _ => throw .table
  | fuel + 1, length, tables => do
      let head ← byte
      let wide := (head >>> 4).toNat
      let index := (head &&& 0x0f).toNat
      if 1 < wide ∨ 3 < index ∨ length < 65 + 64 * wide then throw .table
      let steps ← quantSteps (wide == 1) 64 #[]
      if steps.contains 0 then throw .table
      quantTables fuel (length - (65 + 64 * wide))
        { tables with quant := tables.quant.setIfInBounds index (some steps) }

def codeTables (baseline : Bool) : Nat → Nat → Tables → Parser Tables
  | 0, _, _ => throw .table
  | fuel + 1, length, tables => do
      if length ≤ 17 then
        if length = 0 then return tables else throw .table
      let head ← byte
      let kind := head >>> 4
      let index := (head &&& 0x0f).toNat
      if 1 < kind ∨ (baseline ∧ 1 < index) ∨ 3 < index then throw .table
      let counts := (← bytes 16 #[]).toList.map UInt8.toNat
      let size := counts.sum
      if size = 0 ∨ 256 < size ∨ length - 17 < size then throw .table
      let symbols := (← bytes size #[]).map UInt8.toNat
      unless PrefixCode.fits counts do
        throw .table
      let code : PrefixCode := ⟨counts, symbols⟩
      codeTables baseline fuel (length - (17 + size))
        (if kind = 0 then { tables with coarse := tables.coarse.setIfInBounds index (some code) }
        else { tables with fine := tables.fine.setIfInBounds index (some code) })

end Parser

structure Notes where
  jfif : Bool
  motion : Bool
  adobe : Option UInt8

namespace Notes

def none : Notes := ⟨false, false, Option.none⟩

end Notes

namespace Parser

def application (code : UInt8) (notes : Notes) : Parser Notes := do
  let length ← contentLength
  if code = 0xe0 ∧ 5 ≤ length then
    let head ← bytes 5 #[]
    skip (length - 5)
    if head = #[0x4a, 0x46, 0x49, 0x46, 0] then return { notes with jfif := true }
    if head = #[0x41, 0x56, 0x49, 0x31, 0] then return { notes with motion := true }
    return notes
  else if code = 0xee ∧ 12 ≤ length then
    let head ← bytes 12 #[]
    let transform := head.getD 11 0
    let adobe := head.extract 0 6 = #[0x41, 0x64, 0x6f, 0x62, 0x65, 0]
    if adobe ∧ 2 < transform then throw .colour
    skip (length - 12)
    return if adobe then { notes with adobe := some transform } else notes
  else
    skip length
    return notes

end Parser

inductive Process where
  | baseline
  | sequential
  | progressive
  | lossless
deriving DecidableEq, Repr

structure Component where
  identifier : UInt8
  horizontal : Nat
  vertical : Nat
  tableIndex : Nat
  width : Nat
  height : Nat
  blocksWide : Nat
  blocksHigh : Nat
deriving Repr

structure Frame where
  process : Process
  precision : Nat
  width : Nat
  height : Nat
  components : Array Component
  unitsWide : Nat
  unitsHigh : Nat
deriving Repr

def ceilDiv (numerator denominator : Nat) : Nat := (numerator + denominator - 1) / denominator

inductive Stretch where
  | same
  | double
  | repeated (factor : Nat)
deriving DecidableEq, Repr

/-- Stretch along both axes. Only the four pairings of `same` and `double` are interpolated. -/
structure Upsampling where
  horizontal : Stretch
  vertical : Stretch
deriving DecidableEq, Repr

def plainStretch? (factor largest extent : Nat) : Option Stretch :=
  if factor = largest ∨ extent = 1 then some .same
  else if factor * 2 = largest then some .double
  else none

def Upsampling.choose? (component : Component) (largestHorizontal largestVertical : Nat)
    (width height : Nat) : Option Upsampling :=
  match plainStretch? component.horizontal largestHorizontal width,
      plainStretch? component.vertical largestVertical height with
  | some horizontal, some vertical => some ⟨horizontal, vertical⟩
  | _, _ =>
      if largestHorizontal % component.horizontal = 0
          ∧ largestVertical % component.vertical = 0 then
        some ⟨.repeated (largestHorizontal / component.horizontal),
          .repeated (largestVertical / component.vertical)⟩
      else none

namespace Frame

def largestHorizontal (components : Array Component) : Nat :=
  components.foldl (fun largest component => max largest component.horizontal) 0

def largestVertical (components : Array Component) : Nat :=
  components.foldl (fun largest component => max largest component.vertical) 0

def ofComponents (process : Process) (precision width height : Nat)
    (components : Array Component) : Frame :=
  let horizontal := largestHorizontal components
  let vertical := largestVertical components
  let unitsWide := ceilDiv width (8 * horizontal)
  let unitsHigh := ceilDiv height (8 * vertical)
  { process, precision, width, height, unitsWide, unitsHigh
    components := components.map fun component => { component with
      width := ceilDiv (width * component.horizontal) horizontal
      height := ceilDiv (height * component.vertical) vertical
      blocksWide := unitsWide * component.horizontal
      blocksHigh := unitsHigh * component.vertical } }

def upsampling? (frame : Frame) (component : Component) : Option Upsampling :=
  Upsampling.choose? component (largestHorizontal frame.components)
    (largestVertical frame.components) frame.width frame.height

end Frame

namespace Parser

def components (lossless : Bool) : Nat → Array Component → Parser (Array Component)
  | 0, before => return before
  | count + 1, before => do
      let identifier ← byte
      if before.any fun component => component.identifier == identifier then throw .frame
      let factors ← byte
      let horizontal := (factors >>> 4).toNat
      let vertical := (factors &&& 0x0f).toNat
      if horizontal = 0 ∨ 4 < horizontal ∨ vertical = 0 ∨ 4 < vertical then throw .frame
      let tableIndex := (← byte).toNat
      if 3 < tableIndex ∨ (lossless ∧ tableIndex ≠ 0) then throw .frame
      components lossless count
        (before.push ⟨identifier, horizontal, vertical, tableIndex, 0, 0, 0, 0⟩)

def frame (process : Process) : Parser Frame := do
  let length ← contentLength
  if length ≤ 6 then throw .segmentLength
  let precision := (← byte).toNat
  if process = .lossless then
    if 16 < precision then throw .frame
  else
    unless precision = 8 ∨ (precision = 12 ∧ process ≠ .baseline) do
      throw .frame
  let height ← short
  let width ← short
  if height = 0 then throw .unsupported
  if width = 0 then throw .frame
  let count := (← byte).toNat
  if count = 0 ∨ (process = .progressive ∧ 4 < count) then throw .frame
  unless length = 6 + 3 * count do
    throw .segmentLength
  let components ← components (process == .lossless) count #[]
  let frame := Frame.ofComponents process precision width height components
  if precision < 2 ∨ (precision ≠ 8 ∧ process ≠ .lossless) then throw .unsupported
  unless count = 1 ∨ count = 3 ∨ count = 4 do
    throw .unsupported
  unless frame.components.all fun component => (frame.upsampling? component).isSome do
    throw .unsupported
  return frame

end Parser

structure Progress where
  tables : Tables
  notes : Notes

namespace Parser

def tableSegment (code : UInt8) (baseline : Bool) (progress : Progress) : Parser Progress := do
  if code = 0xdb then
    let length ← contentLength
    return { progress with tables := ← quantTables length length progress.tables }
  else if code = 0xc4 then
    let length ← contentLength
    return { progress with tables := ← codeTables baseline (length + 1) length progress.tables }
  else if code = 0xdd then
    unless (← contentLength) = 2 do
      throw .segmentLength
    return { progress with tables := { progress.tables with restartInterval := ← short } }
  else if code = 0xfe then
    skip (← contentLength)
    return progress
  else if 0xe0 ≤ code ∧ code ≤ 0xef then
    return { progress with notes := ← application code progress.notes }
  else
    throw .marker

def process? (code : UInt8) : Option Process :=
  if code = 0xc0 then some .baseline
  else if code = 0xc1 ∨ code = 0xc5 ∨ code = 0xc9 ∨ code = 0xcd then some .sequential
  else if code = 0xc2 ∨ code = 0xc6 ∨ code = 0xca ∨ code = 0xce then some .progressive
  else if code = 0xc3 ∨ code = 0xc7 ∨ code = 0xcb ∨ code = 0xcf then some .lossless
  else none

def plainFrame (code : UInt8) (process : Process) : Parser Frame := do
  let frame ← frame process
  if 0xc3 < code then throw .unsupported
  return frame

def headerWithin : Nat → Progress → Parser (Frame × Progress)
  | 0, _ => throw .marker
  | fuel + 1, progress => do
      let code ← marker
      match process? code with
      | some process => return (← plainFrame code process, progress)
      | none => headerWithin fuel (← tableSegment code false progress)

def header : Parser (Frame × Progress) := do
  unless (← byte) = 0xff do
    throw .signature
  unless (← byte) = 0xd8 do
    throw .signature
  headerWithin (← bound) ⟨Tables.empty, Notes.none⟩

end Parser

end Raster.Backend.Jpeg
