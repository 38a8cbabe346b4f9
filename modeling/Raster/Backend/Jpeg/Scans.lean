import Raster.Backend.Jpeg.Upsample
import Raster.Jpeg.Decoder

/-!
Decoding of JPEG images with one or three components: scans, sequential or progressive, up to the
end of the image, then the pixels.
-/

namespace Raster.Backend.Jpeg

open Raster.Jpeg (Input PixelFormat)

structure ScanComponent where
  place : Nat
  coarseIndex : Nat
  fineIndex : Nat
deriving Repr

structure Scan where
  components : Array ScanComponent
  band : Band

namespace Parser

def scanComponents (frame : Frame) : Nat → Array ScanComponent → Parser (Array ScanComponent)
  | 0, before => return before
  | count + 1, before => do
      let identifier ← byte
      let some place := frame.components.findIdx? fun component =>
        component.identifier == identifier | throw .scan
      if before.any fun earlier => decide (place ≤ earlier.place) then throw .scan
      let tables ← byte
      let coarseIndex := (tables >>> 4).toNat
      let fineIndex := (tables &&& 0x0f).toNat
      let highest := if frame.process = .baseline then 1 else 3
      if highest < coarseIndex ∨ highest < fineIndex then throw .scan
      scanComponents frame count (before.push ⟨place, coarseIndex, fineIndex⟩)

def progressiveBand (band : Band) (componentCount : Nat) : Bool :=
  band.last ≤ 63 && band.first ≤ band.last && (band.first != 0 || band.last == 0)
    && (band.first == 0 || componentCount == 1) && band.high ≤ 13 && band.low ≤ 13
    && (band.high == 0 || band.high == band.low + 1)

def sequentialBand (band : Band) : Bool :=
  band.first == 0 && band.last == 63 && band.high == 0 && band.low == 0

def scan (frame : Frame) : Parser Scan := do
  let length ← contentLength
  if length = 0 then throw .segmentLength
  let count := (← byte).toNat
  if count = 0 ∨ 4 < count then throw .scan
  unless length = 4 + 2 * count do
    throw .segmentLength
  let components ← scanComponents frame count #[]
  let blocks := components.foldl
    (fun sum component => match frame.components[component.place]? with
      | some component => sum + component.horizontal * component.vertical
      | none => sum) 0
  if 1 < count ∧ 10 < blocks then throw .scan
  let first := (← byte).toNat
  let last := (← byte).toNat
  let planes ← byte
  let band : Band := ⟨first, last, (planes >>> 4).toNat, (planes &&& 0x0f).toNat⟩
  if frame.precision ≤ band.low then throw .scan
  match frame.process with
  | .progressive =>
      unless progressiveBand band count do
        throw .scan
      return ⟨components, band⟩
  | .lossless => throw .unsupported
  | _ =>
      let band := if band.last = 0 then { band with last := 63 } else band
      unless sequentialBand band do
        throw .scan
      return ⟨components, band⟩

end Parser

namespace Frame

def blockBase (frame : Frame) (place : Nat) : Nat :=
  (frame.components.extract 0 place).foldl
    (fun sum component => sum + component.blocksWide * component.blocksHigh) 0

def zeroBlocks (frame : Frame) : Array Block :=
  Array.replicate (frame.blockBase frame.components.size) zeroBlock

end Frame

structure Track where
  component : Component
  base : Nat
  coarse : Option PrefixCode
  fine : Option PrefixCode
  across : Nat
  down : Nat

structure Walk where
  blocks : Array Block
  carry : Carry
  restartsLeft : Nat
  nextRestart : Nat

def freshCarry : Carry := ⟨Array.replicate 4 0, 0⟩

namespace Entropy

def decodeBlock (band : Band) (track : Track) (place row column : Nat) :
    Walk → Entropy Walk
  | ⟨blocks, carry, restartsLeft, nextRestart⟩ => do
      let index := track.base + row * track.component.blocksWide + column
      let block := blocks.getD index zeroBlock
      let blocks := blocks.setIfInBounds index #[]
      let (block, carry) ←
        if band.high = 0 then firstPass track.coarse track.fine band place carry block
        else laterPass track.fine band carry block
      return ⟨blocks.setIfInBounds index block, carry, restartsLeft, nextRestart⟩

def meetRestart (interval : Nat) : Walk → Entropy Walk
  | ⟨blocks, carry, restartsLeft, nextRestart⟩ => do
      if interval = 0 then return ⟨blocks, carry, restartsLeft, nextRestart⟩
      if restartsLeft = 0 then
        match ← takeMarker with
        | some code =>
            unless code.toNat = 0xd0 + nextRestart do
              throw .marker
            restart
            return ⟨blocks, freshCarry, interval - 1, (nextRestart + 1) % 8⟩
        | none => throw .marker
      return ⟨blocks, carry, restartsLeft - 1, nextRestart⟩

def decodeUnit (band : Band) (tracks : Array Track) (unitRow unitColumn : Nat) (walk : Walk) :
    Entropy Walk := do
  let mut walk := walk
  for place in [0:tracks.size] do
    match tracks[place]? with
    | none => pure ()
    | some track =>
        for row in [0:track.down] do
          for column in [0:track.across] do
            walk ← decodeBlock band track place (unitRow * track.down + row)
              (unitColumn * track.across + column) walk
  return walk

def decodeUnits (frame : Frame) (band : Band) (tracks : Array Track) (interval wide high : Nat)
    (walk : Walk) : Entropy (Walk × Option UInt8) := do
  let mut walk := walk
  for row in [0:min high (ceilDiv frame.height 8)] do
    for column in [0:min wide (ceilDiv frame.width 8)] do
      walk ← meetRestart interval walk
      walk ← decodeUnit band tracks row column walk
  return (walk, ← takeMarker)

end Entropy

structure Decoding where
  frame : Frame
  progress : Progress
  coefficients : Array Block
  /-- For each component, the coefficients that have arrived in full. -/
  arrived : Array UInt64
  planes : Array (Option Plane)
  scans : Nat

namespace Decoding

def start (frame : Frame) (progress : Progress) : Decoding where
  frame := frame
  progress := progress
  coefficients := #[]
  arrived := Array.replicate frame.components.size 0
  planes := Array.replicate frame.components.size none
  scans := 0

def allArrived : UInt64 := 0xffffffffffffffff

def bandBits (band : Band) : UInt64 :=
  (List.range 64).foldl
    (fun bits index =>
      if band.first ≤ index ∧ index ≤ band.last then bits ||| (1 <<< UInt64.ofNat index)
      else bits) 0

def hasArrived (decoding : Decoding) (place : Nat) : Bool :=
  decoding.arrived.getD place 0 == allArrived

def noteArrival (decoding : Decoding) (scan : Scan) : Decoding :=
  if scan.band.low = 0 then
    let arrived := scan.components.foldl
      (fun arrived component =>
        arrived.modify component.place fun bits => bits ||| bandBits scan.band)
      decoding.arrived
    { decoding with arrived }
  else decoding

end Decoding

def luminanceCoarse : PrefixCode :=
  ⟨[0, 1, 5, 1, 1, 1, 1, 1, 1, 0, 0, 0, 0, 0, 0, 0], Array.range 12⟩

def chrominanceCoarse : PrefixCode :=
  ⟨[0, 3, 1, 1, 1, 1, 1, 1, 1, 1, 1, 0, 0, 0, 0, 0], Array.range 12⟩

def luminanceFine : PrefixCode :=
  ⟨[0, 2, 1, 3, 3, 2, 4, 3, 5, 5, 4, 4, 0, 0, 1, 125], #[
    0x01, 0x02, 0x03, 0x00, 0x04, 0x11, 0x05, 0x12, 0x21, 0x31, 0x41, 0x06, 0x13, 0x51, 0x61,
    0x07, 0x22, 0x71, 0x14, 0x32, 0x81, 0x91, 0xa1, 0x08, 0x23, 0x42, 0xb1, 0xc1, 0x15, 0x52,
    0xd1, 0xf0, 0x24, 0x33, 0x62, 0x72, 0x82, 0x09, 0x0a, 0x16, 0x17, 0x18, 0x19, 0x1a, 0x25,
    0x26, 0x27, 0x28, 0x29, 0x2a, 0x34, 0x35, 0x36, 0x37, 0x38, 0x39, 0x3a, 0x43, 0x44, 0x45,
    0x46, 0x47, 0x48, 0x49, 0x4a, 0x53, 0x54, 0x55, 0x56, 0x57, 0x58, 0x59, 0x5a, 0x63, 0x64,
    0x65, 0x66, 0x67, 0x68, 0x69, 0x6a, 0x73, 0x74, 0x75, 0x76, 0x77, 0x78, 0x79, 0x7a, 0x83,
    0x84, 0x85, 0x86, 0x87, 0x88, 0x89, 0x8a, 0x92, 0x93, 0x94, 0x95, 0x96, 0x97, 0x98, 0x99,
    0x9a, 0xa2, 0xa3, 0xa4, 0xa5, 0xa6, 0xa7, 0xa8, 0xa9, 0xaa, 0xb2, 0xb3, 0xb4, 0xb5, 0xb6,
    0xb7, 0xb8, 0xb9, 0xba, 0xc2, 0xc3, 0xc4, 0xc5, 0xc6, 0xc7, 0xc8, 0xc9, 0xca, 0xd2, 0xd3,
    0xd4, 0xd5, 0xd6, 0xd7, 0xd8, 0xd9, 0xda, 0xe1, 0xe2, 0xe3, 0xe4, 0xe5, 0xe6, 0xe7, 0xe8,
    0xe9, 0xea, 0xf1, 0xf2, 0xf3, 0xf4, 0xf5, 0xf6, 0xf7, 0xf8, 0xf9, 0xfa]⟩

def chrominanceFine : PrefixCode :=
  ⟨[0, 2, 1, 2, 4, 4, 3, 4, 7, 5, 4, 4, 0, 1, 2, 119], #[
    0x00, 0x01, 0x02, 0x03, 0x11, 0x04, 0x05, 0x21, 0x31, 0x06, 0x12, 0x41, 0x51, 0x07, 0x61,
    0x71, 0x13, 0x22, 0x32, 0x81, 0x08, 0x14, 0x42, 0x91, 0xa1, 0xb1, 0xc1, 0x09, 0x23, 0x33,
    0x52, 0xf0, 0x15, 0x62, 0x72, 0xd1, 0x0a, 0x16, 0x24, 0x34, 0xe1, 0x25, 0xf1, 0x17, 0x18,
    0x19, 0x1a, 0x26, 0x27, 0x28, 0x29, 0x2a, 0x35, 0x36, 0x37, 0x38, 0x39, 0x3a, 0x43, 0x44,
    0x45, 0x46, 0x47, 0x48, 0x49, 0x4a, 0x53, 0x54, 0x55, 0x56, 0x57, 0x58, 0x59, 0x5a, 0x63,
    0x64, 0x65, 0x66, 0x67, 0x68, 0x69, 0x6a, 0x73, 0x74, 0x75, 0x76, 0x77, 0x78, 0x79, 0x7a,
    0x82, 0x83, 0x84, 0x85, 0x86, 0x87, 0x88, 0x89, 0x8a, 0x92, 0x93, 0x94, 0x95, 0x96, 0x97,
    0x98, 0x99, 0x9a, 0xa2, 0xa3, 0xa4, 0xa5, 0xa6, 0xa7, 0xa8, 0xa9, 0xaa, 0xb2, 0xb3, 0xb4,
    0xb5, 0xb6, 0xb7, 0xb8, 0xb9, 0xba, 0xc2, 0xc3, 0xc4, 0xc5, 0xc6, 0xc7, 0xc8, 0xc9, 0xca,
    0xd2, 0xd3, 0xd4, 0xd5, 0xd6, 0xd7, 0xd8, 0xd9, 0xda, 0xe2, 0xe3, 0xe4, 0xe5, 0xe6, 0xe7,
    0xe8, 0xe9, 0xea, 0xf2, 0xf3, 0xf4, 0xf5, 0xf6, 0xf7, 0xf8, 0xf9, 0xfa]⟩

namespace Tables

def supply (tables : Array (Option PrefixCode)) (used : Bool) (index : Nat) (code : PrefixCode) :
    Array (Option PrefixCode) :=
  if used && ((tables[index]?).join).isNone then tables.setIfInBounds index (some code)
  else tables

def supplyUsual (tables : Tables) (scan : Scan) : Tables :=
  let usesCoarse (index : Nat) : Bool :=
    scan.components.any fun component => component.coarseIndex == index
  let usesFine (index : Nat) : Bool :=
    scan.components.any fun component => component.fineIndex == index
  let coarse := supply tables.coarse (usesCoarse 0) 0 luminanceCoarse
  let fine := supply tables.fine (usesFine 0) 0 luminanceFine
  { tables with
    coarse := supply coarse (usesCoarse 1) 1 chrominanceCoarse
    fine := supply fine (usesFine 1) 1 chrominanceFine }

end Tables

namespace Decoding

def tracks (decoding : Decoding) (scan : Scan) : Except Problem (Array Track) := do
  let tables := decoding.progress.tables
  let mut tracks := #[]
  for named in scan.components do
    match decoding.frame.components[named.place]? with
    | none => throw .scan
    | some component =>
        let coarse := tables.coarseAt named.coarseIndex
        let fine := tables.fineAt named.fineIndex
        if (tables.quantAt component.tableIndex).isNone then throw .missingTable
        if scan.band.first = 0 ∧ coarse.isNone then throw .missingTable
        if 0 < scan.band.last ∧ fine.isNone then throw .missingTable
        let interleaved := 1 < scan.components.size
        tracks := tracks.push
          { component, coarse, fine
            base := decoding.frame.blockBase named.place
            across := if interleaved then component.horizontal else 1
            down := if interleaved then component.vertical else 1 }
  return tracks

def drawPlane (decoding : Decoding) (blocks : Array Block) (place : Nat) : Decoding :=
  match decoding.frame.components[place]? with
  | none => decoding
  | some component =>
      match decoding.progress.tables.quantAt component.tableIndex with
      | none => decoding
      | some steps =>
          let plane := Plane.ofBlocks steps blocks (decoding.frame.blockBase place)
            component.blocksWide component.blocksHigh
          { decoding with planes := decoding.planes.setIfInBounds place (some plane) }

def decodeScan (decoding : Decoding) : Parser (Decoding × Option UInt8) := do
  let scan ← Parser.scan decoding.frame
  let decoding :=
    if decoding.progress.notes.motion then
      { decoding with progress :=
        { decoding.progress with tables := decoding.progress.tables.supplyUsual scan } }
    else decoding
  let unfinished := scan.components.filter fun component =>
    !decoding.hasArrived component.place
  let decoding := decoding.noteArrival scan
  let finished := unfinished.filter fun component => decoding.hasArrived component.place
  let tracks ← match decoding.tracks scan with
    | .ok tracks => pure tracks
    | .error problem => throw problem
  let progressive := decoding.frame.process == .progressive
  let blocks :=
    if progressive && !decoding.coefficients.isEmpty then decoding.coefficients
    else decoding.frame.zeroBlocks
  let decoding := { decoding with coefficients := #[] }
  let interval := decoding.progress.tables.restartInterval
  let (wide, high) :=
    if tracks.size = 1 then
      match tracks[0]? with
      | some track => (track.component.blocksWide, track.component.blocksHigh)
      | none => (0, 0)
    else (decoding.frame.unitsWide, decoding.frame.unitsHigh)
  let (walk, marker) ← (Entropy.decodeUnits decoding.frame scan.band tracks interval wide high
    ⟨blocks, freshCarry, interval, 0⟩).toParser
  let drawn := finished.foldl
    (fun decoding component => decoding.drawPlane walk.blocks component.place) decoding
  return ({ drawn with
    coefficients := if progressive then walk.blocks else #[]
    scans := decoding.scans + 1 }, marker)

def afterRestarts : Nat → Option UInt8 → Parser (Option UInt8)
  | 0, marker => return marker
  | fuel + 1, marker => do
      match marker with
      | some code =>
          if 0xd0 ≤ code ∧ code ≤ 0xd7 then afterRestarts fuel (some (← Parser.marker))
          else return marker
      | none => return none

def finishWithin : Nat → Option UInt8 → Bool → Decoding → Parser Decoding
  | 0, _, _, _ => throw .marker
  | fuel + 1, pending, afterScan, decoding => do
      let code ← match pending with
        | some code => pure code
        | none => Parser.marker
      if code = 0xd9 then
        return decoding
      else if code = 0xda then
        let (decoding, marker) ← decoding.decodeScan
        finishWithin fuel (← afterRestarts (← Parser.bound) marker) true decoding
      else if 0xd0 ≤ code ∧ code ≤ 0xd7 then
        unless afterScan do
          throw .marker
        finishWithin fuel none false decoding
      else
        let baseline := decoding.frame.process == .baseline
        let progress ← Parser.tableSegment code baseline decoding.progress
        finishWithin fuel none false { decoding with progress }

def drawUnfinished (decoding : Decoding) : Decoding :=
  if decoding.coefficients.isEmpty then decoding
  else
    (List.range decoding.frame.components.size).foldl
      (fun drawn place =>
        if drawn.hasArrived place then drawn else drawn.drawPlane decoding.coefficients place)
      decoding

def grayChannels (plane : Plane) (row column : Nat) : List UInt8 := [plane.sample row column]

def mixedChannels (model : ColourModel) (first second third : Nat → Nat → UInt8)
    (row column : Nat) : List UInt8 :=
  let one := first row column
  let two := second row column
  let three := third row column
  match model with
  | .direct => [one, two, three]
  | .luminance =>
      let (red, green, blue) := colourOfLuminance one two three
      [red, green, blue]

def channels (decoding : Decoding) : Except Problem (Nat → Nat → List UInt8) := do
  let frame := decoding.frame
  let planes ← decoding.planes.mapM fun plane =>
    match plane with
    | some plane => .ok plane
    | none => .error Problem.missingData
  match planes.toList, frame.components.toList with
  | [gray], [_] => return grayChannels gray
  | [first, second, third], [firstComponent, secondComponent, thirdComponent] =>
      let some model := ColourModel.choose? (frame.components.toList.map Component.identifier)
        decoding.progress.notes | throw .colour
      let some firstStretch := frame.upsampling? firstComponent | throw .unsupported
      let some secondStretch := frame.upsampling? secondComponent | throw .unsupported
      let some thirdStretch := frame.upsampling? thirdComponent | throw .unsupported
      return mixedChannels model (Upsample.sample first firstComponent firstStretch)
        (Upsample.sample second secondComponent secondStretch)
        (Upsample.sample third thirdComponent thirdStretch)
  | _, _ => throw .unsupported

def samples (decoding : Decoding) : Except Problem (Array UInt8) := do
  let channels ← decoding.channels
  return (Array.range decoding.frame.height).foldl
    (fun samples row => (Array.range decoding.frame.width).foldl
      (fun samples column => (channels row column).foldl Array.push samples) samples) #[]

end Decoding

namespace Parser

def samples (frame : Frame) (progress : Progress) : Parser (Array UInt8) := do
  let decoding ← Decoding.finishWithin (← bound) none false (Decoding.start frame progress)
  match decoding.drawUnfinished.samples with
  | .ok samples => return samples
  | .error problem => throw problem

end Parser

def Frame.format (frame : Frame) : PixelFormat :=
  match frame.components.size with
  | 1 => if 8 < frame.precision then .gray16 else .gray8
  | 3 => .rgb24
  | _ => .cmyk32

structure State where
  supply : Supply
  position : Nat
  frame : Frame
  progress : Progress

def readInfo (input : Input) : Option State × Input :=
  let supply := Supply.ofStream input.stream
  match Parser.header supply 0 with
  | (.ok (frame, progress), position) =>
      (some ⟨supply, position, frame, progress⟩, (input.readExactly position #[]).2)
  | (.error _, position) => (none, (input.readExactly position #[]).2)

def decode (state : State) (input : Input) : Option (Array UInt8) × Input :=
  match Parser.samples state.frame state.progress state.supply state.position with
  | (.ok samples, position) =>
      (some samples, (input.readExactly (position - state.position) #[]).2)
  | (.error _, position) => (none, (input.readExactly (position - state.position) #[]).2)

end Raster.Backend.Jpeg
