import Raster.Backend.Jpeg.Entropy

/-!
From coefficients to samples: the inverse cosine transform in integers that wrap, columns first,
with twelve fractional bits in its constants.
-/

namespace Raster.Backend.Jpeg

structure Butterfly where
  sum0 : Int32
  sum1 : Int32
  sum2 : Int32
  sum3 : Int32
  odd0 : Int32
  odd1 : Int32
  odd2 : Int32
  odd3 : Int32

namespace Butterfly

def ofValues (s0 s1 s2 s3 s4 s5 s6 s7 rounding : Int32) : Butterfly :=
  let even := (s2 + s6) * 2217
  let inner2 := even + s6 * -7567
  let inner3 := even + s2 * 3135
  let outer0 := (s0 + s4) <<< 12
  let outer1 := (s0 - s4) <<< 12
  let p3 := s7 + s3
  let p4 := s5 + s1
  let p1 := s7 + s1
  let p2 := s5 + s3
  let p5 := (p3 + p4) * 4816
  let q1 := p5 + p1 * -3685
  let q2 := p5 + p2 * -10497
  let q3 := p3 * -8034
  let q4 := p4 * -1597
  { sum0 := outer0 + inner3 + rounding
    sum1 := outer1 + inner2 + rounding
    sum2 := outer1 - inner2 + rounding
    sum3 := outer0 - inner3 + rounding
    odd3 := s1 * 6149 + q1 + q4
    odd2 := s3 * 12586 + q2 + q3
    odd1 := s5 * 8410 + q2 + q4
    odd0 := s7 * 1223 + q1 + q3 }

def outputs (butterfly : Butterfly) (shift : Int32) : Array Int32 := #[
  (butterfly.sum0 + butterfly.odd3) >>> shift,
  (butterfly.sum1 + butterfly.odd2) >>> shift,
  (butterfly.sum2 + butterfly.odd1) >>> shift,
  (butterfly.sum3 + butterfly.odd0) >>> shift,
  (butterfly.sum3 - butterfly.odd0) >>> shift,
  (butterfly.sum2 - butterfly.odd1) >>> shift,
  (butterfly.sum1 - butterfly.odd2) >>> shift,
  (butterfly.sum0 - butterfly.odd3) >>> shift]

end Butterfly

def clampSample (value : Int32) : UInt8 :=
  if value < 0 then 0 else if 255 < value then 255 else value.toInt.toNat.toUInt8

def transformColumn (values : Array Int32) : Array Int32 :=
  let value (index : Nat) := values.getD index 0
  if (values.extract 1 8).all (· == 0) then Array.replicate 8 (value 0 <<< 2)
  else
    (Butterfly.ofValues (value 0) (value 1) (value 2) (value 3) (value 4) (value 5) (value 6)
      (value 7) 512).outputs 10

def transformRow (values : Array Int32) : Array UInt8 :=
  let value (index : Nat) := values.getD index 0
  ((Butterfly.ofValues (value 0) (value 1) (value 2) (value 3) (value 4) (value 5) (value 6)
    (value 7) 16842752).outputs 17).map clampSample

def dequantise (steps : QuantTable) (block : Block) : Array Int32 :=
  (Array.range 64).foldl
    (fun values index =>
      let place := zigzag.getD index 0
      values.setIfInBounds place
        ((block.getD place 0).toInt32 * Int32.ofNat (steps.getD index 0).toNat))
    (Array.replicate 64 0)

def blockSamples (steps : QuantTable) (block : Block) : Array (Array UInt8) :=
  let values := dequantise steps block
  let columns := (Array.range 8).map fun column =>
    transformColumn ((Array.range 8).map fun row => values.getD (row * 8 + column) 0)
  (Array.range 8).map fun row =>
    transformRow (columns.map fun column => column.getD row 0)

structure Plane where
  stride : Nat
  samples : Array UInt8

namespace Plane

def sample (plane : Plane) (row column : Nat) : UInt8 :=
  plane.samples.getD (row * plane.stride + column) 0

def put (samples : Array UInt8) (start : Nat) (row : Array UInt8) : Array UInt8 :=
  (Array.range row.size).foldl
    (fun samples offset => samples.setIfInBounds (start + offset) (row.getD offset 0)) samples

def ofBlocks (steps : QuantTable) (blocks : Array Block) (first wide high : Nat) : Plane :=
  let stride := wide * 8
  let samples := (Array.range (wide * high)).foldl
    (fun samples index =>
      let corner := index / wide * 8 * stride + index % wide * 8
      let rows := blockSamples steps (blocks.getD (first + index) zeroBlock)
      (Array.range 8).foldl
        (fun samples row => put samples (corner + row * stride) (rows.getD row #[])) samples)
    (Array.replicate (stride * high * 8) 0)
  ⟨stride, samples⟩

end Plane

end Raster.Backend.Jpeg
