import Mathlib.Data.Nat.Bitwise
import Raster.Proofs.InRange
import Raster.Proofs.Png.Packing

/-!
Rows of packed samples. Unpacking is the inverse of packing, whatever fills up the last byte and
whatever follows it; no step of it leaves a byte, and a row that is too short gives too few samples.
-/

namespace Raster.Png

/-- The lowest bits of a number, the highest of them first. -/
def bitsOf (count value : Nat) : List Bool :=
  (List.range count).map fun index => value.testBit (count - 1 - index)

/-- Bytes made of bits, eight to a byte and the highest first. -/
def packBits (bits : List Bool) : Array UInt8 :=
  Array.ofFn fun index : Fin (bits.length / 8) =>
    UInt8.ofNat (Nat.ofBits fun place : Fin 8 => bits.getD (8 * index + (7 - place)) false)

/-- A row of samples without gaps. The free bits fill up the last byte and are all of the bytes
behind it. -/
def packRow (depth : Nat) (samples : List Nat) (free : List Bool) : Array UInt8 :=
  packBits (samples.flatMap (bitsOf depth) ++ free)

@[simp] theorem length_bitsOf (count value : Nat) : (bitsOf count value).length = count := by
  simp [bitsOf]

theorem getElem?_bitsOf {count bit : Nat} (value : Nat) (inside : bit < count) :
    (bitsOf count value)[bit]? = some (value.testBit (count - 1 - bit)) := by
  rw [bitsOf, List.getElem?_map, List.getElem?_range inside, Option.map_some]

@[simp] theorem length_flatMap_bitsOf (depth : Nat) (samples : List Nat) :
    (samples.flatMap (bitsOf depth)).length = samples.length * depth := by
  induction samples with
  | nil => simp
  | cons sample later ih =>
      rw [List.flatMap_cons, List.length_append, length_bitsOf, ih, List.length_cons]
      exact (Nat.succ_mul ..).symm ▸ Nat.add_comm ..

theorem getElem?_flatMap_bitsOf {depth bit : Nat} (inside : bit < depth) (samples : List Nat)
    (index : Nat) :
    (samples.flatMap (bitsOf depth))[index * depth + bit]? =
      samples[index]?.map fun sample => sample.testBit (depth - 1 - bit) := by
  induction samples generalizing index with
  | nil => simp
  | cons sample later ih =>
      rw [List.flatMap_cons]
      cases index with
      | zero =>
          rw [Nat.zero_mul, Nat.zero_add, List.getElem?_append_left (by simpa using inside),
            getElem?_bitsOf sample inside]
          rfl
      | succ index =>
          have behind : (index + 1) * depth + bit = depth + (index * depth + bit) := by
            rw [Nat.succ_mul]
            omega
          rw [behind, List.getElem?_append_right (by simp), length_bitsOf, Nat.add_sub_cancel_left,
            ih, List.getElem?_cons_succ]

theorem size_packBits (bits : List Bool) : (packBits bits).size = bits.length / 8 :=
  Array.size_ofFn

theorem rowBit_packBits {bits : List Bool} {index : Nat} (inside : index / 8 < bits.length / 8) :
    rowBit (packBits bits) index = bits.getD index false := by
  have place : 8 * (index / 8) + (7 - (7 - index % 8)) = index := by omega
  have bound : index / 8 < (packBits bits).size := by rwa [size_packBits]
  have low : 7 - index % 8 < 8 := by omega
  rw [rowBit, Array.getD_eq_getD_getElem?, Array.getElem?_eq_getElem bound, Option.getD_some]
  simp only [packBits, Array.getElem_ofFn]
  rw [UInt8.toNat_ofNat_of_lt' (Nat.ofBits_lt_two_pow _), Nat.testBit_ofBits_lt _ _ low]
  simp only [place]

theorem packRow_packed {depth : Nat} {samples : List Nat} {free : List Bool}
    (whole : 8 ∣ samples.length * depth + free.length) :
    Packed depth samples.length (fun index => samples.getD index 0)
      (packRow depth samples free) := by
  have length : (samples.flatMap (bitsOf depth) ++ free).length =
      samples.length * depth + free.length := by
    rw [List.length_append, length_flatMap_bitsOf]
  obtain ⟨bytes, total⟩ := whole
  constructor
  · rw [packRow, size_packBits, length]
    omega
  · intro index bit inside below
    have before : (index + 1) * depth ≤ samples.length * depth := Nat.mul_le_mul_right _ inside
    rw [Nat.succ_mul] at before
    have among : index * depth + bit < (samples.flatMap (bitsOf depth)).length := by
      rw [length_flatMap_bitsOf]
      omega
    rw [packRow, rowBit_packBits (by omega), List.getD_eq_getElem?_getD,
      List.getElem?_append_left among, getElem?_flatMap_bitsOf below,
      List.getElem?_eq_getElem inside, Option.map_some, Option.getD_some,
      List.getD_eq_getElem?_getD, List.getElem?_eq_getElem inside, Option.getD_some]

theorem unpackedLevel_lt {depth value : Nat} (colour : ColourType)
    (legal : depth = 1 ∨ depth = 2 ∨ depth = 4 ∨ depth = 8) (small : value < 2 ^ depth) :
    unpackedLevel colour depth value < 2 ^ 8 := by
  rw [unpackedLevel]
  rcases legal with rfl | rfl | rfl | rfl <;> split <;> omega

theorem unpackRow_packRow (colour : ColourType) {depth : Nat} {samples : List Nat}
    {free : List Bool} (legal : depth = 1 ∨ depth = 2 ∨ depth = 4 ∨ depth = 8)
    (small : ∀ sample ∈ samples, sample < 2 ^ depth)
    (whole : 8 ∣ samples.length * depth + free.length) :
    (unpackRow (packRow depth samples free) samples.length depth colour).toList.map UInt8.toNat =
      samples.map (unpackedLevel colour depth) := by
  have values : ∀ index, samples.getD index 0 < 2 ^ depth := by
    intro index
    by_cases inside : index < samples.length
    · rw [List.getD_eq_getElem _ _ inside]
      exact small _ (List.getElem_mem inside)
    · rw [List.getD_eq_default _ _ (Nat.not_lt.mp inside)]
      exact Nat.two_pow_pos depth
  rw [unpackRow_toList colour (packRow_packed whole) legal values]
  apply List.ext_getElem
  · simp
  · intro index bound inside
    have below : index < samples.length := by simpa using inside
    have level := unpackedLevel_lt colour legal (small _ (List.getElem_mem below))
    simp only [List.getElem_map, List.getElem_range, List.getD_eq_getElem _ _ below]
    exact UInt8.toNat_ofNat_of_lt' level

/-! How many samples come out of any row. -/

theorem packedSample?_eq_none_iff (row : Array UInt8) (depth index : Nat) :
    packedSample? row depth index = none ↔ row.size ≤ index * depth / 8 := by
  rw [packedSample?, ← Array.getElem?_eq_none_iff]
  cases row[index * depth / 8]? <;> simp

theorem unpackFrom_size (row : Array UInt8) {depth : Nat} (colour : ColourType)
    (shallow : depth = 1 ∨ depth = 2 ∨ depth = 4) (count index : Nat) (samples : Array UInt8) :
    (unpackFrom row depth colour index count samples).size =
      samples.size + min count (row.size * 8 / depth - index) := by
  induction count generalizing index samples with
  | zero => simp [unpackFrom]
  | succ count ih =>
      rw [unpackFrom]
      cases sample : packedSample? row depth index with
      | none =>
          have ended := (packedSample?_eq_none_iff row depth index).mp sample
          have none : row.size * 8 / depth ≤ index := by
            rcases shallow with rfl | rfl | rfl <;> omega
          dsimp only
          omega
      | some value =>
          have going : ¬row.size ≤ index * depth / 8 := by
            rw [← packedSample?_eq_none_iff, sample]
            exact Option.some_ne_none value
          have more : index < row.size * 8 / depth := by
            rcases shallow with rfl | rfl | rfl <;> omega
          dsimp only
          rw [ih, Array.size_push]
          omega

theorem unpackRow_size (row : Array UInt8) {depth : Nat} (colour : ColourType)
    (legal : depth = 1 ∨ depth = 2 ∨ depth = 4 ∨ depth = 8) (count : Nat) :
    (unpackRow row count depth colour).size = min count (row.size * 8 / depth) := by
  rw [unpackRow]
  split
  · rename_i whole
    rw [Array.size_extract, whole]
    omega
  · rw [unpackFrom_size row colour (by omega)]
    simp

theorem unpackRow_size_lt_iff (row : Array UInt8) {depth : Nat} (colour : ColourType)
    (legal : depth = 1 ∨ depth = 2 ∨ depth = 4 ∨ depth = 8) (count : Nat) :
    (unpackRow row count depth colour).size < count ↔ row.size * 8 < count * depth := by
  rw [unpackRow_size row colour legal, ← Nat.div_lt_iff_lt_mul (by omega)]
  omega

namespace Checked

/-- One byte of a row moved and masked, where neither the shift nor the mask leaves the byte. -/
def cut? (byte : UInt8) (depth index : Nat) : Option UInt8 := do
  let above ← difference? 8 depth
  let places ← difference? above (index * depth % 8)
  let mask ← difference? (2 ^ depth % 2 ^ 8) 1
  if places < 8 then return (byte >>> UInt8.ofNat places) &&& UInt8.ofNat mask else none

def expandSample? (sample : UInt8) (depth : Nat) : Option UInt8 :=
  if depth = 1 then byte? (sample.toNat * 0xff)
  else if depth = 2 then byte? (sample.toNat * 0x55)
  else if depth = 4 then byte? (sample.toNat * 0x11)
  else some sample

def level? (colour : ColourType) (depth : Nat) (sample : UInt8) : Option UInt8 :=
  if colour = .palette then some sample else expandSample? sample depth

def unpackFrom? (row : Array UInt8) (depth : Nat) (colour : ColourType) (index : Nat) :
    Nat → Array UInt8 → Option (Array UInt8)
  | 0, samples => some samples
  | count + 1, samples =>
      match row[index * depth / 8]? with
      | none => some samples
      | some byte => do
          let sample ← cut? byte depth index
          let value ← level? colour depth sample
          unpackFrom? row depth colour (index + 1) count (samples.push value)

def unpackRow? (row : Array UInt8) (count depth : Nat) (colour : ColourType) :
    Option (Array UInt8) :=
  if depth = 8 then some (row.extract 0 count) else unpackFrom? row depth colour 0 count #[]

section Bytes

variable {depth : Nat} (shallow : depth = 1 ∨ depth = 2 ∨ depth = 4)

include shallow

theorem cut?_eq {row : Array UInt8} {index : Nat} {byte : UInt8}
    (found : row[index * depth / 8]? = some byte) :
    ∃ sample, cut? byte depth index = some sample ∧ packedSample? row depth index = some sample ∧
      sample.toNat < 2 ^ depth := by
  have above : difference? 8 depth = some (8 - depth) := if_pos (by omega)
  have places : difference? (8 - depth) (index * depth % 8) =
      some (8 - depth - index * depth % 8) :=
    if_pos (by rcases shallow with rfl | rfl | rfl <;> omega)
  have mask : difference? (2 ^ depth % 2 ^ 8) 1 = some (2 ^ depth - 1) := by
    rcases shallow with rfl | rfl | rfl <;> rfl
  have within : 8 - depth - index * depth % 8 < 8 := by omega
  have sameMask : UInt8.ofNat (2 ^ depth - 1) = UInt8.ofNat (1 <<< depth) - 1 := by
    rcases shallow with rfl | rfl | rfl <;> rfl
  have small : (UInt8.ofNat (1 <<< depth) - 1).toNat < 2 ^ depth := by
    rcases shallow with rfl | rfl | rfl <;> decide
  refine ⟨(byte >>> UInt8.ofNat (8 - depth - index * depth % 8)) &&&
    (UInt8.ofNat (1 <<< depth) - 1), ?_, ?_, ?_⟩
  · simp only [cut?, above, places, mask, Option.bind_eq_bind, Option.bind_some, if_pos within,
      sameMask]
    rfl
  · rw [packedSample?, found]
  · rw [UInt8.toNat_and]
    exact Nat.lt_of_le_of_lt Nat.and_le_right small

theorem expandSample?_eq {sample : UInt8} (small : sample.toNat < 2 ^ depth) :
    expandSample? sample depth = some (expandSample sample depth) := by
  have every : ∀ depth ∈ [1, 2, 4], ∀ value < 2 ^ depth,
      expandSample? (UInt8.ofNat value) depth = some (expandSample (UInt8.ofNat value) depth) := by
    decide
  have holds := every depth (by simpa using shallow) sample.toNat small
  rwa [UInt8.ofNat_toNat] at holds

theorem unpackFrom?_eq (row : Array UInt8) (colour : ColourType) (count index : Nat)
    (samples : Array UInt8) :
    unpackFrom? row depth colour index count samples =
      some (unpackFrom row depth colour index count samples) := by
  induction count generalizing index samples with
  | zero => rfl
  | succ count ih =>
      rw [unpackFrom?, unpackFrom]
      cases found : row[index * depth / 8]? with
      | none => simp only [packedSample?, found]
      | some byte =>
          obtain ⟨sample, cut, read, small⟩ := cut?_eq shallow found
          have value : level? colour depth sample =
              some (if colour = .palette then sample else expandSample sample depth) := by
            rw [level?, expandSample?_eq shallow small]
            split <;> rfl
          simp only [cut, read, value, Option.bind_eq_bind, Option.bind_some]
          exact ih ..

end Bytes

theorem unpackRow?_eq (row : Array UInt8) {depth : Nat} (colour : ColourType)
    (legal : depth = 1 ∨ depth = 2 ∨ depth = 4 ∨ depth = 8) (count : Nat) :
    unpackRow? row count depth colour = some (unpackRow row count depth colour) := by
  rw [unpackRow?, unpackRow]
  split
  · rfl
  · exact unpackFrom?_eq (by omega) row colour count 0 #[]

end Checked

end Raster.Png
