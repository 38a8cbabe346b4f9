import Raster.Proofs.Resample.Steps
import Raster.Proofs.Resample.Transpose
import Raster.Proofs.Resample.Walk

/-!
Area averages with every number checked on the way. Sums never fail a double word, since all an area
covers weighs too little; positions fit their words as long as the area of a destination pixel ends
within one.
-/

namespace Raster

namespace Resample

def accumulate? (sum weight : UInt64) (value : UInt8) : Option UInt64 := do
  let product ← doubleWord? (weight.toNat * value.toNat)
  doubleWord? (sum.toNat + product.toNat)

theorem accumulate?_eq_some {sum weight : UInt64} {value : UInt8}
    (fits : sum.toNat + weight.toNat * value.toNat < 2 ^ 64) :
    accumulate? sum weight value = some (sum + weight * value.toUInt64) := by
  have small : weight.toNat * value.toNat < 2 ^ 64 := Nat.lt_of_le_of_lt (Nat.le_add_left _ _) fits
  have product : UInt64.ofNat (weight.toNat * value.toNat) = weight * value.toUInt64 := by
    rw [UInt64.ofNat_mul, UInt64.ofNat_toNat, UInt64.ofNat_uInt8ToNat]
  rw [accumulate?, doubleWord?, if_pos small, Option.bind_eq_bind, Option.bind_some,
    UInt64.toNat_ofNat_of_lt' small, doubleWord?, if_pos fits, UInt64.ofNat_add,
    UInt64.ofNat_toNat, product]

namespace Sums

def add? (sums : Sums) (weight : UInt64) (pixel : Pixel) : Option Sums := do
  let alpha ← accumulate? sums.alpha weight pixel.alpha
  let red ← accumulate? sums.red weight pixel.red
  let green ← accumulate? sums.green weight pixel.green
  let blue ← accumulate? sums.blue weight pixel.blue
  some ⟨alpha, red, green, blue⟩

section Add

variable {sums : Sums} {weight : UInt64} {pixel : Pixel}

theorem add?_eq_some (fits : ∀ channel : Channel, (channel.ofSums sums).toNat +
      weight.toNat * (channel.ofPixel pixel).toNat < 2 ^ 64) :
    sums.add? weight pixel = some (sums.add weight pixel) := by
  have alpha : accumulate? sums.alpha weight pixel.alpha = _ := accumulate?_eq_some (fits .alpha)
  have red : accumulate? sums.red weight pixel.red = _ := accumulate?_eq_some (fits .red)
  have green : accumulate? sums.green weight pixel.green = _ := accumulate?_eq_some (fits .green)
  have blue : accumulate? sums.blue weight pixel.blue = _ := accumulate?_eq_some (fits .blue)
  rw [add?, alpha, red, green, blue]
  rfl

theorem toNat_ofSums_add (channel : Channel) (fits : (channel.ofSums sums).toNat +
      weight.toNat * (channel.ofPixel pixel).toNat < 2 ^ 64) :
    (channel.ofSums (sums.add weight pixel)).toNat =
      (channel.ofSums sums).toNat + weight.toNat * (channel.ofPixel pixel).toNat := by
  rw [Channel.ofSums_add, UInt64.toNat_add, UInt64.toNat_mul, UInt8.toNat_toUInt64,
    Nat.add_mod_mod, Nat.mod_eq_of_lt fits]

end Add

def HasRoom (weight : Nat) (sums : Sums) : Prop :=
  ∀ channel : Channel, (channel.ofSums sums).toNat + 255 * weight < 2 ^ 64

theorem zero_hasRoom {weight : Nat} (light : 255 * weight < 2 ^ 64) : zero.HasRoom weight := by
  intro channel
  have none : channel.ofSums zero = 0 := by cases channel <;> rfl
  rw [none, UInt64.toNat_zero, Nat.zero_add]
  exact light

theorem HasRoom.add {sums : Sums} {weight : UInt64} {rest : Nat}
    (room : sums.HasRoom (weight.toNat + rest)) (pixel : Pixel) :
    sums.add? weight pixel = some (sums.add weight pixel) ∧
      (sums.add weight pixel).HasRoom rest := by
  have bright (channel : Channel) : (channel.ofSums sums).toNat +
      weight.toNat * (channel.ofPixel pixel).toNat + 255 * rest < 2 ^ 64 := by
    have most : weight.toNat * (channel.ofPixel pixel).toNat ≤ weight.toNat * 255 :=
      Nat.mul_le_mul_left _ (Nat.le_of_lt_succ (UInt8.toNat_lt _))
    have space := room channel
    omega
  have fits (channel : Channel) : (channel.ofSums sums).toNat +
      weight.toNat * (channel.ofPixel pixel).toNat < 2 ^ 64 :=
    Nat.lt_of_le_of_lt (Nat.le_add_right _ _) (bright channel)
  refine ⟨add?_eq_some fits, ?_⟩
  intro channel
  rw [toNat_ofSums_add channel (fits channel)]
  exact bright channel

end Sums

def visitColumn? (source : Bitmap) (row rowChunk place taken : UInt32) (sums : Sums) :
    Option Sums := do
  let pixel ← source.pixel? row (min place (source.width - 1))
  let weight ← doubleWord? (taken.toNat * rowChunk.toNat)
  sums.add? weight pixel

def visitRow? (source : Bitmap) (start step place taken : UInt32) (sums : Sums) : Option Sums :=
  walk? (visitColumn? source (min place (source.height - 1)) taken) (turns step) start step sums

/-- `averageSample` with bounded loops, unless something does not fit or is not there. -/
def averageSample? (source : Bitmap) (stepX stepY y x : UInt32) : Option Sample := do
  let scale ← doubleWord? (stepX.toNat * stepY.toNat)
  let startY ← word? (y.toNat * stepY.toNat)
  let startX ← word? (x.toNat * stepX.toNat)
  let sums ← walk? (visitRow? source startX stepX) (turns stepY) startY stepY Sums.zero
  if scale = 0 then none else some (sums.divide scale)

section Success

variable {source : Bitmap} (formed : source.WellFormed) (hasColumns : 0 < source.width.toNat)

include formed hasColumns

theorem sumColumns_follows {row : UInt32} (below : row < source.height) (rowChunk : UInt32)
    (rest : Nat) :
    Follows (sumColumns source row rowChunk) (visitColumn? source row rowChunk)
      fun more sums => sums.HasRoom (more * rowChunk.toNat + rest) := by
  refine ⟨?_, ?_⟩
  · intro position sums
    rw [sumColumns, if_pos rfl]
  · intro position remaining sums more room
    have inside : min (position >>> 12) (source.width - 1) < source.width :=
      UInt32.lt_iff_toNat_lt.mpr (clamped_lt hasColumns _)
    rw [← toNat_remaining position remaining, Nat.add_mul, Nat.add_assoc, ← toNat_mul_toUInt64]
      at room
    obtain ⟨added, kept⟩ := room.add
      (source.pixelAt row.toNat (min (position >>> 12) (source.width - 1)).toNat)
    refine ⟨_, ?_, kept, ?_⟩
    · rw [visitColumn?, formed.pixel?_eq below inside, doubleWord?_mul]
      exact added
    · rw [sumColumns, if_neg more]

variable (hasRows : 0 < source.height.toNat)

include hasRows

theorem sumRows_follows {start step : UInt32} (fits : start.toNat + step.toNat < 2 ^ 32) :
    Follows (sumRows source start step) (visitRow? source start step)
      fun more sums => sums.HasRoom (more * step.toNat) := by
  refine ⟨?_, ?_⟩
  · intro position sums
    rw [sumRows, if_pos rfl]
  · intro position remaining sums more room
    have below : min (position >>> 12) (source.height - 1) < source.height :=
      UInt32.lt_iff_toNat_lt.mpr (clamped_lt hasRows _)
    rw [← toNat_remaining position remaining, Nat.add_mul, Nat.mul_comm (chunk _ _).toNat] at room
    obtain ⟨summed, kept⟩ := (sumColumns_follows formed hasColumns below
      (chunk position remaining) _).walk?_eq_some (fun _ => turns_enough start step) fits room
    rw [Nat.zero_mul, Nat.zero_add] at kept
    refine ⟨_, summed, kept, ?_⟩
    rw [sumRows, if_neg more]

variable {stepX stepY : UInt32} (someX : stepX ≠ 0) (someY : stepY ≠ 0)

include someX someY

theorem averageSample?_eq_some (light : 255 * (stepY.toNat * stepX.toNat) < 2 ^ 64) {y x : UInt32}
    (fitsY : (y.toNat + 1) * stepY.toNat < 2 ^ 32) (fitsX : (x.toNat + 1) * stepX.toNat < 2 ^ 32) :
    averageSample? source stepX stepY y x = some (averageSample source stepX stepY y x) := by
  rw [Nat.succ_mul] at fitsY fitsX
  have smallY : y.toNat * stepY.toNat < 2 ^ 32 := by
    omega
  have smallX : x.toNat * stepX.toNat < 2 ^ 32 := by
    omega
  have startY := toNat_mul_of_fits smallY
  have startX := toNat_mul_of_fits smallX
  have scale : stepX.toUInt64 * stepY.toUInt64 ≠ 0 := by
    intro none
    have product := toNat_mul_toUInt64 stepX stepY
    rw [none] at product
    exact Nat.mul_ne_zero (toNat_ne_zero someX) (toNat_ne_zero someY) product.symm
  obtain ⟨summed, -⟩ := (sumRows_follows formed hasColumns hasRows (startX ▸ fitsX)).walk?_eq_some
    (fun _ => turns_enough (y * stepY) stepY) (startY ▸ fitsY)
      (Sums.zero_hasRoom light)
  rw [averageSample?, doubleWord?_mul, word?_mul smallY, word?_mul smallX]
  simp only [Option.bind_eq_bind, Option.bind_some, summed, if_neg scale]
  rfl

end Success

theorem averageSample?_eq_none {source : Bitmap} {stepX stepY : UInt32} (someY : stepY ≠ 0)
    {y x : UInt32} (large : 2 ^ 32 ≤ (y.toNat + 1) * stepY.toNat ∨
      2 ^ 32 ≤ (x.toNat + 1) * stepX.toNat) :
    averageSample? source stepX stepY y x = none := by
  rw [Nat.succ_mul, Nat.succ_mul] at large
  rw [averageSample?, doubleWord?_mul, Option.bind_eq_bind, Option.bind_some]
  by_cases fitsY : y.toNat * stepY.toNat < 2 ^ 32
  · by_cases fitsX : x.toNat * stepX.toNat < 2 ^ 32
    · have startY := toNat_mul_of_fits fitsY
      have startX := toNat_mul_of_fits fitsX
      have overflows : walk? (visitRow? source (x * stepX) stepX) (turns stepY) (y * stepY) stepY
          Sums.zero = none := by
        rcases large with rows | columns
        · exact walk?_eq_none (startY ▸ rows)
        · exact walk?_eq_none_of_visits (fun _ _ _ => walk?_eq_none (startX ▸ columns)) someY
      rw [word?_mul fitsY, Option.bind_eq_bind, Option.bind_some, word?_mul fitsX,
        Option.bind_eq_bind, Option.bind_some, overflows]
      rfl
    · rw [word?_mul fitsY, Option.bind_eq_bind, Option.bind_some,
        word?_eq_none (Nat.not_lt.mp fitsX)]
      rfl
  · rw [word?_eq_none (Nat.not_lt.mp fitsY)]
    rfl

theorem averageStep_ne_zero (side count : UInt32) : averageStep side count ≠ 0 :=
  UInt32.pos_iff_ne_zero.mp (UInt32.lt_iff_toNat_lt.mpr (averageStep_pos side count))

section Drawn

variable {source : Bitmap} (formed : source.WellFormed) (filled : source.valid = true)
  (pixels : source.width.toNat * source.height.toNat ≤ 2 ^ 32)

include formed filled pixels

theorem averageSample?_eq (width height y x : UInt32) :
    averageSample? source (averageStep source.width width) (averageStep source.height height) y x =
      if (y.toNat + 1) * (averageStep source.height height).toNat < 2 ^ 32 ∧
          (x.toNat + 1) * (averageStep source.width width).toNat < 2 ^ 32 then
        some (sample source width height .average y.toNat x.toNat)
      else none := by
  obtain ⟨hasColumns, hasRows⟩ := formed.sides_pos filled
  split
  · rename_i fits
    rw [sample_average, UInt32.ofNat_toNat, UInt32.ofNat_toNat]
    exact averageSample?_eq_some formed hasColumns hasRows (averageStep_ne_zero _ _)
      (averageStep_ne_zero _ _) (average_weight_lt hasColumns hasRows pixels width height) fits.1
      fits.2
  · rename_i large
    apply averageSample?_eq_none (averageStep_ne_zero _ _)
    rwa [not_and_or, Nat.not_lt, Nat.not_lt] at large

example : averageSample? loose (averageStep 2 1) (averageStep 1 2) 1 0 =
    some ⟨0x80, 0x19, 0x2a, 0x3b⟩ := by decide

theorem averageSample?_of_short (narrow : source.width.toNat < 2 ^ 20)
    (low : source.height.toNat < 2 ^ 20) {width height y x : UInt32} (below : y < height)
    (inside : x < width) :
    averageSample? source (averageStep source.width width) (averageStep source.height height) y x =
      some (sample source width height .average y.toNat x.toNat) := by
  rw [averageSample?_eq formed filled pixels, if_pos]
  exact ⟨end_of_area_lt low (UInt32.lt_iff_toNat_lt.mp below),
    end_of_area_lt narrow (UInt32.lt_iff_toNat_lt.mp inside)⟩

end Drawn

end Resample

/-- Of the numbers in an area average only positions can overflow. They do for just those pixels
whose area does not end within a word, which are there only where a source side has 2^20 pixels or
more. -/
theorem average_checked {source : Bitmap} (formed : source.WellFormed)
    (filled : source.valid = true) (pixels : source.width.toNat * source.height.toNat ≤ 2 ^ 32)
    (width height : UInt32) :
    (∀ y x : UInt32,
      Resample.averageSample? source (Resample.averageStep source.width width)
          (Resample.averageStep source.height height) y x =
        if (y.toNat + 1) * (Resample.averageStep source.height height).toNat < 2 ^ 32 ∧
            (x.toNat + 1) * (Resample.averageStep source.width width).toNat < 2 ^ 32 then
          some (Resample.sample source width height .average y.toNat x.toNat)
        else none) ∧
    (source.width.toNat < 2 ^ 20 → source.height.toNat < 2 ^ 20 →
      ∀ y x : UInt32, y < height → x < width →
        Resample.averageSample? source (Resample.averageStep source.width width)
            (Resample.averageStep source.height height) y x =
          some (Resample.sample source width height .average y.toNat x.toNat)) := by
  refine ⟨Resample.averageSample?_eq formed filled pixels width height, ?_⟩
  intro narrow low y x below inside
  exact Resample.averageSample?_of_short formed filled pixels narrow low below inside

namespace Resample

def strip (width : UInt32) : Bitmap :=
  ⟨width, 1, width, Array.ofFn fun slot : Fin width.toNat =>
    if slot.val < 8192 then Pixel.transparent else ⟨0xffffffff⟩⟩

theorem strip_wellFormed (width : UInt32) : (strip width).WellFormed :=
  ⟨UInt32.le_rfl, Array.size_ofFn.trans (Nat.mul_one _).symm⟩

theorem strip_valid {width : UInt32} (filled : 0 < width) : (strip width).valid = true :=
  (strip_wellFormed width).valid_iff.mpr ⟨filled, UInt32.zero_lt_one⟩

def longStrip : Bitmap := strip 1056768

theorem longStrip_wellFormed : longStrip.WellFormed := strip_wellFormed 1056768

theorem longStrip_valid : longStrip.valid = true := strip_valid (by decide)

end Resample

theorem average_checked_strip :
    (Resample.longStrip.WellFormed ∧ Resample.longStrip.valid = true ∧
      Resample.longStrip.width.toNat * Resample.longStrip.height.toNat ≤ 2 ^ 32) ∧
    Resample.averageSample? Resample.longStrip (Resample.averageStep 1056768 64)
        (Resample.averageStep 1 1) 0 62 =
      some (Resample.sample Resample.longStrip 64 1 .average 0 62) ∧
    (Resample.loose.WellFormed ∧ Resample.loose.valid = true ∧
      Resample.averageSample? Resample.loose (Resample.averageStep 2 1)
          (Resample.averageStep 1 1) 0 0 =
        some (Resample.sample Resample.loose 1 1 .average 0 0)) := by
  obtain ⟨wide, -⟩ := average_checked Resample.longStrip_wellFormed Resample.longStrip_valid
    (by decide) 64 1
  have loose : Resample.loose.WellFormed := ⟨by decide, by decide⟩
  obtain ⟨-, short⟩ := average_checked loose (by decide) (by decide) 1 1
  refine ⟨⟨Resample.longStrip_wellFormed, Resample.longStrip_valid, by decide⟩, ?_, loose,
    by decide, ?_⟩
  · exact (wide 0 62).trans (if_pos (by decide))
  · exact short (by decide) (by decide) 0 0 (by decide) (by decide)

/-- Averaging the strip into 64 pixels overflows in the last of them. -/
theorem average_overflows_strip :
    (Resample.longStrip.WellFormed ∧ Resample.longStrip.valid = true ∧
      Resample.longStrip.width.toNat * Resample.longStrip.height.toNat ≤ 2 ^ 32) ∧
    (Resample.strategy 1056768 1 64 1 false = .average ∧
      2 ^ 32 ≤ 63 * (Resample.averageStep 1056768 64).toNat +
        (Resample.averageStep 1056768 64).toNat) ∧
    Resample.averageSample? Resample.longStrip (Resample.averageStep 1056768 64)
      (Resample.averageStep 1 1) 0 63 = none := by
  refine ⟨⟨Resample.longStrip_wellFormed, Resample.longStrip_valid, by decide⟩, by decide, ?_⟩
  exact Resample.averageSample?_eq_none (by decide) (.inr (by decide))

end Raster
