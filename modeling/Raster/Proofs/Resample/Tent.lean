import Mathlib.Algebra.BigOperators.Ring.Finset
import Mathlib.Algebra.Order.Floor.Div
import Raster.Proofs.Resample.Choice
import Raster.Proofs.Resample.Exact
import Raster.Proofs.Resample.Monotone

/-!
Filtered samples as the filter they stand for. The four taps and their weights are what a tent, two
source pixels wide, leaves of a source that goes on with nothing beyond its sides.
-/

namespace Raster

namespace Resample

/-- Full weight in the middle, none from one source pixel on. -/
def tent (distance : Int) : Nat := 4096 - distance.natAbs

/-- What `value` gives for a place on a side; nothing beside it. -/
def onSide (side : Nat) (value : Nat → Nat) (place : Int) : Nat :=
  if 0 ≤ place ∧ place < side then value place.toNat else 0

section Side

variable (side : Nat) (value : Nat → Nat) (position : Int)

theorem sum_onSide (weight : Nat) (place : Int) :
    ∑ i ∈ Finset.range side, (if (i : Int) = place then weight * value i else 0) =
      weight * onSide side value place := by
  rw [onSide]
  split
  · rename_i inside
    rw [Finset.sum_eq_single place.toNat]
    · rw [if_pos (by omega)]
    · intro other _ apart
      rw [if_neg (by omega)]
    · intro outside
      rw [Finset.mem_range] at outside
      omega
  · rename_i outside
    apply Finset.sum_eq_zero
    intro i within
    rw [Finset.mem_range] at within
    rw [if_neg (by omega)]

theorem onSide_add (near far : Nat) (other : Nat → Nat) (place : Int) :
    onSide side (fun i => near * value i + far * other i) place =
      near * onSide side value place + far * onSide side other place := by
  rw [onSide, onSide, onSide]
  split
  · rfl
  · simp only [Nat.mul_zero]

theorem mul_tent (amount i : Nat) : amount * tent (position - 4096 * i) =
    (if (i : Int) = position / 4096 then (4096 - (position % 4096).toNat) * amount else 0) +
      (if (i : Int) = position / 4096 + 1 then (position % 4096).toNat * amount else 0) := by
  have weight : tent (position - 4096 * i) =
      (if (i : Int) = position / 4096 then 4096 - (position % 4096).toNat else 0) +
        (if (i : Int) = position / 4096 + 1 then (position % 4096).toNat else 0) := by
    rw [tent]
    split <;> split <;> omega
  rw [weight, Nat.mul_comm, Nat.add_mul, ite_mul, ite_mul, Nat.zero_mul]

theorem sum_tent : ∑ i ∈ Finset.range side, value i * tent (position - 4096 * i) =
    (4096 - (position % 4096).toNat) * onSide side value (position / 4096) +
      (position % 4096).toNat * onSide side value (position / 4096 + 1) := by
  simp only [mul_tent, Finset.sum_add_distrib, sum_onSide]

theorem sum_tent_le : ∑ i ∈ Finset.range side, tent (position - 4096 * i) ≤ 4096 := by
  have split := sum_tent side (fun _ => 1) position
  have near : onSide side (fun _ => 1) (position / 4096) ≤ 1 := by
    rw [onSide]
    split <;> omega
  have far : onSide side (fun _ => 1) (position / 4096 + 1) ≤ 1 := by
    rw [onSide]
    split <;> omega
  have nearShare := Nat.mul_le_mul_left (4096 - (position % 4096).toNat) near
  have farShare := Nat.mul_le_mul_left (position % 4096).toNat far
  simp only [Nat.one_mul] at split
  omega

/-- Between the middles of the first and the last pixel nothing of a tent is lost. -/
theorem sum_tent_inside {side : Nat} {position : Int} (atLeast : 0 ≤ position)
    (atMost : position ≤ 4096 * ((side : Int) - 1)) :
    ∑ i ∈ Finset.range side, tent (position - 4096 * i) = 4096 := by
  have split := sum_tent side (fun _ => 1) position
  have near : onSide side (fun _ => 1) (position / 4096) = 1 := if_pos (by omega)
  have far : (position % 4096).toNat * onSide side (fun _ => 1) (position / 4096 + 1) =
      (position % 4096).toNat := by
    rw [onSide]
    split <;> omega
  simp only [Nat.one_mul, near, far] at split
  omega

end Side

end Resample

namespace Channel

open Resample

variable (channel : Channel) (source : Bitmap)

/-- A channel of a source under a tent in each direction, summed over all its pixels. -/
def filtered (y x : Int) : Nat :=
  ∑ j ∈ Finset.range source.height.toNat, ∑ i ∈ Finset.range source.width.toNat,
    (channel.ofPixel (source.pixelAt j i)).toNat * tent (x - 4096 * i) * tent (y - 4096 * j)

theorem ofPixel_transparent : channel.ofPixel Pixel.transparent = 0 := by
  cases channel <;> rfl

theorem toNat_tap (y x : Int) : (channel.ofPixel (tap source y x)).toNat =
    onSide source.height.toNat (fun j => onSide source.width.toNat
      (fun i => (channel.ofPixel (source.pixelAt j i)).toNat) (x / 4096)) (y / 4096) := by
  have inside : (0 ≤ x ∧ x < source.width.toNat * 4096 ∧ 0 ≤ y ∧ y < source.height.toNat * 4096) ↔
      (0 ≤ y / 4096 ∧ y / 4096 < source.height.toNat) ∧
        (0 ≤ x / 4096 ∧ x / 4096 < source.width.toNat) := by
    omega
  have none : (channel.ofPixel Pixel.transparent).toNat = 0 :=
    congrArg UInt8.toNat channel.ofPixel_transparent
  rw [tap, onSide, onSide]
  simp only [inside]
  split <;> split <;> grind

theorem filtered_eq_taps (y x : Int) : channel.filtered source y x =
    (4096 - (x % 4096).toNat) * (4096 - (y % 4096).toNat) * (channel.ofPixel (tap source y x)).toNat
      + (x % 4096).toNat * (4096 - (y % 4096).toNat) *
        (channel.ofPixel (tap source y (x + 4096))).toNat
      + (4096 - (x % 4096).toNat) * (y % 4096).toNat *
        (channel.ofPixel (tap source (y + 4096) x)).toNat
      + (x % 4096).toNat * (y % 4096).toNat *
        (channel.ofPixel (tap source (y + 4096) (x + 4096))).toNat := by
  have below : (y + 4096) / 4096 = y / 4096 + 1 := by omega
  have right : (x + 4096) / 4096 = x / 4096 + 1 := by omega
  have rows : channel.filtered source y x = ∑ j ∈ Finset.range source.height.toNat,
      (∑ i ∈ Finset.range source.width.toNat,
        (channel.ofPixel (source.pixelAt j i)).toNat * tent (x - 4096 * i)) *
          tent (y - 4096 * j) := by
    simp only [filtered, Finset.sum_mul]
  rw [rows, sum_tent]
  simp only [sum_tent, onSide_add, toNat_tap, below, right]
  ring

theorem toNat_ofSample_bilinear (stepX stepY : UInt32) (y x : Nat) :
    (channel.ofSample (bilinearSample source stepX stepY y x)).toNat =
      channel.filtered source (backProject stepY y) (backProject stepX x) / 2 ^ 24 := by
  rw [channel.ofSample_bilinear, (toNat_weighTaps _ _ _ _ _ (fraction_le _) (fraction_le _)).1,
    filtered_eq_taps]
  rfl

section Uniform

variable {source : Bitmap} {colour : Pixel} (uniform : ∀ y x, y < source.height.toNat →
  x < source.width.toNat → source.pixelAt y x = colour) (y x : Int)

include uniform

theorem filtered_uniform : channel.filtered source y x = (channel.ofPixel colour).toNat *
    ((∑ i ∈ Finset.range source.width.toNat, tent (x - 4096 * i)) *
      ∑ j ∈ Finset.range source.height.toNat, tent (y - 4096 * j)) := by
  rw [Finset.sum_mul_sum, Finset.sum_comm, Finset.mul_sum, filtered]
  refine Finset.sum_congr rfl fun j row => ?_
  rw [Finset.mul_sum]
  refine Finset.sum_congr rfl fun i column => ?_
  rw [uniform _ _ (Finset.mem_range.mp row) (Finset.mem_range.mp column), Nat.mul_assoc]

theorem filtered_uniform_le :
    channel.filtered source y x / 2 ^ 24 ≤ (channel.ofPixel colour).toNat := by
  have area := Nat.mul_le_mul (sum_tent_le source.width.toNat x) (sum_tent_le source.height.toNat y)
  apply Nat.div_le_of_le_mul
  rw [channel.filtered_uniform uniform, Nat.mul_comm]
  exact Nat.mul_le_mul_right _ area

theorem filtered_uniform_inside (hasX : 0 ≤ x) (inX : x ≤ 4096 * ((source.width.toNat : Int) - 1))
    (hasY : 0 ≤ y) (inY : y ≤ 4096 * ((source.height.toNat : Int) - 1)) :
    channel.filtered source y x / 2 ^ 24 = (channel.ofPixel colour).toNat := by
  rw [channel.filtered_uniform uniform, sum_tent_inside hasX inX, sum_tent_inside hasY inY]
  exact Nat.mul_div_cancel _ (by decide)

end Uniform

end Channel

namespace Resample

def filterStep (side count : UInt32) : Nat := 4096 * side.toNat ⌈/⌉ count.toNat

/-- The middle of a destination pixel, seen from the middle of the first source pixel. -/
def middle (side count index : UInt32) : Int :=
  index.toNat * filterStep side count + (filterStep side count / 2 : Nat) - 2048

theorem toNat_ratioCeil_of_not_shrinks {side count : UInt32} (someCount : 0 < count)
    (wide : ¬Shrinks side count) : (ratioCeil side count).toNat = filterStep side count := by
  have positive : 0 < count.toNat := UInt32.lt_iff_toNat_lt.mp someCount
  have small : 4096 * side.toNat ⌈/⌉ count.toNat ≤ 4097 := by
    rw [ceilDiv_le_iff_le_mul positive]
    rw [Shrinks] at wide
    omega
  rw [Nat.ceilDiv_eq_add_pred_div] at small
  rw [toNat_ratioCeil, filterStep, Nat.ceilDiv_eq_add_pred_div]
  omega

theorem backProject_eq_middle {side count : UInt32} (someCount : 0 < count)
    (wide : ¬Shrinks side count) (index : UInt32) :
    backProject (ratioCeil side count) index.toNat = middle side count index := by
  rw [backProject, middle, toNat_ratioCeil_of_not_shrinks someCount wide]
  push_cast
  rfl

theorem toNat_sample_bilinear (channel : Channel) {source : Bitmap} {width height : UInt32}
    {forceAverage : Bool} (filtered : strategy source.width source.height width height
      forceAverage = .bilinear) (y x : UInt32) :
    (channel.ofSample (sample source width height .bilinear y.toNat x.toNat)).toNat =
      channel.filtered source (middle source.height height y) (middle source.width width x) /
        2 ^ 24 := by
  obtain ⟨⟨-, -, someColumns, someRows⟩, wide, high⟩ := sides_of_bilinear filtered
  rw [sample, channel.toNat_ofSample_bilinear, backProject_eq_middle someColumns wide,
    backProject_eq_middle someRows high]

/-- `tap`, unless the source pixel at its position is not there to be read. -/
def tap? (source : Bitmap) (y x : Int) : Option Pixel :=
  if 0 ≤ x ∧ x < source.width.toNat * 4096 ∧ 0 ≤ y ∧ y < source.height.toNat * 4096 then
    let row := UInt32.ofNat (y / 4096).toNat
    let column := UInt32.ofNat (x / 4096).toNat
    if row < source.height ∧ column < source.width then source.pixel? row column else none
  else some Pixel.transparent

theorem tap?_eq_some {source : Bitmap} (formed : source.WellFormed) (y x : Int) :
    tap? source y x = some (tap source y x) := by
  rw [tap?, tap]
  split
  · rename_i inside
    have rowPlace : (y / 4096).toNat < source.height.toNat := by omega
    have columnPlace : (x / 4096).toNat < source.width.toNat := by omega
    obtain ⟨below, row⟩ := Bitmap.counted rowPlace
    obtain ⟨within, column⟩ := Bitmap.counted columnPlace
    simp only
    rw [if_pos ⟨below, within⟩, formed.pixel?_eq below within, row, column]
  · rfl

end Resample

/-- Filtering is a tent over a source that goes on with nothing beyond its sides. Every visible
pixel becomes the old one under the tinted sum, and all that is read for it is there. A source of
one colour keeps it between the middles of its outermost pixels under a tint that keeps every
channel, and is nowhere brighter. -/
theorem bilinear_exact {destination source : Bitmap} (formed : destination.WellFormed)
    (sourceFormed : source.WellFormed) (filled : source.valid = true) (tint : Tint)
    (forceAverage : Bool) (filtered : Resample.strategy source.width source.height destination.width
      destination.height forceAverage = .bilinear) :
    (∀ y x : Int, Resample.tap? source y x = some (Resample.tap source y x)) ∧
    (∀ y x : UInt32, y < destination.height → x < destination.width →
      (∀ channel : Channel,
        (channel.ofSample (Resample.sample source destination.width destination.height .bilinear
            y.toNat x.toNat)).toNat =
          channel.filtered source (Resample.middle source.height destination.height y)
            (Resample.middle source.width destination.width x) / 2 ^ 24) ∧
      ∃ old, destination.pixel? y x = some old ∧
        (resample destination source tint forceAverage).pixel? y x =
          some (tint.factors.compose (Resample.sample source destination.width destination.height
            .bilinear y.toNat x.toNat) old)) ∧
    (tint.factors = ⟨256, 256, 256, 256⟩ → ∀ colour,
      (∀ y x : UInt32, y < source.height → x < source.width → source.pixel? y x = some colour) →
      ∀ y x : UInt32, y < destination.height → x < destination.width →
        ∃ shown, (resample destination source tint forceAverage).pixel? y x = some shown ∧
          (0 ≤ Resample.middle source.width destination.width x →
            Resample.middle source.width destination.width x ≤
              4096 * ((source.width.toNat : Int) - 1) →
            0 ≤ Resample.middle source.height destination.height y →
            Resample.middle source.height destination.height y ≤
              4096 * ((source.height.toNat : Int) - 1) → shown = colour) ∧
          ∀ channel : Channel, channel.ofPixel shown ≤ channel.ofPixel colour) := by
  refine ⟨Resample.tap?_eq_some sourceFormed, ?_, ?_⟩
  · intro y x below inside
    exact ⟨fun channel => Resample.toNat_sample_bilinear channel filtered y x,
      pixel?_resample_of_strategy formed filled tint filtered below inside⟩
  · intro full colour uniform y x below inside
    obtain ⟨old, -, became⟩ :=
      pixel?_resample_of_strategy formed filled tint filtered below inside
    have everywhere : ∀ row column, row < source.height.toNat → column < source.width.toNat →
        source.pixelAt row column = colour := fun _ _ => Bitmap.pixelAt_of_uniform uniform
    have dimmed (channel : Channel) : (channel.ofSample (Resample.sample source destination.width
        destination.height .bilinear y.toNat x.toNat)).toNat ≤ (channel.ofPixel colour).toNat := by
      rw [Resample.toNat_sample_bilinear channel filtered]
      exact channel.filtered_uniform_le everywhere _ _
    refine ⟨_, became, ?_, ?_⟩
    · intro hasX inX hasY inY
      apply compose_of_full full
      intro channel
      rw [Resample.toNat_sample_bilinear channel filtered]
      exact channel.filtered_uniform_inside everywhere _ _ hasX inX hasY inY
    · intro channel
      have byte := (channel.ofPixel colour).toNat_lt
      rw [UInt8.le_iff_toNat_le, channel.toNat_compose_of_full full
        (Nat.le_of_lt_succ (Nat.lt_of_le_of_lt (dimmed channel) byte))]
      exact dimmed channel

theorem bilinear_exact_samples :
    (Resample.loose.WellFormed ∧ Resample.strategy 2 1 3 2 false = .bilinear ∧
      Resample.tap? Resample.loose 0 4096 = some ⟨0x81223344⟩ ∧
      (Resample.middle 1 2 1 = 1024 ∧ Resample.middle 2 3 1 = 2048) ∧
      (Channel.ofSample .red (Resample.sample Resample.loose 3 2 .bilinear (1 : UInt32).toNat
          (1 : UInt32).toNat)).toNat =
        Channel.filtered .red Resample.loose (Resample.middle 1 2 1) (Resample.middle 2 3 1) /
          2 ^ 24) ∧
    (Resample.plain.WellFormed ∧ Resample.strategy 3 1 4 1 false = .bilinear ∧
      (resample (Bitmap.blank 4 1) Resample.plain Tint.white false).pixel? 0 1 =
        some ⟨0x80112233⟩) := by
  have loose : Resample.loose.WellFormed := ⟨by decide, by decide⟩
  have plain : Resample.plain.WellFormed := ⟨by decide, by decide⟩
  obtain ⟨there, filters, -⟩ := bilinear_exact (Bitmap.blank_wellFormed 3 2) loose (by decide)
    Tint.white false (by decide)
  obtain ⟨red, -⟩ := filters 1 1 (by decide) (by decide)
  obtain ⟨-, -, kept⟩ := bilinear_exact (Bitmap.blank_wellFormed 4 1) plain (by decide)
    Tint.white false (by decide)
  obtain ⟨shown, became, same, -⟩ := kept Tint.factors_white _ Resample.plain_uniform 0 1
    (by decide) (by decide)
  refine ⟨⟨loose, by decide, (there 0 4096).trans (by decide), by decide, red .red⟩, plain,
    by decide, ?_⟩
  rw [became, same (by decide) (by decide) (by decide) (by decide)]

end Raster
