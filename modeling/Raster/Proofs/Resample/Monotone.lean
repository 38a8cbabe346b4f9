import Raster.Proofs.Compositing
import Raster.Proofs.Resample.Steps
import Raster.Proofs.Resample.Transpose

/-!
More in, more out. Where one source and one destination are nowhere above another pair of the same
sizes in a channel, resampling leaves the first destination nowhere above the second in it.
-/

namespace Raster

namespace Bitmap

/-- Two bitmaps of one size, the first of them nowhere above the second in a channel. -/
structure DominatedIn (channel : Channel) (left right : Bitmap) : Prop where
  width : left.width = right.width
  height : left.height = right.height
  visible : ∀ y x : UInt32, y < left.height → x < left.width →
    ∃ lower upper, left.pixel? y x = some lower ∧ right.pixel? y x = some upper ∧
      channel.ofPixel lower ≤ channel.ofPixel upper

theorem WellFormed.dominatedIn {channel : Channel} {left right : Bitmap} (formed : left.WellFormed)
    (otherFormed : right.WellFormed) (width : left.width = right.width)
    (height : left.height = right.height)
    (ordered : ∀ y < left.height.toNat, ∀ x < left.width.toNat,
      channel.ofPixel (left.pixelAt y x) ≤ channel.ofPixel (right.pixelAt y x)) :
    left.DominatedIn channel right := by
  refine ⟨width, height, ?_⟩
  intro y x below inside
  exact ⟨_, _, formed.pixel?_eq below inside,
    otherFormed.pixel?_eq (height ▸ below) (width ▸ inside),
    ordered _ (UInt32.lt_iff_toNat_lt.mp below) _ (UInt32.lt_iff_toNat_lt.mp inside)⟩

theorem DominatedIn.pixelAt {channel : Channel} {left right : Bitmap}
    (dominated : left.DominatedIn channel right) {y x : Nat} (below : y < left.height.toNat)
    (inside : x < left.width.toNat) :
    (channel.ofPixel (left.pixelAt y x)).toNat ≤ (channel.ofPixel (right.pixelAt y x)).toNat := by
  obtain ⟨available, row⟩ := counted below
  obtain ⟨within, column⟩ := counted inside
  obtain ⟨lower, upper, first, second, ordered⟩ := dominated.visible _ _ available within
  rw [← row, ← column, pixelAt_toNat, pixelAt_toNat, first, second]
  exact UInt8.le_iff_toNat_le.mp ordered

end Bitmap

namespace Resample

theorem tap_weights {fractionY fractionX : Nat} (withinY : fractionY ≤ 4096)
    (withinX : fractionX ≤ 4096) :
    (4096 - fractionX) * (4096 - fractionY) + fractionX * (4096 - fractionY) +
      (4096 - fractionX) * fractionY + fractionX * fractionY = 16777216 := by
  rw [← Nat.add_mul, Nat.sub_add_cancel withinX, Nat.add_assoc, ← Nat.add_mul,
    Nat.sub_add_cancel withinX, ← Nat.mul_add, Nat.sub_add_cancel withinY]

theorem toNat_weighTaps (channel : Pixel → UInt8) (nearLeft nearRight farLeft farRight : Pixel)
    {fractionY fractionX : Nat} (withinY : fractionY ≤ 4096) (withinX : fractionX ≤ 4096) :
    (weighTaps channel nearLeft nearRight farLeft farRight fractionY fractionX).toNat =
        ((4096 - fractionX) * (4096 - fractionY) * (channel nearLeft).toNat
          + fractionX * (4096 - fractionY) * (channel nearRight).toNat
          + (4096 - fractionX) * fractionY * (channel farLeft).toNat
          + fractionX * fractionY * (channel farRight).toNat) / 16777216 ∧
      (weighTaps channel nearLeft nearRight farLeft farRight fractionY fractionX).toNat ≤ 255 := by
  have weights := tap_weights withinY withinX
  have share (weight : Nat) (pixel : Pixel) :
      weight * (channel pixel).toNat ≤ weight * 255 :=
    Nat.mul_le_mul_left weight (Nat.le_of_lt_succ (channel pixel).toNat_lt)
  have first := share ((4096 - fractionX) * (4096 - fractionY)) nearLeft
  have second := share (fractionX * (4096 - fractionY)) nearRight
  have third := share ((4096 - fractionX) * fractionY) farLeft
  have fourth := share (fractionX * fractionY) farRight
  have mean : ((4096 - fractionX) * (4096 - fractionY) * (channel nearLeft).toNat
      + fractionX * (4096 - fractionY) * (channel nearRight).toNat
      + (4096 - fractionX) * fractionY * (channel farLeft).toNat
      + fractionX * fractionY * (channel farRight).toNat) / 16777216 ≤ 255 := by
    omega
  rw [weighTaps, UInt32.toNat_ofNat_of_lt' (Nat.lt_of_le_of_lt mean (by decide))]
  exact ⟨rfl, mean⟩

theorem weighTaps_mono {channel : Pixel → UInt8} {nearLeft nearRight farLeft farRight : Pixel}
    {otherNearLeft otherNearRight otherFarLeft otherFarRight : Pixel} {fractionY fractionX : Nat}
    (withinY : fractionY ≤ 4096) (withinX : fractionX ≤ 4096)
    (first : (channel nearLeft).toNat ≤ (channel otherNearLeft).toNat)
    (second : (channel nearRight).toNat ≤ (channel otherNearRight).toNat)
    (third : (channel farLeft).toNat ≤ (channel otherFarLeft).toNat)
    (fourth : (channel farRight).toNat ≤ (channel otherFarRight).toNat) :
    (weighTaps channel nearLeft nearRight farLeft farRight fractionY fractionX).toNat ≤
      (weighTaps channel otherNearLeft otherNearRight otherFarLeft otherFarRight fractionY
        fractionX).toNat := by
  rw [(toNat_weighTaps _ _ _ _ _ withinY withinX).1, (toNat_weighTaps _ _ _ _ _ withinY withinX).1]
  apply Nat.div_le_div_right
  have nearLeftShare := Nat.mul_le_mul_left ((4096 - fractionX) * (4096 - fractionY)) first
  have nearRightShare := Nat.mul_le_mul_left (fractionX * (4096 - fractionY)) second
  have farLeftShare := Nat.mul_le_mul_left ((4096 - fractionX) * fractionY) third
  have farRightShare := Nat.mul_le_mul_left (fractionX * fractionY) fourth
  omega

theorem fraction_le (position : Int) : (position % 4096).toNat ≤ 4096 := by
  omega

section Domination

variable {channel : Channel} {left right : Bitmap} (dominated : left.DominatedIn channel right)

include dominated

theorem tap_mono (y x : Int) :
    (channel.ofPixel (tap left y x)).toNat ≤ (channel.ofPixel (tap right y x)).toNat := by
  rw [tap, tap, ← dominated.width, ← dominated.height]
  split
  · rename_i within
    exact dominated.pixelAt (by omega) (by omega)
  · exact Nat.le_refl _

theorem bilinearSample_mono (stepX stepY : UInt32) (y x : Nat) :
    (channel.ofSample (bilinearSample left stepX stepY y x)).toNat ≤
        (channel.ofSample (bilinearSample right stepX stepY y x)).toNat ∧
      (channel.ofSample (bilinearSample right stepX stepY y x)).toNat ≤ 255 := by
  have fractionY := fraction_le (backProject stepY y)
  have fractionX := fraction_le (backProject stepX x)
  rw [channel.ofSample_bilinear, channel.ofSample_bilinear]
  constructor
  · exact weighTaps_mono fractionY fractionX (tap_mono dominated _ _) (tap_mono dominated _ _)
      (tap_mono dominated _ _) (tap_mono dominated _ _)
  · exact (toNat_weighTaps _ _ _ _ _ fractionY fractionX).2

variable (hasColumns : 0 < left.width.toNat) (hasRows : 0 < left.height.toNat)

include hasColumns hasRows

theorem replicateSample_mono {width height : UInt32} {y x : Nat} (below : y < height.toNat)
    (inside : x < width.toNat) :
    (channel.ofSample (replicateSample left width height y x)).toNat ≤
        (channel.ofSample (replicateSample right width height y x)).toNat ∧
      (channel.ofSample (replicateSample right width height y x)).toNat ≤ 255 := by
  have row : y * left.height.toNat / height.toNat < left.height.toNat := scaled_lt hasRows below
  have column : x * left.width.toNat / width.toNat < left.width.toNat :=
    scaled_lt hasColumns inside
  rw [replicateSample, replicateSample, channel.ofSample_toSample, channel.ofSample_toSample,
    ← dominated.width, ← dominated.height, UInt8.toNat_toUInt32, UInt8.toNat_toUInt32]
  exact ⟨dominated.pixelAt row column, Nat.le_of_lt_succ (UInt8.toNat_lt _)⟩

theorem nearest_mono (row column : UInt32) :
    channel.nearest left row column ≤ channel.nearest right row column := by
  rw [Channel.nearest, Channel.nearest, ← dominated.width, ← dominated.height]
  exact dominated.pixelAt (clamped_lt hasRows row) (clamped_lt hasColumns column)

theorem averageSample_mono {stepX stepY : UInt32}
    (light : 255 * (stepY.toNat * stepX.toNat) < 2 ^ 64) (y x : UInt32) :
    (channel.ofSample (averageSample left stepX stepY y x)).toNat ≤
        (channel.ofSample (averageSample right stepX stepY y x)).toNat ∧
      (channel.ofSample (averageSample right stepX stepY y x)).toNat ≤ 255 := by
  obtain ⟨lower, -⟩ := channel.toNat_ofSample_average left light y x
  obtain ⟨upper, small⟩ := channel.toNat_ofSample_average right light y x
  refine ⟨?_, small⟩
  rw [lower, upper]
  apply Nat.div_le_div_right
  exact spanSum_mono _ _ fun row =>
    spanSum_mono _ _ (nearest_mono dominated hasColumns hasRows row)

theorem sample_mono (pixels : left.width.toNat * left.height.toNat ≤ 2 ^ 32)
    {width height : UInt32} (strategy : Strategy) {y x : Nat} (below : y < height.toNat)
    (inside : x < width.toNat) :
    (channel.ofSample (sample left width height strategy y x)).toNat ≤
        (channel.ofSample (sample right width height strategy y x)).toNat ∧
      (channel.ofSample (sample right width height strategy y x)).toNat ≤ 255 := by
  cases strategy with
  | average =>
      rw [sample_average, sample_average, ← dominated.width, ← dominated.height]
      exact averageSample_mono dominated hasColumns hasRows
        (average_weight_lt hasColumns hasRows pixels width height) _ _
  | replicate => exact replicateSample_mono dominated hasColumns hasRows below inside
  | bilinear =>
      rw [sample, sample, ← dominated.width, ← dominated.height]
      exact bilinearSample_mono dominated ..

end Domination

end Resample

/-- Resampling is monotone in every channel by itself, whichever strategy runs: less in the source
and in what the destination held never gives more. -/
theorem resample_mono {channel : Channel} {first second firstSource secondSource : Bitmap}
    (firstFormed : first.WellFormed) (secondFormed : second.WellFormed)
    (firstSourceFormed : firstSource.WellFormed) (secondSourceFormed : secondSource.WellFormed)
    (pixels : firstSource.width.toNat * firstSource.height.toNat ≤ 2 ^ 32)
    (sources : firstSource.DominatedIn channel secondSource)
    (dominated : first.DominatedIn channel second) (tint : Tint) (forceAverage : Bool) :
    (resample first firstSource tint forceAverage).DominatedIn channel
      (resample second secondSource tint forceAverage) := by
  have shape := Bitmap.Repaints.resample first firstSource tint forceAverage
  have otherShape := Bitmap.Repaints.resample second secondSource tint forceAverage
  have validity := firstSourceFormed.valid_congr secondSourceFormed sources.width sources.height
  refine ⟨?_, ?_, ?_⟩
  · rw [shape.width, otherShape.width, dominated.width]
  · rw [shape.height, otherShape.height, dominated.height]
  · rw [shape.width, shape.height]
    intro y x below inside
    obtain ⟨old, other, found, foundOther, ordered⟩ := dominated.visible y x below inside
    by_cases filled : firstSource.valid = true
    · obtain ⟨hasColumns, hasRows⟩ := firstSourceFormed.sides_pos filled
      obtain ⟨samples, small⟩ := Resample.sample_mono sources hasColumns hasRows pixels
        (Resample.strategy firstSource.width firstSource.height first.width first.height
          forceAverage) (UInt32.lt_iff_toNat_lt.mp below) (UInt32.lt_iff_toNat_lt.mp inside)
      rw [pixel?_resample firstFormed tint forceAverage filled below inside,
        pixel?_resample secondFormed tint forceAverage (validity.mp filled)
          (dominated.height ▸ below) (dominated.width ▸ inside), found, foundOther,
        ← dominated.width, ← dominated.height, ← sources.width, ← sources.height]
      exact ⟨_, _, rfl, rfl, channel.compose_mono tint samples small ordered⟩
    · rw [resample_of_not_valid _ _ filled, resample_of_not_valid _ _ (mt validity.mpr filled)]
      exact ⟨old, other, found, foundOther, ordered⟩

namespace Resample

def redder : Bitmap := ⟨2, 1, 2, #[⟨0x00ff0000⟩, ⟨0x01230000⟩]⟩

theorem redder_wellFormed : redder.WellFormed := ⟨by decide, by decide⟩

theorem loose_dominatedIn : loose.DominatedIn .red redder :=
  Bitmap.WellFormed.dominatedIn ⟨by decide, by decide⟩ redder_wellFormed rfl rfl (by decide)

theorem blank_dominatedIn (width height : UInt32) :
    (Bitmap.blank width height).DominatedIn .red (Bitmap.blank width height) :=
  (Bitmap.blank_wellFormed width height).dominatedIn (Bitmap.blank_wellFormed width height)
    rfl rfl fun _ _ _ _ => UInt8.le_rfl

end Resample

theorem resample_mono_redder :
    (Resample.loose.WellFormed ∧ Resample.redder.WellFormed ∧
      Resample.loose.DominatedIn .red Resample.redder) ∧
    (Resample.strategy 2 1 1 1 false = .average ∧
      (resample (Bitmap.blank 1 1) Resample.loose Tint.white false).DominatedIn .red
        (resample (Bitmap.blank 1 1) Resample.redder Tint.white false) ∧
      (resample (Bitmap.blank 1 1) Resample.loose Tint.white false).pixel? 0 0 =
        some ⟨0x80192a3b⟩ ∧
      (resample (Bitmap.blank 1 1) Resample.redder Tint.white false).pixel? 0 0 =
        some ⟨0x00910000⟩) ∧
    (Resample.strategy 2 1 2 1 false = .replicate ∧
      (resample Resample.loose Resample.loose Tint.white false).DominatedIn .red
        (resample Resample.redder Resample.redder Tint.white false)) ∧
    (Resample.strategy 2 1 3 2 false = .bilinear ∧
      (resample (Bitmap.blank 3 2) Resample.loose Tint.white false).DominatedIn .red
        (resample (Bitmap.blank 3 2) Resample.redder Tint.white false)) := by
  have loose : Resample.loose.WellFormed := ⟨by decide, by decide⟩
  have onto {first second : Bitmap} (formed : first.WellFormed) (otherFormed : second.WellFormed)
      (dominated : first.DominatedIn .red second) :
      (resample first Resample.loose Tint.white false).DominatedIn .red
        (resample second Resample.redder Tint.white false) :=
    resample_mono formed otherFormed loose Resample.redder_wellFormed (by decide)
      Resample.loose_dominatedIn dominated Tint.white false
  have small := Bitmap.blank_wellFormed 1 1
  have large := Bitmap.blank_wellFormed 3 2
  refine ⟨⟨loose, Resample.redder_wellFormed, Resample.loose_dominatedIn⟩,
    ⟨by decide, ?_, by decide +kernel, by decide +kernel⟩, ⟨by decide, ?_⟩, by decide, ?_⟩
  · exact onto small small (Resample.blank_dominatedIn 1 1)
  · exact onto loose Resample.redder_wellFormed Resample.loose_dominatedIn
  · exact onto large large (Resample.blank_dominatedIn 3 2)

end Raster
