import Raster.Proofs.Channels
import Raster.Proofs.Padding
import Raster.Resample

/-!
Where resampled pixels come from. Whatever the strategy, a channel of a sample is computed from that
channel of visible source pixels alone, and laid over that channel of the one pixel it goes to.
-/

namespace Raster

namespace Channel

variable (channel : Channel)

def ofSample : Channel → Sample → UInt32
  | .alpha => Sample.alpha
  | .red => Sample.red
  | .green => Sample.green
  | .blue => Sample.blue

def ofSums : Channel → Resample.Sums → UInt64
  | .alpha => Resample.Sums.alpha
  | .red => Resample.Sums.red
  | .green => Resample.Sums.green
  | .blue => Resample.Sums.blue

def ofFactors : Channel → Tint.Factors → UInt32
  | .alpha => Tint.Factors.alpha
  | .red => Tint.Factors.red
  | .green => Tint.Factors.green
  | .blue => Tint.Factors.blue

theorem ofPixel_compose (factors : Tint.Factors) (sample : Sample) (old : Pixel) :
    channel.ofPixel (factors.compose sample old) =
      clampByte (blendChannel (channel.ofFactors factors) factors.alpha (channel.ofSample sample)
        (channel.ofPixel old).toUInt32) := by
  cases channel with
  | alpha => exact Pixel.alpha_ofChannels ..
  | red => exact Pixel.red_ofChannels ..
  | green => exact Pixel.green_ofChannels ..
  | blue => exact Pixel.blue_ofChannels ..

theorem ofSample_toSample (pixel : Pixel) :
    channel.ofSample pixel.toSample = (channel.ofPixel pixel).toUInt32 := by
  cases channel <;> rfl

theorem ofSums_add (sums : Resample.Sums) (weight : UInt64) (pixel : Pixel) :
    channel.ofSums (sums.add weight pixel) =
      channel.ofSums sums + weight * (channel.ofPixel pixel).toUInt64 := by
  cases channel <;> rfl

theorem ofSample_divide (sums : Resample.Sums) (scale : UInt64) :
    channel.ofSample (sums.divide scale) = (channel.ofSums sums / scale).toUInt32 := by
  cases channel <;> rfl

theorem ofSample_bilinear (source : Bitmap) (stepX stepY : UInt32) (y x : Nat) :
    channel.ofSample (Resample.bilinearSample source stepX stepY y x) =
      Resample.weighTaps channel.ofPixel
        (Resample.tap source (Resample.backProject stepY y) (Resample.backProject stepX x))
        (Resample.tap source (Resample.backProject stepY y) (Resample.backProject stepX x + 4096))
        (Resample.tap source (Resample.backProject stepY y + 4096) (Resample.backProject stepX x))
        (Resample.tap source (Resample.backProject stepY y + 4096)
          (Resample.backProject stepX x + 4096))
        (Resample.backProject stepY y % 4096).toNat
        (Resample.backProject stepX x % 4096).toNat := by
  cases channel <;> rfl

end Channel

theorem Sample.eq_of_channels {left right : Sample}
    (each : ∀ channel : Channel, channel.ofSample left = channel.ofSample right) :
    left = right := by
  cases left
  cases right
  exact (Sample.mk.injEq ..).mpr ⟨each .alpha, each .red, each .green, each .blue⟩

namespace Bitmap

/-- Two bitmaps of one size whose visible pixels agree in a channel. -/
structure AgreesIn (channel : Channel) (left right : Bitmap) : Prop where
  width : left.width = right.width
  height : left.height = right.height
  visible : ∀ y x : UInt32, y < left.height → x < left.width →
    (left.pixel? y x).map channel.ofPixel = (right.pixel? y x).map channel.ofPixel

theorem pixelAt_toNat (bitmap : Bitmap) (y x : UInt32) :
    bitmap.pixelAt y.toNat x.toNat = (bitmap.pixel? y x).getD Pixel.transparent :=
  Array.getD_eq_getD_getElem?

theorem AgreesIn.pixelAt {channel : Channel} {left right : Bitmap}
    (agrees : AgreesIn channel left right) {y x : Nat} (below : y < left.height.toNat)
    (inside : x < left.width.toNat) :
    channel.ofPixel (left.pixelAt y x) = channel.ofPixel (right.pixelAt y x) := by
  obtain ⟨available, row⟩ := counted below
  obtain ⟨within, column⟩ := counted inside
  have shown := agrees.visible _ _ available within
  rw [← row, ← column, pixelAt_toNat, pixelAt_toNat, ← Option.getD_map channel.ofPixel,
    ← Option.getD_map channel.ofPixel, shown]

theorem pixelAt_of_uniform {bitmap : Bitmap} {colour : Pixel}
    (uniform : ∀ y x : UInt32, y < bitmap.height → x < bitmap.width →
      bitmap.pixel? y x = some colour) {y x : Nat} (below : y < bitmap.height.toNat)
    (inside : x < bitmap.width.toNat) : bitmap.pixelAt y x = colour := by
  obtain ⟨available, row⟩ := counted below
  obtain ⟨within, column⟩ := counted inside
  rw [← row, ← column, pixelAt_toNat, uniform _ _ available within, Option.getD_some]

end Bitmap

namespace Resample

theorem toNat_clamped {size : UInt32} (filled : 0 < size.toNat) (index : UInt32) :
    (min index (size - 1)).toNat = min index.toNat (size.toNat - 1) := by
  have one : (1 : UInt32) ≤ size := UInt32.le_iff_toNat_le.mpr filled
  have last : (size - 1).toNat = size.toNat - 1 := UInt32.toNat_sub_of_le _ _ one
  have order : index ≤ size - 1 ↔ index.toNat ≤ size.toNat - 1 := by
    rw [UInt32.le_iff_toNat_le, last]
  change (if index ≤ size - 1 then index else size - 1).toNat = _
  split
  · rename_i within
    rw [Nat.min_eq_left (order.mp within)]
  · rename_i beyond
    rw [last, Nat.min_eq_right (Nat.le_of_not_le (mt order.mpr beyond))]

theorem clamped_lt {size : UInt32} (filled : 0 < size.toNat) (index : UInt32) :
    (min index (size - 1)).toNat < size.toNat := by
  rw [toNat_clamped filled]
  omega

theorem scaled_lt {size count index : Nat} (filled : 0 < size) (below : index < count) :
    index * size / count < size := by
  rw [Nat.div_lt_iff_lt_mul (Nat.zero_lt_of_lt below), Nat.mul_comm size]
  exact Nat.mul_lt_mul_of_pos_right below filled

section Agreement

variable {channel : Channel} {left right : Bitmap} (agrees : left.AgreesIn channel right)
  (hasColumns : 0 < left.width.toNat) (hasRows : 0 < left.height.toNat)

include agrees hasColumns

theorem sumColumns_agrees {row : UInt32} (below : row.toNat < left.height.toNat)
    (rowChunk position remaining : UInt32) {sums other : Sums}
    (same : channel.ofSums sums = channel.ofSums other) :
    channel.ofSums (sumColumns left row rowChunk position remaining sums) =
      channel.ofSums (sumColumns right row rowChunk position remaining other) := by
  -- Both runs take the same chunks: these depend on positions alone, never on pixels.
  fun_induction sumColumns left row rowChunk position remaining sums generalizing other with
  | case1 position sums =>
      rw [sumColumns, if_pos rfl]
      exact same
  | case2 position remaining sums more columnChunk column pixel =>
      rename_i ih
      rw [sumColumns.eq_def right, if_neg more]
      apply ih
      have inside : column.toNat < left.width.toNat := clamped_lt hasColumns _
      rw [Channel.ofSums_add, Channel.ofSums_add, same, ← agrees.width,
        ← agrees.pixelAt below inside]

include hasRows

theorem sumRows_agrees (start step position remaining : UInt32) {sums other : Sums}
    (same : channel.ofSums sums = channel.ofSums other) :
    channel.ofSums (sumRows left start step position remaining sums) =
      channel.ofSums (sumRows right start step position remaining other) := by
  fun_induction sumRows left start step position remaining sums generalizing other with
  | case1 position sums =>
      rw [sumRows, if_pos rfl]
      exact same
  | case2 position remaining sums more rowChunk row =>
      rename_i ih
      rw [sumRows.eq_def right, if_neg more]
      apply ih
      rw [← agrees.height]
      exact sumColumns_agrees agrees hasColumns (clamped_lt hasRows _) _ _ _ same

theorem averageSample_agrees (stepX stepY y x : UInt32) :
    channel.ofSample (averageSample left stepX stepY y x) =
      channel.ofSample (averageSample right stepX stepY y x) := by
  rw [averageSample, averageSample, Channel.ofSample_divide, Channel.ofSample_divide,
    sumRows_agrees agrees hasColumns hasRows _ _ _ _ rfl]

theorem replicateSample_agrees {width height : UInt32} {y x : Nat} (below : y < height.toNat)
    (inside : x < width.toNat) :
    channel.ofSample (replicateSample left width height y x) =
      channel.ofSample (replicateSample right width height y x) := by
  have row : y * left.height.toNat / height.toNat < left.height.toNat := scaled_lt hasRows below
  have column : x * left.width.toNat / width.toNat < left.width.toNat :=
    scaled_lt hasColumns inside
  rw [replicateSample, replicateSample, Channel.ofSample_toSample, Channel.ofSample_toSample,
    ← agrees.width, ← agrees.height, agrees.pixelAt row column]

omit hasColumns hasRows in
theorem tap_agrees (y x : Int) :
    channel.ofPixel (tap left y x) = channel.ofPixel (tap right y x) := by
  rw [tap, tap, ← agrees.width, ← agrees.height]
  split
  · rename_i within
    exact agrees.pixelAt (by omega) (by omega)
  · rfl

omit hasColumns hasRows in
theorem bilinearSample_agrees (stepX stepY : UInt32) (y x : Nat) :
    channel.ofSample (bilinearSample left stepX stepY y x) =
      channel.ofSample (bilinearSample right stepX stepY y x) := by
  rw [Channel.ofSample_bilinear, Channel.ofSample_bilinear]
  simp only [weighTaps, tap_agrees agrees]

theorem sample_agrees {width height : UInt32} (strategy : Strategy) {y x : Nat}
    (below : y < height.toNat) (inside : x < width.toNat) :
    channel.ofSample (sample left width height strategy y x) =
      channel.ofSample (sample right width height strategy y x) := by
  cases strategy with
  | average =>
      rw [sample, sample, ← agrees.width, ← agrees.height]
      exact averageSample_agrees agrees hasColumns hasRows ..
  | replicate => exact replicateSample_agrees agrees hasColumns hasRows below inside
  | bilinear =>
      rw [sample, sample, ← agrees.width, ← agrees.height]
      exact bilinearSample_agrees agrees ..

end Agreement

end Resample

section Resampled

variable {destination source : Bitmap} (formed : destination.WellFormed)
  (tint : Tint) (forceAverage : Bool)

theorem resample_of_not_valid (unfilled : ¬source.valid = true) :
    resample destination source tint forceAverage = destination := by
  rw [resample, if_neg]
  simp [unfilled]

include formed

theorem pixel?_resample (filled : source.valid = true) {y x : UInt32}
    (below : y < destination.height) (inside : x < destination.width) :
    (resample destination source tint forceAverage).pixel? y x =
      (destination.pixel? y x).map (tint.factors.compose
        (Resample.sample source destination.width destination.height
          (Resample.strategy source.width source.height destination.width destination.height
            forceAverage) y.toNat x.toNat)) := by
  have hasPixels : destination.valid = true := by
    rw [formed.valid_iff]
    constructor
    · rw [UInt32.lt_iff_toNat_lt]
      exact Nat.zero_lt_of_lt (UInt32.lt_iff_toNat_lt.mp inside)
    · rw [UInt32.lt_iff_toNat_lt]
      exact Nat.zero_lt_of_lt (UInt32.lt_iff_toNat_lt.mp below)
  rw [resample, if_pos (by simp [hasPixels, filled])]
  exact Bitmap.pixel?_mapVisible _ _ formed.widthBound below inside

end Resampled

namespace Bitmap

theorem Repaints.resample (destination source : Bitmap) (tint : Tint) (forceAverage : Bool) :
    destination.Repaints (Raster.resample destination source tint forceAverage) := by
  rw [Raster.resample]
  split
  · exact .mapVisible ..
  · exact .refl destination

/-- Two bitmaps of one size that show the same pixels, whatever their strides and padding. -/
structure SameImage (left right : Bitmap) : Prop where
  width : left.width = right.width
  height : left.height = right.height
  visible : ∀ y x : UInt32, y < left.height → x < left.width → left.pixel? y x = right.pixel? y x

theorem SameImage.agreesIn {left right : Bitmap} (same : left.SameImage right)
    (channel : Channel) : left.AgreesIn channel right := by
  refine ⟨same.width, same.height, ?_⟩
  intro y x below inside
  rw [same.visible y x below inside]

end Bitmap

theorem map_eq_map {α β γ : Type} {view : α → β} {one two : α → γ} {left right : Option α}
    (same : left.map view = right.map view)
    (each : ∀ value other, view value = view other → one value = two other) :
    left.map one = right.map two := by
  cases left with
  | none =>
      rw [Option.map_eq_none_iff.mp same.symm, Option.map_none, Option.map_none]
  | some value =>
      obtain ⟨other, rfl, seen⟩ := Option.map_eq_some_iff.mp same.symm
      exact congrArg some (each value other seen.symm)

section TwoRuns

variable {channel : Channel} {first second firstSource secondSource : Bitmap}
  (firstFormed : first.WellFormed) (secondFormed : second.WellFormed)
  (firstSourceFormed : firstSource.WellFormed) (secondSourceFormed : secondSource.WellFormed)
  (width : first.width = second.width) (height : first.height = second.height)
  (tint : Tint) (forceAverage : Bool) {y x : UInt32}
  (below : y < first.height) (inside : x < first.width)

include firstFormed secondFormed firstSourceFormed secondSourceFormed width height below inside

theorem resample_agrees (agrees : firstSource.AgreesIn channel secondSource)
    (old : (first.pixel? y x).map channel.ofPixel = (second.pixel? y x).map channel.ofPixel) :
    ((resample first firstSource tint forceAverage).pixel? y x).map channel.ofPixel =
      ((resample second secondSource tint forceAverage).pixel? y x).map channel.ofPixel := by
  have validity : firstSource.valid = true ↔ secondSource.valid = true := by
    rw [firstSourceFormed.valid_iff, secondSourceFormed.valid_iff, agrees.width, agrees.height]
  by_cases filled : firstSource.valid = true
  · obtain ⟨hasColumns, hasRows⟩ := firstSourceFormed.valid_iff.mp filled
    rw [pixel?_resample firstFormed tint forceAverage filled below inside,
      pixel?_resample secondFormed tint forceAverage (validity.mp filled)
        (height ▸ below) (width ▸ inside), Option.map_map, Option.map_map, ← width, ← height,
      ← agrees.width, ← agrees.height]
    have sampled := Resample.sample_agrees agrees (UInt32.lt_iff_toNat_lt.mp hasColumns)
      (UInt32.lt_iff_toNat_lt.mp hasRows)
      (Resample.strategy firstSource.width firstSource.height first.width first.height forceAverage)
      (UInt32.lt_iff_toNat_lt.mp below) (UInt32.lt_iff_toNat_lt.mp inside)
    apply map_eq_map old
    intro pixel other same
    rw [Function.comp_apply, Function.comp_apply, Channel.ofPixel_compose, Channel.ofPixel_compose,
      sampled, same]
  · rw [resample_of_not_valid _ _ filled, resample_of_not_valid _ _ (mt validity.mpr filled), old]

end TwoRuns

theorem resample_sameImage {first second firstSource secondSource : Bitmap}
    (firstFormed : first.WellFormed) (secondFormed : second.WellFormed)
    (firstSourceFormed : firstSource.WellFormed) (secondSourceFormed : secondSource.WellFormed)
    (sources : firstSource.SameImage secondSource) (same : first.SameImage second) (tint : Tint)
    (forceAverage : Bool) :
    (resample first firstSource tint forceAverage).SameImage
      (resample second secondSource tint forceAverage) := by
  have shape := Bitmap.Repaints.resample first firstSource tint forceAverage
  have otherShape := Bitmap.Repaints.resample second secondSource tint forceAverage
  refine ⟨?_, ?_, ?_⟩
  · rw [shape.width, otherShape.width, same.width]
  · rw [shape.height, otherShape.height, same.height]
  · rw [shape.width, shape.height]
    intro y x below inside
    apply Pixel.eq_of_mapped_channels
    intro channel
    exact resample_agrees firstFormed secondFormed firstSourceFormed secondSourceFormed same.width
      same.height tint forceAverage below inside (sources.agreesIn channel)
      (by rw [same.visible y x below inside])

/-- Resampling changes nothing but visible pixels. What a channel of such a pixel becomes depends on
that channel of what was there and of visible source pixels, and on nothing else in the bitmaps, so
that images which look the same are resampled to images which look the same. -/
theorem resample_local (tint : Tint) (forceAverage : Bool) :
    (∀ destination source : Bitmap,
      destination.Repaints (resample destination source tint forceAverage)) ∧
    (∀ (channel : Channel) (first second firstSource secondSource : Bitmap),
      first.WellFormed → second.WellFormed → firstSource.WellFormed → secondSource.WellFormed →
      firstSource.AgreesIn channel secondSource →
      first.width = second.width → first.height = second.height →
      ∀ y x, y < first.height → x < first.width →
        (first.pixel? y x).map channel.ofPixel = (second.pixel? y x).map channel.ofPixel →
        ((resample first firstSource tint forceAverage).pixel? y x).map channel.ofPixel =
          ((resample second secondSource tint forceAverage).pixel? y x).map channel.ofPixel) ∧
    (∀ first second firstSource secondSource : Bitmap,
      first.WellFormed → second.WellFormed → firstSource.WellFormed → secondSource.WellFormed →
      firstSource.SameImage secondSource → first.SameImage second →
      (resample first firstSource tint forceAverage).SameImage
        (resample second secondSource tint forceAverage)) := by
  refine ⟨?_, ?_, ?_⟩
  · intro destination source
    exact .resample destination source tint forceAverage
  · intro channel first second firstSource secondSource firstFormed secondFormed firstSourceFormed
      secondSourceFormed agrees width height y x below inside old
    exact resample_agrees firstFormed secondFormed firstSourceFormed secondSourceFormed width height
      tint forceAverage below inside agrees old
  · intro first second firstSource secondSource firstFormed secondFormed firstSourceFormed
      secondSourceFormed sources same
    exact resample_sameImage firstFormed secondFormed firstSourceFormed secondSourceFormed sources
      same tint forceAverage

namespace Resample

def loose : Bitmap := ⟨2, 1, 3, #[⟨0x80112233⟩, ⟨0x81223344⟩, ⟨0xdeadbeef⟩]⟩

def tight : Bitmap := ⟨2, 1, 2, #[⟨0x80112233⟩, ⟨0x81223344⟩]⟩

def reddish : Bitmap := ⟨2, 1, 4, #[⟨0x0011aabb⟩, ⟨0x0122ccdd⟩, ⟨1⟩, ⟨2⟩]⟩

theorem reddish_agrees : loose.AgreesIn .red reddish := by
  refine ⟨rfl, rfl, ?_⟩
  rw [Bitmap.forall_visible_iff]
  decide

theorem tight_sameImage : loose.SameImage tight := by
  refine ⟨rfl, rfl, ?_⟩
  rw [Bitmap.forall_visible_iff]
  decide

end Resample

theorem resample_local_samples :
    (Resample.loose.WellFormed ∧ Resample.tight.WellFormed ∧ Resample.reddish.WellFormed) ∧
    Resample.loose.Repaints (resample Resample.loose Resample.tight Tint.white true) ∧
    (Resample.loose.AgreesIn .red Resample.reddish ∧
      ((resample Resample.loose Resample.loose Tint.white true).pixel? 0 1).map Pixel.red =
        ((resample Resample.reddish Resample.reddish Tint.white true).pixel? 0 1).map Pixel.red ∧
      (resample Resample.loose Resample.loose Tint.white true).pixel? 0 1 = some ⟨0x81223344⟩ ∧
      (resample Resample.reddish Resample.reddish Tint.white true).pixel? 0 1 =
        some ⟨0x0122ccdd⟩) ∧
    (Resample.loose.SameImage Resample.tight ∧
      (resample Resample.loose Resample.loose Tint.white false).SameImage
        (resample Resample.tight Resample.tight Tint.white false)) := by
  obtain ⟨repaints, channels, -⟩ := resample_local Tint.white true
  obtain ⟨-, -, images⟩ := resample_local Tint.white false
  have loose : Resample.loose.WellFormed := ⟨by decide, by decide⟩
  have tight : Resample.tight.WellFormed := ⟨by decide, by decide⟩
  have reddish : Resample.reddish.WellFormed := ⟨by decide, by decide⟩
  exact ⟨⟨loose, tight, reddish⟩, repaints _ _,
    ⟨Resample.reddish_agrees, channels .red _ _ _ _ loose reddish loose reddish
      Resample.reddish_agrees rfl rfl 0 1 (by decide) (by decide) (by decide),
      by decide +kernel, by decide +kernel⟩,
    ⟨Resample.tight_sameImage, images _ _ _ _ loose tight loose tight Resample.tight_sameImage
      Resample.tight_sameImage⟩⟩

end Raster
