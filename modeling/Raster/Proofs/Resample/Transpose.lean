import Raster.Proofs.Resample.Area

/-!
Rows and columns in each other's place. Resampling treats them alike: it takes the same strategy for
transposed bitmaps, and makes transposed bitmaps of them.
-/

namespace Raster

namespace Bitmap

/-- Two bitmaps of which each shows in its rows what the other shows in its columns, whatever their
strides and padding. -/
structure Transposes (left right : Bitmap) : Prop where
  width : left.width = right.height
  height : left.height = right.width
  visible : ∀ y x : UInt32, y < left.height → x < left.width → left.pixel? y x = right.pixel? x y

theorem Transposes.pixelAt {left right : Bitmap} (transposed : left.Transposes right) {y x : Nat}
    (below : y < left.height.toNat) (inside : x < left.width.toNat) :
    left.pixelAt y x = right.pixelAt x y := by
  obtain ⟨available, row⟩ := counted below
  obtain ⟨within, column⟩ := counted inside
  have shown := transposed.visible _ _ available within
  rw [← row, ← column, pixelAt_toNat, pixelAt_toNat, shown]

theorem Transposes.symm {left right : Bitmap} (transposed : left.Transposes right) :
    right.Transposes left := by
  refine ⟨transposed.height.symm, transposed.width.symm, ?_⟩
  intro y x below inside
  exact (transposed.visible x y (transposed.height ▸ inside) (transposed.width ▸ below)).symm

def transpose (bitmap : Bitmap) : Bitmap :=
  ⟨bitmap.height, bitmap.width, bitmap.height,
    Array.ofFn fun slot : Fin (bitmap.height.toNat * bitmap.width.toNat) =>
      bitmap.pixelAt (slot.val % bitmap.height.toNat) (slot.val / bitmap.height.toNat)⟩

theorem transpose_wellFormed (bitmap : Bitmap) : bitmap.transpose.WellFormed :=
  ⟨UInt32.le_rfl, Array.size_ofFn⟩

theorem pixelAt_transpose (bitmap : Bitmap) {y x : Nat} (below : y < bitmap.width.toNat)
    (inside : x < bitmap.height.toNat) : bitmap.transpose.pixelAt y x = bitmap.pixelAt x y := by
  have place := (transpose_wellFormed bitmap).slot_inside below inside
  have bound : y * bitmap.height.toNat + x < bitmap.height.toNat * bitmap.width.toNat := by
    rw [(transpose_wellFormed bitmap).sizeExact] at place
    exact place
  have tight := Nat.le_refl bitmap.height.toNat
  rw [pixelAt, Array.getD_eq_getD_getElem?]
  simp only [transpose]
  rw [Array.getElem?_ofFn, dif_pos bound, Option.getD_some, slot_mod tight inside,
    slot_div tight inside]

theorem WellFormed.pixel?_eq {bitmap : Bitmap} (formed : bitmap.WellFormed) {y x : UInt32}
    (below : y < bitmap.height) (inside : x < bitmap.width) :
    bitmap.pixel? y x = some (bitmap.pixelAt y.toNat x.toNat) := by
  have bound := formed.slot_inside (UInt32.lt_iff_toNat_lt.mp below)
    (UInt32.lt_iff_toNat_lt.mp inside)
  rw [pixelAt_toNat, pixel?, slot, Array.getElem?_eq_getElem bound, Option.getD_some]

theorem transpose_transposes {bitmap : Bitmap} (formed : bitmap.WellFormed) :
    bitmap.transpose.Transposes bitmap := by
  refine ⟨rfl, rfl, ?_⟩
  intro y x below inside
  rw [(transpose_wellFormed bitmap).pixel?_eq below inside, formed.pixel?_eq inside below,
    bitmap.pixelAt_transpose (UInt32.lt_iff_toNat_lt.mp below) (UInt32.lt_iff_toNat_lt.mp inside)]

theorem Transposes.sameImage {first second third : Bitmap} (one : first.Transposes second)
    (two : second.Transposes third) : first.SameImage third := by
  refine ⟨one.width.trans two.height, one.height.trans two.width, ?_⟩
  intro y x below inside
  rw [one.visible y x below inside, two.visible x y (one.width ▸ inside) (one.height ▸ below)]

end Bitmap

namespace Resample

theorem strategy_swapped (sourceWidth sourceHeight width height : UInt32) (forceAverage : Bool) :
    strategy sourceHeight sourceWidth height width forceAverage =
      strategy sourceWidth sourceHeight width height forceAverage := by
  have empty : (sourceHeight = 0 ∨ sourceWidth = 0 ∨ height = 0 ∨ width = 0) ↔
      (sourceWidth = 0 ∨ sourceHeight = 0 ∨ width = 0 ∨ height = 0) := by
    grind
  have larger : (unit < ratioFloor sourceHeight height ∨ unit < ratioFloor sourceWidth width ∨
      forceAverage = true) ↔ (unit < ratioFloor sourceWidth width ∨
        unit < ratioFloor sourceHeight height ∨ forceAverage = true) := or_left_comm
  have multiple : (height % sourceHeight = 0 ∧ width % sourceWidth = 0) ↔
      (width % sourceWidth = 0 ∧ height % sourceHeight = 0) := and_comm
  simp only [strategy, empty, larger, multiple]

theorem weighTaps_swapped (channel : Pixel → UInt8) (nearLeft nearRight farLeft farRight : Pixel)
    (fractionY fractionX : Nat) :
    weighTaps channel nearLeft farLeft nearRight farRight fractionX fractionY =
      weighTaps channel nearLeft nearRight farLeft farRight fractionY fractionX := by
  rw [weighTaps, weighTaps, Nat.mul_comm (4096 - fractionY) (4096 - fractionX),
    Nat.mul_comm fractionY (4096 - fractionX), Nat.mul_comm (4096 - fractionY) fractionX,
    Nat.mul_comm fractionY fractionX, Nat.add_right_comm ((4096 - fractionX) * _ * _)]

section Samples

variable {left right : Bitmap} (transposed : left.Transposes right)

include transposed

theorem tap_transposed (y x : Int) : tap left x y = tap right y x := by
  have inside : (0 ≤ y ∧ y < left.width.toNat * 4096 ∧ 0 ≤ x ∧ x < left.height.toNat * 4096) ↔
      (0 ≤ x ∧ x < right.width.toNat * 4096 ∧ 0 ≤ y ∧ y < right.height.toNat * 4096) := by
    rw [transposed.width, transposed.height]
    omega
  simp only [tap, inside]
  split
  · rename_i within
    exact transposed.pixelAt (by rw [transposed.height]; omega) (by rw [transposed.width]; omega)
  · rfl

theorem bilinearSample_transposed (stepX stepY : UInt32) (y x : Nat) :
    bilinearSample left stepY stepX x y = bilinearSample right stepX stepY y x := by
  apply Sample.eq_of_channels
  intro channel
  rw [channel.ofSample_bilinear, channel.ofSample_bilinear]
  simp only [tap_transposed transposed]
  exact weighTaps_swapped ..

variable (hasColumns : 0 < right.width.toNat) (hasRows : 0 < right.height.toNat)

include hasColumns hasRows

theorem nearest_transposed (channel : Channel) (row column : UInt32) :
    channel.nearest left column row = channel.nearest right row column := by
  rw [Channel.nearest, Channel.nearest, transposed.width, transposed.height,
    transposed.pixelAt (transposed.height ▸ clamped_lt hasColumns column)
      (transposed.width ▸ clamped_lt hasRows row)]

theorem averageSample_transposed (stepX stepY y x : UInt32) :
    averageSample left stepY stepX x y = averageSample right stepX stepY y x := by
  apply Sample.eq_of_channels
  intro channel
  have nearest : channel.nearest left = fun column row => channel.nearest right row column :=
    funext₂ fun column row => nearest_transposed transposed hasColumns hasRows channel row column
  have sums : channel.areaSum left (x * stepX) stepX (y * stepY) stepY =
      channel.areaSum right (y * stepY) stepY (x * stepX) stepX := by
    rw [Channel.areaSum, Channel.areaSum, nearest]
    exact spanSum_comm _ _ _ _ _
  rw [channel.ofSample_average, channel.ofSample_average, sums, UInt64.mul_comm]

theorem replicateSample_transposed {width height : UInt32} {y x : Nat} (below : y < height.toNat)
    (inside : x < width.toNat) :
    replicateSample left height width x y = replicateSample right width height y x := by
  have row : y * right.height.toNat / height.toNat < right.height.toNat := scaled_lt hasRows below
  have column : x * right.width.toNat / width.toNat < right.width.toNat :=
    scaled_lt hasColumns inside
  rw [replicateSample, replicateSample, transposed.width, transposed.height,
    transposed.pixelAt (transposed.height ▸ column) (transposed.width ▸ row)]

theorem sample_transposed {width height : UInt32} (strategy : Strategy) {y x : Nat}
    (below : y < height.toNat) (inside : x < width.toNat) :
    sample left height width strategy x y = sample right width height strategy y x := by
  cases strategy with
  | average =>
      rw [sample, sample, transposed.width, transposed.height]
      exact averageSample_transposed transposed hasColumns hasRows ..
  | replicate => exact replicateSample_transposed transposed hasColumns hasRows below inside
  | bilinear =>
      rw [sample, sample, transposed.width, transposed.height]
      exact bilinearSample_transposed transposed ..

end Samples

end Resample

section Resampled

variable {first second firstSource secondSource : Bitmap} (firstFormed : first.WellFormed)
  (secondFormed : second.WellFormed) (firstSourceFormed : firstSource.WellFormed)
  (secondSourceFormed : secondSource.WellFormed)

include firstFormed secondFormed firstSourceFormed secondSourceFormed

theorem resample_transposes (sources : firstSource.Transposes secondSource)
    (transposed : first.Transposes second) (tint : Tint) (forceAverage : Bool) :
    (resample first firstSource tint forceAverage).Transposes
      (resample second secondSource tint forceAverage) := by
  have shape := Bitmap.Repaints.resample first firstSource tint forceAverage
  have otherShape := Bitmap.Repaints.resample second secondSource tint forceAverage
  have validity : firstSource.valid = true ↔ secondSource.valid = true := by
    rw [firstSourceFormed.valid_iff, secondSourceFormed.valid_iff, sources.width, sources.height,
      and_comm]
  refine ⟨?_, ?_, ?_⟩
  · rw [shape.width, otherShape.height, transposed.width]
  · rw [shape.height, otherShape.width, transposed.height]
  · rw [shape.width, shape.height]
    intro y x below inside
    have old := transposed.visible y x below inside
    by_cases filled : secondSource.valid = true
    · obtain ⟨hasColumns, hasRows⟩ := secondSourceFormed.valid_iff.mp filled
      have within : x < second.height := transposed.width ▸ inside
      have available : y < second.width := transposed.height ▸ below
      have sampled := Resample.sample_transposed sources (UInt32.lt_iff_toNat_lt.mp hasColumns)
        (UInt32.lt_iff_toNat_lt.mp hasRows)
        (Resample.strategy secondSource.width secondSource.height second.width second.height
          forceAverage) (UInt32.lt_iff_toNat_lt.mp within) (UInt32.lt_iff_toNat_lt.mp available)
      rw [pixel?_resample firstFormed tint forceAverage (validity.mpr filled) below inside,
        pixel?_resample secondFormed tint forceAverage filled within available, old,
        sources.width, sources.height, transposed.width, transposed.height,
        Resample.strategy_swapped, sampled]
    · rw [resample_of_not_valid _ _ (mt validity.mp filled), resample_of_not_valid _ _ filled, old]

end Resampled

/-- Resampling treats rows and columns alike: swapped sizes get the same strategy, and transposed
bitmaps, with whatever strides and padding, come out as transposes of what the others become. -/
theorem resample_transposed (tint : Tint) (forceAverage : Bool) :
    (∀ sourceWidth sourceHeight width height : UInt32,
      Resample.strategy sourceHeight sourceWidth height width forceAverage =
        Resample.strategy sourceWidth sourceHeight width height forceAverage) ∧
    (∀ destination source : Bitmap, destination.WellFormed → source.WellFormed →
      (resample destination.transpose source.transpose tint forceAverage).transpose.SameImage
        (resample destination source tint forceAverage)) ∧
    (∀ first second firstSource secondSource : Bitmap,
      first.WellFormed → second.WellFormed → firstSource.WellFormed → secondSource.WellFormed →
      firstSource.Transposes secondSource → first.Transposes second →
      (resample first firstSource tint forceAverage).Transposes
        (resample second secondSource tint forceAverage)) := by
  refine ⟨?_, ?_, ?_⟩
  · intro sourceWidth sourceHeight width height
    exact Resample.strategy_swapped sourceWidth sourceHeight width height forceAverage
  · intro destination source formed sourceFormed
    have destinations := Bitmap.transpose_transposes formed
    have sources := Bitmap.transpose_transposes sourceFormed
    have transposed := resample_transposes destination.transpose_wellFormed formed
      source.transpose_wellFormed sourceFormed sources destinations tint forceAverage
    have shape := Bitmap.Repaints.resample destination.transpose source.transpose tint forceAverage
    exact (Bitmap.transpose_transposes
      (shape.wellFormed destination.transpose_wellFormed)).sameImage transposed
  · intro first second firstSource secondSource firstFormed secondFormed firstSourceFormed
      secondSourceFormed sources transposed
    exact resample_transposes firstFormed secondFormed firstSourceFormed secondSourceFormed sources
      transposed tint forceAverage

namespace Resample

def upright : Bitmap := ⟨1, 2, 2, #[⟨0x80112233⟩, ⟨7⟩, ⟨0x81223344⟩, ⟨8⟩]⟩

theorem upright_transposes : upright.Transposes loose := by
  refine ⟨rfl, rfl, ?_⟩
  rw [Bitmap.forall_visible_iff]
  decide

end Resample

theorem resample_transposed_samples :
    (Resample.upright.WellFormed ∧ Resample.loose.WellFormed ∧
      Resample.upright.Transposes Resample.loose) ∧
    (Resample.strategy 1 2 2 1 false = .average ∧ Resample.strategy 2 1 1 2 false = .average) ∧
    (Resample.strategy 2 1 3 2 false = .bilinear ∧
      (resample (Bitmap.blank 3 2).transpose Resample.loose.transpose Tint.white
        false).transpose.SameImage (resample (Bitmap.blank 3 2) Resample.loose Tint.white false) ∧
      (resample (Bitmap.blank 3 2) Resample.loose Tint.white false).pixel? 0 1 =
        some ⟨0x60131f2c⟩) ∧
    (resample Resample.loose Resample.upright Tint.white false).Transposes
      (resample Resample.upright Resample.loose Tint.white false) := by
  obtain ⟨strategies, images, pairs⟩ := resample_transposed Tint.white false
  have upright : Resample.upright.WellFormed := ⟨by decide, by decide⟩
  have loose : Resample.loose.WellFormed := ⟨by decide, by decide⟩
  have average : Resample.strategy 2 1 1 2 false = .average := by decide
  refine ⟨⟨upright, loose, Resample.upright_transposes⟩, ?_, ?_, ?_⟩
  · exact ⟨(strategies 2 1 1 2).trans average, average⟩
  · exact ⟨by decide, images _ _ (Bitmap.blank_wellFormed 3 2) loose, by decide +kernel⟩
  · exact pairs _ _ _ _ loose upright upright loose Resample.upright_transposes
      Resample.upright_transposes.symm

end Raster
