import Raster.Proofs.Resample.Steps
import Raster.Proofs.Resample.Transpose

/-!
The choice of a strategy. Sides are compared by their ratio in 4096ths, rounded down, so a side that
gets shorter by less than one part in 4096 counts as one that keeps its length. Everywhere else the
direction of scaling decides.
-/

namespace Raster

namespace Resample

/-- So many more source than destination pixels that their ratio, rounded down, shows it. -/
def Shrinks (side count : UInt32) : Prop := 4097 * count.toNat ≤ 4096 * side.toNat

instance (side count : UInt32) : Decidable (Shrinks side count) :=
  inferInstanceAs (Decidable (4097 * count.toNat ≤ 4096 * side.toNat))

/-- The strategy for a direction of scaling: areas are averaged where a side gets shorter, pixels
repeated where both sides grow by whole factors. -/
def directed (sourceWidth sourceHeight width height : UInt32) (forceAverage : Bool) : Strategy :=
  if forceAverage = true ∨ width < sourceWidth ∨ height < sourceHeight then .average
  else if sourceWidth.toNat ∣ width.toNat ∧ sourceHeight.toNat ∣ height.toNat then .replicate
  else .bilinear

section Side

variable {side count : UInt32}

theorem mod_eq_zero_iff : count % side = 0 ↔ side.toNat ∣ count.toNat := by
  rw [← UInt32.toNat_inj, UInt32.toNat_mod, Nat.dvd_iff_mod_eq_zero]
  rfl

/-- Up to 4096 destination pixels no loss of a source pixel is too slight to show. -/
theorem shrinks_of_lt (few : count ≤ 4096) (shorter : count < side) : Shrinks side count := by
  have bound : count.toNat ≤ 4096 := UInt32.le_iff_toNat_le.mp few
  have below := UInt32.lt_iff_toNat_lt.mp shorter
  rw [Shrinks]
  omega

variable (someCount : 0 < count)

include someCount

theorem unit_lt_ratioFloor_iff : unit < ratioFloor side count ↔ Shrinks side count := by
  have positive : 0 < count.toNat := UInt32.lt_iff_toNat_lt.mp someCount
  have quotient := Nat.le_div_iff_mul_le (x := 4097) (y := 4096 * side.toNat) positive
  rw [UInt32.lt_iff_toNat_lt, toNat_ratioFloor, Shrinks, ← quotient]
  change 4096 < _ ↔ _
  omega

theorem Shrinks.lt (shrinks : Shrinks side count) : count < side := by
  have positive : 0 < count.toNat := UInt32.lt_iff_toNat_lt.mp someCount
  rw [Shrinks] at shrinks
  rw [UInt32.lt_iff_toNat_lt]
  omega

theorem not_dvd_of_lt (shorter : count < side) : ¬side.toNat ∣ count.toNat := by
  intro multiple
  have longer := Nat.le_of_dvd (UInt32.lt_iff_toNat_lt.mp someCount) multiple
  exact Nat.not_lt.mpr longer (UInt32.lt_iff_toNat_lt.mp shorter)

end Side

theorem strategy_forced (sourceWidth sourceHeight width height : UInt32) :
    strategy sourceWidth sourceHeight width height true = .average := by
  rw [strategy]
  split
  · rfl
  · rw [if_pos (.inr (.inr rfl))]

section Choice

variable {sourceWidth sourceHeight width height : UInt32} (hasColumns : 0 < sourceWidth)
  (hasRows : 0 < sourceHeight) (someColumns : 0 < width) (someRows : 0 < height)
  (forceAverage : Bool)

include hasColumns hasRows someColumns someRows

theorem strategy_eq : strategy sourceWidth sourceHeight width height forceAverage =
    if forceAverage = true ∨ Shrinks sourceWidth width ∨ Shrinks sourceHeight height then .average
    else if sourceWidth.toNat ∣ width.toNat ∧ sourceHeight.toNat ∣ height.toNat then .replicate
    else .bilinear := by
  have filled : ¬(sourceWidth = 0 ∨ sourceHeight = 0 ∨ width = 0 ∨ height = 0) := by
    rw [UInt32.pos_iff_ne_zero] at hasColumns hasRows someColumns someRows
    simp only [hasColumns, hasRows, someColumns, someRows, or_self, not_false_eq_true]
  have averaged : (unit < ratioFloor sourceWidth width ∨ unit < ratioFloor sourceHeight height ∨
      forceAverage = true) ↔
        (forceAverage = true ∨ Shrinks sourceWidth width ∨ Shrinks sourceHeight height) := by
    rw [unit_lt_ratioFloor_iff someColumns, unit_lt_ratioFloor_iff someRows, ← or_assoc, or_comm]
  rw [strategy, if_neg filled]
  simp only [averaged, mod_eq_zero_iff]

theorem strategy_eq_directed (shown : forceAverage = true ∨ Shrinks sourceWidth width ∨
      Shrinks sourceHeight height ∨ ¬(width < sourceWidth ∨ height < sourceHeight)) :
    strategy sourceWidth sourceHeight width height forceAverage =
      directed sourceWidth sourceHeight width height forceAverage := by
  rw [strategy_eq hasColumns hasRows someColumns someRows, directed]
  have narrower : Shrinks sourceWidth width → width < sourceWidth := Shrinks.lt someColumns
  have lower : Shrinks sourceHeight height → height < sourceHeight := Shrinks.lt someRows
  have same : (forceAverage = true ∨ Shrinks sourceWidth width ∨ Shrinks sourceHeight height) ↔
      (forceAverage = true ∨ width < sourceWidth ∨ height < sourceHeight) := by
    tauto
  simp only [same]

theorem strategy_of_slight_loss (unforced : forceAverage = false)
    (wide : ¬Shrinks sourceWidth width) (high : ¬Shrinks sourceHeight height)
    (shorter : width < sourceWidth ∨ height < sourceHeight) :
    strategy sourceWidth sourceHeight width height forceAverage = .bilinear := by
  have unshown : ¬(forceAverage = true ∨ Shrinks sourceWidth width ∨
      Shrinks sourceHeight height) := by
    simp only [unforced, wide, high, Bool.false_eq_true, or_self, not_false_eq_true]
  have indivisible : ¬(sourceWidth.toNat ∣ width.toNat ∧ sourceHeight.toNat ∣ height.toNat) := by
    rintro ⟨columns, rows⟩
    exact shorter.elim (not_dvd_of_lt someColumns · columns) (not_dvd_of_lt someRows · rows)
  rw [strategy_eq hasColumns hasRows someColumns someRows, if_neg unshown, if_neg indivisible]

end Choice

theorem sides_of_bilinear {sourceWidth sourceHeight width height : UInt32} {forceAverage : Bool}
    (filtered : strategy sourceWidth sourceHeight width height forceAverage = .bilinear) :
    (0 < sourceWidth ∧ 0 < sourceHeight ∧ 0 < width ∧ 0 < height) ∧
      ¬Shrinks sourceWidth width ∧ ¬Shrinks sourceHeight height := by
  have filled : 0 < sourceWidth ∧ 0 < sourceHeight ∧ 0 < width ∧ 0 < height := by
    simp only [UInt32.pos_iff_ne_zero]
    rw [strategy] at filtered
    split at filtered
    · cases filtered
    · rename_i sides
      tauto
  obtain ⟨hasColumns, hasRows, someColumns, someRows⟩ := filled
  rw [strategy_eq hasColumns hasRows someColumns someRows] at filtered
  split at filtered
  · cases filtered
  · rename_i unshown
    tauto

end Resample

theorem pixel?_resample_of_strategy {destination source : Bitmap} (formed : destination.WellFormed)
    (filled : source.valid = true) (tint : Tint) {forceAverage : Bool} {chosen : Strategy}
    (choice : Resample.strategy source.width source.height destination.width destination.height
      forceAverage = chosen) {y x : UInt32} (below : y < destination.height)
    (inside : x < destination.width) :
    ∃ old, destination.pixel? y x = some old ∧
      (resample destination source tint forceAverage).pixel? y x =
        some (tint.factors.compose (Resample.sample source destination.width destination.height
          chosen y.toNat x.toNat) old) := by
  refine ⟨_, formed.pixel?_eq below inside, ?_⟩
  rw [pixel?_resample formed tint forceAverage filled below inside, choice,
    formed.pixel?_eq below inside, Option.map_some]

theorem resample_congr {destination source : Bitmap} (formed : destination.WellFormed) (tint : Tint)
    {forceAverage otherForce : Bool} {chosen other : Strategy}
    (choice : Resample.strategy source.width source.height destination.width destination.height
      forceAverage = chosen)
    (otherChoice : Resample.strategy source.width source.height destination.width destination.height
      otherForce = other)
    (same : ∀ y x : UInt32, y < destination.height → x < destination.width →
      Resample.sample source destination.width destination.height chosen y.toNat x.toNat =
        Resample.sample source destination.width destination.height other y.toNat x.toNat) :
    resample destination source tint forceAverage =
      resample destination source tint otherForce := by
  subst choice otherChoice
  rw [resample, resample]
  split
  · apply Bitmap.mapVisible_congr formed.widthBound
    intro y x below inside
    obtain ⟨available, row⟩ := Bitmap.counted below
    obtain ⟨within, column⟩ := Bitmap.counted inside
    have sampled := same _ _ available within
    rw [row, column] at sampled
    exact funext fun old => congrArg (tint.factors.compose · old) sampled
  · rfl

/-- The strategy follows the direction of scaling, but for one case: where a side gets shorter, yet
none by one part in 4096, bitmaps are filtered instead of averaged. Destinations of up to 4096 rows
and columns are too small for that case. -/
theorem strategy_follows_direction {sourceWidth sourceHeight width height : UInt32}
    (hasColumns : 0 < sourceWidth) (hasRows : 0 < sourceHeight) (someColumns : 0 < width)
    (someRows : 0 < height) (forceAverage : Bool) :
    Resample.strategy sourceWidth sourceHeight width height forceAverage =
        (if forceAverage = false ∧ (width < sourceWidth ∨ height < sourceHeight) ∧
            ¬Resample.Shrinks sourceWidth width ∧ ¬Resample.Shrinks sourceHeight height then
          .bilinear
        else Resample.directed sourceWidth sourceHeight width height forceAverage) ∧
      (width ≤ 4096 → height ≤ 4096 →
        Resample.strategy sourceWidth sourceHeight width height forceAverage =
          Resample.directed sourceWidth sourceHeight width height forceAverage) := by
  constructor
  · split
    · rename_i slight
      obtain ⟨unforced, shorter, wide, high⟩ := slight
      exact Resample.strategy_of_slight_loss hasColumns hasRows someColumns someRows forceAverage
        unforced wide high shorter
    · rename_i marked
      apply Resample.strategy_eq_directed hasColumns hasRows someColumns someRows
      rw [← Bool.not_eq_true] at marked
      tauto
  · intro fewColumns fewRows
    have narrower : width < sourceWidth → Resample.Shrinks sourceWidth width :=
      Resample.shrinks_of_lt fewColumns
    have lower : height < sourceHeight → Resample.Shrinks sourceHeight height :=
      Resample.shrinks_of_lt fewRows
    apply Resample.strategy_eq_directed hasColumns hasRows someColumns someRows
    tauto

theorem strategy_follows_direction_samples :
    Resample.strategy 5000 1 4999 1 false = .bilinear ∧
    (Resample.strategy 6 4 5 4 false = .average ∧ Resample.strategy 2 3 6 3 false = .replicate ∧
      Resample.strategy 2 3 6 4 false = .bilinear) := by
  obtain ⟨slight, -⟩ := strategy_follows_direction (show (0 : UInt32) < 5000 by decide)
    (show (0 : UInt32) < 1 by decide) (show (0 : UInt32) < 4999 by decide)
    (show (0 : UInt32) < 1 by decide) false
  have small {sourceWidth sourceHeight width height : UInt32} (hasColumns : 0 < sourceWidth)
      (hasRows : 0 < sourceHeight) (someColumns : 0 < width) (someRows : 0 < height)
      (fewColumns : width ≤ 4096) (fewRows : height ≤ 4096) :=
    (strategy_follows_direction hasColumns hasRows someColumns someRows false).2 fewColumns fewRows
  refine ⟨slight.trans (by decide), ?_, ?_, ?_⟩
  · exact (small (by decide) (by decide) (by decide) (by decide) (by decide) (by decide)).trans
      (by decide)
  · exact (small (by decide) (by decide) (by decide) (by decide) (by decide) (by decide)).trans
      (by decide)
  · exact (small (by decide) (by decide) (by decide) (by decide) (by decide) (by decide)).trans
      (by decide)

/-- One column of 4098 is lost, and nothing averaged. -/
theorem slight_loss_not_averaged :
    (4097 : UInt32) < 4098 ∧ Resample.directed 4098 1 4097 1 false = .average ∧
      Resample.strategy 4098 1 4097 1 false = .bilinear := by
  decide

end Raster
