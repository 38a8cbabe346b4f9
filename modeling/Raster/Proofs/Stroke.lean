import Mathlib.Algebra.Order.Field.Basic
import Mathlib.Data.Rat.Sqrt
import Mathlib.Tactic.FieldSimp
import Mathlib.Tactic.Linarith
import Mathlib.Tactic.LinearCombination
import Mathlib.Tactic.NormNum.OfScientific
import Mathlib.Tactic.Ring
import Raster.Geometry.Stroke

/-!
Stroking in exact arithmetic. Main statement: a segment with a length gets two edges across it, as
long as the stroke is wide, around its ends or places further outward, and each is the mirror image
of the other; a segment without length gets a diamond around its point.
-/

namespace Raster

section Field

variable {K : Type} [Field K]

namespace Point

def dot (one two : Point K) : K := one.x * two.x + one.y * two.y

def turned (point : Point K) : Point K := ⟨point.y, -point.x⟩

variable (one two : Point K) (factor other : K)

@[simp] theorem dot_scale_left : (one.scale factor).dot two = factor * one.dot two := by
  simp only [dot, scale]
  ring

@[simp] theorem dot_scale_right : one.dot (two.scale factor) = factor * one.dot two := by
  simp only [dot, scale]
  ring

@[simp] theorem turned_dot_self : one.turned.dot one = 0 := by
  simp only [dot, turned]
  ring

@[simp] theorem turned_dot_turned : one.turned.dot two.turned = one.dot two := by
  simp only [dot, turned]
  ring

@[simp] theorem turned_scale : (one.scale factor).turned = one.turned.scale factor := by
  simp [turned, scale]

@[simp] theorem scale_scale : (one.scale factor).scale other = one.scale (factor * other) := by
  simp [scale, mul_assoc]

end Point

namespace Segment

def direction (segment : Segment K) : Point K := segment.finish.sub segment.start

def middle (segment : Segment K) : Point K :=
  ⟨(segment.start.x + segment.finish.x) / 2, (segment.start.y + segment.finish.y) / 2⟩

/-- Mirror image of a point in the perpendicular bisector of a segment. -/
def reflect (segment : Segment K) (point : Point K) : Point K :=
  let ahead := (point.sub segment.middle).dot segment.direction
  point.sub (segment.direction.scale
    (2 * (ahead / segment.direction.dot segment.direction)))

theorem direction_ne_zero {segment : Segment K} (apart : segment.start ≠ segment.finish) :
    segment.direction.x ≠ 0 ∨ segment.direction.y ≠ 0 := by
  by_contra level
  obtain ⟨across, along⟩ := not_or.mp level
  apply apart
  obtain ⟨⟨_, _⟩, ⟨_, _⟩⟩ := segment
  simp only [direction, Point.sub, not_not, sub_eq_zero] at across along
  rw [across, along]

end Segment

namespace Stroke

theorem direction_edge (point side : Point K) : (edge point side).direction = side.scale 2 := by
  simp only [Segment.direction, edge, Point.sub, Point.add, Point.scale, Point.mk.injEq]
  constructor <;> ring

theorem edges_eq (start finish along : Point K) :
    edges start finish along = (edge start along.turned, edge finish along.turned) := rfl

end Stroke

end Field

section OrderedField

variable {K : Type} [Field K] [LinearOrder K] [IsStrictOrderedRing K] {segment : Segment K}

/-- Its length, as a number that is not negative and has the right square. -/
structure Point.HasLength (vector : Point K) (length : K) : Prop where
  nonneg : 0 ≤ length
  square : length * length = vector.dot vector

theorem Point.HasLength.scale {vector : Point K} {length : K} (measured : vector.HasLength length)
    (factor : K) : (vector.scale factor).HasLength (|factor| * length) := by
  refine ⟨mul_nonneg (abs_nonneg factor) measured.nonneg, ?_⟩
  have square := measured.square
  simp only [dot_scale_left, dot_scale_right, ← square]
  rw [← mul_assoc factor factor, ← abs_mul_abs_self factor]
  ring

namespace Segment

theorem dot_direction_pos (apart : segment.start ≠ segment.finish) :
    0 < segment.direction.dot segment.direction := by
  rw [Point.dot]
  rcases direction_ne_zero apart with across | along
  · have square := mul_self_pos.mpr across
    have other := mul_self_nonneg segment.direction.y
    linarith
  · have square := mul_self_pos.mpr along
    have other := mul_self_nonneg segment.direction.x
    linarith

theorem reflect_eq {point : Point K} {share : K} (apart : segment.start ≠ segment.finish)
    (ahead : (point.sub segment.middle).dot segment.direction =
      share * segment.direction.dot segment.direction) :
    segment.reflect point = point.sub (segment.direction.scale (2 * share)) := by
  have filled := (dot_direction_pos apart).ne'
  simp only [reflect, ahead, mul_div_cancel_right₀ share filled]

end Segment

theorem Point.HasLength.pos {length : K} (measured : segment.direction.HasLength length)
    (apart : segment.start ≠ segment.finish) : 0 < length := by
  refine lt_of_le_of_ne measured.nonneg ?_
  rintro rfl
  have square := measured.square
  rw [mul_zero] at square
  exact (Segment.dot_direction_pos apart).ne square

namespace Stroke

variable {point side : Point K}

theorem middle_edge : (edge point side).middle = point := by
  simp only [Segment.middle, edge, Point.sub, Point.add]
  ring_nf

theorem reflect_edge (apart : segment.start ≠ segment.finish)
    (across : side.dot segment.direction = 0) (share : K) :
    let outward := segment.direction.scale share
    segment.reflect (edge (segment.start.sub outward) side).start =
        (edge (segment.finish.add outward) side).start ∧
      segment.reflect (edge (segment.start.sub outward) side).finish =
        (edge (segment.finish.add outward) side).finish := by
  intro outward
  have before : (((segment.start.sub outward).sub side).sub segment.middle).dot segment.direction =
      -(1 / 2 + share) * segment.direction.dot segment.direction := by
    simp only [outward, Point.dot, Point.sub, Point.scale, Segment.middle,
      Segment.direction] at across ⊢
    linear_combination -across
  have behind : (((segment.start.sub outward).add side).sub segment.middle).dot segment.direction =
      -(1 / 2 + share) * segment.direction.dot segment.direction := by
    simp only [outward, Point.dot, Point.sub, Point.add, Point.scale, Segment.middle,
      Segment.direction] at across ⊢
    linear_combination across
  constructor
  · refine (Segment.reflect_eq apart before).trans ?_
    simp only [edge, outward, Point.sub, Point.add, Point.scale, Segment.direction, Point.mk.injEq]
    constructor <;> ring
  · refine (Segment.reflect_eq apart behind).trans ?_
    simp only [edge, outward, Point.sub, Point.add, Point.scale, Segment.direction, Point.mk.injEq]
    constructor <;> ring

/-- The two edges of a stroke, around places that lie `outward` from the ends of the segment. -/
structure Frames (segment : Segment K) (width : K) (outward : Point K)
    (edges : Segment K × Segment K) : Prop where
  startMiddle : edges.1.middle = segment.start.sub outward
  finishMiddle : edges.2.middle = segment.finish.add outward
  parallel : edges.1.direction = edges.2.direction
  across : edges.1.direction.dot segment.direction = 0
  length : edges.1.direction.HasLength |width|
  startMirrored : segment.reflect edges.1.start = edges.2.start
  finishMirrored : segment.reflect edges.1.finish = edges.2.finish

theorem lengthy_eq (direction : Point K) (length width extension : K) :
    lengthy segment direction length width extension =
      let outward := direction.scale (1 / length * (max extension 0 / 2))
      edges (segment.start.sub outward) (segment.finish.add outward)
        (direction.scale (width / 2 / length)) := by
  have half : (0.5 : K) = 1 / 2 := by norm_num
  have whole : (1.0 : K) = 1 := by norm_num
  have none : (0.0 : K) = 0 := by norm_num
  rw [lengthy, half, whole, none, Point.scale_scale]
  by_cases extended : 0 < extension
  · rw [if_pos extended, max_eq_left extended.le]
    ring_nf
  · rw [if_neg extended, max_eq_right (not_lt.mp extended)]
    simp [Point.sub, Point.add, Point.scale]
    ring_nf

theorem frames_lengthy {length : K} (apart : segment.start ≠ segment.finish)
    (measured : segment.direction.HasLength length) (width extension : K) :
    Frames segment width (segment.direction.scale (1 / length * (max extension 0 / 2)))
      (lengthy segment segment.direction length width extension) := by
  have positive := (measured.pos apart).ne'
  let side := (segment.direction.scale (width / 2 / length)).turned
  have across : side.dot segment.direction = 0 := by simp [side]
  have along : side.scale 2 = segment.direction.turned.scale (width / length) := by
    simp only [side, Point.turned_scale, Point.scale_scale]
    congr 1
    field_simp
  obtain ⟨startMirrored, finishMirrored⟩ :=
    reflect_edge apart across (1 / length * (max extension 0 / 2))
  rw [lengthy_eq, edges_eq]
  refine ⟨middle_edge, middle_edge, ?_, ?_, ?_, startMirrored, finishMirrored⟩
  · rw [direction_edge, direction_edge]
  · rw [direction_edge, Point.dot_scale_left, across, mul_zero]
  · have turned : segment.direction.turned.HasLength length :=
      ⟨measured.nonneg, measured.square.trans (Point.turned_dot_turned ..).symm⟩
    have scaled := turned.scale (width / length)
    rw [abs_div, abs_of_nonneg measured.nonneg, div_mul_cancel₀ |width| positive] at scaled
    rw [direction_edge, along]
    exact scaled

section Outlines

variable (measure : Point K → K) (diagonal width extension : K)

theorem outline_of_apart (apart : segment.start ≠ segment.finish) :
    outline measure diagonal segment width extension =
      lengthy segment segment.direction (measure segment.direction) width extension := by
  have none : (0.0 : K) = 0 := by norm_num
  have steep := Segment.direction_ne_zero apart
  rw [outline, none]
  refine if_neg ?_
  simp only [Bool.and_eq_true, beq_iff_eq, not_and_or]
  exact steep

theorem outline_of_same (same : segment.start = segment.finish) :
    outline measure diagonal segment width extension =
      (⟨segment.start.sub ⟨width * diagonal, 0⟩, segment.start.sub ⟨0, width * diagonal⟩⟩,
        ⟨segment.start.add ⟨0, width * diagonal⟩, segment.start.add ⟨width * diagonal, 0⟩⟩) := by
  have none : (0.0 : K) = 0 := by norm_num
  have half : (0.5 : K) = 1 / 2 := by norm_num
  obtain ⟨start, finish⟩ := segment
  obtain rfl : start = finish := same
  simp only [outline, none, diamond, half, edges, edge, Point.sub, Point.add, sub_self,
    beq_self_eq_true, Bool.and_self, if_true, Prod.mk.injEq, Segment.mk.injEq, Point.mk.injEq]
  refine ⟨⟨⟨?_, ?_⟩, ?_, ?_⟩, ⟨?_, ?_⟩, ?_, ?_⟩ <;> ring

end Outlines

end Stroke

/-- A stroke in exact arithmetic. The segment has a length of which nothing is used but its square,
and outward along it half of the extension is added at each end, if it is positive. -/
theorem stroke_outline (measure : Point K → K) (diagonal : K) (segment : Segment K)
    (width extension : K) :
    (segment.start ≠ segment.finish →
      segment.direction.HasLength (measure segment.direction) →
      ∃ outward, outward.HasLength (max extension 0 / 2) ∧
        (∃ share, 0 ≤ share ∧ outward = segment.direction.scale share) ∧
        Stroke.Frames segment width outward
          (Stroke.outline measure diagonal segment width extension)) ∧
    (segment.start = segment.finish →
      Stroke.outline measure diagonal segment width extension =
        (⟨segment.start.sub ⟨width * diagonal, 0⟩, segment.start.sub ⟨0, width * diagonal⟩⟩,
          ⟨segment.start.add ⟨0, width * diagonal⟩, segment.start.add ⟨width * diagonal, 0⟩⟩)) := by
  constructor
  · intro apart measured
    have positive := measured.pos apart
    have reach : 0 ≤ max extension 0 / 2 := div_nonneg (le_max_right _ _) zero_le_two
    have share : 0 ≤ 1 / measure segment.direction * (max extension 0 / 2) :=
      mul_nonneg (one_div_nonneg.mpr positive.le) reach
    have outward := measured.scale (1 / measure segment.direction * (max extension 0 / 2))
    rw [abs_of_nonneg share, one_div_mul_eq_div, div_mul_cancel₀ _ positive.ne'] at outward
    rw [Stroke.outline_of_apart measure diagonal width extension apart]
    refine ⟨_, outward, ⟨_, share, ?_⟩, ?_⟩
    · rw [one_div_mul_eq_div]
    · have framed := Stroke.frames_lengthy apart measured width extension
      rw [one_div_mul_eq_div] at framed
      exact framed
  · intro same
    exact Stroke.outline_of_same measure diagonal width extension same

end OrderedField

namespace Stroke

def slope : Segment ℚ := ⟨⟨1, 2⟩, ⟨4, 6⟩⟩

def spot : Segment ℚ := ⟨⟨5, 5⟩, ⟨5, 5⟩⟩

def measure (vector : Point ℚ) : ℚ := Rat.sqrt (vector.x * vector.x + vector.y * vector.y)

theorem slope_measured : slope.direction.HasLength (measure slope.direction) := by
  have root : measure slope.direction = 5 := by
    have square : (3 * 3 + 4 * 4 : ℚ) = 5 * 5 := by norm_num
    have direction : slope.direction = ⟨3, 4⟩ := by decide +kernel
    rw [direction, measure, square, Rat.sqrt_eq]
    norm_num
  rw [root]
  exact ⟨by decide +kernel, by decide +kernel⟩

end Stroke

theorem stroke_outline_samples :
    (Stroke.slope.start ≠ Stroke.slope.finish ∧
      Stroke.slope.direction.HasLength (Stroke.measure Stroke.slope.direction) ∧
      ∃ outward, outward.HasLength (3 / 4) ∧
        Stroke.Frames Stroke.slope 3 outward
          (Stroke.outline Stroke.measure (7 / 10) Stroke.slope 3 (3 / 2))) ∧
    (Stroke.spot.start = Stroke.spot.finish ∧
      Stroke.outline Stroke.measure (7 / 10) Stroke.spot 2 10 =
        (⟨⟨18 / 5, 5⟩, ⟨5, 18 / 5⟩⟩, ⟨⟨5, 32 / 5⟩, ⟨32 / 5, 5⟩⟩)) := by
  have apart : Stroke.slope.start ≠ Stroke.slope.finish := by decide +kernel
  obtain ⟨outward, reach, -, framed⟩ :=
    (stroke_outline Stroke.measure (7 / 10) Stroke.slope 3 (3 / 2)).1 apart Stroke.slope_measured
  have diamond := (stroke_outline Stroke.measure (7 / 10) Stroke.spot 2 10).2 rfl
  have half : (max (3 / 2) 0 / 2 : ℚ) = 3 / 4 := by norm_num
  rw [half] at reach
  refine ⟨⟨apart, Stroke.slope_measured, outward, reach, framed⟩, rfl, ?_⟩
  rw [diamond]
  decide +kernel

end Raster
