import Raster.Proofs.Clip.Progress

/-!
Clipping segments in exact arithmetic. A cut leaves a part of the segment that runs the same way and
still has all its points of the rectangle; the outcodes decide after four cuts at most, and what is
left then is the intersection of segment and rectangle.
-/

namespace Raster

section Field

variable {K : Type} [Field K]

namespace Point

theorem lerp_zero (source target : Point K) : source.lerp target 0 = source := by
  rw [lerp, zero_mul, zero_mul, add_zero, add_zero]

theorem lerp_one (source target : Point K) : source.lerp target 1 = target := by
  rw [lerp, one_mul, one_mul, add_sub_cancel, add_sub_cancel]

theorem lerp_lerp (source target : Point K) (first last share : K) :
    (source.lerp target first).lerp (source.lerp target last) share =
      source.lerp target (first + share * (last - first)) := by
  simp only [lerp, Point.mk.injEq]
  constructor <;> ring

end Point

namespace Clip

namespace Edge

def depth (rect : Rect K) (point : Point K) : Edge → K
  | bottom => rect.bottom - point.y
  | top => point.y - rect.top
  | right => rect.right - point.x
  | left => point.x - rect.left

theorem depth_lerp (edge : Edge) (rect : Rect K) (source target : Point K) (share : K) :
    edge.depth rect (source.lerp target share) = edge.depth rect source +
      share * (edge.depth rect target - edge.depth rect source) := by
  cases edge <;> simp only [depth, Point.lerp] <;> ring

end Edge

variable {segment : Segment K} {rect : Rect K} {edge : Edge}

theorem span_ne_zero
    (apart : edge.depth rect segment.start ≠ edge.depth rect segment.finish) :
    edge.span segment ≠ 0 := by
  refine fun level => apart ?_
  cases edge with
  | bottom => exact congrArg (rect.bottom - ·) (sub_eq_zero.mp level).symm
  | top => exact congrArg (· - rect.top) (sub_eq_zero.mp level).symm
  | right => exact congrArg (rect.right - ·) (sub_eq_zero.mp level).symm
  | left => exact congrArg (· - rect.left) (sub_eq_zero.mp level).symm

theorem crossing_eq_lerp
    (apart : edge.depth rect segment.start ≠ edge.depth rect segment.finish) :
    crossing segment rect edge = segment.start.lerp segment.finish
      (edge.depth rect segment.start /
        (edge.depth rect segment.start - edge.depth rect segment.finish)) := by
  have level := span_ne_zero apart
  have steep := sub_ne_zero.mpr apart
  cases edge <;>
    simp only [crossing, Point.lerp, Edge.depth, Edge.span, Point.mk.injEq] at level steep ⊢ <;>
    constructor <;> field_simp <;> ring

end Clip

end Field

section Order

variable {K : Type} [LinearOrder K]

def Rect.points (rect : Rect K) : Set (Point K) :=
  {point | (rect.left ≤ point.x ∧ point.x ≤ rect.right) ∧
    rect.top ≤ point.y ∧ point.y ≤ rect.bottom}

theorem Clip.mem_points_iff {rect : Rect K} {point : Point K} :
    point ∈ rect.points ↔ ∀ edge : Edge, ¬edge.Beyond rect point := by
  constructor
  · rintro ⟨⟨fromLeft, fromRight⟩, fromTop, fromBottom⟩ edge
    cases edge with
    | bottom => exact not_lt.mpr fromBottom
    | top => exact not_lt.mpr fromTop
    | right => exact not_lt.mpr fromRight
    | left => exact not_lt.mpr fromLeft
  · intro inside
    exact ⟨⟨not_lt.mp (inside .left), not_lt.mp (inside .right)⟩, not_lt.mp (inside .top),
      not_lt.mp (inside .bottom)⟩

end Order

section OrderedField

variable {K : Type} [Field K] [LinearOrder K] [IsStrictOrderedRing K]

def Segment.points (segment : Segment K) : Set (Point K) :=
  Set.image (segment.start.lerp segment.finish) (Set.Icc 0 1)

namespace Clip

variable {segment whole part : Segment K} {rect : Rect K} {edge : Edge} {point : Point K}

theorem not_beyond_iff : ¬edge.Beyond rect point ↔ 0 ≤ edge.depth rect point := by
  cases edge <;> exact not_lt.trans sub_nonneg.symm

theorem beyond_iff : edge.Beyond rect point ↔ edge.depth rect point < 0 := by
  rw [← not_iff_not, not_beyond_iff, not_lt]

theorem not_beyond_lerp {share : K} (positive : 0 ≤ share) (below : share ≤ 1)
    {source target : Point K} (first : ¬edge.Beyond rect source)
    (last : ¬edge.Beyond rect target) : ¬edge.Beyond rect (source.lerp target share) := by
  rw [not_beyond_iff] at first last ⊢
  rw [edge.depth_lerp]
  nlinarith [mul_nonneg positive last, mul_nonneg (sub_nonneg.mpr below) first]

theorem points_subset_iff : segment.points ⊆ rect.points ↔
    segment.start ∈ rect.points ∧ segment.finish ∈ rect.points := by
  constructor
  · intro inside
    exact ⟨inside ⟨0, ⟨le_refl 0, zero_le_one⟩, Point.lerp_zero _ _⟩,
      inside ⟨1, ⟨zero_le_one, le_refl 1⟩, Point.lerp_one _ _⟩⟩
  · rintro ⟨first, last⟩ _ ⟨share, ⟨positive, below⟩, rfl⟩
    rw [mem_points_iff] at first last ⊢
    exact fun edge => not_beyond_lerp positive below (first edge) (last edge)

/-- The next cut does not divide by zero, and the point it moves an end to is on the segment; on the
side that is cut off there is nothing of the rectangle. -/
theorem cut_exact (unsettled : settled? segment rect = none) :
    (cutEdge segment rect).span segment ≠ 0 ∧ ∃ share : K, 0 ≤ share ∧ share ≤ 1 ∧
      ((cut segment rect =
            { segment with start := segment.start.lerp segment.finish share } ∧
          ∀ other, segment.start.lerp segment.finish other ∈ rect.points → share ≤ other) ∨
        cut segment rect =
            { segment with finish := segment.start.lerp segment.finish share } ∧
          ∀ other, segment.start.lerp segment.finish other ∈ rect.points → other ≤ share) := by
  have depths {other : K} (inside : segment.start.lerp segment.finish other ∈ rect.points) :=
    not_beyond_iff.mp (mem_points_iff.mp inside (cutEdge segment rect))
  simp only [Edge.depth_lerp] at depths
  obtain ⟨beyond, within, moved⟩ | ⟨inside, beyond, moved⟩ := cut_cases unsettled
  · rw [beyond_iff] at beyond
    rw [not_beyond_iff] at within
    have descent := sub_neg.mpr (beyond.trans_le within)
    have apart := sub_ne_zero.mp descent.ne
    rw [crossing_eq_lerp apart] at moved
    refine ⟨span_ne_zero apart, _, div_nonneg_of_nonpos beyond.le descent.le, ?_, .inl ⟨moved, ?_⟩⟩
    · exact (div_le_one_of_neg descent).mpr (sub_le_self _ within)
    · intro other visible
      rw [div_le_iff_of_neg descent]
      linear_combination depths visible
  · rw [beyond_iff] at beyond
    have within := not_beyond_iff.mp (inside (cutEdge segment rect))
    have ascent := sub_pos.mpr (beyond.trans_le within)
    have apart := sub_ne_zero.mp ascent.ne'
    rw [crossing_eq_lerp apart] at moved
    refine ⟨span_ne_zero apart, _, div_nonneg within ascent.le, ?_, .inr ⟨moved, ?_⟩⟩
    · exact (div_le_one ascent).mpr (le_sub_self_iff _ |>.mpr beyond.le)
    · intro other visible
      rw [le_div_iff₀ ascent]
      linear_combination depths visible

theorem not_astray (unsettled : settled? segment rect = none) : ¬Astray segment rect := by
  rintro ⟨edge, out, first, last⟩
  obtain ⟨-, share, positive, below, ⟨moved, -⟩ | ⟨moved, -⟩⟩ := cut_exact unsettled
  · rw [moved] at out
    exact out.elim (not_beyond_lerp positive below first last) last
  · rw [moved] at out
    exact out.elim first (not_beyond_lerp positive below first last)

/-- A part of a segment that runs the same way and has all the points of it in a rectangle. -/
structure Part (rect : Rect K) (whole part : Segment K) : Prop where
  along : ∃ first last : K, (0 ≤ first ∧ first ≤ last ∧ last ≤ 1) ∧
    part.start = whole.start.lerp whole.finish first ∧
      part.finish = whole.start.lerp whole.finish last
  complete : whole.points ∩ rect.points ⊆ part.points

theorem mem_points_of_between {first last share : K} (after : first ≤ share) (before : share ≤ last)
    (source target : Point K) : source.lerp target share ∈
      Segment.points ⟨source.lerp target first, source.lerp target last⟩ := by
  obtain less | same := (after.trans before).lt_or_eq
  · have length := sub_pos.mpr less
    refine ⟨(share - first) / (last - first), ⟨div_nonneg (sub_nonneg.mpr after) length.le,
      (div_le_one length).mpr (sub_le_sub_right before first)⟩, ?_⟩
    rw [Point.lerp_lerp, div_mul_cancel₀ _ length.ne', add_sub_cancel]
  · obtain rfl := le_antisymm after (same ▸ before)
    exact ⟨0, ⟨le_refl 0, zero_le_one⟩, Point.lerp_zero _ _⟩

namespace Part

theorem points_subset (is : Part rect whole part) : part.points ⊆ whole.points := by
  obtain ⟨first, last, ⟨positive, ordered, below⟩, start, finish⟩ := is.along
  rintro _ ⟨share, ⟨shareAbove, shareBelow⟩, rfl⟩
  rw [start, finish, Point.lerp_lerp]
  have length := sub_nonneg.mpr ordered
  refine ⟨_, ⟨add_nonneg positive (mul_nonneg shareAbove length), ?_⟩, rfl⟩
  linarith [mul_le_of_le_one_left length shareBelow]

theorem points_inter (is : Part rect whole part) :
    part.points ∩ rect.points = whole.points ∩ rect.points :=
  Set.Subset.antisymm (Set.inter_subset_inter_left _ is.points_subset)
    (Set.subset_inter is.complete Set.inter_subset_right)

theorem refl (rect : Rect K) (whole : Segment K) : Part rect whole whole :=
  ⟨⟨0, 1, ⟨le_refl 0, zero_le_one, le_refl 1⟩, (Point.lerp_zero _ _).symm,
    (Point.lerp_one _ _).symm⟩, Set.inter_subset_left⟩

theorem trans {middle : Segment K} (outer : Part rect whole middle)
    (inner : Part rect middle part) : Part rect whole part := by
  refine ⟨?_, ?_⟩
  · obtain ⟨first, last, ⟨positive, ordered, below⟩, start, finish⟩ := outer.along
    obtain ⟨innerFirst, innerLast, ⟨innerPositive, innerOrdered, innerBelow⟩, innerStart,
      innerFinish⟩ := inner.along
    rw [start, finish, Point.lerp_lerp] at innerStart innerFinish
    have length := sub_nonneg.mpr ordered
    refine ⟨_, _, ⟨add_nonneg positive (mul_nonneg innerPositive length), ?_, ?_⟩, innerStart,
      innerFinish⟩
    · exact add_le_add_right (mul_le_mul_of_nonneg_right innerOrdered length) first
    · linarith [mul_le_of_le_one_left length innerBelow]
  · rintro point ⟨member, visible⟩
    exact inner.complete ⟨outer.complete ⟨member, visible⟩, visible⟩

end Part

theorem cut_part (unsettled : settled? segment rect = none) :
    Part rect segment (cut segment rect) := by
  obtain ⟨-, share, positive, below, ⟨moved, bound⟩ | ⟨moved, bound⟩⟩ := cut_exact unsettled
  · rw [moved]
    refine ⟨⟨share, 1, ⟨positive, below, le_refl 1⟩, rfl, (Point.lerp_one _ _).symm⟩, ?_⟩
    rintro _ ⟨⟨other, ⟨-, otherBelow⟩, rfl⟩, visible⟩
    have member := mem_points_of_between (bound other visible) otherBelow segment.start
      segment.finish
    rwa [Point.lerp_one] at member
  · rw [moved]
    refine ⟨⟨0, share, ⟨le_refl 0, positive, below⟩, (Point.lerp_zero _ _).symm, rfl⟩, ?_⟩
    rintro _ ⟨⟨other, ⟨otherAbove, -⟩, rfl⟩, visible⟩
    have member := mem_points_of_between otherAbove (bound other visible) segment.start
      segment.finish
    rwa [Point.lerp_zero] at member

theorem Cuts.isPart {count : Nat} (cuts : Cuts rect segment count) :
    Part rect segment (afterCuts rect segment count) := by
  induction count with
  | zero => exact Part.refl rect segment
  | succ count ih =>
      obtain ⟨before, unsettled⟩ := cuts_succ_iff.mp cuts
      rw [afterCuts_succ]
      exact (ih before).trans (cut_part unsettled)

theorem Cuts.le_four {count : Nat} (cuts : Cuts rect segment count) (inOrder : rect.InOrder) :
    count ≤ 4 :=
  (cuts.le_violations inOrder fun _ below => not_astray (cuts _ below)).trans
    (violations_le segment rect)

theorem points_inter_of_beyond (first : edge.Beyond rect segment.start)
    (last : edge.Beyond rect segment.finish) : segment.points ∩ rect.points = ∅ := by
  rw [Set.eq_empty_iff_forall_notMem]
  rintro _ ⟨⟨share, ⟨positive, below⟩, rfl⟩, visible⟩
  have depth := not_beyond_iff.mp (mem_points_iff.mp visible edge)
  rw [edge.depth_lerp] at depth
  rw [beyond_iff] at first last
  nlinarith [mul_nonneg positive (neg_nonneg.mpr last.le),
    mul_nonneg (sub_nonneg.mpr below) (neg_nonneg.mpr first.le)]

theorem settled?_eq_true_iff_subset :
    settled? segment rect = some true ↔ segment.points ⊆ rect.points := by
  rw [settled?_eq_true, points_subset_iff, mem_points_iff, mem_points_iff]

theorem start_mem_points (segment : Segment K) : segment.start ∈ segment.points :=
  ⟨0, ⟨le_refl 0, zero_le_one⟩, Point.lerp_zero _ _⟩

end Clip

/-- In exact arithmetic clipping a segment ends after four cuts at most, none of which divides by
zero, and gives its intersection with the rectangle, run through the same way. -/
theorem clip_intersection {segment : Segment K} {rect : Rect K} (wide : rect.left ≤ rect.right)
    (high : rect.top ≤ rect.bottom) :
    (∀ count, Clip.Cuts rect segment count → count ≤ 4) ∧
    (∀ count, Clip.Cuts rect segment (count + 1) →
      (Clip.cutEdge (Clip.afterCuts rect segment count) rect).span
        (Clip.afterCuts rect segment count) ≠ 0) ∧
    ∃ outcome result, Clip.segment? segment rect = some (outcome, result) ∧
      (outcome = .rejected ↔ segment.points ∩ rect.points = ∅) ∧
      (outcome ≠ .rejected → result.points = segment.points ∩ rect.points ∧
        ∃ first last : K, (0 ≤ first ∧ first ≤ last ∧ last ≤ 1) ∧
          result.start = segment.start.lerp segment.finish first ∧
            result.finish = segment.start.lerp segment.finish last) ∧
      (outcome = .inside ↔ segment.points ⊆ rect.points) := by
  have inOrder : rect.InOrder := ⟨not_lt.mpr wide, not_lt.mpr high⟩
  have few (count : Nat) (cuts : Clip.Cuts rect segment count) : count ≤ 4 := cuts.le_four inOrder
  refine ⟨few, fun count cuts => (Clip.cut_exact (Clip.cuts_succ_iff.mp cuts).2).1, ?_⟩
  obtain ⟨count, -, cuts, visible, decided⟩ :=
    Clip.exists_decided fun cuts => absurd (few 5 cuts) (by decide)
  have inter := cuts.isPart.points_inter
  cases visible with
  | false =>
      obtain ⟨edge, first, last⟩ := Clip.settled?_eq_false.mp decided
      rw [Clip.points_inter_of_beyond first last] at inter
      refine ⟨.rejected, segment,
        Clip.segment?_eq_some_iff.mpr ⟨count, cuts, .inr ⟨decided, rfl, rfl⟩⟩,
        iff_of_true rfl inter.symm, fun drawn => absurd rfl drawn,
        iff_of_false nofun fun inside => ?_⟩
      have member : segment.start ∈ segment.points ∩ rect.points :=
        ⟨Clip.start_mem_points segment, inside (Clip.start_mem_points segment)⟩
      rw [← inter] at member
      exact member
  | true =>
      have shown := Clip.settled?_eq_true_iff_subset.mp decided
      rw [Set.inter_eq_left.mpr shown] at inter
      refine ⟨_, _, Clip.segment?_eq_some_iff.mpr ⟨count, cuts, .inl ⟨decided, rfl, rfl⟩⟩,
        iff_of_false ?_ ?_, fun _ => ⟨inter, cuts.isPart.along⟩, ?_⟩
      · split <;> exact nofun
      · rw [← inter]
        exact (Set.nonempty_of_mem (Clip.start_mem_points _)).ne_empty
      · cases count with
        | zero => exact iff_of_true rfl shown
        | succ count =>
            have unsettled : Clip.settled? segment rect = none := cuts 0 (Nat.succ_pos count)
            refine iff_of_false nofun fun inside => ?_
            cases unsettled.symm.trans (Clip.settled?_eq_true_iff_subset.mpr inside)

end OrderedField

namespace Clip

def window : Rect ℚ := ⟨0, 0, 2, 1⟩

def slanted : Segment ℚ := ⟨⟨-1, -1⟩, ⟨4, 3 / 2⟩⟩

def passing : Segment ℚ := ⟨⟨-1, 1 / 2⟩, ⟨1, 5 / 2⟩⟩

end Clip

theorem clip_intersection_samples :
    (Clip.window.left ≤ Clip.window.right ∧ Clip.window.top ≤ Clip.window.bottom) ∧
    (Clip.segment? Clip.slanted Clip.window = some (.clipped, ⟨⟨1, 0⟩, ⟨2, 1 / 2⟩⟩) ∧
      Segment.points ⟨⟨1, 0⟩, ⟨2, 1 / 2⟩⟩ = Clip.slanted.points ∩ Clip.window.points) ∧
    (Clip.segment? Clip.passing Clip.window = some (.rejected, Clip.passing) ∧
      Clip.passing.points ∩ Clip.window.points = ∅) := by
  have ordered : Clip.window.left ≤ Clip.window.right ∧ Clip.window.top ≤ Clip.window.bottom := by
    decide
  have clipped : Clip.segment? Clip.slanted Clip.window =
      some (.clipped, ⟨⟨1, 0⟩, ⟨2, 1 / 2⟩⟩) :=
    Clip.segment?_eq_some_iff.mpr
      ⟨3, by decide +kernel, .inl ⟨by decide +kernel, rfl, by decide +kernel⟩⟩
  have rejected : Clip.segment? Clip.passing Clip.window = some (.rejected, Clip.passing) :=
    Clip.segment?_eq_some_iff.mpr ⟨1, by decide +kernel, .inr ⟨by decide +kernel, rfl, rfl⟩⟩
  obtain ⟨-, -, _, _, returned, -, drawn, -⟩ :=
    @clip_intersection ℚ _ _ _ Clip.slanted Clip.window ordered.1 ordered.2
  cases returned.symm.trans clipped
  obtain ⟨-, -, _, _, refused, hidden, -⟩ :=
    @clip_intersection ℚ _ _ _ Clip.passing Clip.window ordered.1 ordered.2
  cases refused.symm.trans rejected
  exact ⟨ordered, ⟨clipped, (drawn nofun).1⟩, rejected, hidden.mp rfl⟩

end Raster
