import Raster.Proofs.Clip.Overshoot
import Raster.Proofs.Clip.Progress
import Raster.Proofs.Rounding.Double

/-!
Cuts of floating-point segments. A cut between finite numbers gives a finite one that is the rounded
coordinate, or none: then the ends settle within the next three cuts.
-/

namespace Raster

namespace Clip

section Coordinates

variable {α : Type}

def Edge.level (rect : Rect α) : Edge → α
  | bottom => rect.bottom
  | top => rect.top
  | right => rect.right
  | left => rect.left

def Edge.across (point : Point α) : Edge → α
  | bottom | top => point.y
  | right | left => point.x

def Edge.along (point : Point α) : Edge → α
  | bottom | top => point.x
  | right | left => point.y

def Edge.Adjacent (edge other : Edge) : Prop := other ≠ edge ∧ other ≠ edge.opposite

variable {edge other : Edge} {point : Point α}

theorem Edge.Adjacent.across_eq (adjacent : edge.Adjacent other) :
    other.across point = edge.along point := by
  obtain ⟨differs, apart⟩ := adjacent
  cases edge <;> cases other <;> first
    | rfl
    | exact absurd rfl differs
    | exact absurd rfl apart

theorem Edge.Adjacent.along_eq (adjacent : edge.Adjacent other) :
    other.along point = edge.across point := by
  obtain ⟨differs, apart⟩ := adjacent
  cases edge <;> cases other <;> first
    | rfl
    | exact absurd rfl differs
    | exact absurd rfl apart

theorem Edge.ext {first second : Point α} (edge : Edge)
    (across : edge.across first = edge.across second)
    (along : edge.along first = edge.along second) : first = second := by
  cases first
  cases second
  cases edge <;> cases across <;> cases along <;> rfl

theorem Edge.adjacent_of_beyond_crossing [LT α] [Add α] [Sub α] [Mul α] [Div α]
    [Std.Irrefl (fun first second : α => first < second)] {segment : Segment α} {rect : Rect α}
    (inOrder : rect.InOrder) (beyond : other.Beyond rect (crossing segment rect edge)) :
    edge.Adjacent other := by
  constructor
  · rintro rfl
    exact not_beyond_crossing other beyond
  · rintro rfl
    exact not_beyond_opposite_crossing inOrder edge beyond

theorem Edge.exists_adjacent (edge : Edge) : ∃ other, edge.Adjacent other := by
  cases edge
  · exact ⟨right, nofun, nofun⟩
  · exact ⟨right, nofun, nofun⟩
  · exact ⟨top, nofun, nofun⟩
  · exact ⟨top, nofun, nofun⟩

theorem Edge.across_cases (edge other : Edge) (point : Point α) :
    other.across point = edge.across point ∨ other.across point = edge.along point := by
  cases edge <;> cases other <;> first
    | exact .inl rfl
    | exact .inr rfl

section Slide

variable [Add α] [Sub α] [Mul α] [Div α]

def slide (start finish edge startAcross finishAcross : α) : α :=
  start + (finish - start) * (edge - startAcross) / (finishAcross - startAcross)

theorem across_crossing (segment : Segment α) (rect : Rect α) (edge : Edge) :
    edge.across (crossing segment rect edge) = edge.level rect := by
  cases edge <;> rfl

theorem along_crossing (segment : Segment α) (rect : Rect α) (edge : Edge) :
    edge.along (crossing segment rect edge) =
      slide (edge.along segment.start) (edge.along segment.finish) (edge.level rect)
        (edge.across segment.start) (edge.across segment.finish) := by
  cases edge <;> rfl

end Slide

end Coordinates

end Clip

structure Point.Finite (point : Point Float) : Prop where
  x : point.x.isFinite = true
  y : point.y.isFinite = true

structure Segment.Finite (segment : Segment Float) : Prop where
  start : segment.start.Finite
  finish : segment.finish.Finite

structure Rect.Finite (rect : Rect Float) : Prop where
  left : rect.left.isFinite = true
  top : rect.top.isFinite = true
  right : rect.right.isFinite = true
  bottom : rect.bottom.isFinite = true

namespace Clip

open Rounding

section Finite

variable {start finish edge startAcross finishAcross : Float}

theorem value_slide (finite : (slide start finish edge startAcross finishAcross).isFinite = true) :
    Double.value (slide start finish edge startAcross finishAcross) =
        slid (Double.value start) (Double.value finish) (Double.value edge)
          (Double.value startAcross) (Double.value finishAcross) ∨
      Double.value (slide start finish edge startAcross finishAcross) = Double.value start := by
  obtain ⟨startFinite, quotientFinite, sum⟩ := Double.isFinite_add finite
  obtain ⟨productFinite, ⟨divisorFinite, -, ratio⟩ | ⟨-, ratio⟩⟩ :=
    Double.isFinite_div quotientFinite
  · obtain ⟨alongFinite, acrossFinite, multiplied⟩ := Double.isFinite_mul productFinite
    obtain ⟨-, -, along⟩ := Double.isFinite_sub alongFinite
    obtain ⟨-, -, across⟩ := Double.isFinite_sub acrossFinite
    obtain ⟨-, -, divisor⟩ := Double.isFinite_sub divisorFinite
    left
    rw [slide, sum, ratio, multiplied, along, across, divisor]
    rfl
  · right
    rw [slide, sum, ratio, add_zero]
    exact nearest_of_onGrid (Double.value_onGrid startFinite)

theorem isNaN_slide_of_start (nan : start.isNaN = true) :
    (slide start finish edge startAcross finishAcross).isNaN = true :=
  Double.isNaN_add (.inl nan)

theorem isFinite_sub_eq_false {left right : Float}
    (infinite : left.isFinite = false ∨ right.isFinite = false) :
    (left - right).isFinite = false := by
  by_contra finite
  obtain ⟨leftFinite, rightFinite, -⟩ := Double.isFinite_sub (Bool.eq_true_of_not_eq_false finite)
  simp only [leftFinite, rightFinite, Bool.true_eq_false, or_self] at infinite

theorem isNaN_slide (infinite : startAcross.isFinite = false) :
    (slide start finish edge startAcross finishAcross).isNaN = true := by
  refine Double.isNaN_add (.inr ?_)
  refine (Double.div_of_not_isFinite (isFinite_sub_eq_false (.inr infinite))).resolve_right ?_
  rintro ⟨productFinite, -⟩
  obtain ⟨-, acrossFinite, -⟩ := Double.isFinite_mul productFinite
  rw [isFinite_sub_eq_false (.inr infinite)] at acrossFinite
  cases acrossFinite

theorem slide_of_finishAcross (startFinite : start.isFinite = true)
    (infinite : finishAcross.isFinite = false) :
    (slide start finish edge startAcross finishAcross).isNaN = true ∨
      (slide start finish edge startAcross finishAcross).isFinite = true ∧
        Double.value (slide start finish edge startAcross finishAcross) = Double.value start := by
  have distance : (finishAcross - startAcross).isFinite = false :=
    isFinite_sub_eq_false (.inl infinite)
  obtain nan | ⟨-, sign, zero⟩ :=
    @Double.div_of_not_isFinite ((finish - start) * (edge - startAcross)) _ distance
  · exact .inl (Double.isNaN_add (.inr nan))
  · exact .inr (Double.add_of_zero startFinite zero)

variable {point : Point Float} {rect : Rect Float} {segment : Segment Float}

theorem isFinite_across (finite : point.Finite) (edge : Edge) :
    (edge.across point).isFinite = true := by
  cases edge
  · exact finite.y
  · exact finite.y
  · exact finite.x
  · exact finite.x

theorem isFinite_along (finite : point.Finite) (edge : Edge) :
    (edge.along point).isFinite = true := by
  cases edge
  · exact finite.x
  · exact finite.x
  · exact finite.y
  · exact finite.y

theorem isFinite_level (finite : rect.Finite) (edge : Edge) :
    (edge.level rect).isFinite = true := by
  cases edge
  · exact finite.bottom
  · exact finite.top
  · exact finite.right
  · exact finite.left

theorem Edge.finite_of_coordinates (edge : Edge) (across : (edge.across point).isFinite = true)
    (along : (edge.along point).isFinite = true) : point.Finite := by
  cases edge
  · exact ⟨along, across⟩
  · exact ⟨along, across⟩
  · exact ⟨across, along⟩
  · exact ⟨across, along⟩

theorem not_beyond_of_isNaN {edge : Edge} (nan : (edge.across point).isNaN = true) :
    ¬edge.Beyond rect point := by
  cases edge
  · exact Double.not_lt_of_isNaN (.inr nan)
  · exact Double.not_lt_of_isNaN (.inl nan)
  · exact Double.not_lt_of_isNaN (.inr nan)
  · exact Double.not_lt_of_isNaN (.inl nan)

theorem isNaN_of_inside (finite : rect.Finite) (inside : ∀ edge : Edge, ¬edge.Beyond rect point)
    {edge : Edge} (infinite : (edge.across point).isFinite = false) :
    (edge.across point).isNaN = true := by
  have vertical (infinite : point.y.isFinite = false) : point.y.isNaN = true :=
    Double.isNaN_of_not_lt finite.top finite.bottom infinite (inside .top) (inside .bottom)
  have horizontal (infinite : point.x.isFinite = false) : point.x.isNaN = true :=
    Double.isNaN_of_not_lt finite.left finite.right infinite (inside .left) (inside .right)
  cases edge
  · exact vertical infinite
  · exact vertical infinite
  · exact horizontal infinite
  · exact horizontal infinite

theorem inside_of_isNaN_along (inOrder : rect.InOrder) {edge : Edge}
    (nan : (edge.along (crossing segment rect edge)).isNaN = true) (other : Edge) :
    ¬other.Beyond rect (crossing segment rect edge) := by
  intro beyond
  have adjacent := Edge.adjacent_of_beyond_crossing inOrder beyond
  exact not_beyond_of_isNaN (by rwa [adjacent.across_eq]) beyond

def Edge.outward (point : Point Float) : Edge → ℚ
  | bottom => Double.value point.y
  | top => -Double.value point.y
  | right => Double.value point.x
  | left => -Double.value point.x

def Edge.reach (rect : Rect Float) : Edge → ℚ
  | bottom => Double.value rect.bottom
  | top => -Double.value rect.top
  | right => Double.value rect.right
  | left => -Double.value rect.left

theorem beyond_iff_reach_lt (rectFinite : rect.Finite) {edge : Edge}
    (finite : (edge.across point).isFinite = true) :
    edge.Beyond rect point ↔ edge.reach rect < edge.outward point := by
  cases edge
  · exact Double.lt_iff_value rectFinite.bottom finite
  · exact (Double.lt_iff_value finite rectFinite.top).trans neg_lt_neg_iff.symm
  · exact Double.lt_iff_value rectFinite.right finite
  · exact (Double.lt_iff_value finite rectFinite.left).trans neg_lt_neg_iff.symm

theorem beyond_iff_of_finite (rectFinite : rect.Finite) (finite : point.Finite) {edge : Edge} :
    edge.Beyond rect point ↔ edge.reach rect < edge.outward point :=
  beyond_iff_reach_lt rectFinite (isFinite_across finite edge)

theorem not_beyond_iff_of_finite (rectFinite : rect.Finite) (finite : point.Finite) {edge : Edge} :
    ¬edge.Beyond rect point ↔ edge.outward point ≤ edge.reach rect := by
  rw [beyond_iff_of_finite rectFinite finite, not_lt]

theorem outward_eq_iff {edge : Edge} {other : Point Float} :
    edge.outward point = edge.outward other ↔
      Double.value (edge.across point) = Double.value (edge.across other) := by
  cases edge
  · exact Iff.rfl
  · exact neg_inj
  · exact Iff.rfl
  · exact neg_inj

theorem outward_opposite (edge : Edge) (point : Point Float) :
    edge.opposite.outward point = -edge.outward point := by
  cases edge
  · rfl
  · exact (neg_neg _).symm
  · rfl
  · exact (neg_neg _).symm

theorem outward_crossing (segment : Segment Float) (rect : Rect Float) (edge : Edge) :
    edge.outward (crossing segment rect edge) = edge.reach rect := by
  cases edge <;> rfl

theorem outward_crossing_adjacent {edge other : Edge} (adjacent : edge.Adjacent other)
    (finite : (edge.along (crossing segment rect edge)).isFinite = true) :
    other.outward (crossing segment rect edge) =
        slid (other.outward segment.start) (other.outward segment.finish) (edge.reach rect)
          (edge.outward segment.start) (edge.outward segment.finish) ∨
      other.outward (crossing segment rect edge) = other.outward segment.start := by
  have negate {moved place kept : ℚ} (either : moved = place ∨ moved = kept) :
      -moved = -place ∨ -moved = -kept := either.imp (congrArg Neg.neg) (congrArg Neg.neg)
  obtain ⟨differs, apart⟩ := adjacent
  rw [along_crossing] at finite
  have moved := value_slide finite
  cases edge <;> cases other <;> first
    | exact absurd rfl differs
    | exact absurd rfl apart
    | skip
  all_goals simp only [Edge.outward, Edge.reach, slid_neg, slid_neg_across]
  · exact moved
  · exact negate moved
  · exact moved
  · exact negate moved
  · exact moved
  · exact negate moved
  · exact moved
  · exact negate moved

end Finite

section Endless

variable {rect : Rect Float} {segment : Segment Float}

def Endless (rect : Rect Float) (segment : Segment Float) : Prop :=
  ∀ count, Cuts rect segment count

namespace Endless

variable (endless : Endless rect segment)

include endless

theorem unsettled : settled? segment rect = none := endless 1 0 one_pos

theorem cut : Endless rect (Clip.cut segment rect) :=
  fun count => (cuts_cut_iff endless.unsettled).mpr (endless (count + 1))

theorem not_both_inside (start : ∀ edge : Edge, ¬edge.Beyond rect segment.start)
    (finish : ∀ edge : Edge, ¬edge.Beyond rect segment.finish) : False := by
  cases endless.unsettled.symm.trans (settled?_eq_true.mpr ⟨start, finish⟩)

theorem not_isNaN (inOrder : rect.InOrder)
    (inside : ∀ edge : Edge, ¬edge.Beyond rect segment.start) {edge : Edge}
    (nan : (edge.across segment.start).isNaN = true) : False := by
  have next := endless.cut
  obtain ⟨beyond, -, -⟩ | ⟨-, beyond, moved⟩ := cut_cases endless.unsettled
  · exact inside _ beyond
  · rw [moved] at next
    refine next.not_both_inside inside (inside_of_isNaN_along inOrder ?_)
    rw [along_crossing]
    obtain same | same := Edge.across_cases (cutEdge segment rect) edge segment.start
    · exact isNaN_slide (Double.isFinite_of_isNaN (by rwa [← same]))
    · exact isNaN_slide_of_start (by rwa [← same])

omit endless in
theorem isFinite_of_start_cut (inOrder : rect.InOrder) (rectFinite : rect.Finite) {edge : Edge}
    {finish : Point Float} (later : Endless rect ⟨crossing segment rect edge, finish⟩) :
    (edge.along (crossing segment rect edge)).isFinite = true := by
  by_contra finite
  have infinite := Bool.eq_false_of_not_eq_true finite
  have next := later.cut
  obtain ⟨beyond, -, moved⟩ | ⟨inside, -, -⟩ := cut_cases later.unsettled
  · have adjacent := Edge.adjacent_of_beyond_crossing inOrder beyond
    obtain ⟨other, turned⟩ :=
      (cutEdge ⟨crossing segment rect edge, finish⟩ rect).exists_adjacent
    rw [moved] at next
    have nan : (Edge.along (crossing ⟨crossing segment rect edge, finish⟩ rect
        (cutEdge ⟨crossing segment rect edge, finish⟩ rect))
          (cutEdge ⟨crossing segment rect edge, finish⟩ rect)).isNaN = true := by
      rw [along_crossing]
      exact isNaN_slide (by rwa [adjacent.across_eq])
    exact next.not_isNaN inOrder (inside_of_isNaN_along inOrder nan)
      (turned.across_eq.symm ▸ nan)
  · obtain ⟨other, turned⟩ := edge.exists_adjacent
    have nan := isNaN_of_inside rectFinite inside (turned.across_eq.symm ▸ infinite)
    exact later.not_isNaN inOrder inside nan

omit endless in
theorem isFinite_of_finish_cut (inOrder : rect.InOrder) (rectFinite : rect.Finite) {edge : Edge}
    {start : Point Float} (finite : start.Finite)
    (inside : ∀ other : Edge, ¬other.Beyond rect start)
    (later : Endless rect ⟨start, crossing segment rect edge⟩) :
    (edge.along (crossing segment rect edge)).isFinite = true := by
  by_contra notFinite
  have infinite := Bool.eq_false_of_not_eq_true notFinite
  have next := later.cut
  obtain ⟨beyond, -, -⟩ | ⟨-, beyond, moved⟩ := cut_cases later.unsettled
  · exact inside _ beyond
  · have adjacent := Edge.adjacent_of_beyond_crossing inOrder beyond
    rw [moved] at next
    generalize cutEdge ⟨start, crossing segment rect edge⟩ rect = turn at *
    have slid := along_crossing ⟨start, crossing segment rect edge⟩ rect turn
    obtain nan | ⟨kept, same⟩ := slide_of_finishAcross (isFinite_along finite turn)
      (adjacent.across_eq.symm ▸ infinite : (turn.across (crossing segment rect edge)).isFinite =
        false)
    · exact next.not_both_inside inside (inside_of_isNaN_along inOrder (by rw [slid]; exact nan))
    · refine next.not_both_inside inside fun other out => inside other ?_
      have turned := Edge.adjacent_of_beyond_crossing inOrder out
      rw [← slid, ← turned.across_eq] at kept
      rw [← slid, ← turned.across_eq, ← turned.across_eq] at same
      rw [beyond_iff_reach_lt rectFinite kept, outward_eq_iff.mpr same] at out
      exact (beyond_iff_reach_lt rectFinite (isFinite_across finite other)).mpr out

theorem finite_cut (inOrder : rect.InOrder) (rectFinite : rect.Finite) (finite : segment.Finite) :
    (Clip.cut segment rect).Finite := by
  have next := endless.cut
  have level (edge : Edge) : (edge.across (crossing segment rect edge)).isFinite = true := by
    rw [across_crossing]
    exact isFinite_level rectFinite edge
  obtain ⟨-, -, moved⟩ | ⟨inside, -, moved⟩ := cut_cases endless.unsettled
  · rw [moved] at next ⊢
    exact ⟨Edge.finite_of_coordinates _ (level _)
      (isFinite_of_start_cut inOrder rectFinite next), finite.finish⟩
  · rw [moved] at next ⊢
    exact ⟨finite.start, Edge.finite_of_coordinates _ (level _)
      (isFinite_of_finish_cut inOrder rectFinite finite.start inside next)⟩

end Endless

end Endless

end Clip

end Raster
