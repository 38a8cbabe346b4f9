import Raster.Proofs.Clip.Settling

/-!
Progress of the cuts. An end that was moved to an edge is beyond neither that edge nor the one
across from it. So long as no cut takes an end beyond an edge that no end was beyond, each cut
leaves fewer edges with an end beyond them, and four settle a segment.
-/

namespace Raster

/-- No edge is past the one across from it, as far as the comparison can tell. -/
structure Rect.InOrder {α : Type} [LT α] (rect : Rect α) : Prop where
  wide : ¬rect.right < rect.left
  high : ¬rect.bottom < rect.top

namespace Clip

def Edge.opposite : Edge → Edge
  | bottom => top
  | top => bottom
  | right => left
  | left => right

theorem Edge.opposite_opposite (edge : Edge) : edge.opposite.opposite = edge := by
  cases edge <;> rfl

/-- How many of the two directions a point is out in. -/
def Outcode.count (code : Outcode) : Nat :=
  (code.below || code.above).toNat + (code.right || code.left).toNat

section Crossing

variable {α : Type} [LT α] [Add α] [Sub α] [Mul α] [Div α] {segment : Segment α} {rect : Rect α}

theorem not_beyond_crossing [Std.Irrefl (fun first second : α => first < second)] (edge : Edge) :
    ¬edge.Beyond rect (crossing segment rect edge) := by
  cases edge <;> exact Std.Irrefl.irrefl (r := fun first second : α => first < second) _

theorem not_beyond_opposite_crossing (inOrder : rect.InOrder) (edge : Edge) :
    ¬edge.opposite.Beyond rect (crossing segment rect edge) := by
  cases edge
  · exact inOrder.high
  · exact inOrder.high
  · exact inOrder.wide
  · exact inOrder.wide

end Crossing

section Count

variable {α : Type} [LT α] [DecidableLT α] {rect : Rect α}

theorem count_pos {point : Point α} {edge : Edge} (beyond : edge.Beyond rect point) :
    0 < (outcode point rect).count := by
  cases edge <;> simp_all [Edge.Beyond, outcode, Outcode.count]

theorem count_lt {moved point : Point α} {edge : Edge} (beyond : edge.Beyond rect point)
    (off : ¬edge.Beyond rect moved) (clear : ¬edge.opposite.Beyond rect moved)
    (fewer : ∀ other : Edge, other.Beyond rect moved → other.Beyond rect point) :
    (outcode moved rect).count < (outcode point rect).count := by
  have below := fewer .bottom
  have above := fewer .top
  have right := fewer .right
  have left := fewer .left
  cases edge <;> grind [Edge.Beyond, outcode, Outcode.count, Edge.opposite]

def violations (segment : Segment α) (rect : Rect α) : Nat :=
  (outcode segment.start rect).count + (outcode segment.finish rect).count

theorem violations_le (segment : Segment α) (rect : Rect α) : violations segment rect ≤ 4 := by
  have few (code : Outcode) : code.count ≤ 2 :=
    Nat.add_le_add (Bool.toNat_le _) (Bool.toNat_le _)
  exact Nat.add_le_add (few _) (few _)

end Count

section Cuts

variable {α : Type} [LT α] [DecidableLT α] [Add α] [Sub α] [Mul α] [Div α]

/-- The next cut takes an end beyond an edge that neither end is beyond. -/
def Astray (segment : Segment α) (rect : Rect α) : Prop :=
  ∃ edge : Edge, (edge.Beyond rect (cut segment rect).start ∨
      edge.Beyond rect (cut segment rect).finish) ∧
    ¬edge.Beyond rect segment.start ∧ ¬edge.Beyond rect segment.finish

variable [Std.Irrefl (fun first second : α => first < second)] {segment : Segment α} {rect : Rect α}

/-- A cut that does not go astray leaves fewer violations, or settles the segment. -/
theorem violations_cut_lt (inOrder : rect.InOrder) (unsettled : settled? segment rect = none)
    (straight : ¬Astray segment rect) (still : settled? (cut segment rect) rect = none) :
    violations (cut segment rect) rect < violations segment rect := by
  have apart := (settled?_eq_none.mp still).2
  simp only [Astray, not_exists, not_and, not_not] at straight
  obtain ⟨beyond, -, moved⟩ | ⟨inside, beyond, moved⟩ := cut_cases unsettled
  · rw [moved] at apart straight ⊢
    refine Nat.add_lt_add_right (count_lt beyond (not_beyond_crossing _)
      (not_beyond_opposite_crossing inOrder _) fun other out => ?_) _
    by_contra entered
    exact apart other out (straight other (.inl out) entered)
  · rw [moved] at straight ⊢
    exact Nat.add_lt_add_left (count_lt beyond (not_beyond_crossing _)
      (not_beyond_opposite_crossing inOrder _) fun other out =>
        straight other (.inr out) (inside other)) _

theorem violations_afterCuts (inOrder : rect.InOrder) {count : Nat}
    (cuts : Cuts rect segment (count + 1))
    (straight : ∀ earlier < count, ¬Astray (afterCuts rect segment earlier) rect) :
    violations (afterCuts rect segment count) rect + count ≤ violations segment rect := by
  induction count with
  | zero => exact Nat.le_refl _
  | succ count ih =>
      obtain ⟨before, unsettled⟩ := cuts_succ_iff.mp cuts
      have bound := ih before fun earlier below => straight earlier (Nat.lt_succ_of_lt below)
      rw [afterCuts_succ] at unsettled ⊢
      have less := violations_cut_lt inOrder (cuts_succ_iff.mp before).2
        (straight count (Nat.lt_succ_self count)) unsettled
      omega

theorem Cuts.le_violations (inOrder : rect.InOrder) {count : Nat} (cuts : Cuts rect segment count)
    (straight : ∀ earlier < count, ¬Astray (afterCuts rect segment earlier) rect) :
    count ≤ violations segment rect := by
  cases count with
  | zero => exact Nat.zero_le _
  | succ count =>
      have bound := violations_afterCuts inOrder cuts fun earlier below =>
        straight earlier (Nat.lt_succ_of_lt below)
      obtain ⟨⟨edge, out⟩, -⟩ := settled?_eq_none.mp (cuts_succ_iff.mp cuts).2
      have some : 0 < violations (afterCuts rect segment count) rect :=
        out.elim (fun out => Nat.add_pos_left (count_pos out) _)
          fun out => Nat.add_pos_right _ (count_pos out)
      omega

end Cuts

end Clip

end Raster
