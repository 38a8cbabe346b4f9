import Raster.Proofs.Clip.Rounded

/-!
How cuts of floating-point segments that never end begin. Rounding can take a start past the edge
across from the one it was cut at, but not all the way round the rectangle: it gets inside, and the
finish has not moved until then.
-/

namespace Raster

namespace Clip

open Float.Model Rounding

variable {rect : Rect Float} {segment : Segment Float}

theorem onGrid_outward {point : Point Float} (finite : point.Finite) (edge : Edge) :
    OnGrid Format.binary64 (edge.outward point) := by
  cases edge
  · exact Double.value_onGrid finite.y
  · exact (Double.value_onGrid finite.y).neg
  · exact Double.value_onGrid finite.x
  · exact (Double.value_onGrid finite.x).neg

theorem onGrid_reach (finite : rect.Finite) (edge : Edge) :
    OnGrid Format.binary64 (edge.reach rect) := by
  cases edge
  · exact Double.value_onGrid finite.bottom
  · exact (Double.value_onGrid finite.top).neg
  · exact Double.value_onGrid finite.right
  · exact (Double.value_onGrid finite.left).neg

namespace Edge

variable {edge other third : Edge}

theorem Adjacent.symm (adjacent : edge.Adjacent other) : other.Adjacent edge := by
  revert adjacent
  rw [Adjacent, Adjacent]
  cases edge <;> cases other <;> decide

theorem Adjacent.trans (adjacent : edge.Adjacent other) (next : other.Adjacent third) :
    third = edge ∨ third = edge.opposite := by
  revert adjacent next
  rw [Adjacent, Adjacent]
  cases edge <;> cases other <;> cases third <;> decide

end Edge

namespace Endless

theorem later (endless : Endless rect segment) (count : Nat) :
    Endless rect (afterCuts rect segment count) := by
  induction count with
  | zero => exact endless
  | succ count ih =>
      rw [afterCuts_succ]
      exact ih.cut

theorem finite_afterCuts (endless : Endless rect segment) (inOrder : rect.InOrder)
    (rectFinite : rect.Finite) (finite : segment.Finite) (count : Nat) :
    (afterCuts rect segment count).Finite := by
  induction count with
  | zero => exact finite
  | succ count ih =>
      rw [afterCuts_succ]
      exact (endless.later count).finite_cut inOrder rectFinite ih

theorem start_cut (endless : Endless rect segment) {edge : Edge}
    (outside : edge.Beyond rect segment.start) :
    (cutEdge segment rect).Beyond rect segment.start ∧
      ¬(cutEdge segment rect).Beyond rect segment.finish ∧
      Clip.cut segment rect =
        { segment with start := crossing segment rect (cutEdge segment rect) } :=
  (cut_cases endless.unsettled).resolve_right fun other => other.1 edge outside

theorem finish_cut (endless : Endless rect segment)
    (inside : ∀ edge : Edge, ¬edge.Beyond rect segment.start) :
    (cutEdge segment rect).Beyond rect segment.finish ∧
      Clip.cut segment rect =
        { segment with finish := crossing segment rect (cutEdge segment rect) } :=
  ((cut_cases endless.unsettled).resolve_left fun other => inside _ other.1).2

end Endless

/-- A start at one edge is cut at the next and is still outside, beyond a last edge. -/
structure Turn (rect : Rect Float) (first turn last : Edge) (start finish moved : Point Float) :
    Prop where
  adjacent : first.Adjacent turn
  next : turn.Adjacent last
  level : first.outward start = first.reach rect
  beyond : turn.reach rect < turn.outward start
  out : last.reach rect < last.outward moved
  clear : ∀ edge ∈ [first, turn, last], edge.outward finish ≤ edge.reach rect
  moved_eq : first.outward moved =
      slid (first.outward start) (first.outward finish) (turn.reach rect) (turn.outward start)
        (turn.outward finish) ∨
    first.outward moved = first.outward start

namespace Turn

variable {first turn last final : Edge} {start finish moved after : Point Float}
  (turned : Turn rect first turn last start finish moved)

include turned

theorem last_eq (rectFinite : rect.Finite) : last = first.opposite := by
  refine (turned.adjacent.trans turned.next).resolve_left ?_
  rintro rfl
  have firstClear := turned.clear last (by simp)
  have turnClear := turned.clear turn (by simp)
  have out := turned.out
  rw [← turned.level] at firstClear out
  obtain slid | kept := turned.moved_eq
  · rw [slid] at out
    have onGrid := onGrid_reach rectFinite last
    rw [← turned.level] at onGrid
    exact out.not_ge (slid_le onGrid firstClear turned.beyond.le
      (turnClear.trans turned.beyond.le))
  · exact out.ne' kept

theorem moved_eq_slid (rectFinite : rect.Finite) :
    slid (first.reach rect) (first.outward finish) (turn.reach rect) (turn.outward start)
      (turn.outward finish) = first.outward moved := by
  rw [← turned.level]
  refine (turned.moved_eq.resolve_right fun kept => ?_).symm
  have firstClear := turned.clear first (by simp)
  have lastClear := turned.clear last (by simp)
  have out := turned.out
  rw [turned.last_eq rectFinite, outward_opposite] at lastClear out
  rw [kept, turned.level] at out
  linarith

theorem overshoots (rectFinite : rect.Finite) (startFinite : start.Finite)
    (finishFinite : finish.Finite) : Overshoots (first.reach rect) (first.outward finish)
      (-first.opposite.reach rect) (turn.reach rect) (turn.outward start)
      (turn.outward finish) where
  numbers := ⟨onGrid_reach rectFinite first, onGrid_outward finishFinite first,
    (onGrid_reach rectFinite _).neg⟩
  numbersAcross := ⟨onGrid_reach rectFinite turn, onGrid_outward startFinite turn,
    onGrid_outward finishFinite turn⟩
  between := by
    have lastClear := turned.clear last (by simp)
    rw [turned.last_eq rectFinite, outward_opposite] at lastClear
    exact ⟨by linarith, turned.clear first (by simp)⟩
  across := ⟨turned.clear turn (by simp), turned.beyond⟩
  past := by
    have out := turned.out
    rw [turned.last_eq rectFinite, outward_opposite] at out
    rw [turned.moved_eq_slid rectFinite]
    linarith

theorem nearer (rectFinite : rect.Finite) (startFinite : start.Finite)
    (finishFinite : finish.Finite) (movedFinite : moved.Finite)
    (other : Turn rect turn last final moved finish after) :
    first.reach rect + first.opposite.reach rect <
      2 * (first.reach rect - first.outward finish) := by
  have once := turned.overshoots rectFinite startFinite finishFinite
  have twice := other.overshoots rectFinite movedFinite finishFinite
  have large : 2 * least ≤ product (first.reach rect) (first.outward finish) (turn.reach rect)
      (turn.outward start) := by
    refine ((whole_nearest _ _).eq_unit_or once.product_pos).resolve_left fun small => ?_
    have none := once.product_eq_zero small
    have some := twice.product_pos
    rw [turned.moved_eq_slid rectFinite, neg_neg, ← outward_opposite,
      ← turned.last_eq rectFinite] at none
    exact some.ne' none
  have most := once.quotient_le large
  have past := once.past
  have enough := once.quotient_ge
  linarith

end Turn

namespace Endless

variable (endless : Endless rect segment) (inOrder : rect.InOrder) (rectFinite : rect.Finite)
  (finite : segment.Finite)

include endless

theorem moved_start {count : Nat}
    (outside : ∃ edge : Edge, edge.Beyond rect (afterCuts rect segment count).start) :
    (afterCuts rect segment (count + 1)).start =
        crossing (afterCuts rect segment count) rect
          (cutEdge (afterCuts rect segment count) rect) ∧
      (afterCuts rect segment (count + 1)).finish =
        (afterCuts rect segment count).finish := by
  obtain ⟨edge, out⟩ := outside
  rw [afterCuts_succ, ((endless.later count).start_cut out).2.2]
  exact ⟨rfl, rfl⟩

include inOrder rectFinite finite

theorem turn (count : Nat)
    (outside : ∃ edge : Edge, edge.Beyond rect (afterCuts rect segment count).start)
    (still : ∃ edge : Edge, edge.Beyond rect (afterCuts rect segment (count + 1)).start)
    (again : ∃ edge : Edge, edge.Beyond rect (afterCuts rect segment (count + 2)).start) :
    Turn rect (cutEdge (afterCuts rect segment count) rect)
      (cutEdge (afterCuts rect segment (count + 1)) rect)
      (cutEdge (afterCuts rect segment (count + 2)) rect)
      (afterCuts rect segment (count + 1)).start
      (afterCuts rect segment count).finish
      (afterCuts rect segment (count + 2)).start := by
  have numbers := endless.finite_afterCuts inOrder rectFinite finite
  have nextFinite := (numbers (count + 1)).start
  have lastFinite := (numbers (count + 2)).start
  obtain ⟨moved, kept⟩ := endless.moved_start outside
  obtain ⟨movedAgain, keptAgain⟩ := endless.moved_start still
  obtain ⟨firstEdge, out⟩ := outside
  obtain ⟨nextEdge, nextOut⟩ := still
  obtain ⟨lastEdge, lastOut⟩ := again
  obtain ⟨-, firstClear, -⟩ := (endless.later count).start_cut out
  obtain ⟨nextBeyond, nextClear, -⟩ := (endless.later (count + 1)).start_cut nextOut
  obtain ⟨lastBeyond, lastClear, -⟩ := (endless.later (count + 2)).start_cut lastOut
  rw [kept] at nextClear
  rw [keptAgain, kept] at lastClear
  have adjacent := Edge.adjacent_of_beyond_crossing inOrder (moved ▸ nextBeyond)
  have next := Edge.adjacent_of_beyond_crossing inOrder (movedAgain ▸ lastBeyond)
  refine ⟨adjacent, next, ?_, (beyond_iff_of_finite rectFinite nextFinite).mp nextBeyond,
    (beyond_iff_of_finite rectFinite lastFinite).mp lastBeyond, ?_, ?_⟩
  · rw [moved, outward_crossing]
  · intro edge one
    rw [List.mem_cons, List.mem_cons, List.mem_singleton] at one
    rw [← not_beyond_iff_of_finite rectFinite (numbers count).finish]
    obtain rfl | rfl | rfl := one
    · exact firstClear
    · exact nextClear
    · exact lastClear
  · rw [← kept, movedAgain]
    exact outward_crossing_adjacent adjacent.symm (movedAgain ▸ isFinite_along lastFinite _)

omit inOrder rectFinite finite in
theorem kept_finish {count : Nat} (outside : ∀ earlier < count,
    ∃ edge : Edge, edge.Beyond rect (afterCuts rect segment earlier).start) :
    (afterCuts rect segment count).finish = segment.finish := by
  induction count with
  | zero => rfl
  | succ count ih =>
      rw [(endless.moved_start (outside count (Nat.lt_succ_self count))).2]
      exact ih fun earlier below => outside earlier (Nat.lt_succ_of_lt below)

theorem exists_start_inside : ∃ count, ∀ edge : Edge,
    ¬edge.Beyond rect (afterCuts rect segment count).start := by
  by_contra outside
  simp only [not_exists, not_forall, not_not] at outside
  have numbers := endless.finite_afterCuts inOrder rectFinite finite
  have turn (count : Nat) := endless.turn inOrder rectFinite finite count (outside count)
    (outside (count + 1)) (outside (count + 2))
  have kept (count : Nat) : (afterCuts rect segment count).finish = segment.finish :=
    endless.kept_finish fun earlier _ => outside earlier
  simp only [kept] at turn
  have early := (turn 0).nearer rectFinite (numbers 1).start finite.finish (numbers 2).start
    (turn 1)
  have late := (turn 2).nearer rectFinite (numbers 3).start finite.finish (numbers 4).start (turn 3)
  -- two turns on the finish would have to be nearer to the first edge as well
  rw [(turn 0).last_eq rectFinite, outward_opposite, Edge.opposite_opposite] at late
  linarith

/-- The start gets inside before the finish moves. -/
theorem exists_entry : ∃ count,
    (∀ edge : Edge, ¬edge.Beyond rect (afterCuts rect segment count).start) ∧
      (afterCuts rect segment count).finish = segment.finish := by
  classical
  have entered := endless.exists_start_inside inOrder rectFinite finite
  refine ⟨Nat.find entered, Nat.find_spec entered, endless.kept_finish fun earlier below => ?_⟩
  have outside := Nat.find_min entered below
  simpa only [not_forall, not_not] using outside

end Endless

end Clip

end Raster
