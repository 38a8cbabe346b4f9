import Raster.Proofs.Clip.Entry

/-!
Segments of floating-point numbers whose cuts never end. Once the start is inside, the finish goes
to and fro between two edges, always farther out or always less far, until it comes again.
-/

namespace Raster

namespace Clip

open Float.Model Rounding

section Recurrence

variable {α : Type} [LT α] [DecidableLT α] [Add α] [Sub α] [Mul α] [Div α]
  {rect : Rect α} {segment : Segment α} {first second : Nat}

theorem afterCuts_add (count more : Nat) : afterCuts rect segment (count + more) =
    afterCuts rect (afterCuts rect segment more) count :=
  Function.iterate_add_apply _ count more segment

theorem Cuts.of_recurs (cuts : Cuts rect segment second) (before : first < second)
    (recurs : afterCuts rect segment first = afterCuts rect segment second) (count : Nat) :
    Cuts rect segment count := by
  intro earlier _
  induction earlier using Nat.strongRecOn with
  | ind earlier ih =>
      by_cases known : earlier < second
      · exact cuts earlier known
      · obtain ⟨rest, rfl⟩ := Nat.exists_eq_add_of_le' (Nat.le_of_not_lt known)
        rw [afterCuts_add, ← recurs, ← afterCuts_add]
        exact ih (rest + first) (Nat.add_lt_add_left before rest) (by omega)

theorem segment?_eq_none_iff :
    segment? segment rect = none ↔ ∀ count, Cuts rect segment count := by
  rw [← not_iff_not, ← ne_eq, segment?_ne_none_iff, not_forall]

theorem eq_of_keeps_on {along : ℕ → ℚ} {places : ℕ}
    (keepsOn : ∀ place, (along place ≤ along (place + 1) → along (place + 1) ≤ along (place + 2)) ∧
      (along (place + 1) ≤ along place → along (place + 2) ≤ along (place + 1)))
    (last : along 0 = along (places + 1)) : along 0 = along 1 := by
  obtain more | less := le_total (along 0) (along 1)
  · have mono : Monotone along := monotone_nat_of_le_succ fun place => by
      induction place with
      | zero => exact more
      | succ place ih => exact (keepsOn place).1 ih
    exact le_antisymm more ((mono (Nat.le_add_left 1 places)).trans_eq last.symm)
  · have anti : Antitone along := antitone_nat_of_succ_le fun place => by
      induction place with
      | zero => exact less
      | succ place ih => exact (keepsOn place).2 ih
    exact le_antisymm (last.trans_le (anti (Nat.le_add_left 1 places))) less

end Recurrence

instance finiteFloat : Finite Float :=
  Finite.of_injective (fun number : Float => number.toModel.toBits.toBitVec.toFin) <| by
    rintro ⟨⟨⟨⟨left⟩⟩, _⟩⟩ ⟨⟨⟨⟨right⟩⟩, _⟩⟩ same
    cases same
    rfl

instance finiteSegment : Finite (Segment Float) :=
  Finite.of_injective
    (fun segment : Segment Float => (segment.start.x, segment.start.y, segment.finish.x,
      segment.finish.y)) <| by
    rintro ⟨⟨_, _⟩, _, _⟩ ⟨⟨_, _⟩, _, _⟩ same
    cases same
    rfl

variable {rect : Rect Float} {segment : Segment Float}

/-- How far out the finish is at the edge of the next cut. -/
def excursion (rect : Rect Float) (segment : Segment Float) : ℚ :=
  (cutEdge segment rect).outward segment.finish

namespace Endless

variable (endless : Endless rect segment) (inOrder : rect.InOrder) (rectFinite : rect.Finite)
  (finite : segment.Finite)

include endless inOrder rectFinite finite

section Inside

variable (inside : ∀ edge : Edge, ¬edge.Beyond rect segment.start)

include inside

omit inOrder rectFinite finite in
theorem moved_finish (count : Nat) :
    (afterCuts rect segment (count + 1)).start = segment.start ∧
      (afterCuts rect segment (count + 1)).finish =
        crossing (afterCuts rect segment count) rect
          (cutEdge (afterCuts rect segment count) rect) := by
  have kept : (afterCuts rect segment count).start = segment.start := by
    induction count with
    | zero => rfl
    | succ count ih =>
        rw [afterCuts_succ, ((endless.later count).finish_cut (ih ▸ inside)).2]
        exact ih
  rw [afterCuts_succ, ((endless.later count).finish_cut (kept ▸ inside)).2]
  exact ⟨kept, rfl⟩

omit inOrder rectFinite finite in
theorem start_eq (count : Nat) : (afterCuts rect segment count).start = segment.start := by
  cases count with
  | zero => rfl
  | succ count => exact (endless.moved_finish inside count).1

omit inOrder rectFinite finite in
theorem finish_beyond (count : Nat) : (cutEdge (afterCuts rect segment count) rect).Beyond rect
    (afterCuts rect segment count).finish :=
  ((endless.later count).finish_cut (endless.start_eq inside count ▸ inside)).1

omit rectFinite finite in
theorem turned (count : Nat) : (cutEdge (afterCuts rect segment count) rect).Adjacent
    (cutEdge (afterCuts rect segment (count + 1)) rect) :=
  Edge.adjacent_of_beyond_crossing inOrder
    ((endless.moved_finish inside count).2 ▸ endless.finish_beyond inside (count + 1))

/-- With the start inside, the finish is cut at two edges in turn. -/
theorem back_and_forth (count : Nat) :
    cutEdge (afterCuts rect segment (count + 2)) rect =
        cutEdge (afterCuts rect segment count) rect ∧
      (cutEdge (afterCuts rect segment count) rect).outward
          (afterCuts rect segment (count + 2)).finish =
        slid ((cutEdge (afterCuts rect segment count) rect).outward segment.start)
          ((cutEdge (afterCuts rect segment count) rect).reach rect)
          ((cutEdge (afterCuts rect segment (count + 1)) rect).reach rect)
          ((cutEdge (afterCuts rect segment (count + 1)) rect).outward segment.start)
          ((cutEdge (afterCuts rect segment (count + 1)) rect).outward
            (afterCuts rect segment (count + 1)).finish) := by
  have numbers := endless.finite_afterCuts inOrder rectFinite finite
  have adjacent := endless.turned inOrder inside count
  have next := endless.turned inOrder inside (count + 1)
  have beyond := endless.finish_beyond inside (count + 1)
  have out := endless.finish_beyond inside (count + 2)
  rw [beyond_iff_of_finite rectFinite (numbers (count + 1)).finish] at beyond
  rw [beyond_iff_of_finite rectFinite (numbers (count + 2)).finish] at out
  have clear (edge : Edge) : edge.outward segment.start ≤ edge.reach rect :=
    (not_beyond_iff_of_finite rectFinite finite.start).mp (inside edge)
  have moved := outward_crossing_adjacent adjacent.symm
    ((endless.moved_finish inside (count + 1)).2 ▸ isFinite_along (numbers (count + 2)).finish _)
  rw [← (endless.moved_finish inside (count + 1)).2, endless.start_eq inside,
    (endless.moved_finish inside count).2, outward_crossing,
    ← (endless.moved_finish inside count).2] at moved
  generalize cutEdge (afterCuts rect segment count) rect = first at *
  generalize cutEdge (afterCuts rect segment (count + 1)) rect = turn at *
  generalize cutEdge (afterCuts rect segment (count + 2)) rect = last at *
  have onGrid := onGrid_outward finite.start first
  have onward : first.outward segment.start ≤
      first.outward (afterCuts rect segment (count + 2)).finish := by
    obtain slid | kept := moved
    · rw [slid]
      exact le_slid onGrid (clear first) (clear turn) ((clear turn).trans beyond.le)
    · exact kept.ge
  have same : last = first := by
    refine (adjacent.trans next).resolve_right ?_
    rintro rfl
    have other := clear first.opposite
    rw [outward_opposite] at other out
    linarith
  rw [same] at out
  exact ⟨same, moved.resolve_right fun kept => (kept ▸ out).not_ge (clear first)⟩

theorem sameEdge_add (count places : Nat) :
    cutEdge (afterCuts rect segment (count + 2 * places)) rect =
      cutEdge (afterCuts rect segment count) rect := by
  induction places with
  | zero => rfl
  | succ places ih =>
      exact ((endless.back_and_forth inOrder rectFinite finite inside (count + 2 * places)).1).trans
        ih

theorem excursion_antitone {count other : Nat}
    (same : cutEdge (afterCuts rect segment count) rect =
      cutEdge (afterCuts rect segment other) rect)
    (sameNext : cutEdge (afterCuts rect segment (count + 1)) rect =
      cutEdge (afterCuts rect segment (other + 1)) rect)
    (le : excursion rect (afterCuts rect segment (count + 1)) ≤
      excursion rect (afterCuts rect segment (other + 1))) :
    excursion rect (afterCuts rect segment (other + 2)) ≤
      excursion rect (afterCuts rect segment (count + 2)) := by
  have numbers := endless.finite_afterCuts inOrder rectFinite finite
  obtain ⟨back, moved⟩ := endless.back_and_forth inOrder rectFinite finite inside count
  obtain ⟨otherBack, otherMoved⟩ := endless.back_and_forth inOrder rectFinite finite inside other
  have beyond := endless.finish_beyond inside (count + 1)
  rw [beyond_iff_of_finite rectFinite (numbers (count + 1)).finish] at beyond
  have clear (edge : Edge) : edge.outward segment.start ≤ edge.reach rect :=
    (not_beyond_iff_of_finite rectFinite finite.start).mp (inside edge)
  rw [excursion, excursion, ← sameNext] at le
  rw [excursion, excursion, back, otherBack, moved, otherMoved, ← same, ← sameNext]
  refine slid_antitone (clear _) (clear _) ?_ ((clear _).trans_lt beyond) le
  exact (onGrid_outward (numbers (count + 1)).finish _).whole.sub
    (onGrid_outward finite.start _).whole

theorem excursion_keeps_on (count : Nat) :
    (excursion rect (afterCuts rect segment (count + 1)) ≤
        excursion rect (afterCuts rect segment (count + 3)) →
      excursion rect (afterCuts rect segment (count + 3)) ≤
        excursion rect (afterCuts rect segment (count + 5))) ∧
    (excursion rect (afterCuts rect segment (count + 3)) ≤
        excursion rect (afterCuts rect segment (count + 1)) →
      excursion rect (afterCuts rect segment (count + 5)) ≤
        excursion rect (afterCuts rect segment (count + 3))) := by
  have back (count : Nat) := (endless.back_and_forth inOrder rectFinite finite inside count).1
  have antitone {first second : Nat} :=
    @excursion_antitone rect segment endless inOrder rectFinite finite inside first second
  constructor
  · intro more
    have less := antitone (back count).symm (back (count + 1)).symm more
    exact antitone (back (count + 1)) (back (count + 2)) less
  · intro less
    have more := antitone (back count) (back (count + 1)) less
    exact antitone (back (count + 1)).symm (back (count + 2)).symm more

theorem excursion_recurs : ∃ count, excursion rect (afterCuts rect segment (count + 1)) =
    excursion rect (afterCuts rect segment (count + 3)) := by
  have edges := endless.sameEdge_add inOrder rectFinite finite inside
  have keepsOn := endless.excursion_keeps_on inOrder rectFinite finite inside
  obtain ⟨first, second, before, recurs⟩ : ∃ first second, first < second ∧
      afterCuts rect segment (first + 1) = afterCuts rect segment (second + 1) := by
    obtain ⟨first, second, differ, recurs⟩ := Finite.exists_ne_map_eq_of_infinite
      fun count => afterCuts rect segment (count + 1)
    obtain less | greater := Nat.lt_or_gt_of_ne differ
    · exact ⟨first, second, less, recurs⟩
    · exact ⟨second, first, greater, recurs.symm⟩
  obtain ⟨rest, rfl⟩ := Nat.exists_eq_add_of_lt before
  obtain ⟨places, rfl | rfl⟩ := Nat.even_or_odd' rest
  · -- the finish does not come again after an odd number of cuts, at an edge next to the first
    have differs := (endless.turned inOrder inside (first + 1)).1
    have index : first + 2 * places + 1 + 1 = first + 2 + 2 * places := by omega
    rw [recurs, index, edges] at differs
    exact (differs rfl).elim
  · have index : first + (2 * places + 1) + 1 + 1 = first + 2 * (places + 1) + 1 := by omega
    have last := congrArg (excursion rect) recurs
    rw [index] at last
    exact ⟨first, @eq_of_keeps_on
      (fun place => excursion rect (afterCuts rect segment (first + 2 * place + 1))) places
      (fun place => keepsOn (first + 2 * place)) last⟩

theorem recurs_of_inside : ∃ count,
    afterCuts rect segment (count + 2) = afterCuts rect segment count := by
  obtain ⟨count, excursions⟩ := endless.excursion_recurs inOrder rectFinite finite inside
  have numbers := endless.finite_afterCuts inOrder rectFinite finite
  have kept := endless.start_eq inside
  have back (count : Nat) := (endless.back_and_forth inOrder rectFinite finite inside count).1
  have moved (count : Nat) := (endless.moved_finish inside count).2
  have adjacent := endless.turned inOrder inside count
  have along : (cutEdge (afterCuts rect segment (count + 1)) rect).along
        (afterCuts rect segment (count + 3)).finish =
      (cutEdge (afterCuts rect segment (count + 1)) rect).along
        (afterCuts rect segment (count + 1)).finish := by
    rw [moved (count + 2), moved count, back, adjacent.along_eq, adjacent.along_eq,
      across_crossing, across_crossing]
  have beyond := endless.finish_beyond inside (count + 1)
  have second := moved (count + 1)
  have fourth := moved (count + 3)
  rw [back] at fourth
  rw [excursion, excursion, back] at excursions
  rw [beyond_iff_of_finite rectFinite (numbers (count + 1)).finish] at beyond
  generalize cutEdge (afterCuts rect segment (count + 1)) rect = edge at *
  have clear := (not_beyond_iff_of_finite rectFinite finite.start).mp (inside edge)
  have span := Double.sub_eq_of_value_eq (isFinite_across (numbers (count + 1)).finish edge)
    (isFinite_across (numbers (count + 3)).finish edge) (isFinite_across finite.start edge)
    (outward_eq_iff.mp excursions) fun same => clear.not_gt (outward_eq_iff.mpr same ▸ beyond)
  have finish : (afterCuts rect segment (count + 4)).finish =
      (afterCuts rect segment (count + 2)).finish := by
    rw [fourth, second]
    refine Edge.ext edge ((across_crossing ..).trans (across_crossing ..).symm) ?_
    rw [along_crossing, along_crossing, slide, slide, kept, kept, along, span]
  exact ⟨count + 2,
    congrArg₂ Segment.mk ((kept (count + 4)).trans (kept (count + 2)).symm) finish⟩

end Inside

theorem recurs : ∃ count,
    afterCuts rect segment (count + 2) = afterCuts rect segment count := by
  obtain ⟨entry, inside, -⟩ := endless.exists_entry inOrder rectFinite finite
  obtain ⟨count, again⟩ := (endless.later entry).recurs_of_inside inOrder rectFinite
    (endless.finite_afterCuts inOrder rectFinite finite entry) inside
  refine ⟨count + entry, ?_⟩
  rw [Nat.add_right_comm, afterCuts_add, afterCuts_add count entry]
  exact again

end Endless

end Clip

/-- Clipping a finite segment to a finite rectangle in order does not return exactly if a segment
that is still open comes again two cuts later. It does return if the finish is inside at first, and
after four cuts at most if none of them goes astray. -/
theorem clip_ends {segment : Segment Float} {rect : Rect Float} (inOrder : rect.InOrder)
    (rectFinite : rect.Finite) (finite : segment.Finite) :
    (clipSegment? segment rect = none ↔ ∃ count, Clip.Cuts rect segment (count + 2) ∧
      Clip.afterCuts rect segment (count + 2) = Clip.afterCuts rect segment count) ∧
    ((Clip.outcode segment.finish rect).isInside = true → clipSegment? segment rect ≠ none) ∧
    ((∀ count, Clip.Cuts rect segment (count + 1) →
        ¬Clip.Astray (Clip.afterCuts rect segment count) rect) →
      clipSegment? segment rect ≠ none ∧ ∀ count, Clip.Cuts rect segment count → count ≤ 4) := by
  refine ⟨?_, fun inside forever => ?_, fun straight => ?_⟩
  · rw [clipSegment?, Clip.segment?_eq_none_iff]
    constructor
    · intro endless
      obtain ⟨count, recurs⟩ := Clip.Endless.recurs endless inOrder rectFinite finite
      exact ⟨count, endless (count + 2), recurs⟩
    · rintro ⟨count, cuts, recurs⟩
      exact cuts.of_recurs (Nat.lt_add_of_pos_right two_pos) recurs.symm
  · have endless : Clip.Endless rect segment := Clip.segment?_eq_none_iff.mp forever
    obtain ⟨entry, entered, kept⟩ := endless.exists_entry inOrder rectFinite finite
    exact (endless.later entry).not_both_inside entered
      (kept ▸ Clip.isInside_outcode.mp inside)
  · have few (count : Nat) (cuts : Clip.Cuts rect segment count) : count ≤ 4 :=
      (cuts.le_violations inOrder fun earlier below =>
        straight earlier (cuts.mono below)).trans (Clip.violations_le segment rect)
    exact ⟨Clip.segment?_ne_none_iff.mpr ⟨5, fun cuts => absurd (few 5 cuts) (by decide)⟩, few⟩

namespace Clip

def cornered : Rect Float := ⟨-1, -1, 0.1, 0.1⟩

def diagonal : Segment Float := ⟨⟨-1, -1⟩, ⟨1, 1⟩⟩

theorem cuts_diagonal : Cuts cornered diagonal 3 := by decide

theorem diagonal_recurs : afterCuts cornered diagonal 3 = afterCuts cornered diagonal 1 := by
  decide +kernel

theorem not_astray_throughSides {count : Nat} (cuts : Cuts unitSquare throughSides (count + 1)) :
    ¬Astray (afterCuts unitSquare throughSides count) unitSquare := by
  have few : count < 2 := by
    by_contra many
    have three : ¬Cuts unitSquare throughSides 3 := by decide
    exact three (cuts.mono (Nat.succ_le_succ (Nat.le_of_not_lt many)))
  simp only [Astray, Edge.exists_iff, Edge.Beyond]
  interval_cases count
  · decide
  · decide

end Clip

theorem clip_ends_diagonal :
    (Clip.cornered.InOrder ∧ Clip.cornered.Finite ∧ Clip.diagonal.Finite) ∧
    clipSegment? Clip.diagonal Clip.cornered = none ∧
    clipSegment? ⟨Clip.diagonal.finish, Clip.diagonal.start⟩ Clip.cornered ≠ none ∧
    clipSegment? Clip.throughSides Clip.unitSquare ≠ none := by
  have inOrder : Clip.cornered.InOrder := ⟨by decide, by decide⟩
  have rectFinite : Clip.cornered.Finite := ⟨by decide, by decide, by decide, by decide⟩
  have finite : Clip.diagonal.Finite := ⟨⟨by decide, by decide⟩, ⟨by decide, by decide⟩⟩
  have backFinite : Segment.Finite ⟨Clip.diagonal.finish, Clip.diagonal.start⟩ :=
    ⟨finite.finish, finite.start⟩
  have throughFinite : Clip.throughSides.Finite := ⟨⟨by decide, by decide⟩, ⟨by decide, by decide⟩⟩
  exact ⟨⟨inOrder, rectFinite, finite⟩,
    (clip_ends inOrder rectFinite finite).1.mpr ⟨1, Clip.cuts_diagonal, Clip.diagonal_recurs⟩,
    (clip_ends inOrder rectFinite backFinite).2.1 (by decide),
    ((clip_ends ⟨by decide, by decide⟩ ⟨by decide, by decide, by decide, by decide⟩
      throughFinite).2.2 fun _ => Clip.not_astray_throughSides).1⟩

theorem clip_runs_on : Clip.cornered.left ≤ Clip.cornered.right ∧
    Clip.cornered.top ≤ Clip.cornered.bottom ∧ Clip.cornered.Finite ∧ Clip.diagonal.Finite ∧
    ∀ count, Clip.Cuts Clip.cornered Clip.diagonal count :=
  ⟨by decide, by decide, ⟨by decide, by decide, by decide, by decide⟩,
    ⟨⟨by decide, by decide⟩, ⟨by decide, by decide⟩⟩,
    Clip.cuts_diagonal.of_recurs (by decide) Clip.diagonal_recurs.symm⟩

end Raster
