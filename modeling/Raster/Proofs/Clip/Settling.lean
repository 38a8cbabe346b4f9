import Mathlib
import Raster.Geometry.Clip

/-!
The loop that cuts a segment, over numbers and arithmetic of any kind: what a cut moves where, what
the loop returns, when it returns at all, and what the outcome says of the segment.
-/

namespace Raster

namespace Clip

inductive Edge where
  | bottom
  | top
  | right
  | left
deriving DecidableEq, Repr

def Outcode.firstEdge (code : Outcode) : Edge :=
  if code.below then .bottom else if code.above then .top else if code.right then .right else .left

section Outcodes

variable {α : Type} [LT α]

def Edge.Beyond (rect : Rect α) (point : Point α) : Edge → Prop
  | bottom => rect.bottom < point.y
  | top => point.y < rect.top
  | right => rect.right < point.x
  | left => point.x < rect.left

theorem Edge.exists_iff {holds : Edge → Prop} : (∃ edge, holds edge) ↔
    ((holds bottom ∨ holds top) ∨ holds right) ∨ holds left := by
  constructor
  · rintro ⟨_ | _ | _ | _, held⟩
    · exact .inl (.inl (.inl held))
    · exact .inl (.inl (.inr held))
    · exact .inl (.inr held)
    · exact .inr held
  · rintro (((held | held) | held) | held) <;> exact ⟨_, held⟩

variable [DecidableLT α] {point other : Point α} {segment : Segment α} {rect : Rect α}

theorem isInside_outcode_eq_false :
    (outcode point rect).isInside = false ↔ ∃ edge : Edge, edge.Beyond rect point := by
  simp only [outcode, Outcode.isInside, Bool.not_eq_false', Bool.or_eq_true, decide_eq_true_eq,
    Edge.exists_iff, Edge.Beyond]

theorem isInside_outcode :
    (outcode point rect).isInside = true ↔ ∀ edge : Edge, ¬edge.Beyond rect point := by
  rw [← Bool.not_eq_false, isInside_outcode_eq_false, not_exists]

theorem beyond_firstEdge (outside : (outcode point rect).isInside = false) :
    (outcode point rect).firstEdge.Beyond rect point := by
  obtain ⟨edge, beyond⟩ := isInside_outcode_eq_false.mp outside
  simp only [Outcode.firstEdge, outcode, decide_eq_true_eq]
  split_ifs with below above right
  · exact below
  · exact above
  · exact right
  · cases edge with
    | bottom => exact absurd beyond below
    | top => exact absurd beyond above
    | right => exact absurd beyond right
    | left => exact beyond

theorem meets_outcode : (outcode point rect).meets (outcode other rect) = true ↔
    ∃ edge : Edge, edge.Beyond rect point ∧ edge.Beyond rect other := by
  simp only [outcode, Outcode.meets, Bool.or_eq_true, Bool.and_eq_true, decide_eq_true_eq,
    Edge.exists_iff, Edge.Beyond]

theorem settled?_eq_true_iff_isInside : settled? segment rect = some true ↔
    (outcode segment.start rect).isInside = true ∧
      (outcode segment.finish rect).isInside = true := by
  rw [← Bool.and_eq_true, settled?]
  split
  · simp only [*]
  · split <;> simp only [*, Option.some.injEq, reduceCtorEq, Bool.false_eq_true]

theorem settled?_eq_true : settled? segment rect = some true ↔
    (∀ edge : Edge, ¬edge.Beyond rect segment.start) ∧
      ∀ edge : Edge, ¬edge.Beyond rect segment.finish := by
  rw [settled?_eq_true_iff_isInside, isInside_outcode, isInside_outcode]

theorem settled?_eq_false : settled? segment rect = some false ↔
    ∃ edge : Edge, edge.Beyond rect segment.start ∧ edge.Beyond rect segment.finish := by
  rw [← meets_outcode, settled?]
  split
  · rename_i bothInside
    rw [Bool.and_eq_true, isInside_outcode] at bothInside
    simp only [Option.some.injEq, Bool.true_eq_false, false_iff, meets_outcode]
    rintro ⟨edge, beyond, -⟩
    exact bothInside.1 edge beyond
  · split <;> simp only [*, reduceCtorEq, Bool.false_eq_true]

theorem settled?_eq_none : settled? segment rect = none ↔
    (∃ edge : Edge, edge.Beyond rect segment.start ∨ edge.Beyond rect segment.finish) ∧
      ∀ edge : Edge, edge.Beyond rect segment.start → ¬edge.Beyond rect segment.finish := by
  constructor
  · intro unsettled
    refine ⟨?_, fun edge first second => ?_⟩
    · by_contra inside
      simp only [not_exists, not_or, forall_and] at inside
      cases unsettled.symm.trans (settled?_eq_true.mpr inside)
    · cases unsettled.symm.trans (settled?_eq_false.mpr ⟨edge, first, second⟩)
  · rintro ⟨⟨edge, outside⟩, apart⟩
    cases decided : settled? segment rect with
    | none => rfl
    | some visible =>
        cases visible with
        | false =>
            obtain ⟨edge, first, second⟩ := settled?_eq_false.mp decided
            exact absurd second (apart edge first)
        | true =>
            obtain ⟨startInside, finishInside⟩ := settled?_eq_true.mp decided
            exact absurd outside (not_or.mpr ⟨startInside edge, finishInside edge⟩)

end Outcodes

section Cutting

variable {α : Type} [Add α] [Sub α] [Mul α] [Div α]

/-- How far a segment goes across an edge; cuts at the edge divide by it. -/
def Edge.span (segment : Segment α) : Edge → α
  | bottom | top => segment.finish.y - segment.start.y
  | right | left => segment.finish.x - segment.start.x

/-- Where a segment crosses an edge, or the line that the edge is on. -/
def crossing (segment : Segment α) (rect : Rect α) (edge : Edge) : Point α :=
  let start := segment.start
  let finish := segment.finish
  match edge with
  | .bottom => ⟨start.x + (finish.x - start.x) * (rect.bottom - start.y) / edge.span segment,
      rect.bottom⟩
  | .top => ⟨start.x + (finish.x - start.x) * (rect.top - start.y) / edge.span segment, rect.top⟩
  | .right => ⟨rect.right,
      start.y + (finish.y - start.y) * (rect.right - start.x) / edge.span segment⟩
  | .left => ⟨rect.left,
      start.y + (finish.y - start.y) * (rect.left - start.x) / edge.span segment⟩

theorem cutPoint_eq_crossing (segment : Segment α) (rect : Rect α) (code : Outcode) :
    cutPoint segment rect code = crossing segment rect code.firstEdge := by
  rw [cutPoint, Outcode.firstEdge]
  split
  · rfl
  · split
    · rfl
    · split <;> rfl

variable [LT α] [DecidableLT α]

/-- The edge of the next cut: one that the start is beyond, or else one that the finish is. -/
def cutEdge (segment : Segment α) (rect : Rect α) : Edge :=
  if (outcode segment.start rect).isInside then (outcode segment.finish rect).firstEdge
  else (outcode segment.start rect).firstEdge

variable {segment : Segment α} {rect : Rect α}

theorem cut_cases (unsettled : settled? segment rect = none) :
    ((cutEdge segment rect).Beyond rect segment.start ∧
        ¬(cutEdge segment rect).Beyond rect segment.finish ∧
        cut segment rect =
          { segment with start := crossing segment rect (cutEdge segment rect) }) ∨
      (∀ edge : Edge, ¬edge.Beyond rect segment.start) ∧
        (cutEdge segment rect).Beyond rect segment.finish ∧
        cut segment rect =
          { segment with finish := crossing segment rect (cutEdge segment rect) } := by
  obtain ⟨⟨outer, outside⟩, apart⟩ := settled?_eq_none.mp unsettled
  rw [cutEdge, cut]
  split
  · rename_i startInside
    have startInside := isInside_outcode.mp startInside
    have finishOutside := isInside_outcode_eq_false.mpr
      ⟨outer, outside.resolve_left (startInside outer)⟩
    exact .inr ⟨startInside, beyond_firstEdge finishOutside, by rw [cutPoint_eq_crossing]⟩
  · rename_i startOutside
    have beyond := beyond_firstEdge (Bool.eq_false_of_not_eq_true startOutside)
    exact .inl ⟨beyond, apart _ beyond, by rw [cutPoint_eq_crossing]⟩

end Cutting

section Loop

variable {α : Type} [LT α] [DecidableLT α] [Add α] [Sub α] [Mul α] [Div α]

def afterCuts (rect : Rect α) (segment : Segment α) (count : Nat) : Segment α :=
  (fun current => cut current rect)^[count] segment

/-- The loop makes so many cuts at least: before each of them the outcodes leave it open. -/
def Cuts (rect : Rect α) (segment : Segment α) (count : Nat) : Prop :=
  ∀ earlier < count, settled? (afterCuts rect segment earlier) rect = none

instance (rect : Rect α) (segment : Segment α) (count : Nat) :
    Decidable (Cuts rect segment count) :=
  inferInstanceAs (Decidable (∀ earlier < count, _))

variable {rect : Rect α} {segment : Segment α}

theorem afterCuts_succ (count : Nat) : afterCuts rect segment (count + 1) =
    cut (afterCuts rect segment count) rect :=
  Function.iterate_succ_apply' _ count segment

theorem cuts_zero : Cuts rect segment 0 := fun _ below => absurd below (Nat.not_lt_zero _)

theorem cuts_succ_iff {count : Nat} : Cuts rect segment (count + 1) ↔
    Cuts rect segment count ∧ settled? (afterCuts rect segment count) rect = none := by
  simp only [Cuts, Nat.lt_succ_iff_lt_or_eq, or_imp, forall_and, forall_eq]

theorem cuts_cut_iff {count : Nat} (unsettled : settled? segment rect = none) :
    Cuts rect (cut segment rect) count ↔ Cuts rect segment (count + 1) := by
  constructor
  · intro cuts earlier below
    cases earlier with
    | zero => exact unsettled
    | succ earlier => exact cuts earlier (Nat.lt_of_succ_lt_succ below)
  · intro cuts earlier below
    exact cuts (earlier + 1) (Nat.succ_lt_succ below)

theorem Cuts.mono {count fewer : Nat} (cuts : Cuts rect segment count) (le : fewer ≤ count) :
    Cuts rect segment fewer :=
  fun earlier below => cuts earlier (Nat.lt_of_lt_of_le below le)

theorem settle_of_cuts {count : Nat} {visible : Bool} (cuts : Cuts rect segment count)
    (decided : settled? (afterCuts rect segment count) rect = some visible) :
    settle rect segment = some (visible, afterCuts rect segment count) := by
  induction count generalizing segment with
  | zero =>
      change settled? segment rect = some visible at decided
      rw [settle, decided]
      rfl
  | succ count ih =>
      have unsettled : settled? segment rect = none := cuts 0 (Nat.succ_pos count)
      rw [settle, unsettled]
      exact ih ((cuts_cut_iff unsettled).mpr cuts) decided

theorem settle_eq_some_iff {visible : Bool} {last : Segment α} :
    settle rect segment = some (visible, last) ↔ ∃ count, Cuts rect segment count ∧
      settled? (afterCuts rect segment count) rect = some visible ∧
        afterCuts rect segment count = last := by
  constructor
  · refine settle.partial_correctness rect (fun current answer => ∃ count,
      Cuts rect current count ∧ settled? (afterCuts rect current count) rect = some answer.1 ∧
        afterCuts rect current count = answer.2) ?_ segment (visible, last)
    intro recurse recursed current answer returned
    split at returned
    · rename_i found decided
      cases returned
      exact ⟨0, cuts_zero, decided, rfl⟩
    · rename_i unsettled
      obtain ⟨count, cuts, decided, reached⟩ := recursed _ _ returned
      exact ⟨count + 1, (cuts_cut_iff unsettled).mp cuts, decided, reached⟩
  · rintro ⟨count, cuts, decided, rfl⟩
    exact settle_of_cuts cuts decided

theorem segment?_of_unsettled (unsettled : settled? segment rect = none) :
    segment? segment rect = (settle rect segment).map fun answer =>
      if answer.1 then (.clipped, answer.2) else (.rejected, segment) := by
  rw [segment?, unsettled]
  obtain _ | ⟨_ | _, last⟩ := settle rect segment <;> rfl

/-- What clipping a segment returns: the segment where the outcodes first show both ends inside, or
the segment as it was once they show both ends beyond one edge. -/
theorem segment?_eq_some_iff {outcome : ClipOutcome} {result : Segment α} :
    segment? segment rect = some (outcome, result) ↔ ∃ count, Cuts rect segment count ∧
      (settled? (afterCuts rect segment count) rect = some true ∧
          outcome = (if count = 0 then .inside else .clipped) ∧
            result = afterCuts rect segment count ∨
        settled? (afterCuts rect segment count) rect = some false ∧ outcome = .rejected ∧
          result = segment) := by
  cases decided : settled? segment rect with
  | some visible =>
      rw [segment?, decided]
      constructor
      · intro returned
        refine ⟨0, cuts_zero, ?_⟩
        cases visible <;> cases returned
        · exact .inr ⟨decided, rfl, rfl⟩
        · exact .inl ⟨decided, rfl, rfl⟩
      · rintro ⟨count | count, cuts, found⟩
        · obtain ⟨shown, rfl, rfl⟩ | ⟨shown, rfl, rfl⟩ := found <;>
            cases decided.symm.trans shown <;> rfl
        · cases decided.symm.trans (cuts 0 (Nat.succ_pos count))
  | none =>
      rw [segment?_of_unsettled decided, Option.map_eq_some_iff]
      constructor
      · rintro ⟨⟨visible, last⟩, ended, returned⟩
        obtain ⟨_ | count, cuts, shown, rfl⟩ := settle_eq_some_iff.mp ended
        · cases decided.symm.trans shown
        · refine ⟨count + 1, cuts, ?_⟩
          cases visible <;> cases returned
          · exact .inr ⟨shown, rfl, rfl⟩
          · exact .inl ⟨shown, rfl, rfl⟩
      · rintro ⟨_ | count, cuts, ⟨shown, rfl, rfl⟩ | ⟨shown, rfl, rfl⟩⟩
        · cases decided.symm.trans shown
        · cases decided.symm.trans shown
        · exact ⟨_, settle_of_cuts cuts shown, rfl⟩
        · exact ⟨_, settle_of_cuts cuts shown, rfl⟩

theorem exists_decided {count : Nat} (ends : ¬Cuts rect segment count) :
    ∃ earlier < count, Cuts rect segment earlier ∧
      ∃ visible, settled? (afterCuts rect segment earlier) rect = some visible := by
  induction count with
  | zero => exact absurd cuts_zero ends
  | succ count ih =>
      by_cases cuts : Cuts rect segment count
      · have decided := fun unsettled => ends (cuts_succ_iff.mpr ⟨cuts, unsettled⟩)
        exact ⟨count, Nat.lt_succ_self count, cuts, Option.ne_none_iff_exists'.mp decided⟩
      · obtain ⟨earlier, below, found⟩ := ih cuts
        exact ⟨earlier, Nat.lt_succ_of_lt below, found⟩

theorem segment?_ne_none_iff :
    segment? segment rect ≠ none ↔ ∃ count, ¬Cuts rect segment count := by
  constructor
  · intro returns
    obtain ⟨⟨outcome, result⟩, returned⟩ := Option.ne_none_iff_exists'.mp returns
    obtain ⟨count, -, found⟩ := segment?_eq_some_iff.mp returned
    refine ⟨count + 1, fun cuts => ?_⟩
    rw [(cuts_succ_iff.mp cuts).2] at found
    simp only [reduceCtorEq, false_and, or_self] at found
  · rintro ⟨count, ends⟩
    obtain ⟨earlier, -, cuts, _ | _, decided⟩ := exists_decided ends
    · rw [segment?_eq_some_iff.mpr ⟨earlier, cuts, .inr ⟨decided, rfl, rfl⟩⟩]
      exact nofun
    · rw [segment?_eq_some_iff.mpr ⟨earlier, cuts, .inl ⟨decided, rfl, rfl⟩⟩]
      exact nofun

end Loop

end Clip

/-- What the outcome of clipping a segment says, whatever the comparisons and the arithmetic of the
numbers: the segment was inside from the start and stays, or it stays and is not to be drawn, or it
was not inside and the new one is. -/
theorem clip_outcome {α : Type} [LT α] [DecidableLT α] [Add α] [Sub α] [Mul α] [Div α]
    {segment result : Segment α} {rect : Rect α} {outcome : ClipOutcome}
    (returned : Clip.segment? segment rect = some (outcome, result)) :
    (outcome = .inside ↔ (Clip.outcode segment.start rect).isInside = true ∧
      (Clip.outcode segment.finish rect).isInside = true) ∧
    (outcome = .inside ∨ outcome = .rejected → result = segment) ∧
    (outcome = .clipped →
      ((Clip.outcode segment.start rect).isInside = false ∨
        (Clip.outcode segment.finish rect).isInside = false) ∧
      ((Clip.outcode result.start rect).isInside = true ∧
        (Clip.outcode result.finish rect).isInside = true) ∧
      Clip.segment? result rect = some (.inside, result)) := by
  have bothInside : Clip.settled? segment rect = some true ↔ _ :=
    Clip.settled?_eq_true_iff_isInside
  obtain ⟨count, cuts, ⟨shown, rfl, rfl⟩ | ⟨shown, rfl, rfl⟩⟩ :=
    Clip.segment?_eq_some_iff.mp returned
  · cases count with
    | zero => exact ⟨iff_of_true rfl (bothInside.mp shown), fun _ => rfl, nofun⟩
    | succ count =>
        have unsettled : Clip.settled? segment rect = none := cuts 0 (Nat.succ_pos count)
        have outside := mt bothInside.mpr (unsettled ▸ nofun)
        refine ⟨iff_of_false nofun outside, nofun, fun _ => ⟨?_, ?_, ?_⟩⟩
        · rw [not_and_or, Bool.not_eq_true, Bool.not_eq_true] at outside
          exact outside
        · exact Clip.settled?_eq_true_iff_isInside.mp shown
        · exact Clip.segment?_eq_some_iff.mpr ⟨0, Clip.cuts_zero, .inl ⟨shown, rfl, rfl⟩⟩
  · refine ⟨iff_of_false nofun fun inside => ?_, fun _ => rfl, nofun⟩
    have settled := bothInside.mpr inside
    cases count with
    | zero => cases settled.symm.trans shown
    | succ count => cases settled.symm.trans (cuts 0 (Nat.succ_pos count))

namespace Clip

def unitSquare : Rect Float := ⟨0, 0, 1, 1⟩

def throughSides : Segment Float := ⟨⟨-1, 0.5⟩, ⟨2, 0.5⟩⟩

def pastCorner : Segment Float := ⟨⟨-1, 0.5⟩, ⟨0.5, 2⟩⟩

def fromNowhere : Segment Float := ⟨⟨0 / 0, 2⟩, ⟨0.5, 0.5⟩⟩

end Clip

theorem clip_outcome_samples :
    (Clip.segment? Clip.throughSides Clip.unitSquare = some (.clipped, ⟨⟨0, 0.5⟩, ⟨1, 0.5⟩⟩) ∧
      Clip.segment? (⟨⟨0, 0.5⟩, ⟨1, 0.5⟩⟩ : Segment Float) Clip.unitSquare =
        some (.inside, ⟨⟨0, 0.5⟩, ⟨1, 0.5⟩⟩)) ∧
    (Clip.segment? Clip.pastCorner Clip.unitSquare = some (.rejected, Clip.pastCorner) ∧
      ¬((Clip.outcode Clip.pastCorner.start Clip.unitSquare).isInside = true ∧
        (Clip.outcode Clip.pastCorner.finish Clip.unitSquare).isInside = true)) ∧
    (Clip.segment? Clip.fromNowhere Clip.unitSquare =
        some (.clipped, ⟨⟨0 / 0, 1⟩, ⟨0.5, 0.5⟩⟩) ∧
      Clip.segment? (⟨⟨0 / 0, 1⟩, ⟨0.5, 0.5⟩⟩ : Segment Float) Clip.unitSquare =
        some (.inside, ⟨⟨0 / 0, 1⟩, ⟨0.5, 0.5⟩⟩)) := by
  have through : Clip.segment? Clip.throughSides Clip.unitSquare =
      some (.clipped, ⟨⟨0, 0.5⟩, ⟨1, 0.5⟩⟩) :=
    Clip.segment?_eq_some_iff.mpr ⟨2, by decide, .inl ⟨by decide, rfl, by decide⟩⟩
  have past : Clip.segment? Clip.pastCorner Clip.unitSquare = some (.rejected, Clip.pastCorner) :=
    Clip.segment?_eq_some_iff.mpr ⟨1, by decide, .inr ⟨by decide, rfl, rfl⟩⟩
  have nowhere : Clip.segment? Clip.fromNowhere Clip.unitSquare =
      some (.clipped, ⟨⟨0 / 0, 1⟩, ⟨0.5, 0.5⟩⟩) :=
    Clip.segment?_eq_some_iff.mpr ⟨1, by decide, .inl ⟨by decide, rfl, by decide⟩⟩
  obtain ⟨-, -, shown⟩ := clip_outcome through
  obtain ⟨inside, -⟩ := clip_outcome past
  obtain ⟨-, -, placed⟩ := clip_outcome nowhere
  exact ⟨⟨through, (shown rfl).2.2⟩, ⟨past, fun bothInside => nomatch inside.mpr bothInside⟩,
    nowhere, (placed rfl).2.2⟩

end Raster
