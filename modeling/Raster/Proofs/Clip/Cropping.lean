import Raster.Proofs.Clip.Texture
import Raster.Proofs.Rounding.Order

/-!
Clipping quads to what they share with a rectangle. Each edge is cut on its own, whatever the other
cuts did before. Main statement: over doubles the bounds that are left are the intersection, which
no further clipping changes.
-/

namespace Raster

section Cuts

variable {α : Type} [LT α] [DecidableLT α]

namespace Clip

def cropLow (edge low : α) : α := if low < edge then edge else low

def cropHigh (edge high : α) : α := if edge < high then edge else high

/-- One of the edges of the rectangle runs through the bounds. -/
def Reaches (bounds rect : Rect α) : Prop :=
  bounds.top < rect.top ∨ rect.bottom < bounds.bottom ∨ bounds.left < rect.left ∨
    rect.right < bounds.right

end Clip

/-- Bounds with each edge replaced by the one of the rectangle, if that is further in. -/
def Rect.cropped (bounds rect : Rect α) : Rect α :=
  ⟨Clip.cropLow rect.left bounds.left, Clip.cropLow rect.top bounds.top,
    Clip.cropHigh rect.right bounds.right, Clip.cropHigh rect.bottom bounds.bottom⟩

namespace Clip

variable {bounds rect : Rect α}

theorem separated_iff : separated bounds rect = true ↔ bounds.bottom < rect.top ∨
    rect.bottom < bounds.top ∨ bounds.right < rect.left ∨ rect.right < bounds.left := by
  simp only [separated, Bool.or_eq_true, decide_eq_true_eq, or_assoc]

theorem meets_iff : separated bounds rect = false ↔ ¬bounds.bottom < rect.top ∧
    ¬rect.bottom < bounds.top ∧ ¬bounds.right < rect.left ∧ ¬rect.right < bounds.left := by
  simp only [separated, Bool.or_eq_false_iff, decide_eq_false_iff_not, and_assoc]

section Moved

variable [Std.Irrefl (fun first second : α => first < second)]

theorem cropLow_eq_iff {edge low : α} : cropLow edge low = low ↔ ¬low < edge := by
  rw [cropLow]
  split
  · rename_i less
    refine iff_of_false (fun same => ?_) (not_not_intro less)
    rw [same] at less
    exact Std.Irrefl.irrefl low less
  · rename_i notLess
    exact iff_of_true rfl notLess

theorem cropHigh_eq_iff {edge high : α} : cropHigh edge high = high ↔ ¬edge < high := by
  rw [cropHigh]
  split
  · rename_i less
    refine iff_of_false (fun same => ?_) (not_not_intro less)
    rw [same] at less
    exact Std.Irrefl.irrefl high less
  · rename_i notLess
    exact iff_of_true rfl notLess

theorem cropped_ne_iff : bounds.cropped rect ≠ bounds ↔ Reaches bounds rect := by
  have unmoved : bounds.cropped rect = bounds ↔
      cropLow rect.left bounds.left = bounds.left ∧ cropLow rect.top bounds.top = bounds.top ∧
        cropHigh rect.right bounds.right = bounds.right ∧
        cropHigh rect.bottom bounds.bottom = bounds.bottom := by
    rw [Rect.cropped, ← Rect.mk.injEq]
  rw [ne_eq, unmoved, cropLow_eq_iff, cropLow_eq_iff, cropHigh_eq_iff, cropHigh_eq_iff, Reaches]
  tauto

end Moved

variable [Add α] [Sub α] [Mul α] [Div α] (bounds rect) (texture : Option (QuadTexture α))

section Stage

variable (quad : ClippedQuad α)

theorem bounds_cutRight : (cutRight rect quad).bounds = { quad.bounds with
    right := if rect.right < quad.bounds.right then rect.right else quad.bounds.right } := by
  rw [cutRight]
  split <;> rfl

theorem outcome_cutTop : (cutTop rect quad).outcome =
    if quad.bounds.top < rect.top then .clipped else quad.outcome := by
  rw [cutTop]
  split <;> rfl

theorem outcome_cutBottom : (cutBottom rect quad).outcome =
    if rect.bottom < quad.bounds.bottom then .clipped else quad.outcome := by
  rw [cutBottom]
  split <;> rfl

theorem outcome_cutLeft : (cutLeft rect quad).outcome =
    if quad.bounds.left < rect.left then .clipped else quad.outcome := by
  rw [cutLeft]
  split <;> rfl

theorem outcome_cutRight : (cutRight rect quad).outcome =
    if rect.right < quad.bounds.right then .clipped else quad.outcome := by
  rw [cutRight]
  split <;> rfl

end Stage

theorem bounds_afterTop : (afterTop bounds rect texture).bounds =
    { bounds with top := cropLow rect.top bounds.top } :=
  bounds_cutTop rect _

theorem bounds_afterBottom : (afterBottom bounds rect texture).bounds =
    { bounds with
      top := cropLow rect.top bounds.top
      bottom := cropHigh rect.bottom bounds.bottom } := by
  rw [afterBottom, bounds_cutBottom, bounds_afterTop, cropHigh]

theorem bounds_afterLeft : (afterLeft bounds rect texture).bounds =
    { bounds.cropped rect with right := bounds.right } := by
  rw [afterLeft, bounds_cutLeft, bounds_afterBottom]
  rfl

variable {bounds rect}

theorem quad_of_separated (apart : separated bounds rect = true) :
    quad bounds rect texture = ⟨.rejected, bounds, texture⟩ :=
  if_pos apart

theorem quad_of_meets (meets : separated bounds rect = false) :
    quad bounds rect texture = cutRight rect (afterLeft bounds rect texture) := by
  rw [quad, meets]
  rfl

theorem quad_of_not_reaches (meets : separated bounds rect = false)
    (within : ¬Reaches bounds rect) : quad bounds rect texture = ⟨.inside, bounds, texture⟩ := by
  rw [Reaches, not_or, not_or, not_or] at within
  obtain ⟨top, bottom, left, right⟩ := within
  rw [quad, meets, cutTop, if_neg top, cutBottom, if_neg bottom, cutLeft, if_neg left, cutRight,
    if_neg right]
  rfl

theorem bounds_quad (meets : separated bounds rect = false) :
    (quad bounds rect texture).bounds = bounds.cropped rect := by
  rw [quad_of_meets texture meets, bounds_cutRight, bounds_afterLeft]
  rfl

theorem outcome_quad_of_reaches (meets : separated bounds rect = false)
    (reaches : Reaches bounds rect) : (quad bounds rect texture).outcome = .clipped := by
  rw [quad_of_meets texture meets, outcome_cutRight, bounds_afterLeft, afterLeft, outcome_cutLeft,
    bounds_afterBottom, afterBottom, outcome_cutBottom, bounds_afterTop, afterTop, outcome_cutTop]
  rcases reaches with top | bottom | left | right
  · simp only [if_pos top, ite_self]
  · simp only [if_pos bottom, ite_self]
  · simp only [if_pos left, ite_self]
  · simp only [if_pos right]

theorem outcome_quad_cases (meets : separated bounds rect = false) :
    (quad bounds rect texture).outcome = .clipped ∧ Reaches bounds rect ∨
      (quad bounds rect texture).outcome = .inside ∧ ¬Reaches bounds rect := by
  by_cases reaches : Reaches bounds rect
  · exact .inl ⟨outcome_quad_of_reaches texture meets reaches, reaches⟩
  · right
    rw [quad_of_not_reaches texture meets reaches]
    exact ⟨rfl, reaches⟩

theorem outcome_quad_eq_rejected_iff :
    (quad bounds rect texture).outcome = .rejected ↔ separated bounds rect = true := by
  cases meets : separated bounds rect with
  | true =>
      rw [quad_of_separated texture meets]
      exact iff_of_true rfl rfl
  | false =>
      rcases outcome_quad_cases texture meets with ⟨outcome, -⟩ | ⟨outcome, -⟩
      · rw [outcome]
        exact iff_of_false nofun nofun
      · rw [outcome]
        exact iff_of_false nofun nofun

end Clip

end Cuts

structure Rect.Ordered (rect : Rect Float) : Prop where
  wide : rect.left ≤ rect.right
  high : rect.top ≤ rect.bottom

structure Rect.Within (inner outer : Rect Float) : Prop where
  left : outer.left ≤ inner.left
  top : outer.top ≤ inner.top
  right : inner.right ≤ outer.right
  bottom : inner.bottom ≤ outer.bottom

namespace Clip

section Span

variable {low high edgeLow edgeHigh : Float} (ordered : low ≤ high) (window : edgeLow ≤ edgeHigh)
  (notBefore : ¬high < edgeLow) (notBehind : ¬edgeHigh < low)

include ordered window

theorem crop_within : edgeLow ≤ cropLow edgeLow low ∧ cropHigh edgeHigh high ≤ edgeHigh := by
  obtain ⟨lowKnown, highKnown⟩ := Double.isNaN_of_le ordered
  obtain ⟨edgeLowKnown, edgeHighKnown⟩ := Double.isNaN_of_le window
  rw [cropLow, cropHigh]
  constructor
  · split
    · exact Double.le_of_not_lt edgeLowKnown edgeLowKnown (Std.Irrefl.irrefl edgeLow)
    · rename_i notLess
      exact Double.le_of_not_lt edgeLowKnown lowKnown notLess
  · split
    · exact Double.le_of_not_lt edgeHighKnown edgeHighKnown (Std.Irrefl.irrefl edgeHigh)
    · rename_i notLess
      exact Double.le_of_not_lt highKnown edgeHighKnown notLess

include notBefore in
theorem le_cropHigh : edgeLow ≤ cropHigh edgeHigh high := by
  rw [cropHigh]
  split
  · exact window
  · exact Double.le_of_not_lt (Double.isNaN_of_le window).1 (Double.isNaN_of_le ordered).2 notBefore

include notBehind in
theorem cropLow_le : cropLow edgeLow low ≤ edgeHigh := by
  rw [cropLow]
  split
  · exact window
  · exact Double.le_of_not_lt (Double.isNaN_of_le ordered).1 (Double.isNaN_of_le window).2 notBehind

include notBefore notBehind in
theorem cropLow_le_cropHigh : cropLow edgeLow low ≤ cropHigh edgeHigh high := by
  rw [cropLow]
  split
  · exact le_cropHigh ordered window notBefore
  · rw [cropHigh]
    split
    · exact Double.le_of_not_lt (Double.isNaN_of_le ordered).1 (Double.isNaN_of_le window).2
        notBehind
    · exact ordered

end Span

variable {bounds rect : Rect Float} (boundsOrdered : bounds.Ordered) (rectOrdered : rect.Ordered)
  (meets : separated bounds rect = false)

include boundsOrdered rectOrdered

theorem cropped_within : (bounds.cropped rect).Within rect := by
  obtain ⟨left, right⟩ := crop_within boundsOrdered.wide rectOrdered.wide
  obtain ⟨top, bottom⟩ := crop_within boundsOrdered.high rectOrdered.high
  exact ⟨left, top, right, bottom⟩

include meets

theorem cropped_ordered : (bounds.cropped rect).Ordered := by
  obtain ⟨below, above, right, left⟩ := meets_iff.mp meets
  exact ⟨cropLow_le_cropHigh boundsOrdered.wide rectOrdered.wide right left,
    cropLow_le_cropHigh boundsOrdered.high rectOrdered.high below above⟩

theorem quad_cropped (texture : Option (QuadTexture Float)) :
    quad (bounds.cropped rect) rect texture = ⟨.inside, bounds.cropped rect, texture⟩ := by
  obtain ⟨below, above, right, left⟩ := meets_iff.mp meets
  have stillMeets : separated (bounds.cropped rect) rect = false := by
    rw [meets_iff]
    refine ⟨Double.not_lt_of_le ?_, Double.not_lt_of_le ?_, Double.not_lt_of_le ?_,
      Double.not_lt_of_le ?_⟩
    · exact le_cropHigh boundsOrdered.high rectOrdered.high below
    · exact cropLow_le boundsOrdered.high rectOrdered.high above
    · exact le_cropHigh boundsOrdered.wide rectOrdered.wide right
    · exact cropLow_le boundsOrdered.wide rectOrdered.wide left
  have within := cropped_within boundsOrdered rectOrdered
  refine quad_of_not_reaches texture stillMeets ?_
  rintro (top | bottom | left | right)
  · exact Double.not_lt_of_le within.top top
  · exact Double.not_lt_of_le within.bottom bottom
  · exact Double.not_lt_of_le within.left left
  · exact Double.not_lt_of_le within.right right

end Clip

/-- A quad is rejected exactly if it lies apart from the rectangle, and then stays. Else its
bounds are cropped to the rectangle, whatever the texture; the outcome says whether that moves an
edge, and if it moves none the quad stays. If the edges are numbers in order, so are the cropped
ones; they are within the rectangle, and clipping them again changes nothing. -/
theorem clip_crops (bounds rect : Rect Float) (texture : Option (QuadTexture Float)) :
    ((clipQuad bounds rect texture).outcome = .rejected ↔
      bounds.bottom < rect.top ∨ rect.bottom < bounds.top ∨ bounds.right < rect.left ∨
        rect.right < bounds.left) ∧
    ((clipQuad bounds rect texture).outcome = .rejected →
      clipQuad bounds rect texture = ⟨.rejected, bounds, texture⟩) ∧
    ((clipQuad bounds rect texture).outcome ≠ .rejected →
      (clipQuad bounds rect texture).bounds = bounds.cropped rect ∧
      ((clipQuad bounds rect texture).outcome = .clipped ↔ bounds.cropped rect ≠ bounds) ∧
      ((clipQuad bounds rect texture).outcome = .inside →
        clipQuad bounds rect texture = ⟨.inside, bounds, texture⟩) ∧
      (bounds.Ordered → rect.Ordered →
        (bounds.cropped rect).Ordered ∧ (bounds.cropped rect).Within rect ∧
        ∀ other, clipQuad (bounds.cropped rect) rect other =
          ⟨.inside, bounds.cropped rect, other⟩)) := by
  have rejected : (clipQuad bounds rect texture).outcome = .rejected ↔
      Clip.separated bounds rect = true := Clip.outcome_quad_eq_rejected_iff texture
  refine ⟨rejected.trans Clip.separated_iff,
    fun apart => Clip.quad_of_separated texture (rejected.mp apart), fun drawn => ?_⟩
  have meets := Bool.eq_false_of_not_eq_true (mt rejected.mpr drawn)
  refine ⟨Clip.bounds_quad texture meets, ?_, ?_, ?_⟩
  · rw [Clip.cropped_ne_iff]
    rcases Clip.outcome_quad_cases texture meets with ⟨outcome, reaches⟩ | ⟨outcome, within⟩
    · exact iff_of_true outcome reaches
    · exact iff_of_false (fun clipped => nomatch outcome.symm.trans clipped) within
  · intro inside
    rcases Clip.outcome_quad_cases texture meets with ⟨outcome, reaches⟩ | ⟨outcome, within⟩
    · cases outcome.symm.trans inside
    · exact Clip.quad_of_not_reaches texture meets within
  · intro boundsOrdered rectOrdered
    exact ⟨Clip.cropped_ordered boundsOrdered rectOrdered meets,
      Clip.cropped_within boundsOrdered rectOrdered,
      Clip.quad_cropped boundsOrdered rectOrdered meets⟩

namespace Clip

def straddling : Rect Float := ⟨-1, 0.25, 0.5, 2⟩

def shared : Rect Float := ⟨0, 0.25, 0.5, 1⟩

def beside : Rect Float := ⟨2, 0, 3, 1⟩

def openLeft : Rect Float := ⟨0 / 0, 0, 1, 1⟩

end Clip

theorem clip_crops_samples :
    ((clipQuad Clip.beside Clip.unitSquare none).outcome = .rejected ∧
      clipQuad Clip.beside Clip.unitSquare none = ⟨.rejected, Clip.beside, none⟩) ∧
    ((clipQuad Clip.straddling Clip.unitSquare (some .whole)).outcome = .clipped ∧
      (clipQuad Clip.straddling Clip.unitSquare (some .whole)).bounds = Clip.shared ∧
      (Clip.straddling.Ordered ∧ Clip.unitSquare.Ordered) ∧
      Clip.shared.Ordered ∧ Clip.shared.Within Clip.unitSquare ∧
      clipQuad Clip.shared Clip.unitSquare none = ⟨.inside, Clip.shared, none⟩) ∧
    ((clipQuad Clip.straddling Clip.openLeft none).bounds = ⟨-1, 0.25, 0.5, 1⟩ ∧
      clipQuad Clip.shared Clip.openLeft (some .whole) =
        ⟨.inside, Clip.shared, some .whole⟩) := by
  obtain ⟨-, rejects, -⟩ := clip_crops Clip.beside Clip.unitSquare none
  obtain ⟨-, -, clips⟩ := clip_crops Clip.straddling Clip.unitSquare (some .whole)
  obtain ⟨-, -, clipsOpen⟩ := clip_crops Clip.straddling Clip.openLeft none
  obtain ⟨-, -, passes⟩ := clip_crops Clip.shared Clip.openLeft (some .whole)
  have apart : (clipQuad Clip.beside Clip.unitSquare none).outcome = .rejected := by decide
  obtain ⟨bounds, moved, -, again⟩ := clips (by decide)
  have cropped : Clip.straddling.cropped Clip.unitSquare = Clip.shared := by decide
  have straddles : Clip.straddling.Ordered := ⟨by decide, by decide⟩
  have square : Clip.unitSquare.Ordered := ⟨by decide, by decide⟩
  rw [cropped] at bounds moved again
  obtain ⟨ordered, within, settled⟩ := again straddles square
  obtain ⟨openBounds, -⟩ := clipsOpen (by decide)
  obtain ⟨-, -, inside, -⟩ := passes (by decide)
  exact ⟨⟨apart, rejects apart⟩,
    ⟨moved.mpr (by decide), bounds, ⟨straddles, square⟩, ordered, within, settled none⟩,
    openBounds.trans (by decide), inside (by decide)⟩

end Raster
