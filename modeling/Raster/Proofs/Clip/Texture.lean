import Raster.Proofs.Clip.Intersection

/-!
Clipping textured quads in exact arithmetic. After every cut the corners of the quad are at shares
of the way along the sides it had at first, and their texture coordinates are what the first four
give at these shares.
-/

namespace Raster

section Field

variable {K : Type} [Field K]

/-- The texture coordinates at shares of the way across and down a quad with these corners. -/
def QuadTexture.blend (texture : QuadTexture K) (across down : K) : Point K :=
  (texture.topLeft.lerp texture.topRight across).lerp
    (texture.bottomLeft.lerp texture.bottomRight across) down

/-- The bilinear interpolation of the corners of a quad with these bounds. -/
def QuadTexture.over (texture : QuadTexture K) (bounds : Rect K) (point : Point K) : Point K :=
  texture.blend ((point.x - bounds.left) / (bounds.right - bounds.left))
    ((point.y - bounds.top) / (bounds.bottom - bounds.top))

def QuadTexture.within (texture : QuadTexture K) (bounds corners : Rect K) : QuadTexture K :=
  ⟨texture.over bounds ⟨corners.left, corners.top⟩,
    texture.over bounds ⟨corners.right, corners.top⟩,
    texture.over bounds ⟨corners.left, corners.bottom⟩,
    texture.over bounds ⟨corners.right, corners.bottom⟩⟩

def QuadTexture.part (texture : QuadTexture K) (first last upper lower : K) : QuadTexture K :=
  ⟨texture.blend first upper, texture.blend last upper, texture.blend first lower,
    texture.blend last lower⟩

namespace QuadTexture

variable (texture : QuadTexture K)

theorem part_whole : texture.part 0 1 0 1 = texture := by
  simp only [part, blend, Point.lerp_zero, Point.lerp_one]

theorem blend_lerp_down (across upper lower share : K) :
    (texture.blend across upper).lerp (texture.blend across lower) share =
      texture.blend across (upper + share * (lower - upper)) :=
  Point.lerp_lerp _ _ upper lower share

theorem blend_lerp_across (first last down share : K) :
    (texture.blend first down).lerp (texture.blend last down) share =
      texture.blend (first + share * (last - first)) down := by
  simp only [blend, Point.lerp, Point.mk.injEq]
  constructor <;> ring

end QuadTexture

end Field

section Stages

variable {α : Type} [LT α] [DecidableLT α] [Add α] [Sub α] [Mul α] [Div α]

namespace Clip

variable (bounds rect : Rect α) (texture : Option (QuadTexture α))

def afterTop : ClippedQuad α := cutTop rect ⟨.inside, bounds, texture⟩

def afterBottom : ClippedQuad α := cutBottom rect (afterTop bounds rect texture)

def afterLeft : ClippedQuad α := cutLeft rect (afterBottom bounds rect texture)

theorem quad_of_not_rejected (drawn : (quad bounds rect texture).outcome ≠ .rejected) :
    separated bounds rect = false ∧
      quad bounds rect texture = cutRight rect (afterLeft bounds rect texture) := by
  rw [quad] at drawn ⊢
  split at drawn
  · exact absurd rfl drawn
  · rename_i meets
    exact ⟨Bool.eq_false_of_not_eq_true meets, if_neg meets⟩

variable (quad : ClippedQuad α)

theorem bounds_cutTop : (cutTop rect quad).bounds = { quad.bounds with
    top := if quad.bounds.top < rect.top then rect.top else quad.bounds.top } := by
  rw [cutTop]
  split <;> rfl

theorem bounds_cutBottom : (cutBottom rect quad).bounds = { quad.bounds with
    bottom := if rect.bottom < quad.bounds.bottom then rect.bottom else quad.bounds.bottom } := by
  rw [cutBottom]
  split <;> rfl

theorem bounds_cutLeft : (cutLeft rect quad).bounds = { quad.bounds with
    left := if quad.bounds.left < rect.left then rect.left else quad.bounds.left } := by
  rw [cutLeft]
  split <;> rfl

end Clip

end Stages

theorem Clip.separated_eq_false_iff {K : Type} [LinearOrder K] {bounds rect : Rect K} :
    separated bounds rect = false ↔ (rect.top ≤ bounds.bottom ∧ bounds.top ≤ rect.bottom) ∧
      rect.left ≤ bounds.right ∧ bounds.left ≤ rect.right := by
  simp only [separated, Bool.or_eq_false_iff, decide_eq_false_iff_not, not_lt, and_assoc]

variable {K : Type} [Field K] [LinearOrder K]

namespace Clip

/-- A fraction that a cut can take: its denominator is not zero, and it is in the unit interval. -/
def IsShare (part whole : K) : Prop := whole ≠ 0 ∧ 0 ≤ part / whole ∧ part / whole ≤ 1

/-- The fractions of the cuts of a quad, each where the one before it left the quad. -/
structure Fractions (bounds rect : Rect K) (texture : Option (QuadTexture K)) : Prop where
  top : bounds.top < rect.top →
    IsShare (rect.top - bounds.top) (bounds.bottom - bounds.top)
  bottom : rect.bottom < (afterTop bounds rect texture).bounds.bottom →
    IsShare ((afterTop bounds rect texture).bounds.bottom - rect.bottom)
      ((afterTop bounds rect texture).bounds.bottom - (afterTop bounds rect texture).bounds.top)
  left : (afterBottom bounds rect texture).bounds.left < rect.left →
    IsShare (rect.left - (afterBottom bounds rect texture).bounds.left)
      ((afterBottom bounds rect texture).bounds.right -
        (afterBottom bounds rect texture).bounds.left)
  right : rect.right < (afterLeft bounds rect texture).bounds.right →
    IsShare ((afterLeft bounds rect texture).bounds.right - rect.right)
      ((afterLeft bounds rect texture).bounds.right - (afterLeft bounds rect texture).bounds.left)

/-- Two places on the way from `low` to `high`, as shares of it. On a way without length they are
its two ends. -/
structure Spread (low high newLow newHigh first last : K) : Prop where
  ordered : 0 ≤ first ∧ first ≤ last ∧ last ≤ 1
  low_eq : newLow = low + first * (high - low)
  high_eq : newHigh = low + last * (high - low)
  level : low = high → first = 0 ∧ last = 1

namespace Spread

variable {low high newLow newHigh first last : K}

theorem length_eq (spread : Spread low high newLow newHigh first last) :
    newHigh - newLow = (last - first) * (high - low) := by
  rw [spread.low_eq, spread.high_eq]
  ring

theorem low_ne_high (spread : Spread low high newLow newHigh first last)
    (apart : newLow < newHigh) : low ≠ high := by
  rintro rfl
  have length := spread.length_eq
  rw [sub_self, mul_zero] at length
  exact apart.ne' (sub_eq_zero.mp length)

theorem shares_eq (spread : Spread low high newLow newHigh first last) (long : low ≠ high) :
    first = (newLow - low) / (high - low) ∧ last = (newHigh - low) / (high - low) := by
  have length := sub_ne_zero.mpr long.symm
  rw [spread.low_eq, spread.high_eq, add_sub_cancel_left, add_sub_cancel_left,
    mul_div_cancel_right₀ _ length, mul_div_cancel_right₀ _ length]
  exact ⟨rfl, rfl⟩

end Spread

end Clip

variable [IsStrictOrderedRing K]

namespace Clip

theorem isShare_of_le {part whole : K} (positive : 0 < part) (le : part ≤ whole) :
    IsShare part whole :=
  have long := positive.trans_le le
  ⟨long.ne', div_nonneg positive.le long.le, (div_le_one long).mpr le⟩

namespace Spread

variable {low high newLow newHigh first last edge : K}

theorem whole (low high : K) : Spread low high low high 0 1 :=
  ⟨⟨le_refl 0, zero_le_one, le_refl 1⟩, by rw [zero_mul, add_zero], by rw [one_mul, add_sub_cancel],
    fun _ => ⟨rfl, rfl⟩⟩

variable (spread : Spread low high newLow newHigh first last)

include spread

theorem cut_low (less : newLow < edge) (meets : edge ≤ newHigh) :
    IsShare (edge - newLow) (newHigh - newLow) ∧ Spread low high edge newHigh
      (first + (edge - newLow) / (newHigh - newLow) * (last - first)) last := by
  have share := isShare_of_le (sub_pos.mpr less) (sub_le_sub_right meets newLow)
  obtain ⟨positive, ordered, below⟩ := spread.ordered
  have moved := mul_nonneg share.2.1 (sub_nonneg.mpr ordered)
  have stays := mul_le_of_le_one_left (sub_nonneg.mpr ordered) share.2.2
  have part := div_mul_cancel₀ (edge - newLow) share.1
  refine ⟨share, ⟨add_nonneg positive moved, by linarith, below⟩, ?_, spread.high_eq,
    fun same => absurd same (spread.low_ne_high (less.trans_le meets))⟩
  linear_combination spread.low_eq - part +
    (edge - newLow) / (newHigh - newLow) * spread.length_eq

theorem cut_high (greater : edge < newHigh) (meets : newLow ≤ edge) :
    IsShare (newHigh - edge) (newHigh - newLow) ∧ Spread low high newLow edge first
      (last + (newHigh - edge) / (newHigh - newLow) * (first - last)) := by
  have share := isShare_of_le (sub_pos.mpr greater) (sub_le_sub_left meets newHigh)
  obtain ⟨positive, ordered, below⟩ := spread.ordered
  have moved := mul_nonneg share.2.1 (sub_nonneg.mpr ordered)
  have stays := mul_le_of_le_one_left (sub_nonneg.mpr ordered) share.2.2
  have part := div_mul_cancel₀ (newHigh - edge) share.1
  refine ⟨share, ⟨positive, by linarith, by linarith⟩, spread.low_eq, ?_,
    fun same => absurd same (spread.low_ne_high (meets.trans_lt greater))⟩
  linear_combination spread.high_eq + part -
    (newHigh - edge) / (newHigh - newLow) * spread.length_eq

end Spread

/-- A quad on its way through the cuts is at shares of the way across and down its first bounds, and
has the texture of that part. -/
def Mapped (bounds : Rect K) (texture : QuadTexture K) (quad : ClippedQuad K) : Prop :=
  ∃ first last upper lower,
    Spread bounds.left bounds.right quad.bounds.left quad.bounds.right first last ∧
    Spread bounds.top bounds.bottom quad.bounds.top quad.bounds.bottom upper lower ∧
    quad.texture = some (texture.part first last upper lower)

namespace Mapped

variable {bounds rect : Rect K} {texture : QuadTexture K} {quad : ClippedQuad K}

theorem whole (bounds : Rect K) (texture : QuadTexture K) :
    Mapped bounds texture ⟨.inside, bounds, some texture⟩ :=
  ⟨0, 1, 0, 1, .whole _ _, .whole _ _, congrArg some texture.part_whole.symm⟩

variable (mapped : Mapped bounds texture quad)

include mapped

theorem cutTop (meets : rect.top ≤ quad.bounds.bottom) :
    (quad.bounds.top < rect.top →
      IsShare (rect.top - quad.bounds.top) (quad.bounds.bottom - quad.bounds.top)) ∧
    Mapped bounds texture (cutTop rect quad) := by
  by_cases less : quad.bounds.top < rect.top
  · obtain ⟨first, last, upper, lower, across, down, shown⟩ := mapped
    obtain ⟨share, cut⟩ := down.cut_low less meets
    rw [Clip.cutTop, if_pos less]
    refine ⟨fun _ => share, first, last, _, lower, across, cut, ?_⟩
    simp only [shown, Option.map_some, QuadTexture.part, QuadTexture.blend_lerp_down]
  · rw [Clip.cutTop, if_neg less]
    exact ⟨fun cut => absurd cut less, mapped⟩

theorem cutBottom (meets : quad.bounds.top ≤ rect.bottom) :
    (rect.bottom < quad.bounds.bottom →
      IsShare (quad.bounds.bottom - rect.bottom) (quad.bounds.bottom - quad.bounds.top)) ∧
    Mapped bounds texture (cutBottom rect quad) := by
  by_cases greater : rect.bottom < quad.bounds.bottom
  · obtain ⟨first, last, upper, lower, across, down, shown⟩ := mapped
    obtain ⟨share, cut⟩ := down.cut_high greater meets
    rw [Clip.cutBottom, if_pos greater]
    refine ⟨fun _ => share, first, last, upper, _, across, cut, ?_⟩
    simp only [shown, Option.map_some, QuadTexture.part, QuadTexture.blend_lerp_down]
  · rw [Clip.cutBottom, if_neg greater]
    exact ⟨fun cut => absurd cut greater, mapped⟩

theorem cutLeft (meets : rect.left ≤ quad.bounds.right) :
    (quad.bounds.left < rect.left →
      IsShare (rect.left - quad.bounds.left) (quad.bounds.right - quad.bounds.left)) ∧
    Mapped bounds texture (cutLeft rect quad) := by
  by_cases less : quad.bounds.left < rect.left
  · obtain ⟨first, last, upper, lower, across, down, shown⟩ := mapped
    obtain ⟨share, cut⟩ := across.cut_low less meets
    rw [Clip.cutLeft, if_pos less]
    refine ⟨fun _ => share, _, last, upper, lower, cut, down, ?_⟩
    simp only [shown, Option.map_some, QuadTexture.part, QuadTexture.blend_lerp_across]
  · rw [Clip.cutLeft, if_neg less]
    exact ⟨fun cut => absurd cut less, mapped⟩

theorem cutRight (meets : quad.bounds.left ≤ rect.right) :
    (rect.right < quad.bounds.right →
      IsShare (quad.bounds.right - rect.right) (quad.bounds.right - quad.bounds.left)) ∧
    Mapped bounds texture (cutRight rect quad) := by
  by_cases greater : rect.right < quad.bounds.right
  · obtain ⟨first, last, upper, lower, across, down, shown⟩ := mapped
    obtain ⟨share, cut⟩ := across.cut_high greater meets
    rw [Clip.cutRight, if_pos greater]
    refine ⟨fun _ => share, first, _, upper, lower, cut, down, ?_⟩
    simp only [shown, Option.map_some, QuadTexture.part, QuadTexture.blend_lerp_across]
  · rw [Clip.cutRight, if_neg greater]
    exact ⟨fun cut => absurd cut greater, mapped⟩

end Mapped

theorem fractions_and_mapped {bounds rect : Rect K} (high : rect.top ≤ rect.bottom)
    (wide : rect.left ≤ rect.right) (texture : QuadTexture K)
    (meets : separated bounds rect = false) :
    Fractions bounds rect (some texture) ∧
      Mapped bounds texture (cutRight rect (afterLeft bounds rect (some texture))) := by
  obtain ⟨⟨topMeets, bottomMeets⟩, leftMeets, rightMeets⟩ := separated_eq_false_iff.mp meets
  obtain ⟨top, first⟩ := (Mapped.whole bounds texture).cutTop topMeets
  have upper : (afterTop bounds rect (some texture)).bounds.top ≤ rect.bottom := by
    rw [afterTop, bounds_cutTop]
    split
    · exact high
    · exact bottomMeets
  obtain ⟨bottom, second⟩ := first.cutBottom upper
  have outer : (afterBottom bounds rect (some texture)).bounds.right = bounds.right := by
    rw [afterBottom, bounds_cutBottom, afterTop, bounds_cutTop]
  obtain ⟨left, third⟩ := second.cutLeft (leftMeets.trans_eq outer.symm)
  have first : (afterBottom bounds rect (some texture)).bounds.left = bounds.left := by
    rw [afterBottom, bounds_cutBottom, afterTop, bounds_cutTop]
  have inner : (afterLeft bounds rect (some texture)).bounds.left ≤ rect.right := by
    rw [afterLeft, bounds_cutLeft, first]
    split
    · exact wide
    · exact rightMeets
  obtain ⟨right, last⟩ := third.cutRight inner
  exact ⟨⟨top, bottom, left, right⟩, last⟩

end Clip

/-- In exact arithmetic the cuts of a quad that is drawn take fractions of the unit interval and
divide by nothing that is zero. The corners of what is left are at shares of the way across and
down the quad, and have the texture coordinates that bilinear interpolation of the first four gives
there; across a quad without an extent the corners keep to their sides. -/
theorem clip_texture {bounds rect : Rect K} (wide : rect.left ≤ rect.right)
    (high : rect.top ≤ rect.bottom) (texture : QuadTexture K)
    (drawn : (Clip.quad bounds rect (some texture)).outcome ≠ .rejected) :
    Clip.Fractions bounds rect (some texture) ∧
    ∃ shown, (Clip.quad bounds rect (some texture)).texture = some shown ∧
      (bounds.left ≠ bounds.right → bounds.top ≠ bounds.bottom →
        shown = texture.within bounds (Clip.quad bounds rect (some texture)).bounds) ∧
      ∃ first last upper lower, shown = texture.part first last upper lower ∧
        Clip.Spread bounds.left bounds.right (Clip.quad bounds rect (some texture)).bounds.left
          (Clip.quad bounds rect (some texture)).bounds.right first last ∧
        Clip.Spread bounds.top bounds.bottom (Clip.quad bounds rect (some texture)).bounds.top
          (Clip.quad bounds rect (some texture)).bounds.bottom upper lower := by
  obtain ⟨meets, cut⟩ := Clip.quad_of_not_rejected bounds rect (some texture) drawn
  rw [cut]
  obtain ⟨fractions, first, last, upper, lower, across, down, shown⟩ :=
    Clip.fractions_and_mapped high wide texture meets
  refine ⟨fractions, _, shown, fun broad tall => ?_, first, last, upper, lower, rfl, across, down⟩
  obtain ⟨rfl, rfl⟩ := across.shares_eq broad
  obtain ⟨rfl, rfl⟩ := down.shares_eq tall
  rfl

namespace Clip

def opening : Rect ℚ := ⟨1, 1, 3, 2⟩

def tile : Rect ℚ := ⟨0, 0, 4, 4⟩

def strip : Rect ℚ := ⟨2, 0, 2, 4⟩

def warped : QuadTexture ℚ := ⟨⟨0, 0⟩, ⟨1, 0⟩, ⟨0, 1⟩, ⟨3, 5⟩⟩

end Clip

theorem clip_texture_samples :
    ((Clip.quad Clip.tile Clip.opening (some Clip.warped)).bounds = Clip.opening ∧
      Clip.Fractions Clip.tile Clip.opening (some Clip.warped) ∧
      (Clip.quad Clip.tile Clip.opening (some Clip.warped)).texture =
        some (Clip.warped.within Clip.tile Clip.opening) ∧
      Clip.warped.within Clip.tile Clip.opening =
        ⟨⟨3 / 8, 1 / 2⟩, ⟨9 / 8, 1⟩, ⟨1 / 2, 1⟩, ⟨3 / 2, 2⟩⟩) ∧
    Clip.Fractions Clip.strip Clip.opening (some Clip.warped) ∧
      (Clip.quad Clip.strip Clip.opening (some Clip.warped)).texture =
        some (Clip.warped.part 0 1 (1 / 4) (1 / 2)) := by
  have ordered : Clip.opening.left ≤ Clip.opening.right ∧
      Clip.opening.top ≤ Clip.opening.bottom := by decide +kernel
  have bounds : (Clip.quad Clip.tile Clip.opening (some Clip.warped)).bounds = Clip.opening := by
    decide +kernel
  obtain ⟨fractions, shown, returned, interpolated, -⟩ :=
    @clip_texture ℚ _ _ _ Clip.tile Clip.opening ordered.1 ordered.2 Clip.warped (by decide +kernel)
  rw [interpolated (by decide +kernel) (by decide +kernel), bounds] at returned
  obtain ⟨flat, kept, narrow, -, first, last, upper, lower, parts, across, down⟩ :=
    @clip_texture ℚ _ _ _ Clip.strip Clip.opening ordered.1 ordered.2 Clip.warped
      (by decide +kernel)
  obtain ⟨rfl, rfl⟩ := across.level rfl
  obtain ⟨rfl, rfl⟩ := down.shares_eq (by decide +kernel)
  rw [parts] at narrow
  exact ⟨⟨bounds, fractions, returned, by decide +kernel⟩, flat, narrow.trans (by decide +kernel)⟩

end Raster
