import Raster.Geometry.Shape

/-!
Clipping against a rectangle. Segments are cut edge by edge until both ends lie inside or one edge
has both of them outside; quads are cut at their four edges, and the texture coordinates of the
corners move along with each cut.
-/

namespace Raster

inductive ClipOutcome where
  | inside
  | clipped
  | rejected
deriving DecidableEq, Repr

def ClipOutcome.isRejected : ClipOutcome → Bool
  | .rejected => true
  | _ => false

namespace Clip

variable {α : Type} [LT α] [DecidableLT α]

structure Outcode where
  below : Bool
  above : Bool
  right : Bool
  left : Bool
deriving DecidableEq, Repr

def outcode (point : Point α) (rect : Rect α) : Outcode where
  below := decide (rect.bottom < point.y)
  above := decide (point.y < rect.top)
  right := decide (rect.right < point.x)
  left := decide (point.x < rect.left)

namespace Outcode

def isInside (code : Outcode) : Bool :=
  !(code.below || code.above || code.right || code.left)

def meets (first second : Outcode) : Bool :=
  (first.below && second.below) || (first.above && second.above)
    || (first.right && second.right) || (first.left && second.left)

end Outcode

variable [Add α] [Sub α] [Mul α] [Div α]

/-- Where a segment crosses the first edge named by the outcode: bottom, top, right, then left. -/
def cutPoint (segment : Segment α) (rect : Rect α) (code : Outcode) : Point α :=
  let start := segment.start
  let finish := segment.finish
  if code.below then
    ⟨start.x + (finish.x - start.x) * (rect.bottom - start.y) / (finish.y - start.y), rect.bottom⟩
  else if code.above then
    ⟨start.x + (finish.x - start.x) * (rect.top - start.y) / (finish.y - start.y), rect.top⟩
  else if code.right then
    ⟨rect.right, start.y + (finish.y - start.y) * (rect.right - start.x) / (finish.x - start.x)⟩
  else
    ⟨rect.left, start.y + (finish.y - start.y) * (rect.left - start.x) / (finish.x - start.x)⟩

def cut (segment : Segment α) (rect : Rect α) : Segment α :=
  let startCode := outcode segment.start rect
  if startCode.isInside then
    { segment with finish := cutPoint segment rect (outcode segment.finish rect) }
  else { segment with start := cutPoint segment rect startCode }

def settled? (segment : Segment α) (rect : Rect α) : Option Bool :=
  let startCode := outcode segment.start rect
  let finishCode := outcode segment.finish rect
  if startCode.isInside && finishCode.isInside then some true
  else if startCode.meets finishCode then some false
  else none

/-- Cuts until the outcodes decide. Rounded cuts may never bring them to it: then there is no
result. -/
def settle (rect : Rect α) (segment : Segment α) : Option (Bool × Segment α) :=
  match settled? segment rect with
  | some visible => some (visible, segment)
  -- `apply` keeps the place of the call in this file out of the term
  | none => by
      apply settle
      · exact rect
      · exact cut segment rect
partial_fixpoint

/--
Clips a segment; `none` if the cuts never come to an end. The segment is only replaced when the
outcome is `clipped`.
-/
def segment? (segment : Segment α) (rect : Rect α) : Option (ClipOutcome × Segment α) :=
  match settled? segment rect with
  | some true => some (.inside, segment)
  | some false => some (.rejected, segment)
  | none =>
      match settle rect segment with
      | some (true, visible) => some (.clipped, visible)
      | some (false, _) => some (.rejected, segment)
      | none => none

end Clip

structure QuadTexture (α : Type) where
  topLeft : Point α
  topRight : Point α
  bottomLeft : Point α
  bottomRight : Point α
deriving DecidableEq, Repr

def QuadTexture.whole : QuadTexture Float :=
  ⟨⟨0.0, 0.0⟩, ⟨1.0, 0.0⟩, ⟨0.0, 1.0⟩, ⟨1.0, 1.0⟩⟩

structure ClippedQuad (α : Type) where
  outcome : ClipOutcome
  bounds : Rect α
  texture : Option (QuadTexture α)

namespace Clip

variable {α : Type} [LT α] [DecidableLT α] [Add α] [Sub α] [Mul α] [Div α]

def separated (bounds rect : Rect α) : Bool :=
  decide (bounds.bottom < rect.top) || decide (rect.bottom < bounds.top)
    || decide (bounds.right < rect.left) || decide (rect.right < bounds.left)

def cutTop (rect : Rect α) (quad : ClippedQuad α) : ClippedQuad α :=
  let bounds := quad.bounds
  if bounds.top < rect.top then
    let fraction := (rect.top - bounds.top) / (bounds.bottom - bounds.top)
    ⟨.clipped, { bounds with top := rect.top }, quad.texture.map fun texture =>
      { texture with
        topLeft := texture.topLeft.lerp texture.bottomLeft fraction
        topRight := texture.topRight.lerp texture.bottomRight fraction }⟩
  else quad

def cutBottom (rect : Rect α) (quad : ClippedQuad α) : ClippedQuad α :=
  let bounds := quad.bounds
  if rect.bottom < bounds.bottom then
    let fraction := (bounds.bottom - rect.bottom) / (bounds.bottom - bounds.top)
    ⟨.clipped, { bounds with bottom := rect.bottom }, quad.texture.map fun texture =>
      { texture with
        bottomLeft := texture.bottomLeft.lerp texture.topLeft fraction
        bottomRight := texture.bottomRight.lerp texture.topRight fraction }⟩
  else quad

def cutLeft (rect : Rect α) (quad : ClippedQuad α) : ClippedQuad α :=
  let bounds := quad.bounds
  if bounds.left < rect.left then
    let fraction := (rect.left - bounds.left) / (bounds.right - bounds.left)
    ⟨.clipped, { bounds with left := rect.left }, quad.texture.map fun texture =>
      { texture with
        topLeft := texture.topLeft.lerp texture.topRight fraction
        bottomLeft := texture.bottomLeft.lerp texture.bottomRight fraction }⟩
  else quad

def cutRight (rect : Rect α) (quad : ClippedQuad α) : ClippedQuad α :=
  let bounds := quad.bounds
  if rect.right < bounds.right then
    let fraction := (bounds.right - rect.right) / (bounds.right - bounds.left)
    ⟨.clipped, { bounds with right := rect.right }, quad.texture.map fun texture =>
      { texture with
        topRight := texture.topRight.lerp texture.topLeft fraction
        bottomRight := texture.bottomRight.lerp texture.bottomLeft fraction }⟩
  else quad

/--
Clips an axis-aligned quad whose bounds are in order. Edges are cut top, bottom, left, right; a
rejected quad stays as it was.
-/
def quad (bounds rect : Rect α) (texture : Option (QuadTexture α)) : ClippedQuad α :=
  if separated bounds rect then ⟨.rejected, bounds, texture⟩
  else cutRight rect (cutLeft rect (cutBottom rect (cutTop rect ⟨.inside, bounds, texture⟩)))

end Clip

def clipSegment? (segment : Segment Float) (rect : Rect Float) :
    Option (ClipOutcome × Segment Float) :=
  Clip.segment? segment rect

def clipQuad (bounds rect : Rect Float) (texture : Option (QuadTexture Float)) :
    ClippedQuad Float :=
  Clip.quad bounds rect texture

end Raster
