import Raster.Geometry.Shape

/-!
Stroking: a segment with a width as the two short edges of a quad. A segment without length
becomes a diamond around its point.
-/

namespace Raster

namespace Stroke

variable {α : Type} [Add α] [Sub α] [Mul α] [Neg α]

def edge (point side : Point α) : Segment α := ⟨point.sub side, point.add side⟩

def edges (start finish along : Point α) : Segment α × Segment α :=
  let side : Point α := ⟨along.y, -along.x⟩
  (edge start side, edge finish side)

variable [Div α] [OfScientific α]

/-- The stroke of a point: the ends part along the diagonal, whose unit vector is given. -/
def diamond (diagonal : α) (segment : Segment α) (width : α) : Segment α × Segment α :=
  let reach := diagonal * (width * 0.5)
  let along : Point α := ⟨reach, reach⟩
  edges (segment.start.sub along) (segment.finish.add along) along

variable [LT α] [DecidableLT α]

/--
The stroke of a segment with a direction and a length. A positive extension first moves both ends
outward by half of it.
-/
def lengthy (segment : Segment α) (direction : Point α) (length width extension : α) :
    Segment α × Segment α :=
  let along := direction.scale (width * 0.5 / length)
  if 0.0 < extension then
    let outward := (direction.scale (1.0 / length)).scale (extension * 0.5)
    edges (segment.start.sub outward) (segment.finish.add outward) along
  else edges segment.start segment.finish along

variable [BEq α]

def outline (measure : Point α → α) (diagonal : α) (segment : Segment α) (width extension : α) :
    Segment α × Segment α :=
  let direction := segment.finish.sub segment.start
  if direction.x == 0.0 && direction.y == 0.0 then diamond diagonal segment width
  else lengthy segment direction (measure direction) width extension

end Stroke

def diagonalUnit : Float := 0.70710678118654752440

def Point.length (point : Point Float) : Float := (point.x * point.x + point.y * point.y).sqrt

def strokeEdges (segment : Segment Float) (width extension : Float) :
    Segment Float × Segment Float :=
  Stroke.outline Point.length diagonalUnit segment width extension

end Raster
