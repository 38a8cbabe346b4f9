/-!
Points, line segments and axis-aligned rectangles over any kind of number.
-/

namespace Raster

structure Point (α : Type) where
  x : α
  y : α
deriving DecidableEq, Repr

structure Segment (α : Type) where
  start : Point α
  finish : Point α
deriving DecidableEq, Repr

/-- Edges as given: nothing keeps `left` below `right` or `top` below `bottom`. -/
structure Rect (α : Type) where
  left : α
  top : α
  right : α
  bottom : α
deriving DecidableEq, Repr

namespace Point

variable {α : Type} [Add α] [Sub α] [Mul α]

def lerp (source target : Point α) (fraction : α) : Point α :=
  ⟨source.x + fraction * (target.x - source.x), source.y + fraction * (target.y - source.y)⟩

def add (point offset : Point α) : Point α := ⟨point.x + offset.x, point.y + offset.y⟩

def sub (point offset : Point α) : Point α := ⟨point.x - offset.x, point.y - offset.y⟩

def scale (point : Point α) (factor : α) : Point α := ⟨point.x * factor, point.y * factor⟩

end Point

end Raster
