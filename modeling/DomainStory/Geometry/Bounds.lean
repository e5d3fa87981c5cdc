import DomainStory.Geometry.Point

/-!
# Bounding boxes
-/

namespace DomainStory

structure Bounds (α : Type) where
  minX : α
  minY : α
  maxX : α
  maxY : α

namespace Bounds

variable {α : Type} [Scalar α]

def ofPoint (p : Point α) : Bounds α := ⟨p.x, p.y, p.x, p.y⟩

/-- The smallest box around a box and a point. -/
def cover (b : Bounds α) (p : Point α) : Bounds α where
  minX := Scalar.min b.minX p.x
  minY := Scalar.min b.minY p.y
  maxX := Scalar.max b.maxX p.x
  maxY := Scalar.max b.maxY p.y

def ofPoints? : List (Point α) → Option (Bounds α)
  | [] => none
  | p :: rest => some (rest.foldl cover (ofPoint p))

def inflate (b : Bounds α) (margin : α) : Bounds α :=
  ⟨b.minX - margin, b.minY - margin, b.maxX + margin, b.maxY + margin⟩

def size (b : Bounds α) : Size α := ⟨b.maxX - b.minX, b.maxY - b.minY⟩

def center (b : Bounds α) : Point α := ⟨(b.minX + b.maxX) / 2.0, (b.minY + b.maxY) / 2.0⟩

def contains (b : Bounds α) (p : Point α) : Bool :=
  b.minX ≤ p.x && p.x ≤ b.maxX && b.minY ≤ p.y && p.y ≤ b.maxY

end Bounds

end DomainStory
