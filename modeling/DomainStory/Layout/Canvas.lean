import DomainStory.Config
import DomainStory.Geometry.Point

/-!
# The canvas

The area that layouts fill: its size, the margin kept free on every side, and how far from the
center new actors are seeded.
-/

namespace DomainStory

/-- The area that layouts fill. -/
structure Canvas (α : Type) where
  size : Size α
  padding : α
  /-- The radius of the seeding circle, as a fraction of half the shorter side. -/
  seedFactor : α

namespace Canvas

variable {α : Type} [Scalar α]

def default : Canvas α := ⟨⟨1600.0, 1200.0⟩, 150.0, 0.6⟩

def ofConfig (config : Config) : Canvas α where
  size := ⟨config.scalar "canvas.width" 1600.0, config.scalar "canvas.height" 1200.0⟩
  padding := config.scalar "layout.padding" 150.0
  seedFactor := config.scalar "layout.seedRadiusFactor" 0.6

def center (canvas : Canvas α) : Point α := canvas.size.center

def inner (canvas : Canvas α) : Size α :=
  ⟨canvas.size.width - canvas.padding * 2.0, canvas.size.height - canvas.padding * 2.0⟩

/-- A coordinate moved inside the margins of a side; where the margins overlap, to the first. -/
@[inline] def clampCoordinate (side padding a : α) : α :=
  Scalar.max padding (Scalar.min (side - padding) a)

@[inline] def clamp (canvas : Canvas α) (p : Point α) : Point α :=
  ⟨clampCoordinate canvas.size.width canvas.padding p.x,
    clampCoordinate canvas.size.height canvas.padding p.y⟩

/-- The shorter of the distances from the center to the sides. -/
def halfSide (canvas : Canvas α) : α := Scalar.min canvas.center.x canvas.center.y

/-- The center of a cell, when a side is cut into cells of equal extent. -/
def cellCenter (padding extent : α) (index : Nat) : α :=
  padding + (index : α) * extent + extent / 2.0

end Canvas

end DomainStory
