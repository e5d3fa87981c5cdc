import DomainStory.Geometry.Scalar

/-!
# Points, vectors and sizes
-/

namespace DomainStory

structure Vec (α : Type) where
  x : α
  y : α

structure Point (α : Type) where
  x : α
  y : α

structure Size (α : Type) where
  width : α
  height : α

section

variable {α : Type} [Scalar α]

namespace Vec

@[inline] def zero : Vec α := ⟨0.0, 0.0⟩

@[inline] def add (v w : Vec α) : Vec α := ⟨v.x + w.x, v.y + w.y⟩

@[inline] def sub (v w : Vec α) : Vec α := ⟨v.x - w.x, v.y - w.y⟩

@[inline] def neg (v : Vec α) : Vec α := ⟨-v.x, -v.y⟩

@[inline] def scale (v : Vec α) (k : α) : Vec α := ⟨v.x * k, v.y * k⟩

@[inline] def shrink (v : Vec α) (k : α) : Vec α := ⟨v.x / k, v.y / k⟩

end Vec

namespace Point

def origin : Point α := ⟨0.0, 0.0⟩

@[inline] def displacement (p q : Point α) : Vec α := ⟨q.x - p.x, q.y - p.y⟩

@[inline] def shift (p : Point α) (v : Vec α) : Point α := ⟨p.x + v.x, p.y + v.y⟩

def midpoint (p q : Point α) : Point α := ⟨(p.x + q.x) / 2.0, (p.y + q.y) / 2.0⟩

end Point

/-- The center of a box that has a corner at the origin. -/
def Size.center (size : Size α) : Point α := ⟨size.width / 2.0, size.height / 2.0⟩

end

section

variable {α : Type} [Plane α]

@[inline] def Vec.length (v : Vec α) : α := Plane.length v.x v.y

def Point.distance (p q : Point α) : α := (p.displacement q).length

/-- The point on a circle at the `i`-th of `n` equal steps, the first one at the top. -/
def Point.onRing (center : Point α) (radius : α) (n i : Nat) : Point α :=
  let angle := ((i : α) / (n : α)) * Plane.fullTurn - Plane.quarterTurn
  ⟨center.x + Plane.cos angle * radius, center.y + Plane.sin angle * radius⟩

/-- Points spread evenly over a circle, clockwise from the top where y points down. -/
def Point.ring (center : Point α) (radius : α) (n : Nat) : List (Point α) :=
  (List.range n).map (onRing center radius n)

end

end DomainStory
