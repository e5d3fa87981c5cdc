import DomainStory.Layout.Canvas

/-!
# Grid and circle

Layouts that depend on the number of nodes alone. The grid has as many columns as the square root
of the number of nodes, rounded up, and is filled row by row. The circle starts at the top.
-/

namespace DomainStory.Layout

/-- The square root rounded up: the least number whose square is not below `n`. -/
def ceilRoot (n : Nat) : Nat := ((List.range (n + 1)).find? fun k => n ≤ k * k).getD n

def ceilDiv (n d : Nat) : Nat := (n + d - 1) / d

variable {α : Type}

def gridPlace [Scalar α] (canvas : Canvas α) (columns rows i : Nat) : Point α :=
  ⟨Canvas.cellCenter canvas.padding (canvas.inner.width / (columns : α)) (i % columns),
    Canvas.cellCenter canvas.padding (canvas.inner.height / (rows : α)) (i / columns)⟩

def grid [Scalar α] (canvas : Canvas α) (n : Nat) : List (Point α) :=
  let columns := ceilRoot n
  (List.range n).map (gridPlace canvas columns (ceilDiv n columns))

/-- The places of `n` nodes on a circle that touches the nearer margins. -/
def circle [Plane α] (canvas : Canvas α) (n : Nat) : List (Point α) :=
  Point.ring canvas.center (canvas.halfSide - canvas.padding) n

end DomainStory.Layout
