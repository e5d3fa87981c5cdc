/-!
# Numbers for geometry

All geometry is written over a type of scalars, so that it runs on floats and can be reasoned about
in an ordered field. `Scalar` has what grids, boxes and curves need; `Plane` adds lengths and
directions.
-/

namespace DomainStory

/-- Numbers that can be calculated with and compared. -/
class Scalar (α : Type) extends
    Add α, Sub α, Mul α, Div α, Neg α, LT α, LE α, NatCast α, OfScientific α where
  ltDecidable : DecidableLT α
  leDecidable : DecidableLE α
  /-- The scalar that a setting in a configuration stands for. -/
  ofFloat : Float → α

instance Scalar.instDecidableLT {α : Type} [Scalar α] : DecidableLT α := Scalar.ltDecidable

instance Scalar.instDecidableLE {α : Type} [Scalar α] : DecidableLE α := Scalar.leDecidable

/-- Scalars with the length of a vector and with directions on the circle. -/
class Plane (α : Type) extends Scalar α where
  length : α → α → α
  cos : α → α
  sin : α → α
  fullTurn : α
  quarterTurn : α

namespace Scalar

variable {α : Type} [Scalar α]

@[inline] def isZero (a : α) : Bool := a ≤ (0.0 : α) && (0.0 : α) ≤ a

/-- The smaller of two numbers; the other one where one of them is not comparable to itself. -/
@[inline] def min (a b : α) : α := if b < a then b else if a ≤ a then a else b

/-- The greater of two numbers; the other one where one of them is not comparable to itself. -/
@[inline] def max (a b : α) : α := if a < b then b else if a ≤ a then a else b

@[inline] def abs (a : α) : α := if a < (0.0 : α) then -a else a

end Scalar

instance : Plane Float where
  natCast := Float.ofNat
  ltDecidable := inferInstance
  leDecidable := inferInstance
  ofFloat x := x
  length x y := Float.sqrt (x * x + y * y)
  cos := Float.cos
  sin := Float.sin
  fullTurn := 6.28318530717958647692528676655900577
  quarterTurn := 1.57079632679489661923132169163975144

end DomainStory
