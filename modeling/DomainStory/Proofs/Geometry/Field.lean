import Mathlib.Algebra.Order.Field.Basic
import Mathlib.Tactic.Linarith
import Mathlib.Tactic.NormNum
import Mathlib.Tactic.Ring
import DomainStory.Layout.Canvas

/-!
# Geometry over an ordered field

Boxes, grids and forces calculate with the operations of an ordered field and nothing else. What
they may need besides are lengths, directions and the settings of a configuration. A `Compass`
supplies these, and nothing is assumed of it, so that what is proved here holds in the rational
numbers as in the real ones, and for every notion of length.
-/

namespace DomainStory

/-- What a plane has beside the operations of a field. -/
class Compass (K : Type) where
  /-- The number that a setting in a configuration stands for. -/
  ofFloat : Float → K
  length : K → K → K
  cos : K → K
  sin : K → K
  fullTurn : K
  quarterTurn : K

instance (priority := low) Plane.ofField {K : Type} [Field K] [LinearOrder K] [Compass K] :
    Plane K where
  ltDecidable := inferInstance
  leDecidable := inferInstance
  ofFloat := Compass.ofFloat
  length := Compass.length
  cos := Compass.cos
  sin := Compass.sin
  fullTurn := Compass.fullTurn
  quarterTurn := Compass.quarterTurn

/-- Rational numbers in which the length of a vector is that of the way along the axes. They have no
directions but the first axis, and no settings. -/
instance Compass.taxicab : Compass ℚ where
  ofFloat _ := 0
  length x y := |x| + |y|
  cos _ := 1
  sin _ := 0
  fullTurn := 1
  quarterTurn := 0

/-- Different points differ along an axis. -/
theorem Point.sub_ne_zero_of_ne {K : Type} [AddGroup K] {p q : Point K} (h : p ≠ q) :
    q.x - p.x ≠ 0 ∨ q.y - p.y ≠ 0 := by
  by_contra hnone
  push Not at hnone
  obtain ⟨x, y⟩ := p
  obtain ⟨x', y'⟩ := q
  have hx : x' = x := sub_eq_zero.mp hnone.1
  have hy : y' = y := sub_eq_zero.mp hnone.2
  exact h (by rw [hx, hy])

variable {K : Type} [Field K] [LinearOrder K] [Compass K]

namespace Scalar

/-- Any two numbers of a field can be compared. -/
theorem min_eq_inf (a b : K) : Scalar.min a b = a ⊓ b := by
  unfold Scalar.min
  split
  · next hlt => exact (inf_eq_right.mpr hlt.le).symm
  · next hle =>
    rw [if_pos (le_refl a)]
    exact (inf_eq_left.mpr (not_lt.mp hle)).symm

theorem max_eq_sup (a b : K) : Scalar.max a b = a ⊔ b := by
  unfold Scalar.max
  split
  · next hlt => exact (sup_eq_right.mpr hlt.le).symm
  · next hle =>
    rw [if_pos (le_refl a)]
    exact (sup_eq_left.mpr (not_lt.mp hle)).symm

end Scalar

namespace Canvas

variable [IsStrictOrderedRing K] {padding extent inner : K} {i count : Nat}

theorem inner_width (canvas : Canvas K) :
    canvas.inner.width = canvas.size.width - canvas.padding * 2 := by
  unfold inner
  norm_num

theorem inner_height (canvas : Canvas K) :
    canvas.inner.height = canvas.size.height - canvas.padding * 2 := by
  unfold inner
  norm_num

/-! ## Cells -/

theorem cellCenter_eq (padding extent : K) (i : Nat) :
    cellCenter padding extent i = padding + i * extent + extent / 2 := by
  unfold cellCenter
  norm_num

theorem cellCenter_strictMono (hextent : 0 < extent) : StrictMono (cellCenter padding extent) := by
  intro i j hij
  have hcast : (i : K) < j := Nat.cast_lt.mpr hij
  rw [cellCenter_eq, cellCenter_eq]
  linarith [mul_lt_mul_of_pos_right hcast hextent]

/-- Where a side is cut into cells, the middle of each lies between its ends. -/
theorem cellCenter_between (padding : K) (hinner : 0 < inner) (hi : i < count) :
    padding < cellCenter padding (inner / count) i ∧
      cellCenter padding (inner / count) i < padding + inner := by
  have hcount : (0 : K) < count := Nat.cast_pos.mpr (Nat.zero_lt_of_lt hi)
  have hextent : 0 < inner / count := div_pos hinner hcount
  have hstart : 0 ≤ i * (inner / count) := mul_nonneg (Nat.cast_nonneg i) hextent.le
  -- the last cell ends where the side does
  have hend : (i : K) * (inner / count) + inner / count ≤ inner := by
    have hsucc : (i : K) + 1 ≤ count := by exact_mod_cast Nat.succ_le_of_lt hi
    calc (i : K) * (inner / count) + inner / count
        = (i + 1) * (inner / count) := (add_one_mul _ _).symm
      _ ≤ count * (inner / count) := mul_le_mul_of_nonneg_right hsucc hextent.le
      _ = inner := mul_div_cancel₀ inner hcount.ne'
  rw [cellCenter_eq]
  constructor
  · linarith
  · linarith

end Canvas

end DomainStory
