import Mathlib.Analysis.SpecialFunctions.Trigonometric.Angle
import DomainStory.Proofs.Geometry.Field

/-!
# Exact geometry

The reals as scalars: nothing is rounded, and the settings of a configuration stand for the numbers
that their floats denote. On a circle with a radius, the `i`-th of `n` equal steps and the `j`-th of
`m` lead to one point exactly when they are the same fraction of a turn (`Point.onRing_eq_iff`).
Different points are some distance apart (`Point.distance_pos`).
-/

namespace DomainStory

open Real (pi)

/-- The number that a float denotes. Infinities, and what is no number, count as zero. -/
noncomputable def realOfFloat (x : Float) : ℝ :=
  match x.toModel.unpack with
  | .finite .positive mantissa exponent _ => mantissa * 2 ^ exponent
  | .finite .negative mantissa exponent _ => -(mantissa * 2 ^ exponent)
  | _ => 0

/-- Whether a float denotes a positive number. -/
def isPositive (x : Float) : Bool :=
  match x.toModel.unpack with
  | .finite .positive _ _ _ => true
  | _ => false

theorem realOfFloat_pos {x : Float} (h : isPositive x = true) : 0 < realOfFloat x := by
  unfold isPositive at h
  unfold realOfFloat
  cases hunpack : x.toModel.unpack with
  | finite sign mantissa exponent hmantissa =>
    rw [hunpack] at h
    cases sign with
    | negative => exact absurd h (by simp)
    | positive =>
      have hmantissa' : (0 : ℝ) < mantissa := by exact_mod_cast hmantissa
      dsimp only
      positivity
  | infinity sign => simp [hunpack] at h
  | notANumber => simp [hunpack] at h
  | zero sign => simp [hunpack] at h

noncomputable instance : Plane ℝ where
  ltDecidable := fun _ _ => Classical.propDecidable _
  leDecidable := fun _ _ => Classical.propDecidable _
  ofFloat := realOfFloat
  length x y := Real.sqrt (x ^ 2 + y ^ 2)
  cos := Real.cos
  sin := Real.sin
  fullTurn := 2 * pi
  quarterTurn := pi / 2

namespace Point

/-- The angle at a fraction of a turn, the first one at the top. -/
noncomputable def ringAngle (fraction : ℝ) : ℝ := fraction * (2 * pi) - pi / 2

theorem onRing_real (center : Point ℝ) (radius : ℝ) (n i : Nat) :
    onRing center radius n i =
      ⟨center.x + Real.cos (ringAngle ((i : ℝ) / n)) * radius,
        center.y + Real.sin (ringAngle ((i : ℝ) / n)) * radius⟩ := rfl

/-- Within one turn, an angle has one cosine and sine. -/
theorem fraction_eq_of_ringAngle {a b : ℝ} (ha : 0 ≤ a) (ha' : a < 1) (hb : 0 ≤ b) (hb' : b < 1)
    (hcos : Real.cos (ringAngle a) = Real.cos (ringAngle b))
    (hsin : Real.sin (ringAngle a) = Real.sin (ringAngle b)) : a = b := by
  obtain ⟨k, hk⟩ := Real.Angle.angle_eq_iff_two_pi_dvd_sub.mp (Real.Angle.cos_sin_inj hcos hsin)
  have hpi : (2 * pi : ℝ) ≠ 0 := by positivity
  -- the fractions differ by a whole number of turns
  have hturns : a - b = k := by
    have hmul : 2 * pi * (a - b) = 2 * pi * k := by
      rw [← hk, ringAngle, ringAngle]
      ring
    exact mul_left_cancel₀ hpi hmul
  -- and by less than one turn
  have hlt : (k : ℝ) < 1 := by linarith
  have hgt : (-1 : ℝ) < k := by linarith
  have hzero : k = 0 := by
    have hlt' : k < 1 := by exact_mod_cast hlt
    have hgt' : -1 < k := by exact_mod_cast hgt
    omega
  rw [hzero, Int.cast_zero] at hturns
  linarith

/-- Points on a circle coincide when they are the same fraction of a turn, and only then. -/
theorem onRing_eq_iff {center : Point ℝ} {radius : ℝ} {n m i j : Nat} (hradius : radius ≠ 0)
    (hi : i < n) (hj : j < m) :
    onRing center radius n i = onRing center radius m j ↔ i * m = j * n := by
  have hn : (0 : ℝ) < n := by exact_mod_cast Nat.lt_of_le_of_lt (Nat.zero_le i) hi
  have hm : (0 : ℝ) < m := by exact_mod_cast Nat.lt_of_le_of_lt (Nat.zero_le j) hj
  -- equal fractions, said without division
  have hfraction : (i : ℝ) / n = (j : ℝ) / m ↔ i * m = j * n := by
    rw [div_eq_div_iff hn.ne' hm.ne']
    exact_mod_cast Iff.rfl
  rw [← hfraction, onRing_real, onRing_real, Point.mk.injEq]
  constructor
  · rintro ⟨hx, hy⟩
    have hcos := mul_right_cancel₀ hradius (add_left_cancel hx)
    have hsin := mul_right_cancel₀ hradius (add_left_cancel hy)
    refine fraction_eq_of_ringAngle (by positivity) ?_ (by positivity) ?_ hcos hsin
    · rw [div_lt_one hn]
      exact_mod_cast hi
    · rw [div_lt_one hm]
      exact_mod_cast hj
  · intro heq
    rw [heq]
    exact ⟨rfl, rfl⟩

/-! ## Distances -/

section

variable {p q : Point ℝ}

theorem distance_real (p q : Point ℝ) :
    p.distance q = Real.sqrt ((q.x - p.x) ^ 2 + (q.y - p.y) ^ 2) := rfl

theorem distance_comm (p q : Point ℝ) : p.distance q = q.distance p := by
  rw [distance_real, distance_real]
  congr 1
  ring

theorem distance_pos (h : p ≠ q) : 0 < p.distance q := by
  rw [distance_real, Real.sqrt_pos]
  rcases sub_ne_zero_of_ne h with hx | hy
  · positivity
  · positivity

end

end Point

/-! ## A canvas with an extent -/

/-- A setting that is a positive float is a positive number. -/
theorem Config.scalar_pos {config : Config} {path : String} {x : Float} (fallback : ℝ)
    (hx : config.number? path = some x) (hpositive : isPositive x = true) :
    0 < (config.scalar path fallback : ℝ) := by
  rw [Config.scalar, hx]
  exact realOfFloat_pos hpositive

theorem Canvas.halfSide_pos {canvas : Canvas ℝ} (hwidth : 0 < canvas.size.width)
    (hheight : 0 < canvas.size.height) : 0 < canvas.halfSide := by
  have hx : 0 < canvas.center.x := by
    show (0 : ℝ) < canvas.size.width / (2.0 : ℝ)
    positivity
  have hy : 0 < canvas.center.y := by
    show (0 : ℝ) < canvas.size.height / (2.0 : ℝ)
    positivity
  -- the smaller of the two is one of them
  unfold Canvas.halfSide Scalar.min
  split
  · exact hy
  · split
    · exact hx
    · exact hy

end DomainStory
