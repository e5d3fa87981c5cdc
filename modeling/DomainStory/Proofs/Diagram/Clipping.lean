import DomainStory.Proofs.Geometry.Field
import DomainStory.Diagram.Route

/-!
# Where a curve meets a box

A curve ends where the ray from the middle of a box to the control point should leave the box. The
way to the control point is stretched until its extent on one axis is half that of the box,
whichever axis comes first. On no axis is it stretched any further (`Curve.abs_mul_le`).

Whether it comes as far as the border depends on the axis that stops it. Where the way has an extent
on this axis, the border is reached (`Curve.abs_mul_eq_iff`). A way that is parallel to one axis has
no extent on the other, where `Curve.reach` puts a thousandth in its place. This stops a way that is
too short (`Curve.StopsShort`) before the border, and no other way (`Curve.clip_onBorder_iff`).
-/

namespace DomainStory

section

variable {K : Type} [Field K] [LinearOrder K] [Compass K]

/-! ## Rays and boxes -/

/-- A point on the ray from a center through another point. -/
def Point.OnRay (center toward p : Point K) : Prop :=
  ∃ k, 0 ≤ k ∧ p = center.shift ((center.displacement toward).scale k)

/-- A point in the box around a center, given half the extent of the box. -/
def Point.InBox (center : Point K) (half : Size K) (p : Point K) : Prop :=
  |p.x - center.x| ≤ half.width ∧ |p.y - center.y| ≤ half.height

/-- A point of the box that is on one of its sides. -/
def Point.OnBorder (center : Point K) (half : Size K) (p : Point K) : Prop :=
  center.InBox half p ∧ (|p.x - center.x| = half.width ∨ |p.y - center.y| = half.height)

instance (center : Point K) (half : Size K) (p : Point K) : Decidable (center.OnBorder half p) :=
  inferInstanceAs (Decidable ((|p.x - center.x| ≤ half.width ∧ |p.y - center.y| ≤ half.height) ∧
    (|p.x - center.x| = half.width ∨ |p.y - center.y| = half.height)))

/-- A way along one axis that is too short to be stretched to the border: a thousand times its
length, times half the extent of the box on the other axis, is less than half that on its own. -/
def Curve.StopsShort (half : Size K) (way : Vec K) : Prop :=
  way.x = 0 ∧ |way.y| * (1000 * half.width) < half.height ∨
    way.y = 0 ∧ |way.x| * (1000 * half.height) < half.width

instance (half : Size K) (way : Vec K) : Decidable (Curve.StopsShort half way) :=
  inferInstanceAs (Decidable (way.x = 0 ∧ |way.y| * (1000 * half.width) < half.height ∨
    way.y = 0 ∧ |way.x| * (1000 * half.height) < half.width))

end

namespace Curve

variable {K : Type} [Field K] [LinearOrder K] [IsStrictOrderedRing K] [Compass K]
  {a extent k : K} {center toward : Point K} {half : Size K} {way : Vec K}

/-! ## One axis -/

theorem isZero_iff : Scalar.isZero a = true ↔ a = 0 := by
  unfold Scalar.isZero
  norm_num
  exact le_antisymm_iff.symm

theorem reach_zero : reach (0 : K) = 1 / 1000 := by
  unfold reach
  rw [if_pos (isZero_iff.mpr rfl)]
  norm_num

theorem reach_of_ne (h : a ≠ 0) : reach a = |a| := by
  have hzero : (0.0 : K) = 0 := by norm_num
  unfold reach Scalar.abs
  rw [if_neg (isZero_iff.not.mpr h), hzero]
  split
  · next hneg => exact (abs_of_neg hneg).symm
  · next hnonneg => exact (abs_of_nonneg (not_lt.mp hnonneg)).symm

theorem reach_pos (a : K) : 0 < reach a := by
  by_cases ha : a = 0
  · rw [ha, reach_zero]
    positivity
  · rw [reach_of_ne ha]
    exact abs_pos.mpr ha

theorem abs_le_reach (a : K) : |a| ≤ reach a := by
  by_cases ha : a = 0
  · rw [ha, abs_zero]
    exact (reach_pos 0).le
  · rw [reach_of_ne ha]

/-- A way is not stretched beyond the side that stops it. -/
theorem abs_mul_le (hk : 0 ≤ k) (hstop : k ≤ extent / reach a) : |a * k| ≤ extent := by
  calc |a * k| = |a| * k := by rw [abs_mul, abs_of_nonneg hk]
    _ ≤ reach a * k := mul_le_mul_of_nonneg_right (abs_le_reach a) hk
    _ ≤ extent := (le_div_iff₀' (reach_pos a)).mp hstop

/-- It reaches the side if this is what stops it, and it goes there at all. -/
theorem abs_mul_eq_iff (hextent : 0 < extent) (hk : 0 ≤ k) :
    |a * k| = extent ↔ a ≠ 0 ∧ k = extent / reach a := by
  rw [abs_mul, abs_of_nonneg hk]
  constructor
  · intro hreached
    have ha : a ≠ 0 := by
      rintro rfl
      rw [abs_zero, zero_mul] at hreached
      exact hextent.ne hreached
    rw [reach_of_ne ha, eq_div_iff (abs_ne_zero.mpr ha), mul_comm]
    exact ⟨ha, hreached⟩
  · rintro ⟨ha, rfl⟩
    rw [reach_of_ne ha]
    exact mul_div_cancel₀ extent (abs_ne_zero.mpr ha)

/-! ## Both axes -/

/-- How far a way is stretched. -/
def stretch (half : Size K) (way : Vec K) : K :=
  (half.width / reach way.x) ⊓ (half.height / reach way.y)

theorem stretch_pos (hwidth : 0 < half.width) (hheight : 0 < half.height) (way : Vec K) :
    0 < stretch half way :=
  lt_inf_iff.mpr ⟨div_pos hwidth (reach_pos _), div_pos hheight (reach_pos _)⟩

theorem clip_of_ne (half : Size K) (h : toward ≠ center) :
    clip center half toward = center.shift
      ((center.displacement toward).scale (stretch half (center.displacement toward))) := by
  have hway : ¬ (Scalar.isZero (center.displacement toward).x &&
      Scalar.isZero (center.displacement toward).y) = true := by
    rw [Bool.and_eq_true, isZero_iff, isZero_iff]
    rintro ⟨hx, hy⟩
    exact (Point.sub_ne_zero_of_ne h.symm).elim (absurd hx) (absurd hy)
  unfold clip stretch
  simp only [if_neg hway, Scalar.min_eq_inf]

/-- The axis on which a way has no extent does not stop it before the other one does, unless the way
is too short. -/
theorem div_reach_le_div_reach_zero_iff {across along : K} (ha : a ≠ 0) :
    along / reach a ≤ across / reach 0 ↔ ¬ |a| * (1000 * across) < along := by
  have hacross : across / reach 0 = 1000 * across := by
    rw [reach_zero, div_div_eq_mul_div, div_one, mul_comm]
  rw [hacross, reach_of_ne ha, div_le_iff₀' (abs_pos.mpr ha), not_lt]

theorem not_stopsShort_iff (hway : way.x ≠ 0 ∨ way.y ≠ 0) : ¬ StopsShort half way ↔
    (way.x ≠ 0 ∧ stretch half way = half.width / reach way.x) ∨
      (way.y ≠ 0 ∧ stretch half way = half.height / reach way.y) := by
  unfold StopsShort stretch
  rw [inf_eq_left, inf_eq_right]
  by_cases hx : way.x = 0
  · have hy : way.y ≠ 0 := hway.resolve_left (not_not.mpr hx)
    rw [hx, div_reach_le_div_reach_zero_iff hy]
    simp [hy]
  · by_cases hy : way.y = 0
    · rw [hy, div_reach_le_div_reach_zero_iff hx]
      simp [hx]
    · -- the side that comes first stops the way, and there is an extent on either axis
      simpa [hx, hy] using le_total (half.width / reach way.x) (half.height / reach way.y)

/-! ## The border -/

/-- The ray is followed to the border of the box and no further, unless the way to the point that it
goes through is too short. Then it is followed less far. -/
theorem clip_onBorder_iff (hwidth : 0 < half.width) (hheight : 0 < half.height)
    (htoward : toward ≠ center) :
    center.OnRay toward (clip center half toward) ∧
      center.InBox half (clip center half toward) ∧
      (center.OnBorder half (clip center half toward) ↔
        ¬ StopsShort half (center.displacement toward)) := by
  have hk : 0 ≤ stretch half (center.displacement toward) := (stretch_pos hwidth hheight _).le
  have hclip := clip_of_ne half htoward
  have hx : (clip center half toward).x - center.x
      = (center.displacement toward).x * stretch half (center.displacement toward) := by
    rw [hclip]
    exact add_sub_cancel_left _ _
  have hy : (clip center half toward).y - center.y
      = (center.displacement toward).y * stretch half (center.displacement toward) := by
    rw [hclip]
    exact add_sub_cancel_left _ _
  have hinBox : center.InBox half (clip center half toward) := by
    unfold Point.InBox
    rw [hx, hy]
    exact ⟨abs_mul_le hk inf_le_left, abs_mul_le hk inf_le_right⟩
  refine ⟨⟨_, hk, hclip⟩, hinBox, ?_⟩
  rw [Point.OnBorder, and_iff_right hinBox, hx, hy, abs_mul_eq_iff hwidth hk,
    abs_mul_eq_iff hheight hk, not_stopsShort_iff (Point.sub_ne_zero_of_ne htoward.symm)]

/-- A slanted ray and a level one leave a box through its right side. -/
theorem clip_onBorder_iff_right :
    (0 < (51 : ℚ) ∧ 0 < (41 : ℚ) ∧ (⟨5, 3⟩ : Point ℚ) ≠ ⟨1, 2⟩ ∧ (⟨5, 2⟩ : Point ℚ) ≠ ⟨1, 2⟩) ∧
      Point.OnBorder ⟨1, 2⟩ ⟨51, 41⟩ (clip (α := ℚ) ⟨1, 2⟩ ⟨51, 41⟩ ⟨5, 3⟩) ∧
      Point.OnBorder ⟨1, 2⟩ ⟨51, 41⟩ (clip (α := ℚ) ⟨1, 2⟩ ⟨51, 41⟩ ⟨5, 2⟩) := by
  have hwidth : 0 < (⟨51, 41⟩ : Size ℚ).width := by norm_num
  have hheight : 0 < (⟨51, 41⟩ : Size ℚ).height := by norm_num
  have hslanted : (⟨5, 3⟩ : Point ℚ) ≠ ⟨1, 2⟩ := by simp
  have hlevel : (⟨5, 2⟩ : Point ℚ) ≠ ⟨1, 2⟩ := by simp
  refine ⟨⟨hwidth, hheight, hslanted, hlevel⟩, ?_, ?_⟩
  · exact (clip_onBorder_iff hwidth hheight hslanted).2.2.mpr (by decide +kernel)
  · exact (clip_onBorder_iff hwidth hheight hlevel).2.2.mpr (by decide +kernel)

/-- The ray to a point straight below the middle of a box, and close to it, is given up before the
border. -/
theorem clip_before_border :
    (0 < (51 : ℚ) ∧ 0 < (41 : ℚ) ∧ (⟨0, 1 / 2048⟩ : Point ℚ) ≠ ⟨0, 0⟩) ∧
      (clip (α := ℚ) ⟨0, 0⟩ ⟨51, 41⟩ ⟨0, 1 / 2048⟩).y = 6375 / 256 ∧
      ¬ Point.OnBorder ⟨0, 0⟩ ⟨51, 41⟩ (clip (α := ℚ) ⟨0, 0⟩ ⟨51, 41⟩ ⟨0, 1 / 2048⟩) := by
  refine ⟨⟨by norm_num, by norm_num, by simp⟩, ?_, ?_⟩
  · decide +kernel
  · decide +kernel

end Curve

end DomainStory
