import Mathlib.Algebra.Order.Group.Unbundled.Abs
import Mathlib.Order.Bounds.Basic
import DomainStory.Proofs.Geometry.Field
import DomainStory.Viewport

/-!
# Fitting a viewport

The box around a list of points has the least and the greatest coordinate of a point on each axis
(`Bounds.Tight`), which depends neither on the order of the points nor on repetitions. Fitting maps
the middle of the box, widened by the padding, to the middle of the screen. The zoom is limited by
three quotients and is the least of them, which is to say that a zoom is not above it exactly when
it keeps all three limits (`Viewport.le_fitZoom_iff`). From this it follows that it is the largest
to do so, and that no point of the box is farther from the middle of the screen than half the side
that may be filled.
-/

namespace DomainStory

/-! ## The box around points -/

namespace Bounds

section

variable {α : Type} {coordinate : Point α → α} {points points' : List (Point α)} {p : Point α}

theorem contains_iff [Scalar α] {box : Bounds α} : box.contains p = true ↔
    box.minX ≤ p.x ∧ p.x ≤ box.maxX ∧ box.minY ≤ p.y ∧ p.y ≤ box.maxY := by
  simp only [contains, Bool.and_eq_true, decide_eq_true_eq, and_assoc]

/-- The values of a coordinate among points. -/
def coordinates (coordinate : Point α → α) (points : List (Point α)) : Set α :=
  {a | ∃ p ∈ points, coordinate p = a}

theorem coordinates_singleton : coordinates coordinate [p] = {coordinate p} := by
  ext a
  simp [coordinates, eq_comm]

theorem coordinates_concat :
    coordinates coordinate (points ++ [p])
      = insert (coordinate p) (coordinates coordinate points) := by
  ext a
  simp only [coordinates, List.mem_append, List.mem_singleton, Set.mem_ofPred_eq,
    Set.mem_insert_iff, or_and_right, exists_or, exists_eq_left]
  rw [or_comm, eq_comm]

theorem coordinates_congr (h : ∀ p, p ∈ points ↔ p ∈ points') :
    coordinates coordinate points = coordinates coordinate points' := by
  simp only [coordinates, h]

end

variable {K : Type} [Field K] [LinearOrder K] [Compass K] {points points' rest : List (Point K)}
  {box box' : Bounds K}

/-- The tightest box around points. -/
structure Tight (points : List (Point K)) (box : Bounds K) : Prop where
  left : IsLeast (coordinates Point.x points) box.minX
  right : IsGreatest (coordinates Point.x points) box.maxX
  top : IsLeast (coordinates Point.y points) box.minY
  bottom : IsGreatest (coordinates Point.y points) box.maxY

namespace Tight

theorem singleton (p : Point K) : Tight [p] (ofPoint p) := by
  constructor <;> rw [coordinates_singleton]
  · exact isLeast_singleton
  · exact isGreatest_singleton
  · exact isLeast_singleton
  · exact isGreatest_singleton

/-- A box that is widened to cover one more point stays tight. -/
theorem concat (h : Tight points box) (p : Point K) : Tight (points ++ [p]) (box.cover p) := by
  unfold cover
  simp only [Scalar.min_eq_inf, Scalar.max_eq_sup]
  constructor <;> rw [coordinates_concat]
  · exact inf_comm box.minX p.x ▸ h.left.insert p.x
  · exact sup_comm box.maxX p.x ▸ h.right.insert p.x
  · exact inf_comm box.minY p.y ▸ h.top.insert p.y
  · exact sup_comm box.maxY p.y ▸ h.bottom.insert p.y

theorem foldl_cover (h : Tight points box) : Tight (points ++ rest) (rest.foldl cover box) := by
  induction rest generalizing points box with
  | nil =>
    rw [List.append_nil]
    exact h
  | cons p rest ih =>
    have hlater := ih (h.concat p)
    rwa [List.append_assoc, List.singleton_append] at hlater

theorem congr (hpoints : ∀ p, p ∈ points ↔ p ∈ points') (h : Tight points box) :
    Tight points' box := by
  constructor <;> rw [← coordinates_congr hpoints]
  · exact h.left
  · exact h.right
  · exact h.top
  · exact h.bottom

theorem unique (h : Tight points box) (h' : Tight points box') : box = box' := by
  obtain ⟨minX, minY, maxX, maxY⟩ := box
  obtain ⟨minX', minY', maxX', maxY'⟩ := box'
  rw [Bounds.mk.injEq]
  exact ⟨h.left.unique h'.left, h.top.unique h'.top, h.right.unique h'.right,
    h.bottom.unique h'.bottom⟩

/-- The points lie in their box. -/
theorem contains_inflate [IsStrictOrderedRing K] (h : Tight points box) {margin : K}
    (hmargin : 0 ≤ margin) {p : Point K} (hp : p ∈ points) :
    (box.inflate margin).contains p = true := by
  have hleft : box.minX ≤ p.x := h.left.2 ⟨p, hp, rfl⟩
  have hright : p.x ≤ box.maxX := h.right.2 ⟨p, hp, rfl⟩
  have htop : box.minY ≤ p.y := h.top.2 ⟨p, hp, rfl⟩
  have hbottom : p.y ≤ box.maxY := h.bottom.2 ⟨p, hp, rfl⟩
  rw [contains_iff, inflate]
  exact ⟨by linarith, by linarith, by linarith, by linarith⟩

end Tight

theorem exists_ofPoints? (h : points ≠ []) :
    ∃ box, ofPoints? points = some box ∧ Tight points box := by
  cases points with
  | nil => exact absurd rfl h
  | cons p rest => exact ⟨_, rfl, (Tight.singleton p).foldl_cover⟩

/-- The box depends on which points there are, and on nothing else. -/
theorem ofPoints?_congr (hpoints : ∀ p, p ∈ points ↔ p ∈ points') :
    ofPoints? points = ofPoints? points' := by
  by_cases hnil : points = []
  · subst hnil
    rw [List.eq_nil_iff_forall_not_mem.mpr fun p hp => List.not_mem_nil ((hpoints p).mpr hp)]
  · have hnil' : points' ≠ [] := by
      rintro rfl
      exact hnil (List.eq_nil_iff_forall_not_mem.mpr fun p hp =>
        List.not_mem_nil ((hpoints p).mp hp))
    obtain ⟨box, hbox, htight⟩ := exists_ofPoints? hnil
    obtain ⟨box', hbox', htight'⟩ := exists_ofPoints? hnil'
    rw [hbox, hbox', (htight.congr hpoints).unique htight']

end Bounds

/-! ## The zoom -/

namespace Viewport

variable {K : Type} [Field K] [LinearOrder K] [IsStrictOrderedRing K] [Compass K]
  {options : FitOptions K} {box : Bounds K} {screen : Size K} {zoom : K}

theorem available_eq (side padding : K) : available side padding = (side - padding * 2) ⊔ 1 := by
  unfold available
  rw [Scalar.max_eq_sup]
  norm_num

/-- A zoom is not above the fitted one if the box fits the screen at it. -/
theorem le_fitZoom_iff (options : FitOptions K) (box screen : Size K) :
    zoom ≤ fitZoom options box screen ↔ zoom ≤ options.maxFitZoom ∧
      (box.width ⊔ 1) * zoom ≤ (screen.width - options.screenPadding * 2) ⊔ 1 ∧
      (box.height ⊔ 1) * zoom ≤ (screen.height - options.screenPadding * 2) ⊔ 1 := by
  have hwidth : 0 < box.width ⊔ 1 := zero_lt_one.trans_le le_sup_right
  have hheight : 0 < box.height ⊔ 1 := zero_lt_one.trans_le le_sup_right
  have hone : (1.0 : K) = 1 := by norm_num
  unfold fitZoom
  rw [Scalar.min_eq_inf, Scalar.min_eq_inf, Scalar.max_eq_sup, Scalar.max_eq_sup, available_eq,
    available_eq, hone, le_inf_iff, le_inf_iff, le_div_iff₀' hwidth, le_div_iff₀' hheight, and_comm]

theorem fitZoom_pos (hzoom : 0 < options.maxFitZoom) (box screen : Size K) :
    0 < fitZoom options box screen := by
  have hone : (1.0 : K) = 1 := by norm_num
  unfold fitZoom
  rw [Scalar.min_eq_inf, Scalar.min_eq_inf, Scalar.max_eq_sup, Scalar.max_eq_sup, available_eq,
    available_eq, hone, lt_inf_iff, lt_inf_iff]
  have hpos : ∀ a : K, 0 < a ⊔ 1 := fun a => zero_lt_one.trans_le le_sup_right
  exact ⟨⟨div_pos (hpos _) (hpos _), div_pos (hpos _) (hpos _)⟩, hzoom⟩

/-! ## The map to the screen -/

/-- The viewport that shows a box in the middle of a screen. -/
def showing {α : Type} [Scalar α] (box : Bounds α) (screen : Size α) (options : FitOptions α) :
    Viewport α :=
  let zoom := fitZoom options box.size screen
  ⟨zoom, screen.width / 2.0 - box.center.x * zoom, screen.height / 2.0 - box.center.y * zoom⟩

theorem fit?_eq_some {α : Type} [Scalar α] {points : List (Point α)} {box : Bounds α}
    (h : Bounds.ofPoints? points = some box) (screen : Size α) (options : FitOptions α) :
    fit? points screen options
      = some (showing (box.inflate options.logicalPadding) screen options) := by
  rw [fit?, h]
  rfl

omit [IsStrictOrderedRing K] in
theorem toScreen_showing_center (box : Bounds K) (screen : Size K) (options : FitOptions K) :
    (showing box screen options).toScreen box.center = screen.center := by
  unfold toScreen showing Size.center
  simp only [add_sub_cancel]

/-- On one axis: what lies between two ends is shown no farther from the middle than half the length
that the ends have on the screen. -/
theorem abs_sub_middle_le {low high a middle length available zoom : K} (hlow : low ≤ a)
    (hhigh : a ≤ high) (hzoom : 0 ≤ zoom) (hlength : high - low ≤ length)
    (hfits : length * zoom ≤ available) :
    |a * zoom + (middle - (low + high) / 2 * zoom) - middle| ≤ available / 2 := by
  have hfromMiddle : |a - (low + high) / 2| ≤ length / 2 := by
    rw [abs_le]
    constructor
    · linarith
    · linarith
  calc |a * zoom + (middle - (low + high) / 2 * zoom) - middle|
      = |(a - (low + high) / 2) * zoom| := by ring_nf
    _ = |a - (low + high) / 2| * zoom := by rw [abs_mul, abs_of_nonneg hzoom]
    _ ≤ length / 2 * zoom := mul_le_mul_of_nonneg_right hfromMiddle hzoom
    _ ≤ available / 2 := by linarith

/-- A viewport that shows a box as large as possible: in the middle of the screen, within the
padding, and no larger than the greatest zoom for fitting. A side of the box, or of the screen
within the padding, that is below one counts as one. -/
structure Fits (box : Bounds K) (screen : Size K) (options : FitOptions K) (viewport : Viewport K) :
    Prop where
  centered : viewport.toScreen box.center = screen.center
  contained : ∀ p, box.contains p = true →
    |(viewport.toScreen p).x - screen.center.x|
        ≤ ((screen.width - options.screenPadding * 2) ⊔ 1) / 2 ∧
      |(viewport.toScreen p).y - screen.center.y|
        ≤ ((screen.height - options.screenPadding * 2) ⊔ 1) / 2
  positive : 0 < viewport.zoom
  largest : IsGreatest {zoom | zoom ≤ options.maxFitZoom ∧
    (box.size.width ⊔ 1) * zoom ≤ (screen.width - options.screenPadding * 2) ⊔ 1 ∧
    (box.size.height ⊔ 1) * zoom ≤ (screen.height - options.screenPadding * 2) ⊔ 1} viewport.zoom

theorem fits_showing (hzoom : 0 < options.maxFitZoom) (box : Bounds K) (screen : Size K) :
    Fits box screen options (showing box screen options) := by
  have htwo : (2.0 : K) = 2 := by norm_num
  have hpos : 0 < fitZoom options box.size screen := fitZoom_pos hzoom box.size screen
  obtain ⟨-, hwidth, hheight⟩ := (le_fitZoom_iff options box.size screen).mp (le_refl _)
  refine ⟨toScreen_showing_center box screen options, fun p hp => ?_, hpos, ?_, fun zoom h => ?_⟩
  · obtain ⟨hleft, hright, htop, hbottom⟩ := Bounds.contains_iff.mp hp
    unfold toScreen showing Size.center Bounds.center
    simp only [htwo]
    exact ⟨abs_sub_middle_le hleft hright hpos.le le_sup_left hwidth,
      abs_sub_middle_le htop hbottom hpos.le le_sup_left hheight⟩
  · exact (le_fitZoom_iff options box.size screen).mp (le_refl _)
  · exact (le_fitZoom_iff options box.size screen).mpr h

/-- Points are fitted as the tightest box around them that keeps the padding, whatever their
order. -/
theorem fit?_tight {points : List (Point K)} (hpoints : points ≠ []) (screen : Size K)
    (hpadding : 0 ≤ options.logicalPadding) (hzoom : 0 < options.maxFitZoom) :
    (∀ points', (∀ p, p ∈ points' ↔ p ∈ points) →
        fit? points' screen options = fit? points screen options) ∧
      ∃ box viewport, Bounds.Tight points box ∧
        (∀ p ∈ points, (box.inflate options.logicalPadding).contains p = true) ∧
        fit? points screen options = some viewport ∧
        Fits (box.inflate options.logicalPadding) screen options viewport := by
  constructor
  · intro points' hsame
    unfold fit?
    rw [Bounds.ofPoints?_congr hsame]
  · obtain ⟨box, hbox, htight⟩ := Bounds.exists_ofPoints? hpoints
    exact ⟨box, _, htight, fun p hp => htight.contains_inflate hpadding hp,
      fit?_eq_some hbox screen options, fits_showing hzoom _ screen⟩

/-- Points on a line, on a screen that is lower than its padding. -/
theorem fit?_tight_row :
    ([⟨30, 7⟩, ⟨-10, 7⟩, ⟨20, 7⟩] : List (Point ℚ)) ≠ [] ∧
      (0 : ℚ) ≤ FitOptions.default.logicalPadding ∧ (0 : ℚ) < FitOptions.default.maxFitZoom ∧
      ∃ box viewport, Bounds.Tight [⟨30, 7⟩, ⟨-10, 7⟩, ⟨20, 7⟩] box ∧
        fit? ([⟨20, 7⟩, ⟨30, 7⟩, ⟨-10, 7⟩] : List (Point ℚ)) ⟨800, 50⟩ .default = some viewport ∧
        Fits (box.inflate 100) ⟨800, 50⟩ .default viewport := by
  have hpoints : ([⟨30, 7⟩, ⟨-10, 7⟩, ⟨20, 7⟩] : List (Point ℚ)) ≠ [] := by simp
  have hpadding : (0 : ℚ) ≤ FitOptions.default.logicalPadding := by norm_num [FitOptions.default]
  have hzoom : (0 : ℚ) < FitOptions.default.maxFitZoom := by norm_num [FitOptions.default]
  obtain ⟨horder, box, viewport, htight, -, hfit, hfits⟩ :=
    fit?_tight hpoints ⟨800, 50⟩ hpadding hzoom
  refine ⟨hpoints, hpadding, hzoom, box, viewport, htight, ?_, ?_⟩
  · rw [horder _ fun p => by simp; tauto, hfit]
  · have hmargin : (FitOptions.default : FitOptions ℚ).logicalPadding = 100 := by
      norm_num [FitOptions.default]
    rwa [hmargin] at hfits

end Viewport

end DomainStory
