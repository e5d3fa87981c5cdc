import DomainStory.Proofs.Viewport
import DomainStory.Proofs.Session.Consistency

/-!
# The zoom never vanishes

A viewport is changed in two ways, by fitting it and by setting its zoom (`Viewport.Next`), and
every edit of a session does one of these or neither (`Session.viewport_after`). A layout fits the
viewport again, to whatever places it gave. With limits that are positive the zoom stays positive in
either way (`Viewport.Next.zoom_pos`), so that the maps between the screen and the canvas are
inverse to each other at any time (`Session.Reachable.converts`).
-/

namespace DomainStory

/-! ## What becomes of a viewport -/

/-- The viewports that a session may turn a viewport into. -/
inductive Viewport.Next {α : Type} [Scalar α] (options : FitOptions α) (viewport : Viewport α) :
    Viewport α → Prop where
  | same : Next options viewport viewport
  | fit {points : List (Point α)} {screen : Size α} {fitted : Viewport α}
      (hfit : Viewport.fit? points screen options = some fitted) : Next options viewport fitted
  | zoomTo (zoom : α) : Next options viewport (viewport.zoomTo zoom options)

namespace Session

section

variable {α : Type} [Plane α] {session session' : Session α} {edit : Edit α}

theorem viewport_fit (session : Session α) (screen : Size α) :
    Viewport.Next session.fitting session.viewport (session.fit screen).viewport := by
  unfold fit
  dsimp only
  cases hfit : Viewport.fit? session.diagram.places screen session.fitting with
  | none => exact .same
  | some fitted => exact .fit hfit

theorem viewport_layout {algorithm : Algorithm α} (h : session.layout algorithm = .ok session') :
    Viewport.Next session.fitting session.viewport session'.viewport := by
  unfold layout at h
  split at h
  · exact absurd h (by simp)
  · next diagram controls _ =>
    dsimp only at h
    split at h
    · next screen _ =>
      obtain rfl := Except.ok.inj h
      exact viewport_fit { session with diagram, controls } screen
    · obtain rfl := Except.ok.inj h
      exact .same

theorem viewport_of_perform (h : session.perform edit = .ok session') :
    Viewport.Next session.fitting session.viewport session'.viewport := by
  cases edit with
  | layout algorithm => exact viewport_layout h
  | layoutNamed name =>
    simp only [perform, layoutNamed] at h
    split at h
    · exact absurd h (by simp)
    · exact viewport_layout h
  | moveActor key spot =>
    simp only [perform, moveActor] at h
    split at h
    · exact absurd h (by simp)
    · obtain rfl := Except.ok.inj h
      exact .same
  | measureActor key size =>
    simp only [perform, measureActor] at h
    split at h
    · exact absurd h (by simp [Except.map])
    · obtain rfl := Except.ok.inj h
      exact .same
  | fit screen =>
    obtain rfl := Except.ok.inj h
    exact viewport_fit session screen
  | zoomTo zoom =>
    obtain rfl := Except.ok.inj h
    exact .zoomTo zoom
  | _ =>
    obtain rfl := Except.ok.inj h
    exact .same

theorem viewport_after (session : Session α) (edit : Edit α) :
    Viewport.Next session.fitting session.viewport (session.after edit).viewport := by
  unfold after
  cases hperform : session.perform edit with
  | error refusal => exact .same
  | ok changed => exact viewport_of_perform hperform

/-- No edit touches the options. -/
theorem fitting_after (session : Session α) (edit : Edit α) :
    (session.after edit).fitting = session.fitting := by
  have hnext := next_after session edit
  generalize session.after edit = session' at hnext ⊢
  cases hnext <;> rfl

theorem Reachable.fitting_eq {config : Config} (h : session.Reachable config) :
    session.fitting = .ofConfig config := by
  induction h with
  | start => rfl
  | withCanvas size _ ih => exact ih
  | after edit _ ih => rw [fitting_after, ih]

end

end Session

variable {K : Type} [Field K] [LinearOrder K] [IsStrictOrderedRing K] [Compass K]

/-! ## A positive zoom -/

/-- Options with limits that are positive and in order. -/
structure FitOptions.Positive (options : FitOptions K) : Prop where
  minZoom : 0 < options.minZoom
  ordered : options.minZoom ≤ options.maxZoom
  maxFitZoom : 0 < options.maxFitZoom

theorem FitOptions.positive_default : (FitOptions.default : FitOptions K).Positive := by
  constructor <;> norm_num [FitOptions.default]

namespace Viewport

variable {options : FitOptions K} {viewport viewport' : Viewport K}

theorem zoom_pos_of_fit? {points : List (Point K)} {screen : Size K}
    (hoptions : options.Positive) (h : fit? points screen options = some viewport) :
    0 < viewport.zoom := by
  obtain ⟨bounds, -, rfl⟩ := Option.map_eq_some_iff.mp h
  exact fitZoom_pos hoptions.maxFitZoom _ screen

omit [IsStrictOrderedRing K] in
theorem zoom_pos_of_zoomTo (hoptions : options.Positive) (viewport : Viewport K) (zoom : K) :
    0 < (viewport.zoomTo zoom options).zoom := by
  unfold zoomTo
  rw [Scalar.min_eq_inf, Scalar.max_eq_sup, lt_inf_iff]
  exact ⟨hoptions.minZoom.trans_le le_sup_right, hoptions.minZoom.trans_le hoptions.ordered⟩

theorem Next.zoom_pos (hoptions : options.Positive) (h : Next options viewport viewport')
    (hzoom : 0 < viewport.zoom) : 0 < viewport'.zoom := by
  cases h with
  | same => exact hzoom
  | fit hfit => exact zoom_pos_of_fit? hoptions hfit
  | zoomTo zoom => exact zoom_pos_of_zoomTo hoptions viewport zoom

/-! ## There and back -/

/-- A viewport between whose two sides points go back and forth without loss. -/
structure Converts (viewport : Viewport K) : Prop where
  zoom_pos : 0 < viewport.zoom
  toLogical_toScreen : ∀ p, viewport.toLogical (viewport.toScreen p) = p
  toScreen_toLogical : ∀ p, viewport.toScreen (viewport.toLogical p) = p
  deltaToLogical : ∀ p delta, viewport.deltaToLogical delta
    = (viewport.toLogical p).displacement (viewport.toLogical (p.shift delta))

omit [IsStrictOrderedRing K] in
theorem converts_of_zoom_pos (hzoom : 0 < viewport.zoom) : viewport.Converts where
  zoom_pos := hzoom
  toLogical_toScreen p := by
    unfold toLogical toScreen
    simp only [add_sub_cancel_right, mul_div_cancel_right₀ _ hzoom.ne']
  toScreen_toLogical p := by
    unfold toLogical toScreen
    simp only [div_mul_cancel₀ _ hzoom.ne', sub_add_cancel]
  deltaToLogical p delta := by
    unfold Viewport.deltaToLogical toLogical Vec.shrink Point.displacement Point.shift
    simp only [← sub_div, sub_sub_sub_cancel_right, add_sub_cancel_left]

end Viewport

/-! ## Sessions -/

namespace Session

variable {config : Config} {session : Session K}

theorem Reachable.zoom_pos (hoptions : (FitOptions.ofConfig config : FitOptions K).Positive)
    (h : session.Reachable config) : 0 < session.viewport.zoom := by
  induction h with
  | start =>
    show (0 : K) < 1.0
    norm_num
  | withCanvas size _ ih => exact ih
  | @after session edit hreachable ih =>
    rw [← hreachable.fitting_eq] at hoptions
    exact (viewport_after session edit).zoom_pos hoptions ih

/-- Whatever a session went through, points on its screen and on its canvas can be told from each
other. -/
theorem Reachable.converts (hoptions : (FitOptions.ofConfig config : FitOptions K).Positive)
    (h : session.Reachable config) : session.viewport.Converts :=
  Viewport.converts_of_zoom_pos (h.zoom_pos hoptions)

/-- A session that is laid out on a screen without height, and then zoomed to less than nothing. -/
def squeezed : Session ℚ :=
  (start .empty).run [.updateText "@Ann (person)\n@Bob (person)", .fit ⟨800, 0⟩,
    .layoutNamed "grid", .zoomTo (-3)]

theorem Reachable.converts_squeezed :
    (FitOptions.ofConfig .empty : FitOptions ℚ).Positive ∧ squeezed.Reachable .empty ∧
      squeezed.viewport.zoom = 1 / 5 ∧ squeezed.viewport.Converts := by
  have hoptions : (FitOptions.ofConfig .empty : FitOptions ℚ).Positive :=
    FitOptions.positive_default
  have hreachable : squeezed.Reachable .empty := Reachable.start.run _
  exact ⟨hoptions, hreachable, by decide +kernel, hreachable.converts hoptions⟩

end Session

end DomainStory
