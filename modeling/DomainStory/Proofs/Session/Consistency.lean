import Mathlib.Data.List.Induction
import DomainStory.Proofs.Diagram.Placing
import DomainStory.Proofs.Session.Next

/-!
# Sessions stay consistent

Whatever is edited, the story of a session is the one that its text tells, the selected view exists,
and the diagram shows what that view of that story shows, with every actor in some place
(`Session.Consistent`). Two kinds of edits are told apart. Those of the text and the view build the
diagram anew, which makes a session consistent whatever its diagram was before
(`recompose_consistent`). All others only move and measure actors (`Kept`), which keeps it so.

`Session.run_consistent` puts these together for whole histories. It also says that what is shown
follows from the text that was entered last and the view, so that no earlier edit matters.
-/

namespace DomainStory

variable {α : Type} [Plane α]

/-- The text that was entered last in a history; none at all is the empty text. -/
def Edit.latestText (edits : List (Edit α)) : String := (edits.filterMap text?).getLast?.getD ""

namespace Session

variable {config : Config} {session session' : Session α}

/-- The diagram of a view of the story that a text tells, without places and sizes. -/
def freshDiagram (config : Config) (source : String) (view : View) : Diagram α :=
  (Diagram.compose (Story.read config source).domains view .empty).diagram

/-- What holds of a session at any time. -/
structure Consistent (config : Config) (session : Session α) : Prop where
  config_eq : session.config = config
  story_eq : session.story = Story.read config session.source
  view_eq : session.diagram.view = session.view
  view_exists : session.view = .all ∨
    ∃ i < session.story.domains.length, session.view = .domain i
  bare_eq : session.diagram.bare
    = (Diagram.compose session.story.domains session.view .empty).diagram
  placed : ∀ actor ∈ session.diagram.actors.values, actor.position.isSome = true

/-- What a session shows, computed from a configuration, a text and a view alone. -/
structure Shows (config : Config) (source : String) (view : View) (session : Session α) :
    Prop where
  keys : session.diagram.actors.keys = (freshDiagram config source view : Diagram α).actors.keys
  flows : session.diagram.flows = (freshDiagram config source view : Diagram α).flows
  outline : session.outline = .ofDomains (Story.read config source).domains view
  summary : session.summary
    = .of source (Story.read config source) (freshDiagram config source view : Diagram α)

/-! ## Edits of the text and the view -/

/-- A diagram that is built anew makes a session consistent, whatever it was before. -/
theorem recompose_consistent (view : View) (hconfig : session.config = config)
    (hstory : session.story = Story.read config session.source) :
    (session.recompose view).Consistent config where
  config_eq := hconfig
  story_eq := hstory
  view_eq := by
    have hbare : (session.recompose view).diagram.bare
        = (Diagram.compose session.story.domains view session.diagram).diagram.bare :=
      Diagram.bare_seed
    exact Diagram.view_eq_of_bare_eq hbare
  view_exists := View.clamp_eq_all_or _ view
  bare_eq := by
    have hbare : (session.recompose view).diagram.bare
        = (Diagram.compose session.story.domains view .empty).diagram :=
      Diagram.bare_seed.trans (Diagram.bare_compose _ _ _)
    -- the session holds the clamped view, which composes to the same
    rw [hbare, ← Diagram.compose_clamp]
    rfl
  placed := by
    rw [← Diagram.allPlaced_iff]
    exact Diagram.allPlaced_seed (Diagram.keyed_compose _ _ _)

theorem start_consistent (config : Config) : (start config : Session α).Consistent config where
  config_eq := rfl
  story_eq := rfl
  view_eq := rfl
  view_exists := .inl rfl
  bare_eq := rfl
  placed := fun _ hactor => absurd hactor List.not_mem_nil

/-! ## Edits that leave text and view -/

/-- A session of which at most actors, control points and the viewport are changed. -/
structure Kept (session session' : Session α) : Prop where
  config_eq : session'.config = session.config
  source_eq : session'.source = session.source
  story_eq : session'.story = session.story
  view_eq : session'.view = session.view
  diagram : session.diagram.Kept session'.diagram

omit [Plane α] in
theorem Consistent.of_kept (h : session.Consistent config) (hkept : session.Kept session') :
    session'.Consistent config where
  config_eq := hkept.config_eq.trans h.config_eq
  story_eq := by
    rw [hkept.story_eq, hkept.source_eq]
    exact h.story_eq
  view_eq := by
    have hview : session'.diagram.view = session.diagram.view :=
      Diagram.view_eq_of_bare_eq hkept.diagram.bare_eq
    rw [hview, hkept.view_eq]
    exact h.view_eq
  view_exists := by
    rw [hkept.view_eq, hkept.story_eq]
    exact h.view_exists
  bare_eq := by
    rw [hkept.diagram.bare_eq, hkept.view_eq, hkept.story_eq]
    exact h.bare_eq
  placed := by
    rw [← Diagram.allPlaced_iff]
    exact hkept.diagram.placed (Diagram.allPlaced_iff.mpr h.placed)

omit [Plane α] in
/-- A change of the diagram alone, and of what is no part of the diagram's meaning. -/
theorem kept_of_diagram {diagram : Diagram α} (hdiagram : session.diagram.Kept diagram)
    (controls : ControlPoints α) (viewport : Viewport α) (screen : Option (Size α)) :
    session.Kept { session with diagram, controls, viewport, screen } :=
  ⟨rfl, rfl, rfl, rfl, hdiagram⟩

/-! ## One edit -/

/-- Every edit keeps a session consistent. -/
theorem Consistent.after (h : session.Consistent config) (edit : Edit α) :
    (session.after edit).Consistent config := by
  have hnext := next_after session edit
  generalize session.after edit = session' at hnext ⊢
  cases hnext with
  | same => exact h
  | updateText text =>
    refine recompose_consistent session.view h.config_eq ?_
    rw [← h.config_eq]
  | recompose view => exact recompose_consistent view h.config_eq h.story_eq
  | layout _ _ _ harrange => exact h.of_kept (kept_of_diagram (.arrange harrange) _ _ _)
  | moveActor key spot => exact h.of_kept (kept_of_diagram (.place _ _ _) _ _ _)
  | measureActor key size => exact h.of_kept (kept_of_diagram (.measured _ _ _) _ _ _)
  -- what is left touches neither text nor view nor diagram
  | setControl | resetControls | route | view => exact h.of_kept (kept_of_diagram (.refl _) _ _ _)

theorem source_after (session : Session α) (edit : Edit α) :
    (session.after edit).source = edit.text?.getD session.source := by
  have hnext := next_after session edit
  generalize session.after edit = session' at hnext ⊢
  cases hnext with
  | same htext | recompose _ htext | view _ _ htext =>
    rw [htext]
    rfl
  | layout _ _ hedit =>
    rw [text?_of_laysOut hedit]
    rfl
  | _ => rfl

/-! ## Histories -/

theorem run_concat (session : Session α) (edits : List (Edit α)) (edit : Edit α) :
    session.run (edits ++ [edit]) = (session.run edits).after edit := by
  rw [run, List.foldl_append]
  rfl

theorem Consistent.run (h : session.Consistent config) (edits : List (Edit α)) :
    (session.run edits).Consistent config := by
  induction edits generalizing session with
  | nil => exact h
  | cons edit edits ih => exact ih (h.after edit)

theorem source_run (config : Config) (edits : List (Edit α)) :
    ((start config).run edits).source = Edit.latestText edits := by
  induction edits using List.reverseRecOn with
  | nil => rfl
  | append_singleton edits edit ih =>
    -- the last edit decides if it enters a text, and leaves the decision to those before if not
    rw [run_concat, source_after, ih, Edit.latestText, Edit.latestText, List.filterMap_append]
    cases htext : edit.text? with
    | none => simp [htext]
    | some text => simp [htext]

omit [Plane α] in
/-- A consistent session shows what its configuration, text and view call for. -/
theorem Consistent.shows (h : session.Consistent config) :
    session.Shows config session.source session.view := by
  have hbare : session.diagram.bare = freshDiagram config session.source session.view := by
    -- nothing but places and sizes tells the diagram from a fresh one
    rw [freshDiagram, ← h.story_eq]
    exact h.bare_eq
  exact {
    keys := by
      rw [← hbare, Diagram.keys_bare]
    flows := by
      rw [← hbare]
      rfl
    outline := by
      rw [← h.story_eq]
      rfl
    summary := by
      rw [← hbare, ← h.story_eq]
      unfold summary Summary.of Table.size
      simp only [Diagram.bare, Table.mapEntries, List.length_map]
      rfl }

/-- Every state of a history is consistent, and shows what the last text and the view call for,
whatever else was edited. -/
theorem run_consistent (config : Config) (edits : List (Edit α)) :
    ((start config).run edits).Consistent config ∧
      ((start config).run edits).Shows config (Edit.latestText edits)
        ((start config).run edits).view := by
  have hconsistent := (start_consistent config).run edits
  have hshows := hconsistent.shows
  rw [source_run] at hshows
  exact ⟨hconsistent, hshows⟩

/-! ## Reachable states -/

/-- The states that a session can get into, the canvas being set at any time. -/
inductive Reachable (config : Config) : Session α → Prop
  | start : Reachable config (start config)
  | withCanvas {session : Session α} (size : Size α) :
      Reachable config session → Reachable config (session.withCanvas size)
  | after {session : Session α} (edit : Edit α) :
      Reachable config session → Reachable config (session.after edit)

omit [Plane α] in
theorem kept_withCanvas (session : Session α) (size : Size α) :
    session.Kept (session.withCanvas size) :=
  ⟨rfl, rfl, rfl, rfl, .refl _⟩

/-- The canvas is nothing to what is shown. -/
theorem Reachable.consistent (h : Reachable config session) : session.Consistent config := by
  induction h with
  | start => exact start_consistent config
  | withCanvas size _ ih => exact ih.of_kept (kept_withCanvas _ size)
  | after edit _ ih => exact ih.after edit

theorem Reachable.run (h : Reachable config session) (edits : List (Edit α)) :
    Reachable config (session.run edits) := by
  induction edits generalizing session with
  | nil => exact h
  | cons edit edits ih => exact ih (h.after edit)

end Session

end DomainStory
