import DomainStory.Proofs.Diagram.Routing
import DomainStory.Proofs.Session.Places

/-!
# Control points stay and belong to steps

A control point is stored when its step is first routed, or by hand. From then on it stays until it
is set by hand or all are dropped, which happens when the text is entered anew, on a reset and on a
layout (`Session.get?_controls_after`). As no other edit changes the story, what was stored by
routing keeps belonging to a step of it (`Session.Traced.step?_isSome`).

Which points were put in by hand is no part of a session. `Session.Traced` keeps account of it along
the way to a state.
-/

namespace DomainStory

variable {α : Type} [Plane α]

/-- The step at a place of a story. -/
def Story.step? (story : Story) (key : StepKey) : Option Step :=
  story.domains[key.domain]?.bind fun domain =>
    domain.flows[key.flow]?.bind fun flow => flow.steps[key.step]?

namespace Session

variable {config : Config} {session : Session α} {edit : Edit α} {key : StepKey} {spot : Point α}

omit [Plane α] in
/-- An edge tells the step of the story that has its key. -/
theorem Consistent.step?_of_mem_edges (h : session.Consistent config) {edge : DiagramEdge}
    (hedge : edge ∈ session.diagram.edges) : session.story.step? edge.key = some edge.content := by
  obtain ⟨flow, hflow, hstep, hkey, -⟩ := Diagram.mem_edges hedge
  have hflows : session.diagram.flows
      = (Diagram.compose session.story.domains session.view
          (.empty : Diagram α)).diagram.flows := by
    rw [← h.bare_eq]
    rfl
  rw [hflows] at hflow
  obtain ⟨domain, i, told, j, hshown, htold, hdomain, hindex, hsteps⟩ :=
    Diagram.mem_flows_compose (List.mem_of_getElem? hflow)
  rw [hkey, hdomain, hindex]
  unfold Story.step?
  rw [View.getElem?_of_mem_select hshown, Option.bind_some, htold, Option.bind_some, ← hsteps]
  exact hstep

/-! ## What edits do to control points -/

/-- Whether an edit drops all control points. -/
def drops (session : Session α) : Edit α → Bool
  | .updateText _ | .resetControls => true
  -- a diagram without actors is left alone by a layout
  | edit => !session.diagram.actors.isEmpty && session.laysOut edit

end Session

/-- Whether an edit sets the control point of a step. -/
def Edit.sets (key : StepKey) : Edit α → Bool
  | .setControl other _ => other = key
  | _ => false

namespace Session

variable {config : Config} {session : Session α} {edit : Edit α} {key : StepKey} {spot : Point α}

/-- A layout drops all control points, or has no actors and leaves them. -/
theorem controls_of_arrange {algorithm : Algorithm α} {diagram : Diagram α}
    {controls : ControlPoints α}
    (harrange : session.diagram.arrange session.controls algorithm session.canvas
      session.routing.defaultSize = .ok (diagram, controls))
    (hlaysOut : session.laysOut edit = true) :
    (controls = .empty ∧ session.drops edit = true) ∨ controls = session.controls := by
  rcases Diagram.arrange_cases harrange with ⟨-, -, rfl⟩ | ⟨hactors, places, -, rfl⟩
  · exact .inr rfl
  · refine .inl ⟨rfl, ?_⟩
    cases edit with
    | updateText | resetControls => rfl
    | _ => simp only [drops, hactors, hlaysOut, Bool.not_false, Bool.and_self]

/-- A control point stays unless it is set or all are dropped. -/
theorem get?_controls_after (hstored : session.controls.get? key = some spot)
    (hdrops : session.drops edit = false) (hsets : edit.sets key = false) :
    (session.after edit).controls.get? key = some spot := by
  have hnext := next_after session edit
  generalize session.after edit = session' at hnext ⊢
  cases hnext with
  | updateText | resetControls => exact absurd hdrops (by simp [drops])
  | layout _ _ hlaysOut harrange =>
    rcases controls_of_arrange harrange hlaysOut with ⟨-, hdropped⟩ | rfl
    · rw [hdrops] at hdropped
      exact absurd hdropped (by simp)
    · exact hstored
  | setControl other at' =>
    have hne : other ≠ key := of_decide_eq_false hsets
    rw [setControl, Table.get?_insert, if_neg hne.symm]
    exact hstored
  | route => exact Diagram.get?_routeEdges_of_stored hstored
  | _ => exact hstored

/-- A key under which routing stores a point is that of a step. -/
theorem Consistent.step?_of_routed (h : session.Consistent config) {options : RouteOptions α}
    (hbefore : key ∉ session.controls.keys)
    (hafter : key ∈ (session.diagram.route options session.controls).1.keys) :
    (session.story.step? key).isSome = true := by
  by_cases hkey : key ∈ session.diagram.edges.map DiagramEdge.key
  · obtain ⟨edge, hedge, rfl⟩ := List.mem_map.mp hkey
    rw [h.step?_of_mem_edges hedge]
    rfl
  · -- no edge has the key, and nothing was stored under it
    rw [Table.mem_keys_iff, Diagram.route, Diagram.get?_routeEdges_of_notMem hkey,
      ← Table.mem_keys_iff] at hafter
    exact absurd hafter hbefore

/-! ## Where control points come from -/

/-- The states that a session can get into, with the keys of the control points that were put in by
hand: those that were set while nothing was stored under the key, until they are dropped. -/
inductive Traced (config : Config) : Session α → (StepKey → Prop) → Prop
  | start : Traced config (start config) fun _ => False
  | withCanvas {session : Session α} {byHand : StepKey → Prop} (size : Size α) :
      Traced config session byHand → Traced config (session.withCanvas size) byHand
  | after {session : Session α} {byHand : StepKey → Prop} (edit : Edit α) :
      Traced config session byHand → Traced config (session.after edit) fun key =>
        key ∈ (session.after edit).controls.keys ∧
          (byHand key ∨ key ∉ session.controls.keys ∧ edit.sets key = true)

/-- Every state has such an account, and nothing else has. -/
theorem reachable_iff_traced :
    session.Reachable config ↔ ∃ byHand, session.Traced config byHand := by
  constructor
  · intro h
    induction h with
    | start => exact ⟨_, .start⟩
    | withCanvas size _ ih =>
      obtain ⟨byHand, htraced⟩ := ih
      exact ⟨byHand, htraced.withCanvas size⟩
    | after edit _ ih =>
      obtain ⟨byHand, htraced⟩ := ih
      exact ⟨_, htraced.after edit⟩
  · rintro ⟨byHand, htraced⟩
    induction htraced with
    | start => exact .start
    | withCanvas size _ ih => exact ih.withCanvas size
    | after edit _ ih => exact ih.after edit

variable {byHand : StepKey → Prop}

/-- What was not put in by hand belongs to a step. -/
theorem Traced.step?_isSome (h : session.Traced config byHand) (hkey : key ∈ session.controls.keys)
    (hhand : ¬ byHand key) : (session.story.step? key).isSome = true := by
  induction h with
  | start => exact absurd hkey List.not_mem_nil
  | withCanvas size _ ih => exact ih hkey hhand
  | @after session byHand edit htraced ih =>
    have hconsistent : session.Consistent config :=
      (reachable_iff_traced.mpr ⟨byHand, htraced⟩).consistent
    have hold : key ∈ session.controls.keys → (session.story.step? key).isSome = true :=
      fun hbefore => ih hbefore fun hbyHand => hhand ⟨hkey, .inl hbyHand⟩
    have hnew : key ∉ session.controls.keys → edit.sets key = false :=
      fun hbefore => Bool.eq_false_iff.mpr fun hsets => hhand ⟨hkey, .inr ⟨hbefore, hsets⟩⟩
    clear hhand
    have hnext := next_after session edit
    generalize session.after edit = session' at hkey hnext ⊢
    by_cases hbefore : key ∈ session.controls.keys
    · cases hnext with
      | updateText | resetControls => exact absurd hkey List.not_mem_nil
      | _ => exact hold hbefore
    · cases hnext with
      | updateText | resetControls => exact absurd hkey List.not_mem_nil
      | layout _ _ hlaysOut harrange =>
        rcases controls_of_arrange harrange hlaysOut with ⟨rfl, -⟩ | rfl
        · exact absurd hkey List.not_mem_nil
        · exact absurd hkey hbefore
      | setControl other spot =>
        have hne : other ≠ key := of_decide_eq_false (hnew hbefore)
        rw [Table.mem_keys_iff, setControl, Table.get?_insert, if_neg hne.symm,
          ← Table.mem_keys_iff] at hkey
        exact absurd hkey hbefore
      | route => exact hconsistent.step?_of_routed hbefore hkey
      | _ => exact absurd hkey hbefore

/-! ## Whole histories -/

/-- A control point stays along a history whose edits do not touch it, and every drawing of its step
goes through it. What was not put in by hand belongs to a step of the story. -/
theorem controls_sticky (h : session.Traced config byHand) :
    (∀ key spot edits, session.controls.get? key = some spot →
        Along (fun session edit => session.drops edit = false ∧ edit.sets key = false) session
          edits →
        (session.run edits).controls.get? key = some spot ∧
          Along (fun session edit => edit = .route → ∀ routed ∈ session.route.2,
            routed.key = key → routed.control = spot) session edits) ∧
      ∀ key ∈ session.controls.keys, ¬ byHand key → (session.story.step? key).isSome = true := by
  refine ⟨fun key spot edits hstored huntouched => ?_,
    fun key hkey hhand => h.step?_isSome hkey hhand⟩
  obtain ⟨halong, hend⟩ := huntouched.invariant
    (fun session => session.controls.get? key = some spot)
    (fun session edit hstored hedit => get?_controls_after hstored hedit.1 hedit.2) hstored
  refine ⟨hend, halong.imp ?_⟩
  rintro session edit ⟨hstored, -⟩ - routed hrouted hkey
  exact Diagram.control_of_stored hstored hrouted hkey

def order : String := "@Ann (person)\n@Bob (person)\n## Order\nBob asks Ann"

/-- A point is put in for a step that does not exist, and one is set for a step that was drawn. -/
def dragged : Session Float :=
  ((((start .default).after (.updateText order)).after (.setControl ⟨7, 0, 0⟩ ⟨0.0, 0.0⟩)).after
    .route).after (.setControl ⟨0, 0, 0⟩ ⟨10.0, 20.0⟩)

/-- Edits that leave the point of the step alone, one of them refused. -/
def looks : List (Edit Float) := [
  .setView (.domain 0), .moveActor "Ann" ⟨30.0, 40.0⟩, .route, .layoutNamed "spiral",
  .setControl ⟨7, 0, 0⟩ ⟨1.0, 1.0⟩, .zoomTo 2.0, .route]

/-- The point of the step stays. The other one was put in by hand, and belongs to no step. -/
theorem controls_sticky_dragged :
    ∃ byHand : StepKey → Prop, dragged.Traced .default byHand ∧
      dragged.controls.get? ⟨0, 0, 0⟩ = some ⟨10.0, 20.0⟩ ∧
      Along (fun session edit => session.drops edit = false ∧ edit.sets ⟨0, 0, 0⟩ = false) dragged
        looks ∧
      (dragged.run looks).controls.get? ⟨0, 0, 0⟩ = some ⟨10.0, 20.0⟩ ∧
      (⟨0, 0, 0⟩ ∈ dragged.controls.keys ∧ ¬ byHand ⟨0, 0, 0⟩) ∧
      (dragged.story.step? ⟨0, 0, 0⟩).isSome = true ∧
      (byHand ⟨7, 0, 0⟩ ∧ dragged.story.step? ⟨7, 0, 0⟩ = none) := by
  have hstart : (start .default : Session Float).Traced .default _ := .start
  have htraced := (((hstart.after (.updateText order)).after
    (.setControl ⟨7, 0, 0⟩ ⟨0.0, 0.0⟩)).after .route).after (.setControl ⟨0, 0, 0⟩ ⟨10.0, 20.0⟩)
  have hstored : dragged.controls.get? ⟨0, 0, 0⟩ = some ⟨10.0, 20.0⟩ := rfl
  have huntouched : Along
      (fun session edit => session.drops edit = false ∧ edit.sets ⟨0, 0, 0⟩ = false) dragged
      looks := by
    decide +kernel
  have hkey : (⟨0, 0, 0⟩ : StepKey) ∈ dragged.controls.keys := by decide +kernel
  obtain ⟨hstays, horigin⟩ := controls_sticky htraced
  refine ⟨_, htraced, hstored, huntouched, (hstays _ _ _ hstored huntouched).1, ⟨hkey, ?hand⟩,
    horigin _ hkey ?hand, ?other, by decide +kernel⟩
  case hand =>
    -- it was set last, but the routing before had stored it
    rintro ⟨-, ⟨-, ⟨-, ⟨-, h | ⟨-, h⟩⟩ | ⟨-, h⟩⟩ | ⟨-, h⟩⟩ | ⟨hnew, -⟩⟩
    · exact h
    · exact absurd h (by decide)
    · exact absurd h (by decide)
    · exact absurd h (by decide)
    · exact hnew (by decide +kernel)
  case other =>
    exact ⟨by decide +kernel, .inl ⟨by decide +kernel, .inl ⟨by decide +kernel,
      .inr ⟨by decide +kernel, rfl⟩⟩⟩⟩

end Session

end DomainStory
