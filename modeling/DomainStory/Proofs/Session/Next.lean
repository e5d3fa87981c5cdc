import DomainStory.Session.Edit

/-!
# What an edit does

`Session.Next` lists the states that an edit may lead to, and `Session.next_after` is the one case
analysis of all edits. What edits keep is read off the list: edits of the view and of the two kinds
of layout come together in it, and a refusal looks like a measurement that is not recorded.
-/

namespace DomainStory

variable {α : Type} [Plane α]

def Edit.text? : Edit α → Option String
  | .updateText text => some text
  | _ => none

namespace Session

variable {session session' : Session α} {edit : Edit α}

/-- Whether an edit is a layout that is performed. -/
def laysOut (session : Session α) : Edit α → Bool
  | .layout algorithm => (session.layout algorithm).isOk
  | .layoutNamed name => (session.layoutNamed name).isOk
  | _ => false

/-- The states that an edit may lead to. -/
inductive Next (session : Session α) : Edit α → Session α → Prop where
  | same {edit : Edit α} (htext : edit.text? = none) : Next session edit session
  | updateText (text : String) : Next session (.updateText text) (session.updateText text)
  | recompose {edit : Edit α} (view : View) (htext : edit.text? = none) :
      Next session edit (session.recompose view)
  /-- A layout fits the viewport again. -/
  | layout {edit : Edit α} {algorithm : Algorithm α} {diagram : Diagram α}
      {controls : ControlPoints α} (viewport : Viewport α) (screen : Option (Size α))
      (hedit : session.laysOut edit = true)
      (harrange : session.diagram.arrange session.controls algorithm session.canvas
        session.routing.defaultSize = .ok (diagram, controls)) :
      Next session edit { session with diagram, controls, viewport, screen }
  | moveActor (key : String) (spot : Point α) :
      Next session (.moveActor key spot)
        { session with diagram := session.diagram.place key spot }
  | measureActor (key : String) (size : Size α) :
      Next session (.measureActor key size) { session with diagram := { session.diagram with
        actors := session.diagram.actors.modify key fun actor =>
          { actor with measured := some size } } }
  | setControl (key : StepKey) (spot : Point α) :
      Next session (.setControl key spot) (session.setControl key spot)
  | resetControls : Next session .resetControls session.resetControls
  | route : Next session .route session.route.1
  | view {edit : Edit α} (viewport : Viewport α) (screen : Option (Size α))
      (htext : edit.text? = none) : Next session edit { session with viewport, screen }

theorem text?_of_laysOut (h : session.laysOut edit = true) : edit.text? = none := by
  cases edit with
  | updateText text => exact absurd h (by simp [laysOut])
  | _ => rfl

/-! ## The edits that may be refused -/

/-- A layout changes the diagram and the control points, and fits the viewport again. -/
theorem next_of_layout {algorithm : Algorithm α} (h : session.layout algorithm = .ok session')
    (hedit : session.laysOut edit = true) : session.Next edit session' := by
  unfold layout at h
  split at h
  · exact absurd h (by simp)
  · next diagram controls harrange =>
    dsimp only at h
    split at h
    · obtain rfl := Except.ok.inj h
      exact .layout _ _ hedit harrange
    · obtain rfl := Except.ok.inj h
      exact .layout _ _ hedit harrange

theorem next_of_layoutNamed {name : String} (h : session.layoutNamed name = .ok session') :
    session.Next (.layoutNamed name) session' := by
  have hedit : session.laysOut (.layoutNamed name) = true := congrArg Except.isOk h
  unfold layoutNamed at h
  split at h
  · exact absurd h (by simp)
  · exact next_of_layout h hedit

theorem next_of_moveActor {key : String} {spot : Point α}
    (h : session.moveActor key spot = .ok session') :
    session.Next (.moveActor key spot) session' := by
  unfold moveActor Diagram.move at h
  cases hactor : session.diagram.actor? key with
  | none => simp [hactor] at h
  | some actor =>
    simp only [hactor] at h
    obtain rfl := Except.ok.inj h
    exact .moveActor key spot

theorem next_of_measureActor {key : String} {size : Size α} {recorded : Bool}
    (h : session.measureActor key size = .ok (session', recorded)) :
    session.Next (.measureActor key size) session' := by
  unfold measureActor Diagram.measure at h
  cases hactor : session.diagram.actor? key with
  | none => simp [hactor] at h
  | some actor =>
    simp only [hactor] at h
    -- a box without an extent is not recorded
    by_cases hextent : (decide ((0.0 : α) < size.width) && decide ((0.0 : α) < size.height)) = true
    · simp only [hextent, if_true] at h
      obtain ⟨rfl, -⟩ := Prod.mk.inj (Except.ok.inj h)
      exact .measureActor key size
    · simp only [hextent] at h
      obtain ⟨rfl, -⟩ := Prod.mk.inj (Except.ok.inj h)
      exact .same rfl

/-! ## All edits -/

/-- Only a text is refused by nothing, so that a refused edit enters none. -/
theorem text?_of_error {refusal : Refusal} (h : session.perform edit = .error refusal) :
    edit.text? = none := by
  cases edit with
  | updateText text => exact absurd h (by simp [perform])
  | _ => rfl

theorem next_of_perform (h : session.perform edit = .ok session') : session.Next edit session' := by
  cases edit with
  | updateText text =>
    obtain rfl := Except.ok.inj h
    exact .updateText text
  | setView _ | nextView | prevView =>
    obtain rfl := Except.ok.inj h
    exact .recompose _ rfl
  | layout algorithm => exact next_of_layout h (congrArg Except.isOk h)
  | layoutNamed name => exact next_of_layoutNamed h
  | moveActor key spot => exact next_of_moveActor h
  | measureActor key size =>
    -- whether the size was recorded is no part of the session
    cases hmeasure : session.measureActor key size with
    | error refusal => simp [perform, hmeasure, Except.map] at h
    | ok measured =>
      simp only [perform, hmeasure, Except.map] at h
      obtain rfl := Except.ok.inj h
      exact next_of_measureActor hmeasure
  | setControl key spot =>
    obtain rfl := Except.ok.inj h
    exact .setControl key spot
  | resetControls =>
    obtain rfl := Except.ok.inj h
    exact .resetControls
  | route =>
    obtain rfl := Except.ok.inj h
    exact .route
  | fit _ | zoomTo _ =>
    obtain rfl := Except.ok.inj h
    exact .view _ _ rfl

/-- An edit leads to one of the states listed. -/
theorem next_after (session : Session α) (edit : Edit α) :
    session.Next edit (session.after edit) := by
  unfold after
  cases hperform : session.perform edit with
  | error refusal => exact .same (text?_of_error hperform)
  | ok changed => exact next_of_perform hperform

end Session

end DomainStory
