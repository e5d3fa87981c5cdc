import DomainStory.Session.Basic

/-!
# Histories of edits

The operations of a session as data, and the state that a history of them leads to. An edit that is
refused leaves the state as it was.
-/

namespace DomainStory

inductive Edit (α : Type) where
  | updateText (text : String)
  | setView (view : View)
  | nextView
  | prevView
  | layout (algorithm : Algorithm α)
  | layoutNamed (name : String)
  | moveActor (key : String) (spot : Point α)
  | measureActor (key : String) (size : Size α)
  | setControl (key : StepKey) (spot : Point α)
  | resetControls
  | route
  | fit (screen : Size α)
  | zoomTo (zoom : α)

namespace Session

variable {α : Type} [Plane α]

def perform (session : Session α) : Edit α → Except Refusal (Session α)
  | .updateText text => .ok (session.updateText text)
  | .setView view => .ok (session.setView view)
  | .nextView => .ok session.nextView
  | .prevView => .ok session.prevView
  | .layout algorithm => session.layout algorithm
  | .layoutNamed name => session.layoutNamed name
  | .moveActor key spot => session.moveActor key spot
  | .measureActor key size => (session.measureActor key size).map Prod.fst
  | .setControl key spot => .ok (session.setControl key spot)
  | .resetControls => .ok session.resetControls
  | .route => .ok session.route.1
  | .fit screen => .ok (session.fit screen)
  | .zoomTo zoom => .ok (session.zoomTo zoom)

/-- The state after an edit, which is the state before when the edit is refused. -/
def after (session : Session α) (edit : Edit α) : Session α :=
  match session.perform edit with
  | .ok changed => changed
  | .error _ => session

def run (session : Session α) (edits : List (Edit α)) : Session α := edits.foldl after session

end Session

end DomainStory
