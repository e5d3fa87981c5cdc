import DomainStory.Diagram.Arrange
import DomainStory.Diagram.Compose
import DomainStory.Diagram.Route
import DomainStory.Story.Reading
import DomainStory.Summary
import DomainStory.Viewport

/-!
# Editing sessions

A session holds a story text and all that is derived from it or attached to it: the story, the
selected view, its diagram, the control points, and the viewport. Each operation is one complete
edit. The diagram always belongs to the story and the view, and every actor of it is placed.
-/

namespace DomainStory

structure Session (α : Type) where
  config : Config
  source : String
  story : Story
  view : View
  diagram : Diagram α
  controls : ControlPoints α
  canvas : Canvas α
  routing : RouteOptions α
  fitting : FitOptions α
  viewport : Viewport α
  /-- The screen that the viewport was last fitted to; a layout fits it again. -/
  screen : Option (Size α)

namespace Session

variable {α : Type} [Plane α]

def start (config : Config) : Session α where
  config
  source := ""
  story := .empty
  view := .all
  diagram := .empty
  controls := .empty
  canvas := .ofConfig config
  routing := .ofConfig config
  fitting := .ofConfig config
  viewport := .default
  screen := none

def withCanvas (session : Session α) (size : Size α) : Session α :=
  { session with canvas := { session.canvas with size } }

/-! ## Text and views -/

/-- Builds the diagram of a view anew and seeds the actors that are new to it. -/
def recompose (session : Session α) (view : View) : Session α :=
  let diagram := (Diagram.compose session.story.domains view session.diagram).diagram
  { session with
    diagram := (diagram.seed session.canvas).1
    -- a view of a missing domain has become the view of everything
    view := diagram.view }

/-- Replaces the text. Actors whose name stays keep place and size. All control points go, since
the steps they belong to are told anew. -/
def updateText (session : Session α) (text : String) : Session α :=
  recompose
    { session with
      source := text
      story := .read session.config text
      controls := .empty }
    session.view

/-- Selects a view; the view of a domain that does not exist selects everything. -/
def setView (session : Session α) (view : View) : Session α := session.recompose view

def nextView (session : Session α) : Session α :=
  session.setView (session.view.next session.story.domains.length)

def prevView (session : Session α) : Session α :=
  session.setView (session.view.prev session.story.domains.length)

/-! ## Layout and viewport -/

/-- Fits the viewport to a screen. Without placed actors it stays as it is. -/
def fit (session : Session α) (screen : Size α) : Session α :=
  { session with
    screen := some screen
    viewport :=
      (Viewport.fit? session.diagram.places screen session.fitting).getD session.viewport }

def zoomTo (session : Session α) (zoom : α) : Session α :=
  { session with viewport := session.viewport.zoomTo zoom session.fitting }

/-- Lays out all actors, which drops the control points, and fits the viewport again. -/
def layout (session : Session α) (algorithm : Algorithm α) : Except Refusal (Session α) :=
  match session.diagram.arrange session.controls algorithm session.canvas
      session.routing.defaultSize with
  | .error refusal => .error refusal
  | .ok (diagram, controls) =>
    let arranged := { session with diagram, controls }
    match session.screen with
    | some screen => .ok (arranged.fit screen)
    | none => .ok arranged

def layoutNamed (session : Session α) (name : String) : Except Refusal (Session α) :=
  match Algorithm.read? (.ofConfig session.config) name with
  | .error refusal => .error refusal
  | .ok algorithm => session.layout algorithm

/-! ## Actors and curves -/

/-- Moves an actor. Control points stay where they are. -/
def moveActor (session : Session α) (key : String) (spot : Point α) :
    Except Refusal (Session α) :=
  match session.diagram.move key spot with
  | .error refusal => .error refusal
  | .ok diagram => .ok { session with diagram }

/-- Records the measured size of an actor. Answers whether it was recorded. -/
def measureActor (session : Session α) (key : String) (size : Size α) :
    Except Refusal (Session α × Bool) :=
  match session.diagram.measure key size with
  | .error refusal => .error refusal
  | .ok (diagram, recorded) => .ok ({ session with diagram }, recorded)

def setControl (session : Session α) (key : StepKey) (spot : Point α) : Session α :=
  { session with controls := session.controls.insert key spot }

def resetControls (session : Session α) : Session α := { session with controls := .empty }

/-- Routes all steps at the current zoom, keeping the control points now computed. -/
def route (session : Session α) : Session α × List (RoutedEdge α) :=
  let options := { session.routing with zoom := session.viewport.zoom }
  let (controls, edges) := session.diagram.route options session.controls
  ({ session with controls }, edges)

/-! ## Reports -/

def outline (session : Session α) : Outline := .ofDomains session.story.domains session.view

def summary (session : Session α) : Summary :=
  .of session.source session.story session.diagram

end Session

end DomainStory
