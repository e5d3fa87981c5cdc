import DomainStory.Geometry.Point
import DomainStory.Refusal
import DomainStory.Story.Basic
import DomainStory.Table
import DomainStory.View

/-!
# Diagrams

A diagram holds the actors and flows that a view shows, merged from the visible domains. Actors are
kept under a key in the order of their first declaration. Each carries its place on the canvas and
its measured size, both absent at first. Control points of the curves are kept beside the diagram.
-/

namespace DomainStory

/-- The place of a step in a story, which no change of view touches: the index of its domain, of
its flow within the domain, and of the step within the flow. -/
structure StepKey where
  domain : Nat
  flow : Nat
  step : Nat
deriving DecidableEq

structure DiagramActor (α : Type) where
  key : String
  displayName : String
  icon : String
  kind : ActorKind
  remark : Option String
  /-- The domain of the actor; absent while all domains are merged. -/
  domainIndex : Option Nat
  position : Option (Point α)
  measured : Option (Size α)

namespace DiagramActor

variable {α : Type}

def isPlaced (actor : DiagramActor α) : Bool := actor.position.isSome

def boxSize (actor : DiagramActor α) (fallback : Size α) : Size α :=
  actor.measured.getD fallback

end DiagramActor

structure DiagramFlow where
  domainIndex : Nat
  domainTitle : String
  domainColor : String
  flowIndex : Nat
  number : Nat
  title : String
  steps : List Step

/-- The actors and flows that a view shows. -/
structure Diagram (α : Type) where
  view : View
  actors : Table String (DiagramActor α)
  flows : List DiagramFlow

/-- The control points of curves, by step. -/
abbrev ControlPoints (α : Type) := Table StepKey (Point α)

structure DiagramEdge where
  key : StepKey
  source : String
  target : String
  /-- The place of the flow among the visible flows. -/
  flowOrdinal : Nat
  flowNumber : Nat
  flowLength : Nat
  index : Nat
  content : Step

namespace Diagram

variable {α : Type}

def empty : Diagram α := ⟨.all, .empty, []⟩

def actor? (diagram : Diagram α) (key : String) : Option (DiagramActor α) :=
  diagram.actors.get? key

def stepCount (diagram : Diagram α) : Nat :=
  Text.total (diagram.flows.map fun flow => flow.steps.length)

def step? (diagram : Diagram α) (key : StepKey) : Option Step :=
  (diagram.flows.find? fun flow => flow.domainIndex = key.domain && flow.flowIndex = key.flow).bind
    fun flow => flow.steps[key.step]?

def unplacedKeys (diagram : Diagram α) : List String :=
  (diagram.actors.values.filter fun actor => !actor.isPlaced).map DiagramActor.key

def places (diagram : Diagram α) : List (Point α) :=
  diagram.actors.values.filterMap DiagramActor.position

/-- Gives an actor a place; a key that no actor has changes nothing. -/
def place (diagram : Diagram α) (key : String) (spot : Point α) : Diagram α :=
  { diagram with
    actors := diagram.actors.modify key fun actor => { actor with position := some spot } }

def move (diagram : Diagram α) (key : String) (spot : Point α) :
    Except Refusal (Diagram α) :=
  match diagram.actor? key with
  | none => .error (.unknownActor key)
  | some _ => .ok (diagram.place key spot)

/-- Records the measured size of an actor. A box without a positive extent on both axes is hidden
and keeps the size measured before. Answers whether the size was recorded. -/
def measure [Scalar α] (diagram : Diagram α) (key : String) (size : Size α) :
    Except Refusal (Diagram α × Bool) :=
  match diagram.actor? key with
  | none => .error (.unknownActor key)
  | some _ =>
    if (0.0 : α) < size.width && (0.0 : α) < size.height then
      .ok ({ diagram with
        actors := diagram.actors.modify key fun actor => { actor with measured := some size } },
        true)
    else .ok (diagram, false)

/-! ## Steps as edges -/

/-- The actor that a name denotes in a flow: in a view of one domain, only an actor of that
domain. -/
def resolve (diagram : Diagram α) (flow : DiagramFlow) (name : String) :
    Option (DiagramActor α) :=
  (diagram.actor? name).filter fun actor =>
    diagram.view.isAll || actor.domainIndex = some flow.domainIndex

/-- The edges of a flow. Steps whose actors are not shown have none. -/
def flowEdges (diagram : Diagram α) (flow : DiagramFlow) (ordinal : Nat) : List DiagramEdge :=
  flow.steps.zipIdx.filterMap fun (step, index) =>
    match diagram.resolve flow step.source, diagram.resolve flow step.target with
    | some source, some target =>
      some {
        key := ⟨flow.domainIndex, flow.flowIndex, index⟩
        source := source.key
        target := target.key
        flowOrdinal := ordinal
        flowNumber := flow.number
        flowLength := flow.steps.length
        index
        content := step }
    | _, _ => none

def edges (diagram : Diagram α) : List DiagramEdge :=
  diagram.flows.zipIdx.flatMap fun (flow, ordinal) => diagram.flowEdges flow ordinal

end Diagram

end DomainStory
