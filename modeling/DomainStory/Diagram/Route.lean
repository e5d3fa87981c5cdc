import DomainStory.Config
import DomainStory.Diagram.Basic
import DomainStory.Outline

/-!
# Routing

Each step is drawn as a quadratic curve from the border of one actor's box to that of the other's.
The control point of the curve is computed when the step is first routed, fanning the steps of a
flow out to both sides, and kept from then on.
-/

namespace DomainStory

structure RouteOptions (α : Type) where
  fanSpacing : α
  /-- The gap between the end of a curve and a box, on the screen. -/
  edgeClearance : α
  defaultSize : Size α
  /-- The zoom of the screen. Boxes have a fixed size on the screen, so that their extent on the
  canvas shrinks as the zoom grows. -/
  zoom : α
  flowColors : List String

namespace RouteOptions

variable {α : Type} [Scalar α]

def default : RouteOptions α := ⟨50.0, 6.0, ⟨90.0, 70.0⟩, 1.0, DomainStory.flowColors⟩

def ofConfig (config : Config) : RouteOptions α where
  fanSpacing := config.scalar "routing.fanSpacing" 50.0
  edgeClearance := config.scalar "actor.edgeClearance" 6.0
  defaultSize := ⟨config.scalar "actor.defaultWidth" 90.0, config.scalar "actor.defaultHeight" 70.0⟩
  zoom := 1.0
  flowColors := (config.texts? "palette.flows").getD DomainStory.flowColors

/-- Half the extent on the canvas of a box and its clearance. A zoom that is not positive counts
as one. -/
def halfExtent (options : RouteOptions α) (size : Size α) : Size α :=
  let zoom := if (0.0 : α) < options.zoom then options.zoom else 1.0
  ⟨(size.width / 2.0 + options.edgeClearance) / zoom,
    (size.height / 2.0 + options.edgeClearance) / zoom⟩

def flowColor (options : RouteOptions α) (ordinal : Nat) : String :=
  cycleColor options.flowColors ordinal DomainStory.flowColors

end RouteOptions

namespace Curve

variable {α : Type}

/-- How far a step is pushed to the side: the steps of a flow spread evenly about the middle. -/
def fanOffset [Scalar α] (index length : Nat) (spacing : α) : α :=
  ((index : α) - ((length : α) - 1.0) / 2.0) * spacing

/-- The control point of a step that has none yet: the middle between its actors, pushed at a right
angle to the line between them. -/
def control [Plane α] (source target : Point α) (index length : Nat) (spacing : α) : Point α :=
  let d := source.displacement target
  let distance := if (0.0 : α) < d.length then d.length else 1.0
  let normal : Vec α := ⟨-d.y / distance, d.x / distance⟩
  (source.midpoint target).shift (normal.scale (fanOffset index length spacing))

/-- The extent of a displacement along an axis, a small number when there is none. -/
def reach [Scalar α] (a : α) : α := if Scalar.isZero a then 0.001 else Scalar.abs a

/-- Where the ray from the center of a box leaves the box, given half its extent. -/
def clip [Scalar α] (center : Point α) (half : Size α) (toward : Point α) : Point α :=
  let d := center.displacement toward
  if Scalar.isZero d.x && Scalar.isZero d.y then center
  else center.shift (d.scale (Scalar.min (half.width / reach d.x) (half.height / reach d.y)))

def pointAt [Scalar α] (t : α) (start control stop : Point α) : Point α :=
  let s := (1.0 : α) - t
  ⟨s * s * start.x + 2.0 * s * t * control.x + t * t * stop.x,
    s * s * start.y + 2.0 * s * t * control.y + t * t * stop.y⟩

end Curve

structure RoutedEdge (α : Type) where
  key : StepKey
  source : String
  target : String
  action : String
  workObject : Option String
  remark : Option String
  /-- The number of the step, such as `2.1`. -/
  badgeLabel : String
  color : String
  start : Point α
  control : Point α
  stop : Point α
  badge : Point α
  labelAnchor : Point α
  workObjectAnchor : Option (Point α)
  remarkAnchor : Option (Point α)

namespace Diagram

variable {α : Type} [Plane α]

def draw (options : RouteOptions α) (edge : DiagramEdge) (source target : DiagramActor α)
    (sourceAt targetAt control : Point α) : RoutedEdge α :=
  let start := Curve.clip sourceAt (options.halfExtent (source.boxSize options.defaultSize)) control
  let stop := Curve.clip targetAt (options.halfExtent (target.boxSize options.defaultSize)) control
  let along (t : α) : Point α := Curve.pointAt t start control stop
  let step := edge.content
  {
    key := edge.key
    source := edge.source
    target := edge.target
    action := step.action
    workObject := step.workObject
    remark := step.remark
    badgeLabel := stepNumber edge.flowNumber edge.index
    color := options.flowColor edge.flowOrdinal
    start
    control
    stop
    badge := along 0.15
    labelAnchor := along 0.5
    workObjectAnchor := step.workObject.map fun _ => along 0.8
    remarkAnchor :=
      step.remark.map fun _ => along (if step.workObject.isSome then 0.65 else 0.75) }

/-- Routes one edge. An edge between actors that are not both placed is left out. A control point
that is not stored yet is computed and stored. -/
def routeEdge (diagram : Diagram α) (options : RouteOptions α) (controls : ControlPoints α)
    (edge : DiagramEdge) : ControlPoints α × Option (RoutedEdge α) :=
  match diagram.actor? edge.source, diagram.actor? edge.target with
  | some source, some target =>
    match source.position, target.position with
    | some sourceAt, some targetAt =>
      -- a stored control point is kept, even after its actors moved
      match controls.get? edge.key with
      | some control => (controls, some (draw options edge source target sourceAt targetAt control))
      | none =>
        let control :=
          Curve.control sourceAt targetAt edge.index edge.flowLength options.fanSpacing
        (controls.insert edge.key control,
          some (draw options edge source target sourceAt targetAt control))
    | _, _ => (controls, none)
  | _, _ => (controls, none)

def routeEdges (diagram : Diagram α) (options : RouteOptions α) (controls : ControlPoints α) :
    List DiagramEdge → ControlPoints α × List (RoutedEdge α)
  | [] => (controls, [])
  | edge :: rest =>
    let (controls, routed) := diagram.routeEdge options controls edge
    let (controls, others) := diagram.routeEdges options controls rest
    (controls, routed.toList ++ others)

/-- Routes every edge of a diagram. Answers the control points as well, those now computed
included. -/
def route (diagram : Diagram α) (options : RouteOptions α) (controls : ControlPoints α) :
    ControlPoints α × List (RoutedEdge α) :=
  diagram.routeEdges options controls diagram.edges

end Diagram

end DomainStory
