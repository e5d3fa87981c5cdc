import DomainStory.Config
import DomainStory.Geometry.Bounds

/-!
# Viewports

A viewport maps the canvas to the screen: a point is scaled by the zoom and moved by the pan. It can
be fitted to show a set of points as large as possible.
-/

namespace DomainStory

/-- How a viewport is fitted and how far it may be zoomed. -/
structure FitOptions (α : Type) where
  /-- The space added around the points, on the canvas. -/
  logicalPadding : α
  /-- The space kept free at every side of the screen. -/
  screenPadding : α
  /-- The largest zoom that fitting chooses. -/
  maxFitZoom : α
  minZoom : α
  maxZoom : α

namespace FitOptions

variable {α : Type} [Scalar α]

def default : FitOptions α := ⟨100.0, 40.0, 1.5, 0.2, 2.0⟩

def ofConfig (config : Config) : FitOptions α where
  logicalPadding := config.scalar "viewport.logicalPadding" 100.0
  screenPadding := config.scalar "viewport.screenPadding" 40.0
  maxFitZoom := config.scalar "viewport.maxFitZoom" 1.5
  minZoom := config.scalar "viewport.minZoom" 0.2
  maxZoom := config.scalar "viewport.maxZoom" 2.0

end FitOptions

/-- A map from the canvas to the screen. -/
structure Viewport (α : Type) where
  zoom : α
  pan : Point α

namespace Viewport

variable {α : Type} [Scalar α]

def default : Viewport α := ⟨1.0, .origin⟩

/-- The part of a side of the screen that fitting may fill, at least one pixel. -/
def available (side padding : α) : α := Scalar.max (side - padding * 2.0) 1.0

/-- The largest zoom at which a box fits. A side of the box below one counts as one. -/
def fitZoom (options : FitOptions α) (box screen : Size α) : α :=
  let horizontal := available screen.width options.screenPadding / Scalar.max box.width 1.0
  let vertical := available screen.height options.screenPadding / Scalar.max box.height 1.0
  Scalar.min (Scalar.min horizontal vertical) options.maxFitZoom

/-- The viewport that centers points on a screen, if there are any. -/
def fit? (points : List (Point α)) (screen : Size α) (options : FitOptions α) :
    Option (Viewport α) :=
  (Bounds.ofPoints? points).map fun bounds =>
    let box := bounds.inflate options.logicalPadding
    let zoom := fitZoom options box.size screen
    let center := box.center
    ⟨zoom, screen.width / 2.0 - center.x * zoom, screen.height / 2.0 - center.y * zoom⟩

/-- Sets the zoom, within its limits. The pan stays. -/
def zoomTo (viewport : Viewport α) (zoom : α) (options : FitOptions α) : Viewport α :=
  { viewport with zoom := Scalar.min (Scalar.max zoom options.minZoom) options.maxZoom }

def toScreen (viewport : Viewport α) (p : Point α) : Point α :=
  ⟨p.x * viewport.zoom + viewport.pan.x, p.y * viewport.zoom + viewport.pan.y⟩

def toLogical (viewport : Viewport α) (p : Point α) : Point α :=
  ⟨(p.x - viewport.pan.x) / viewport.zoom, (p.y - viewport.pan.y) / viewport.zoom⟩

def deltaToLogical (viewport : Viewport α) (delta : Vec α) : Vec α := delta.shrink viewport.zoom

end Viewport

end DomainStory
