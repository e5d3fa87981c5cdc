import DomainStory.Geometry.Scalar
import DomainStory.Json.Reader
import DomainStory.Text.Pieces

/-!
# Configuration

A configuration is a JSON document. Settings are addressed by dotted paths such as
`layout.force.iterations`; a setting that is missing or of the wrong kind takes a fallback.
Overrides are merged onto the defaults, so that they replace only the settings they name.
-/

namespace DomainStory

/-- The title of the domain that is opened for content before the first header. -/
def defaultDomainTitle : String := "Domain Story"

def domainColors : List String :=
  ["#6366f1", "#10b981", "#f59e0b", "#ef4444", "#8b5cf6", "#ec4899"]

def flowColors : List String :=
  ["#6366f1", "#ef4444", "#10b981", "#f59e0b", "#8b5cf6", "#ec4899", "#14b8a6", "#f97316"]

/-- The color at an index of a palette that repeats for ever; none in an empty palette. -/
def cycle? (palette : List String) (index : Nat) : Option String :=
  palette[index % palette.length]?

/-- The color at an index of a repeating palette. An empty palette is replaced by the fallback. -/
def cycleColor (palette : List String) (index : Nat) (fallback : List String) : String :=
  ((cycle? palette index).or (cycle? fallback index)).getD ""

/-- The settings of an engine, as a JSON document. -/
structure Config where
  document : Json

inductive ConfigError where
  | notJson
  | notObject

def ConfigError.message : ConfigError → String
  | notJson => "Config JSON error"
  | notObject => "Invalid config: top-level config must be a JSON object"

namespace Config

def textArray (texts : List String) : Json := .arr (texts.map .str)

def default : Config where
  document := .obj [
    ("canvas", .obj [("width", .float 1600.0), ("height", .float 1200.0)]),
    ("layout", .obj [
      ("padding", .float 150.0),
      ("seedRadiusFactor", .float 0.6),
      ("force", .obj [
        ("iterations", .int 80),
        ("repulsion", .float 18000.0),
        ("attraction", .float 0.04),
        ("damping", .float 0.85)])]),
    ("actor", .obj [
      ("defaultWidth", .float 90.0),
      ("defaultHeight", .float 70.0),
      ("edgeClearance", .float 6.0)]),
    ("routing", .obj [("fanSpacing", .float 50.0)]),
    ("viewport", .obj [
      ("logicalPadding", .float 100.0),
      ("screenPadding", .float 40.0),
      ("maxFitZoom", .float 1.5),
      ("minZoom", .float 0.2),
      ("maxZoom", .float 2.0)]),
    ("palette", .obj [
      ("domains", textArray domainColors),
      ("flows", textArray flowColors)]),
    ("story", .obj [("defaultDomainTitle", .str defaultDomainTitle)])]

def empty : Config := ⟨.obj []⟩

/-- The settings with overrides laid over them. -/
def override (config : Config) (overrides : Json) : Config := ⟨config.document.merge overrides⟩

def ofText? (text : String) : Except ConfigError Config :=
  match Json.parse? text with
  | none => .error .notJson
  | some document =>
    if document.isObject then .ok (default.override document) else .error .notObject

/-- The configuration of an engine that was given another configuration to start from. -/
def forEngine (config : Config) : Config := default.override config.document

/-! ## Settings -/

def segments (path : String) : List String :=
  (Text.pieces '.' path.toList).map String.ofList

def get? (config : Config) (path : String) : Option Json :=
  config.document.path? (segments path)

def text? (config : Config) (path : String) : Option String :=
  (config.get? path).bind Json.str?

/-- A number setting, which has to be finite. -/
def number? (config : Config) (path : String) : Option Float :=
  ((config.get? path).bind Json.float?).filter Float.isFinite

def scalar {α : Type} [Scalar α] (config : Config) (path : String) (fallback : α) : α :=
  match config.number? path with
  | some x => Scalar.ofFloat x
  | none => fallback

def count? (config : Config) (path : String) : Option Nat :=
  (config.get? path).bind Json.nat?

/-- The texts of an array setting, provided that there are any. -/
def texts? (config : Config) (path : String) : Option (List String) :=
  (((config.get? path).bind Json.items?).map fun items => items.filterMap Json.str?).filter
    fun texts => !texts.isEmpty

def domainTitle (config : Config) : String :=
  (config.text? "story.defaultDomainTitle").getD defaultDomainTitle

def domainColor (config : Config) (index : Nat) : String :=
  cycleColor ((config.texts? "palette.domains").getD []) index domainColors

end Config

end DomainStory
