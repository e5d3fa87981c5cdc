import DomainStory.Diagram.Route
import DomainStory.Story.Codec
import DomainStory.Viewport

/-!
# Diagrams as JSON values

The JSON form of geometry and diagrams over floats, and its reading. Routed edges are only written.
-/

namespace DomainStory

open Json (record? required optional list? ofOption ofFloat)

namespace Point

def toJson (p : Point Float) : Json := .obj [("x", ofFloat p.x), ("y", ofFloat p.y)]

def ofJson? (value : Json) : Option (Point Float) :=
  match record? ["x", "y"] value with
  | some [x, y] => return ⟨← required Json.float? x, ← required Json.float? y⟩
  | _ => none

end Point

namespace Size

def toJson (size : Size Float) : Json :=
  .obj [("width", ofFloat size.width), ("height", ofFloat size.height)]

def ofJson? (value : Json) : Option (Size Float) :=
  match record? ["width", "height"] value with
  | some [width, height] => return ⟨← required Json.float? width, ← required Json.float? height⟩
  | _ => none

end Size

namespace Bounds

def toJson (b : Bounds Float) : Json :=
  .obj [("min_x", ofFloat b.minX), ("min_y", ofFloat b.minY), ("max_x", ofFloat b.maxX),
    ("max_y", ofFloat b.maxY)]

def ofJson? (value : Json) : Option (Bounds Float) :=
  match record? ["min_x", "min_y", "max_x", "max_y"] value with
  | some [minX, minY, maxX, maxY] =>
    return ⟨← required Json.float? minX, ← required Json.float? minY,
      ← required Json.float? maxX, ← required Json.float? maxY⟩
  | _ => none

end Bounds

namespace Viewport

def toJson (viewport : Viewport Float) : Json :=
  .obj [("zoom", ofFloat viewport.zoom), ("pan", viewport.pan.toJson)]

def ofJson? (value : Json) : Option (Viewport Float) :=
  match record? ["zoom", "pan"] value with
  | some [zoom, pan] => return ⟨← required Json.float? zoom, ← required Point.ofJson? pan⟩
  | _ => none

end Viewport

namespace View

/-- Everything is written as a word, a domain as its index. -/
def toJson : View → Json
  | all => .str "all"
  | domain i => .ofNat i

def ofJson? : Json → Option View
  | .int (.ofNat i) => some (domain i)
  | .str raw =>
    match read? raw with
    | .ok view => some view
    | .error _ => none
  | _ => none

end View

namespace StepKey

def toJson (key : StepKey) : Json :=
  .obj [("domain", .ofNat key.domain), ("flow", .ofNat key.flow), ("step", .ofNat key.step)]

def ofJson? (value : Json) : Option StepKey :=
  match record? ["domain", "flow", "step"] value with
  | some [domain, flow, step] =>
    return ⟨← required Json.nat? domain, ← required Json.nat? flow, ← required Json.nat? step⟩
  | _ => none

end StepKey

namespace DiagramActor

def toJson (actor : DiagramActor Float) : Json :=
  .obj [("key", .str actor.key), ("displayName", .str actor.displayName),
    ("icon", .str actor.icon), ("kind", actor.kind.toJson),
    ("annotation", ofOption .str actor.remark),
    ("domainIndex", ofOption .ofNat actor.domainIndex),
    ("position", ofOption Point.toJson actor.position),
    ("measured", ofOption Size.toJson actor.measured)]

def ofJson? (value : Json) : Option (DiagramActor Float) :=
  match record? ["key", "displayName", "icon", "kind", "annotation", "domainIndex", "position",
      "measured"] value with
  | some [key, displayName, icon, kind, remark, domainIndex, position, measured] =>
    return ⟨← required Json.str? key, ← required Json.str? displayName,
      ← required Json.str? icon, ← required ActorKind.ofJson? kind,
      ← optional Json.str? remark, ← optional Json.nat? domainIndex,
      ← optional Point.ofJson? position, ← optional Size.ofJson? measured⟩
  | _ => none

end DiagramActor

namespace DiagramFlow

def toJson (flow : DiagramFlow) : Json :=
  .obj [("domainIndex", .ofNat flow.domainIndex), ("domainTitle", .str flow.domainTitle),
    ("domainColor", .str flow.domainColor), ("flowIndex", .ofNat flow.flowIndex),
    ("number", .ofNat flow.number), ("title", .str flow.title),
    ("steps", .ofList Step.toJson flow.steps)]

def ofJson? (value : Json) : Option DiagramFlow :=
  match record? ["domainIndex", "domainTitle", "domainColor", "flowIndex", "number", "title",
      "steps"] value with
  | some [domainIndex, domainTitle, domainColor, flowIndex, number, title, steps] =>
    return ⟨← required Json.nat? domainIndex, ← required Json.str? domainTitle,
      ← required Json.str? domainColor, ← required Json.nat? flowIndex,
      ← required Json.nat? number, ← required Json.str? title,
      ← required (list? Step.ofJson?) steps⟩
  | _ => none

end DiagramFlow

/-- Reads an object as a table. Of equal keys the last value counts, at the place of the first. -/
def Table.ofJson? {ν : Type} (read : Json → Option ν) : Json → Option (Table String ν)
  | .obj fields =>
    (fields.mapM fun field => (read field.2).map fun item => (field.1, item)).map Table.ofList
  | _ => none

namespace Diagram

def toJson (diagram : Diagram Float) : Json :=
  .obj [("view", diagram.view.toJson),
    ("actors", .obj (diagram.actors.entries.map fun (key, actor) => (key, actor.toJson))),
    ("flows", .ofList DiagramFlow.toJson diagram.flows)]

def ofJson? (value : Json) : Option (Diagram Float) :=
  match record? ["view", "actors", "flows"] value with
  | some [view, actors, flows] =>
    return ⟨← required View.ofJson? view, ← required (Table.ofJson? DiagramActor.ofJson?) actors,
      ← required (list? DiagramFlow.ofJson?) flows⟩
  | _ => none

end Diagram

def RoutedEdge.toJson (edge : RoutedEdge Float) : Json :=
  .obj [("step", edge.key.toJson), ("from", .str edge.source), ("to", .str edge.target),
    ("action", .str edge.action), ("workObject", ofOption .str edge.workObject),
    ("annotation", ofOption .str edge.remark), ("badgeLabel", .str edge.badgeLabel),
    ("color", .str edge.color), ("start", edge.start.toJson), ("control", edge.control.toJson),
    ("end", edge.stop.toJson), ("badge", edge.badge.toJson),
    ("labelAnchor", edge.labelAnchor.toJson),
    ("workObjectAnchor", ofOption Point.toJson edge.workObjectAnchor),
    ("annotationAnchor", ofOption Point.toJson edge.remarkAnchor)]

end DomainStory
