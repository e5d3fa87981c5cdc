import DomainStory.Json.Record
import DomainStory.Story.Basic

/-!
# Stories as JSON values

The JSON form of every part of a story, and its reading.
-/

namespace DomainStory

open Json (record? required optional list? variant? ofOption)

namespace NoteKind

def toJson (kind : NoteKind) : Json := .str kind.tag

def ofJson? (value : Json) : Option NoteKind :=
  (variant? value).bind fun name => all.find? fun kind => kind.tag = name

end NoteKind

namespace Note

def toJson (note : Note) : Json :=
  .obj [("type", note.kind.toJson), ("content", .str note.content)]

def ofJson? (value : Json) : Option Note :=
  match record? ["type", "content"] value with
  | some [kind, content] =>
    return ⟨← required NoteKind.ofJson? kind, ← required Json.str? content⟩
  | _ => none

end Note

namespace ActorKind

def all : List ActorKind := [person, system, work]

def toJson (kind : ActorKind) : Json := .str kind.name

def ofJson? (value : Json) : Option ActorKind :=
  (variant? value).bind fun name => all.find? fun kind => kind.name = name

end ActorKind

namespace ActorDecl

def toJson (decl : ActorDecl) : Json :=
  .obj [("name", .str decl.name), ("icon", .str decl.icon),
    ("annotation", ofOption .str decl.remark)]

def ofJson? (value : Json) : Option ActorDecl :=
  match record? ["name", "icon", "annotation"] value with
  | some [name, icon, remark] =>
    return ⟨← required Json.str? name, ← required Json.str? icon, ← optional Json.str? remark⟩
  | _ => none

end ActorDecl

namespace Step

def toJson (step : Step) : Json :=
  .obj [("from", .str step.source), ("action", .str step.action), ("to", .str step.target),
    ("workObject", ofOption .str step.workObject), ("annotation", ofOption .str step.remark)]

def ofJson? (value : Json) : Option Step :=
  match record? ["from", "action", "to", "workObject", "annotation"] value with
  | some [source, action, target, workObject, remark] =>
    return ⟨← required Json.str? source, ← required Json.str? action,
      ← required Json.str? target, ← optional Json.str? workObject,
      ← optional Json.str? remark⟩
  | _ => none

end Step

namespace Flow

def toJson (flow : Flow) : Json :=
  .obj [("number", .ofNat flow.number), ("title", .str flow.title),
    ("steps", .ofList Step.toJson flow.steps)]

def ofJson? (value : Json) : Option Flow :=
  match record? ["number", "title", "steps"] value with
  | some [number, title, steps] =>
    return ⟨← required Json.nat? number, ← required Json.str? title,
      ← required (list? Step.ofJson?) steps⟩
  | _ => none

end Flow

namespace Domain

def toJson (domain : Domain) : Json :=
  .obj [("title", .str domain.title), ("notes", .ofList Note.toJson domain.notes),
    ("participants", .ofList ActorDecl.toJson domain.participants),
    ("flows", .ofList Flow.toJson domain.flows), ("color", .str domain.color)]

def ofJson? (value : Json) : Option Domain :=
  match record? ["title", "notes", "participants", "flows", "color"] value with
  | some [title, notes, participants, flows, color] =>
    return ⟨← required Json.str? title, ← required (list? Note.ofJson?) notes,
      ← required (list? ActorDecl.ofJson?) participants, ← required (list? Flow.ofJson?) flows,
      ← required Json.str? color⟩
  | _ => none

end Domain

namespace LineError

def toJson (error : LineError) : Json :=
  .obj [("line", .ofNat error.line), ("msg", .str error.message), ("hint", .str error.hint)]

def ofJson? (value : Json) : Option LineError :=
  match record? ["line", "msg", "hint"] value with
  | some [line, message, hint] =>
    return ⟨← required Json.nat? line, ← required Json.str? message, ← required Json.str? hint⟩
  | _ => none

end LineError

namespace Story

def toJson (story : Story) : Json :=
  .obj [("domains", .ofList Domain.toJson story.domains),
    ("errors", .ofList LineError.toJson story.errors)]

def ofJson? (value : Json) : Option Story :=
  match record? ["domains", "errors"] value with
  | some [domains, errors] =>
    return ⟨← required (list? Domain.ofJson?) domains,
      ← required (list? LineError.ofJson?) errors⟩
  | _ => none

end Story

end DomainStory
