import DomainStory.Text.Lowercase
import DomainStory.Text.Natural

/-!
# Stories

A story is a list of domains. A domain declares its actors and tells flows of numbered steps, in
each of which one actor does something with another. Reading a story never fails: a line that
cannot be used leaves a `LineError` beside whatever the other lines gave.
-/

namespace DomainStory

inductive NoteKind where
  | userStory
  | requirement
  | assumption
  | risk
  | note
deriving DecidableEq

namespace NoteKind

def all : List NoteKind := [userStory, requirement, assumption, risk, note]

def tag : NoteKind → String
  | userStory => "user-story"
  | requirement => "requirement"
  | assumption => "assumption"
  | risk => "risk"
  | note => "note"

/-- The kind with the given tag, the case of ASCII letters ignored. -/
def ofTag? (text : List Char) : Option NoteKind :=
  all.find? fun kind => kind.tag.toList = text.map Char.toLower

def label : NoteKind → String
  | userStory => "User Story"
  | requirement => "Requirement"
  | assumption => "Assumption"
  | risk => "Risk"
  | note => "Note"

end NoteKind

structure Note where
  kind : NoteKind
  content : String
deriving DecidableEq

inductive ActorKind where
  | person
  | system
  | work
deriving DecidableEq

namespace ActorKind

def personIcons : List String :=
  ["person", "group", "groups", "support_agent", "engineering", "supervisor_account", "badge"]

def systemIcons : List String :=
  ["computer", "dns", "storage", "cloud", "api", "database", "terminal", "settings", "dashboard",
    "archive"]

/-- The category that an icon stands for. Whatever is neither a person nor a system is work. -/
def ofIcon (icon : String) : ActorKind :=
  if personIcons.contains icon then person
  else if systemIcons.contains icon then system
  else work

def name : ActorKind → String
  | person => "person"
  | system => "system"
  | work => "work"

end ActorKind

structure ActorDecl where
  name : String
  icon : String
  remark : Option String
deriving DecidableEq

def ActorDecl.kind (decl : ActorDecl) : ActorKind := .ofIcon decl.icon

/-- One interaction: the source acts on the target, possibly with a work object. -/
structure Step where
  source : String
  action : String
  target : String
  workObject : Option String
  remark : Option String
deriving DecidableEq

/-- A numbered sequence of steps. Numbers count the flows of a domain from 1. -/
structure Flow where
  number : Nat
  title : String
  steps : List Step
deriving DecidableEq

/-- A part of a story with its own actors and flows. -/
structure Domain where
  title : String
  notes : List Note
  participants : List ActorDecl
  flows : List Flow
  color : String
deriving DecidableEq

namespace Domain

def new (title color : String) : Domain := ⟨title, [], [], [], color⟩

def actorNames (domain : Domain) : List String := domain.participants.map ActorDecl.name

/-- The first actor whose name has the same lower case as the given one. -/
def actor? (domain : Domain) (name : String) : Option ActorDecl :=
  domain.participants.find? fun decl =>
    Text.lowercase decl.name.toList = Text.lowercase name.toList

end Domain

inductive LineFault where
  | duplicateActor (name : String)
  | invalidActor
  | stepOutsideFlow
  | emptyStep
  | unknownSource
  | unknownTarget (source : String)
deriving DecidableEq

namespace LineFault

def message : LineFault → String
  | duplicateActor _ => "Duplicate actor"
  | invalidActor => "Invalid actor"
  | stepOutsideFlow => "Step outside flow"
  | emptyStep => "Empty step"
  | unknownSource => "Start actor not found"
  | unknownTarget _ => "End actor not found"

def hint : LineFault → String
  | duplicateActor name => "@" ++ name ++ " is already declared"
  | invalidActor => "@Name (icon)"
  | stepOutsideFlow => "Add ## Flow first"
  | emptyStep => "Actor1 action Actor2"
  | unknownSource => "Define with @ActorName (icon)"
  | unknownTarget source => "Actor1 action " ++ source

end LineFault

/-- A fault together with the number of its line, counted from 1. -/
structure LineError where
  line : Nat
  message : String
  hint : String
deriving DecidableEq

def LineFault.at (fault : LineFault) (line : Nat) : LineError := ⟨line, fault.message, fault.hint⟩

def LineError.text (error : LineError) : String :=
  "Line " ++ Text.natural error.line ++ ": " ++ error.message ++ " (" ++ error.hint ++ ")"

/-- A story as far as it could be read, with the errors of the lines that could not. -/
structure Story where
  domains : List Domain
  errors : List LineError
deriving DecidableEq

namespace Story

def empty : Story := ⟨[], []⟩

def isClean (story : Story) : Bool := story.errors.isEmpty

def stepCount (story : Story) : Nat :=
  Text.total (story.domains.map fun domain =>
    Text.total (domain.flows.map fun flow => flow.steps.length))

end Story

end DomainStory
