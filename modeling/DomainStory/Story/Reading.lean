import DomainStory.Config
import DomainStory.Story.Line
import DomainStory.Story.StepGrammar

/-!
# Reading a story

Lines are read from top to bottom in one pass, each adding to the draft that the lines before it
gave. New content lands in the last domain; content before the first domain header opens a domain
of its own. Steps land in the open flow, and a domain header closes it. Flows are counted from 1
in every domain.
-/

namespace DomainStory

open Text

namespace Domain

def addStep (domain : Domain) (flow : Nat) (step : Step) : Domain :=
  { domain with
    flows := domain.flows.modify flow fun flow => { flow with steps := flow.steps ++ [step] } }

/-- Opens a flow. One without a title is called untitled. -/
def addFlow (domain : Domain) (number : Nat) (title : String) : Domain :=
  let title := if title.isEmpty then "Untitled" else title
  { domain with flows := domain.flows ++ [⟨number, title, []⟩] }

def addNote (domain : Domain) (note : Note) : Domain :=
  { domain with notes := domain.notes ++ [note] }

def addActor (domain : Domain) (decl : ActorDecl) : Domain :=
  { domain with participants := domain.participants ++ [decl] }

end Domain

structure Draft where
  domains : List Domain
  errors : List LineError
  /-- The flow that steps land in: its index among the flows of the last domain. -/
  openFlow : Option Nat
  /-- The number of the flow that was opened last in the last domain. -/
  flowCount : Nat

namespace Draft

def empty : Draft := ⟨[], [], none, 0⟩

def current? (draft : Draft) : Option Domain := draft.domains.getLast?

def knownActors (draft : Draft) : List String :=
  match draft.current? with
  | some domain => domain.actorNames
  | none => []

/-- Opens a domain, with the color that its place in the story gives it. No flow is open in it. -/
def openDomain (config : Config) (draft : Draft) (title : String) : Draft where
  domains := draft.domains ++ [Domain.new title (config.domainColor draft.domains.length)]
  errors := draft.errors
  openFlow := none
  flowCount := 0

/-- Makes sure that there is a domain for new content. -/
def ensureDomain (config : Config) (draft : Draft) : Draft :=
  if draft.domains.isEmpty then draft.openDomain config config.domainTitle else draft

def updateCurrent (draft : Draft) (change : Domain → Domain) : Draft :=
  { draft with domains := draft.domains.modify (draft.domains.length - 1) change }

def addFault (draft : Draft) (line : Nat) (fault : LineFault) : Draft :=
  { draft with errors := draft.errors ++ [fault.at line] }

/-- Adds a declared actor to the current domain unless its name is taken there. -/
def addActor (draft : Draft) (line : Nat) (decl : ActorDecl) : Draft :=
  match draft.current?.bind fun domain => domain.actor? decl.name with
  | some _ => draft.addFault line (.duplicateActor decl.name)
  | none => draft.updateCurrent fun domain => domain.addActor decl

def addFlow (draft : Draft) (title : String) : Draft :=
  let number := draft.flowCount + 1
  let draft := draft.updateCurrent fun domain => domain.addFlow number title
  { draft with
    openFlow := draft.current?.map fun domain => domain.flows.length - 1
    flowCount := number }

def addStep (config : Config) (draft : Draft) (line : Nat) (text : List Char) : Draft :=
  match draft.openFlow with
  | none => draft.addFault line .stepOutsideFlow
  | some flow =>
    let draft := draft.ensureDomain config
    match Step.read draft.knownActors text with
    | .ok step => draft.updateCurrent fun domain => domain.addStep flow step
    | .error fault => draft.addFault line fault

def addLine (config : Config) (draft : Draft) (line : Nat) (text : List Char) : Draft :=
  match Line.classify draft.knownActors text with
  | .blank | .comment => draft
  | .domainHeader title => draft.openDomain config title
  | .note note => (draft.ensureDomain config).updateCurrent fun domain => domain.addNote note
  | .actor decl => (draft.ensureDomain config).addActor line decl
  | .malformedActor => (draft.ensureDomain config).addFault line .invalidActor
  | .flowHeader title => (draft.ensureDomain config).addFlow title
  | .prose => draft.ensureDomain config
  | .stepCandidate => draft.addStep config line text

/-- Adds lines to a draft, the first of them with the given number. -/
def addLines (config : Config) (draft : Draft) : (line : Nat) → List (List Char) → Draft
  | _, [] => draft
  | line, text :: rest => addLines config (draft.addLine config line text) (line + 1) rest

def ofLines (config : Config) (lines : List (List Char)) : Draft := addLines config empty 1 lines

def story (draft : Draft) : Story := ⟨draft.domains, draft.errors⟩

end Draft

namespace Story

def lines (text : String) : List (List Char) := pieces '\n' text.toList

def read (config : Config) (text : String) : Story := (Draft.ofLines config (lines text)).story

end Story

end DomainStory
