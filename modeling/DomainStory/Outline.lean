import DomainStory.Story.StepGrammar
import DomainStory.View

/-!
# Outlines

An outline tells the visible part of a story in numbered sentences: a line for each domain, one for
each of its flows in the order of their numbers, and one for each step.
-/

namespace DomainStory

/-- A step of an outline: its number, such as `2.1`, and its sentence. -/
structure OutlineStep where
  number : String
  sentence : String
deriving DecidableEq

structure OutlineFlow where
  number : Nat
  title : String
  steps : List OutlineStep

structure OutlineDomain where
  title : String
  color : String
  flows : List OutlineFlow

/-- The numbered narrative of the visible part of a story. -/
structure Outline where
  domains : List OutlineDomain

/-- The number of a step within its domain, both parts counted from 1. -/
def stepNumber (flow index : Nat) : String := Text.natural flow ++ "." ++ Text.natural (index + 1)

namespace Outline

def ofFlow (flow : Flow) : OutlineFlow where
  number := flow.number
  title := flow.title
  steps := flow.steps.zipIdx.map fun (step, i) => ⟨stepNumber flow.number i, step.sentence⟩

/-- The outline of a domain, its flows in the order of their numbers. -/
def ofDomain (domain : Domain) : OutlineDomain where
  title := domain.title
  color := domain.color
  flows := (domain.flows.mergeSort fun f g => f.number ≤ g.number).map ofFlow

def ofDomains (domains : List Domain) (view : View) : Outline where
  domains := ((view.clamp domains.length).select domains).map fun (domain, _) => ofDomain domain

def isEmpty (outline : Outline) : Bool := outline.domains.isEmpty

def flowLines (flow : OutlineFlow) : List String :=
  (Text.natural flow.number ++ ". " ++ flow.title)
    :: flow.steps.map fun step => "  " ++ step.number ++ " " ++ step.sentence

def domainLines (domain : OutlineDomain) : List String :=
  ("# " ++ domain.title) :: domain.flows.flatMap flowLines

/-- The outline as text, with an empty line between domains. -/
def text (outline : Outline) : String :=
  let paragraphs := outline.domains.map fun domain =>
    String.join ((domainLines domain).map fun line => line ++ "\n")
  "\n".intercalate paragraphs

end Outline

end DomainStory
