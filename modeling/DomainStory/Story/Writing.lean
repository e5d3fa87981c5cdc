import DomainStory.Story.Basic

/-!
# Writing a story

The text of a list of domains, one declaration a line: the header of a domain, its notes, its
actors, then each flow with its steps. Parts that are absent are left out.
-/

namespace DomainStory

/-- A part between two marks, set off by a blank. An absent part takes no room. -/
def enclosed (openMark closeMark : Char) : Option String → List Char
  | none => []
  | some part => ' ' :: openMark :: part.toList ++ [closeMark]

def Note.line (note : Note) : List Char :=
  "> [".toList ++ note.kind.tag.toList ++ "] ".toList ++ note.content.toList

def ActorDecl.line (decl : ActorDecl) : List Char :=
  '@' :: decl.name.toList ++ enclosed '(' ')' (some decl.icon) ++ enclosed '"' '"' decl.remark

def Step.line (step : Step) : List Char :=
  step.source.toList
    ++ (if step.action.isEmpty then [] else ' ' :: step.action.toList)
    ++ ' ' :: step.target.toList
    ++ enclosed '{' '}' step.workObject
    ++ enclosed '"' '"' step.remark

def Flow.header (flow : Flow) : List Char := "## ".toList ++ flow.title.toList

def Flow.lines (flow : Flow) : List (List Char) := flow.header :: flow.steps.map Step.line

namespace Domain

def header (domain : Domain) : List Char := "# ".toList ++ domain.title.toList

def lines (domain : Domain) : List (List Char) :=
  domain.header :: domain.notes.map Note.line ++ domain.participants.map ActorDecl.line
    ++ domain.flows.flatMap Flow.lines

end Domain

/-- The text of a list of domains. -/
def Story.write (domains : List Domain) : String :=
  String.ofList (['\n'].intercalate (domains.flatMap Domain.lines))

end DomainStory
