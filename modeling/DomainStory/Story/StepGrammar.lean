import DomainStory.Story.Basic
import DomainStory.Story.NameMatch
import DomainStory.Story.TrailingGroup

/-!
# The grammar of a step

A step reads `Source action Target {work object} "remark"`. The groups at the end are optional,
and so is the action. Both actors have to be names that the domain declares.
-/

namespace DomainStory

open Text

namespace Step

/-- The text of a trimmed group, absent when it is blank. -/
def nonBlank (content : List Char) : Option String :=
  let content := trim content
  if content.isEmpty then none else some (String.ofList content)

def splitRemark (line : List Char) : Option String × List Char :=
  match trailingGroup '"' '"' line with
  | some (content, before) => (some (String.ofList content), before)
  | none => (none, line)

/-- Splits the work object off the end of a step. A blank one counts as absent. -/
def splitWorkObject (line : List Char) : Option String × List Char :=
  match trailingGroup '{' '}' line with
  | some (content, before) => (nonBlank content, before)
  | none => (none, line)

def read (names : List String) (line : List Char) : Except LineFault Step :=
  let (remark, rest) := splitRemark (trim line)
  let (workObject, rest) := splitWorkObject rest
  if rest.isEmpty then .error .emptyStep
  else
    match NameMatch.first? names rest with
    | none => .error .unknownSource
    | some source =>
      match NameMatch.last? names (trim source.after) with
      | none => .error (.unknownTarget source.name)
      | some target =>
        .ok {
          source := source.name
          action := String.ofList (trim target.before)
          target := target.name
          workObject
          remark }

/-- Reads a step off a line with a number. A line that gives none leaves one more error. -/
def readInto (names : List String) (number : Nat) (line : List Char) (errors : List LineError) :
    Option Step × List LineError :=
  match read names line with
  | .ok step => (some step, errors)
  | .error fault => (none, errors ++ [fault.at number])

/-- The step as a sentence: source, action and target, then the work object and the remark as
sentences of their own. -/
def sentence (step : Step) : String :=
  let action := if step.action.isEmpty then "" else " " ++ step.action
  let extra (part : Option String) := match part with
    | some text => ". " ++ text
    | none => ""
  step.source ++ action ++ " " ++ step.target ++ extra step.workObject ++ extra step.remark
    ++ "."

end Step

end DomainStory
