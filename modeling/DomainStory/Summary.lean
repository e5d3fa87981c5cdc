import DomainStory.Diagram.Basic
import DomainStory.Text.Blank

/-!
# The state of a story in one line
-/

namespace DomainStory

/-- Whether a story is blank, clean or has errors. -/
inductive Summary where
  | blank
  | clean (domains actors steps : Nat)
  | failing (first : LineError) (count : Nat)
deriving DecidableEq

namespace Summary

/-- The state of a story. Actors and steps are those of the diagram, so of the current view. -/
def of {α : Type} (source : String) (story : Story) (diagram : Diagram α) : Summary :=
  if (Text.trim source.toList).isEmpty then blank
  else
    match story.errors with
    | [] => clean story.domains.length diagram.actors.size diagram.stepCount
    | first :: rest => failing first (rest.length + 1)

def errorCount : Summary → Nat
  | failing _ count => count
  | _ => 0

def isFailing : Summary → Bool
  | failing _ _ => true
  | _ => false

def plural (count : Nat) : String := if count = 1 then "" else "s"

def text : Summary → String
  | blank => "Empty"
  | clean domains actors steps =>
    Text.natural domains ++ " domain" ++ plural domains ++ ", " ++ Text.natural actors
      ++ " actors, " ++ Text.natural steps ++ " steps"
  | failing first count =>
    "Line " ++ Text.natural first.line ++ ": " ++ first.message ++ " " ++ first.hint ++ " ("
      ++ Text.natural count ++ " error" ++ plural count ++ ")"

end Summary

end DomainStory
