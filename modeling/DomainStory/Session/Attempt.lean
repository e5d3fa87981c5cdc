import DomainStory.Session.Edit

/-!
# Edits in place

`Session.perform` answers a session or a refusal. An edit in place leaves a session behind in either
case, and a refused one leaves what was done by then: a layout seeds the actors without a place
before it looks at the network.
-/

namespace DomainStory.Session

variable {α : Type} [Plane α]

def attemptLayout (session : Session α) (algorithm : Algorithm α) : Session α × Option Refusal :=
  match session.layout algorithm with
  | .ok changed => (changed, none)
  | .error refusal =>
    -- the actors have been seeded by then
    ({ session with diagram := (session.diagram.seed session.canvas).1 }, some refusal)

/-- Performs an edit in place. Answers what is left behind, and why the edit was refused if it
was. -/
def attempt (session : Session α) : Edit α → Session α × Option Refusal
  | .layout algorithm => session.attemptLayout algorithm
  | .layoutNamed name =>
    match Algorithm.read? (.ofConfig session.config) name with
    | .error refusal => (session, some refusal)
    | .ok algorithm => session.attemptLayout algorithm
  | edit =>
    match session.perform edit with
    | .error refusal => (session, some refusal)
    | .ok changed => (changed, none)

end DomainStory.Session
