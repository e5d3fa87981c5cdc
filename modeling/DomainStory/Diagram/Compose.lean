import DomainStory.Diagram.Basic

/-!
# Composing a diagram

`compose` builds the diagram of a view from the domains of a story. Actors are keyed by name, the
first declaration of a name counting; an actor that the diagram before had under the same key keeps
its place and size. Flows are built anew.
-/

namespace DomainStory

/-- A composed diagram, with the keys of the actors that were there before and are gone. -/
structure Composition (α : Type) where
  diagram : Diagram α
  released : List String

namespace Diagram

variable {α : Type}

def newActor (view : View) (domainIndex : Nat) (decl : ActorDecl) : DiagramActor α where
  key := decl.name
  displayName := decl.name
  icon := decl.icon
  kind := decl.kind
  remark := decl.remark
  domainIndex := if view.isAll then none else some domainIndex
  position := none
  measured := none

/-- The actors of the visible domains, the first of each name. -/
def newActors (view : View) (visible : List (Domain × Nat)) : Table String (DiagramActor α) :=
  let declared := visible.flatMap fun (domain, index) =>
    domain.participants.map (newActor view index)
  -- a name that is there already keeps its first declaration
  declared.foldl
    (fun actors actor =>
      if actors.contains actor.key then actors else actors.insert actor.key actor)
    .empty

def domainFlows (domain : Domain) (domainIndex : Nat) : List DiagramFlow :=
  domain.flows.zipIdx.map fun (flow, flowIndex) => {
    domainIndex
    domainTitle := domain.title
    domainColor := domain.color
    flowIndex
    number := flow.number
    title := flow.title
    steps := flow.steps }

/-- An actor with the place and size that an earlier diagram had for its key. -/
def carryOver (prior : Table String (DiagramActor α)) (key : String) (actor : DiagramActor α) :
    DiagramActor α :=
  match prior.get? key with
  | some old => { actor with position := old.position, measured := old.measured }
  | none => actor

/-- The diagram of a view. A view of a domain that does not exist shows everything. -/
def compose (domains : List Domain) (view : View) (prior : Diagram α) : Composition α :=
  let view := view.clamp domains.length
  let visible := view.select domains
  let actors := newActors view visible
  {
    diagram := {
      view
      actors := actors.mapEntries (carryOver prior.actors)
      flows := visible.flatMap fun (domain, index) => domainFlows domain index }
    released := prior.actors.keys.filter fun key => !actors.contains key }

end Diagram

end DomainStory
