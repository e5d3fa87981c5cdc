import DomainStory.Diagram.Basic

/-!
# Networks

What layout algorithms work on: boxes with identifiers and directed edges between them. Where
identifiers repeat, the last node with an identifier stands for it.
-/

namespace DomainStory

structure NetworkNode (α : Type) where
  id : String
  center : Point α
  size : Size α

structure NetworkEdge where
  id : String
  source : String
  target : String

structure Network (α : Type) where
  nodes : List (NetworkNode α)
  edges : List NetworkEdge

/-- The last index at which an identifier stands in a list. -/
def lastIndex? (ids : List String) (id : String) : Option Nat :=
  match ids with
  | [] => none
  | first :: rest =>
    match lastIndex? rest id with
    | some i => some (i + 1)
    | none => if first = id then some 0 else none

namespace Network

variable {α : Type}

def ids (network : Network α) : List String := network.nodes.map NetworkNode.id

def index? (network : Network α) (id : String) : Option Nat := lastIndex? network.ids id

/-- Whether both ends of an edge are nodes. -/
def hasEnds (network : Network α) (edge : NetworkEdge) : Bool :=
  network.ids.contains edge.source && network.ids.contains edge.target

/-- The edge that makes a network invalid: the first that lacks a node at one end. -/
def broken? (network : Network α) : Option NetworkEdge :=
  network.edges.find? fun edge => !network.hasEnds edge

def links (network : Network α) : List (Nat × Nat) :=
  network.edges.filterMap fun edge =>
    match network.index? edge.source, network.index? edge.target with
    | some source, some target => some (source, target)
    | _, _ => none

def edgeId (key : StepKey) : String :=
  Text.natural key.domain ++ "." ++ Text.natural key.flow ++ "." ++ Text.natural key.step

/-- The network of a diagram. Actors without a place stand at the origin, actors without a size
take the fallback. -/
def ofDiagram [Scalar α] (diagram : Diagram α) (fallback : Size α) : Network α where
  nodes := diagram.actors.values.map fun actor =>
    ⟨actor.key, actor.position.getD .origin, actor.boxSize fallback⟩
  edges := diagram.edges.map fun edge => ⟨edgeId edge.key, edge.source, edge.target⟩

end Network

end DomainStory
