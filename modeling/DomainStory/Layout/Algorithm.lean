import DomainStory.Layout.Force
import DomainStory.Layout.Grid
import DomainStory.Layout.Levels
import DomainStory.Layout.Network
import DomainStory.Text.Blank

/-!
# Layout algorithms

The four ways to place the nodes of a network, their names, and the places they give. Every
algorithm refuses a network with a broken edge.
-/

namespace DomainStory

inductive Algorithm (α : Type) where
  | radial
  | grid
  | flow
  | force (options : ForceOptions α)

namespace Algorithm

variable {α : Type}

def name : Algorithm α → String
  | radial => "radial"
  | grid => "grid"
  | flow => "flow"
  | force _ => "force"

/-- Reads the name of an algorithm, in any case of ASCII letters; `circular`, `hierarchical` and
`force-directed` are other names of three of them. -/
def read? [Scalar α] (options : ForceOptions α) (name : String) :
    Except Refusal (Algorithm α) :=
  match String.ofList ((Text.trim name.toList).map Char.toLower) with
  | "radial" | "circular" => .ok radial
  | "grid" => .ok grid
  | "flow" | "hierarchical" => .ok flow
  | "force" | "force-directed" => .ok (force options)
  | _ => .error (.unknownAlgorithm name)

def places [Plane α] (algorithm : Algorithm α) (canvas : Canvas α) (network : Network α) :
    List (Point α) :=
  let n := network.nodes.length
  match algorithm with
  | radial => Layout.circle canvas n
  | grid => Layout.grid canvas n
  | flow => Layout.byLevel canvas n network.links
  | force options =>
    Layout.byForce canvas options (network.nodes.map NetworkNode.center) network.links

/-- Places the nodes of a network. Where identifiers repeat, the last node counts. -/
def layout [Plane α] (algorithm : Algorithm α) (canvas : Canvas α) (network : Network α) :
    Except Refusal (Table String (Point α)) :=
  match network.broken? with
  | some edge => .error (.missingEndpoint edge.id)
  | none => .ok (Table.ofList (network.ids.zip (algorithm.places canvas network)))

end Algorithm

end DomainStory
