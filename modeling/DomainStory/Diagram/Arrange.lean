import DomainStory.Layout.Algorithm

/-!
# Placing the actors of a diagram

Actors that are new to a diagram are seeded on a circle around the center of the canvas, the placed
ones staying where they are. A layout places all actors anew and drops all control points, which
belonged to the old places.
-/

namespace DomainStory.Diagram

variable {α : Type} [Plane α]

/-- Gives the unplaced actors places on the seeding circle, in order from the top. Also answers
how many there were. -/
def seed (diagram : Diagram α) (canvas : Canvas α) : Diagram α × Nat :=
  let keys := diagram.unplacedKeys
  let ring := Point.ring canvas.center (canvas.halfSide * canvas.seedFactor) keys.length
  ((keys.zip ring).foldl (fun d (key, spot) => d.place key spot) diagram, keys.length)

def placeAll (diagram : Diagram α) (places : Table String (Point α)) : Diagram α :=
  places.entries.foldl (fun d (key, spot) => d.place key spot) diagram

/-- Lays out a diagram: seeds the unplaced actors, then places all of them by the algorithm. A
diagram without actors stays as it is, and so do its control points. -/
def arrange (diagram : Diagram α) (controls : ControlPoints α) (algorithm : Algorithm α)
    (canvas : Canvas α) (fallback : Size α) : Except Refusal (Diagram α × ControlPoints α) :=
  if diagram.actors.isEmpty then .ok (diagram, controls)
  else
    let seeded := (diagram.seed canvas).1
    match algorithm.layout canvas (Network.ofDiagram seeded fallback) with
    | .error refusal => .error refusal
    | .ok places => .ok (seeded.placeAll places, .empty)

end DomainStory.Diagram
