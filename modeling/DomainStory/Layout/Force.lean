import DomainStory.Layout.Canvas

/-!
# Force simulation

Nodes push each other apart and edges pull their ends together, for a fixed number of rounds. Each
force is a kick between two nodes: one loses the velocity that the other gains, so kicks keep the
sum of all velocities. After the kicks of a round every node moves by its velocity, but not beyond
the margins of the canvas, and velocities are damped.
-/

namespace DomainStory

structure ForceOptions (α : Type) where
  iterations : Nat
  /-- Two nodes push each other by this over the square of their distance. -/
  repulsion : α
  /-- An edge pulls by this times its length. -/
  attraction : α
  /-- What is left of a velocity after each round. -/
  damping : α

namespace ForceOptions

variable {α : Type} [Scalar α]

def default : ForceOptions α := ⟨80, 18000.0, 0.04, 0.85⟩

def ofConfig (config : Config) : ForceOptions α where
  iterations := (config.count? "layout.force.iterations").getD 80
  repulsion := config.scalar "layout.force.repulsion" 18000.0
  attraction := config.scalar "layout.force.attraction" 0.04
  damping := config.scalar "layout.force.damping" 0.85

end ForceOptions

namespace Layout

structure Swarm (α : Type) where
  places : Array (Point α)
  velocities : Array (Vec α)

/-- An exchange of velocity: one node loses what the other gains. -/
structure Kick (α : Type) where
  giver : Nat
  taker : Nat
  amount : Vec α

variable {α : Type}

@[specialize] def Kick.apply [Scalar α] (velocities : Array (Vec α)) (kick : Kick α) :
    Array (Vec α) :=
  (velocities.modify kick.giver fun v => v.sub kick.amount).modify kick.taker
    fun v => v.add kick.amount

variable [Plane α]

/-- The direction from one point to another, and how far apart the points are. Points that coincide
count as one unit apart along the first axis, so that they separate. -/
@[specialize] def direction (p q : Point α) : Vec α × α :=
  let d := p.displacement q
  let distance := d.length
  if (0.0 : α) < distance then (d.shrink distance, distance) else (⟨1.0, 0.0⟩, 1.0)

@[specialize] def push (options : ForceOptions α) (places : Array (Point α)) (i j : Nat) :
    Kick α :=
  let p := places.getD i .origin
  let q := places.getD j .origin
  let (unit, distance) := direction p q
  ⟨i, j, unit.scale (options.repulsion / (distance * distance))⟩

@[specialize] def pull (options : ForceOptions α) (places : Array (Point α)) (edge : Nat × Nat) :
    Kick α :=
  let d := (places.getD edge.1 .origin).displacement (places.getD edge.2 .origin)
  let length := d.length
  let distance := if (0.0 : α) < length then length else 1.0
  ⟨edge.1, edge.2, ((d.shrink distance).scale (distance * options.attraction)).neg⟩

def pairs (n : Nat) : List (Nat × Nat) :=
  (List.range n).flatMap fun i => (List.range' (i + 1) (n - (i + 1))).map fun j => (i, j)

/-- The kicks of one round, all taken at the places that the round starts from. -/
@[specialize] def kicks (options : ForceOptions α) (edges : List (Nat × Nat))
    (places : Array (Point α)) : List (Kick α) :=
  (pairs places.size).map (fun (i, j) => push options places i j)
    ++ edges.map (pull options places)

/-- Moves every node by its velocity, within the margins, and damps the velocities. -/
@[specialize] def drift (canvas : Canvas α) (options : ForceOptions α) (swarm : Swarm α) :
    Swarm α where
  places := swarm.places.zipWith (fun p v => canvas.clamp (p.shift v)) swarm.velocities
  velocities := swarm.velocities.map fun v => v.scale options.damping

@[specialize] def round (canvas : Canvas α) (options : ForceOptions α) (edges : List (Nat × Nat))
    (swarm : Swarm α) : Swarm α :=
  drift canvas options
    { swarm with
      velocities := (kicks options edges swarm.places).foldl Kick.apply swarm.velocities }

def atRest (places : List (Point α)) : Swarm α :=
  ⟨places.toArray, Array.replicate places.length .zero⟩

@[specialize] def simulate (canvas : Canvas α) (options : ForceOptions α)
    (edges : List (Nat × Nat)) : (rounds : Nat) → Swarm α → Swarm α
  | 0, swarm => swarm
  | rounds + 1, swarm => simulate canvas options edges rounds (round canvas options edges swarm)

def byForce (canvas : Canvas α) (options : ForceOptions α) (places : List (Point α))
    (edges : List (Nat × Nat)) : List (Point α) :=
  (simulate canvas options edges options.iterations (atRest places)).places.toList

end Layout

end DomainStory
