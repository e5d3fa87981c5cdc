import DomainStory.Layout.Canvas

/-!
# Columns by level

Nodes get levels breadth first. The roots have level 0: the nodes that no edge enters, or the first
node when every node is entered. The nodes wait in a queue for their edges to be followed, and what
these lead to gets the next level and joins the queue, unless it has a level already. A node that
the search never comes to gets a level of its own afterwards, past all others and in the order of
the nodes.

A column holds the nodes of one level, in the order in which they got it.
-/

namespace DomainStory.Layout

def successors (edges : List (Nat × Nat)) (node : Nat) : List Nat :=
  (edges.filter fun edge => edge.1 = node).map Prod.snd

def roots (n : Nat) (edges : List (Nat × Nat)) : List Nat :=
  match (List.range n).filter fun node => !edges.any fun edge => edge.2 = node with
  -- every node is entered, as in a cycle
  | [] => if n = 0 then [] else [0]
  | free => free

/-- The number of levels up to the highest one given. -/
def depth (levels : List Nat) : Nat := levels.max?.elim 0 (· + 1)

/-! ## Giving levels -/

/-- The levels of nodes, as far as they have one, and these nodes in the order in which they got
it. -/
structure Levelling where
  levels : List (Option Nat)
  order : List Nat

namespace Levelling

def empty (n : Nat) : Levelling := ⟨List.replicate n none, []⟩

def level? (levelling : Levelling) (node : Nat) : Option Nat := levelling.levels.getD node none

def give (levelling : Levelling) (level node : Nat) : Levelling :=
  ⟨levelling.levels.set node (some level), levelling.order ++ [node]⟩

/-- Gives each of the nodes that has no level the next free one. -/
def fill (levelling : Levelling) (free : Nat) : (nodes : List Nat) → Levelling
  | [] => levelling
  | node :: nodes =>
    if levelling.level? node = none then (levelling.give free node).fill (free + 1) nodes
    else levelling.fill free nodes

end Levelling

/-! ## The search -/

/-- A search under way. The nodes in the queue are those whose edges are still to be followed. -/
structure Search extends Levelling where
  queue : List Nat

namespace Search

def enter (level : Nat) (search : Search) (node : Nat) : Search :=
  ⟨search.give level node, search.queue ++ [node]⟩

/-- Comes to a node, which enters unless it did before. -/
def visit (level : Nat) (search : Search) (node : Nat) : Search :=
  if search.level? node = none then search.enter level node else search

def start (n : Nat) (edges : List (Nat × Nat)) : Search :=
  (roots n edges).foldl (enter 0) ⟨Levelling.empty n, []⟩

/-- Takes the first node from the queue and follows its edges. -/
def step (edges : List (Nat × Nat)) (search : Search) : Search :=
  match search.queue with
  | [] => search
  | node :: queue =>
    let level := (search.level? node).getD 0 + 1
    (successors edges node).foldl (visit level) { search with queue }

def run (edges : List (Nat × Nat)) : (rounds : Nat) → Search → Search
  | 0, search => search
  | rounds + 1, search => run edges rounds (search.step edges)

/-- The search, done to its end: a node enters the queue once at most, so that as many rounds as
there are nodes are enough. -/
def done (n : Nat) (edges : List (Nat × Nat)) : Search := (start n edges).run edges n

end Search

def levelling (n : Nat) (edges : List (Nat × Nat)) : Levelling :=
  let found := (Search.done n edges).toLevelling
  found.fill (depth found.levels.reduceOption) (List.range n)

def levels (n : Nat) (edges : List (Nat × Nat)) : List Nat :=
  (levelling n edges).levels.map fun level => level.getD 0

/-- The nodes in the order in which they got their levels. -/
def levelOrder (n : Nat) (edges : List (Nat × Nat)) : List Nat := (levelling n edges).order

/-! ## Columns -/

/-- Puts nodes into the columns of their levels. -/
def columnsOf (levels order : List Nat) : List (List Nat) :=
  order.foldl (fun columns node => columns.modify (levels.getD node 0) fun column =>
    column ++ [node]) (List.replicate (depth levels) [])

def columns (n : Nat) (edges : List (Nat × Nat)) : List (List Nat) :=
  columnsOf (levels n edges) (levelOrder n edges)

variable {α : Type} [Scalar α]

/-- The middles of the cells, each with the node that stands in the cell: columns from left to
right, each spread evenly from top to bottom. -/
def cells (canvas : Canvas α) (columns : List (List Nat)) : List (Nat × Point α) :=
  let width := canvas.inner.width / (Nat.max columns.length 1 : Nat)
  columns.zipIdx.flatMap fun (column, level) =>
    let height := canvas.inner.height / (column.length : α)
    column.zipIdx.map fun (node, row) =>
      (node, ⟨Canvas.cellCenter canvas.padding width level,
        Canvas.cellCenter canvas.padding height row⟩)

/-- A node that stood in no cell would stay in the center of the canvas. -/
def byLevel (canvas : Canvas α) (n : Nat) (edges : List (Nat × Nat)) : List (Point α) :=
  (cells canvas (columns n edges)).foldl (fun places (node, place) => places.set node place)
    (List.replicate n canvas.center)

end DomainStory.Layout
