import DomainStory.Diagram.Arrange
import DomainStory.Proofs.Table

/-!
# When a layout is refused

There are two causes. One is a broken edge, which no diagram has: an edge joins two actors of the
diagram, and each of them is a node of its network (`Network.broken?_ofDiagram`). Every algorithm
therefore lays out every diagram (`Diagram.exists_arrange`).

The other cause is a name that is none of the names of an algorithm (`Algorithm.exists_read?`,
`Algorithm.read?_eq_error`).
-/

namespace DomainStory

variable {α : Type}

/-! ## Edges of a diagram -/

namespace Diagram

variable {diagram : Diagram α}

theorem key_mem_of_resolve {flow : DiagramFlow} {name : String} {actor : DiagramActor α}
    (h : diagram.resolve flow name = some actor) :
    actor.key ∈ diagram.actors.values.map DiagramActor.key := by
  have hactor : diagram.actors.get? name = some actor := (Option.filter_eq_some_iff.mp h).1
  have hentry : (name, actor) ∈ diagram.actors.entries := Table.get?_eq_some_iff.mp hactor
  exact List.mem_map_of_mem (List.mem_map.mpr ⟨(name, actor), hentry, rfl⟩)

/-- An edge joins actors of the diagram, whatever their keys. -/
theorem ends_mem_of_mem_edges {edge : DiagramEdge} (h : edge ∈ diagram.edges) :
    edge.source ∈ diagram.actors.values.map DiagramActor.key ∧
      edge.target ∈ diagram.actors.values.map DiagramActor.key := by
  obtain ⟨⟨flow, ordinal⟩, -, hmem⟩ := List.mem_flatMap.mp h
  obtain ⟨⟨step, index⟩, -, hedge⟩ := List.mem_filterMap.mp hmem
  dsimp only at hedge
  split at hedge
  · next source target hsource htarget =>
    obtain rfl := Option.some.inj hedge
    exact ⟨key_mem_of_resolve hsource, key_mem_of_resolve htarget⟩
  · exact absurd hedge (by simp)

end Diagram

namespace Network

/-- A network is valid if every edge joins two of its nodes. -/
theorem broken?_eq_none_iff {network : Network α} : network.broken? = none ↔
    ∀ edge ∈ network.edges, edge.source ∈ network.ids ∧ edge.target ∈ network.ids := by
  simp [broken?, hasEnds]

variable [Scalar α]

theorem ids_ofDiagram (diagram : Diagram α) (fallback : Size α) :
    (ofDiagram diagram fallback).ids = diagram.actors.values.map DiagramActor.key := by
  rw [ids, ofDiagram, List.map_map]
  rfl

/-- No edge of a diagram is broken. -/
theorem broken?_ofDiagram (diagram : Diagram α) (fallback : Size α) :
    (ofDiagram diagram fallback).broken? = none := by
  refine broken?_eq_none_iff.mpr fun edge hedge => ?_
  obtain ⟨drawn, hdrawn, rfl⟩ := List.mem_map.mp hedge
  rw [ids_ofDiagram]
  exact Diagram.ends_mem_of_mem_edges hdrawn

end Network

/-! ## Laying out -/

section

variable [Plane α]

theorem Algorithm.layout_of_valid (algorithm : Algorithm α) (canvas : Canvas α)
    {network : Network α} (h : network.broken? = none) :
    algorithm.layout canvas network
      = .ok (Table.ofList (network.ids.zip (algorithm.places canvas network))) := by
  rw [layout, h]

theorem Algorithm.exists_layout_of_valid (algorithm : Algorithm α) (canvas : Canvas α)
    {network : Network α} (h : network.broken? = none) :
    ∃ places, algorithm.layout canvas network = .ok places :=
  ⟨_, algorithm.layout_of_valid canvas h⟩

theorem Algorithm.exists_layout (algorithm : Algorithm α) (canvas : Canvas α) (diagram : Diagram α)
    (fallback : Size α) :
    ∃ places, algorithm.layout canvas (Network.ofDiagram diagram fallback) = .ok places :=
  algorithm.exists_layout_of_valid canvas (Network.broken?_ofDiagram diagram fallback)

/-- Every diagram can be laid out. -/
theorem Diagram.exists_arrange (diagram : Diagram α) (controls : ControlPoints α)
    (algorithm : Algorithm α) (canvas : Canvas α) (fallback : Size α) :
    ∃ arranged, diagram.arrange controls algorithm canvas fallback = .ok arranged := by
  unfold arrange
  split
  · exact ⟨_, rfl⟩
  · obtain ⟨places, hplaces⟩ :=
      algorithm.exists_layout canvas (diagram.seed canvas).1 fallback
    simp only [hplaces]
    exact ⟨_, rfl⟩

end

/-! ## Names of algorithms -/

namespace Algorithm

/-- The names by which an algorithm may be asked for. -/
def names : List String :=
  ["radial", "circular", "grid", "flow", "hierarchical", "force", "force-directed"]

/-- A name without the white space around it, and with capital letters of ASCII made small. -/
def plainName (name : String) : String := String.ofList ((Text.trim name.toList).map Char.toLower)

variable [Scalar α]

/-- An algorithm is found by its names. -/
theorem exists_read? {name : String} (options : ForceOptions α) (h : plainName name ∈ names) :
    ∃ algorithm, read? options name = .ok algorithm := by
  simp only [names, plainName, List.mem_cons, List.not_mem_nil, or_false] at h
  unfold read?
  rcases h with h | h | h | h | h | h | h <;> rw [h] <;> exact ⟨_, rfl⟩

/-- It is found by nothing else. -/
theorem read?_eq_error {name : String} (options : ForceOptions α) (h : plainName name ∉ names) :
    read? options name = .error (.unknownAlgorithm name) := by
  unfold read?
  split
  case h_8 => rfl
  all_goals
    next heq =>
      refine absurd ?_ h
      rw [plainName, heq]
      simp [names]

end Algorithm

end DomainStory
