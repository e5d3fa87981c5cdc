import DomainStory.Proofs.Geometry.Field
import DomainStory.Proofs.Layout.Places
import DomainStory.Proofs.Layout.Refusal

/-!
# What a layout answers

Algorithms differ in the places that they compute and in nothing else. A network is refused for its
first edge that lacks a node at an end, whatever the algorithm (`Network.broken?_eq_some_iff`). In
all other networks every node has a place and every edge is a link.

Identifiers may repeat. An answer lists an identifier where its first node stands, but with the
place of its last one, and this is also the node that links go to (`Network.forall₂_links`).
-/

namespace DomainStory

/-! ## The last node with an identifier -/

section

variable {ids : List String} {id : String} {i : Nat}

theorem lastIndex?_of_notMem (h : id ∉ ids) : lastIndex? ids id = none := by
  induction ids with
  | nil => rfl
  | cons first rest ih =>
    rw [List.mem_cons, not_or] at h
    rw [lastIndex?, ih h.2]
    exact if_neg (Ne.symm h.1)

theorem exists_lastIndex? (h : id ∈ ids) :
    ∃ i, lastIndex? ids id = some i ∧ IsLastIndex ids id i := by
  induction ids with
  | nil => exact absurd h List.not_mem_nil
  | cons first rest ih =>
    by_cases hrest : id ∈ rest
    · obtain ⟨i, hi, hlast⟩ := ih hrest
      exact ⟨i + 1, by rw [lastIndex?, hi], hlast.cons⟩
    · obtain rfl : id = first := (List.mem_cons.mp h).resolve_right hrest
      refine ⟨0, ?_, .head hrest⟩
      rw [lastIndex?, lastIndex?_of_notMem hrest]
      exact if_pos rfl

end

/-! ## Edges and links -/

/-- A link between the last nodes that have the identifiers at the ends of an edge. -/
structure NetworkEdge.LinkedBy (ids : List String) (edge : NetworkEdge) (link : Nat × Nat) :
    Prop where
  source : IsLastIndex ids edge.source link.1
  target : IsLastIndex ids edge.target link.2

namespace Network

variable {α : Type} {network : Network α} {edge : NetworkEdge}

/-- Both ends of an edge are nodes. -/
def Joins (network : Network α) (edge : NetworkEdge) : Prop :=
  edge.source ∈ network.ids ∧ edge.target ∈ network.ids

theorem hasEnds_iff : network.hasEnds edge = true ↔ network.Joins edge := by
  simp [hasEnds, Joins]

/-- The edge that makes a network invalid comes before all others that would. -/
theorem broken?_eq_some_iff : network.broken? = some edge ↔
    ¬ network.Joins edge ∧ ∃ before after, network.edges = before ++ edge :: after ∧
      ∀ other ∈ before, network.Joins other := by
  simp only [broken?, List.find?_eq_some_iff_append, Bool.not_eq_true', Bool.not_not,
    ← Bool.not_eq_true, hasEnds_iff]

/-- In a valid network every edge is one link, in the order of the edges. -/
theorem forall₂_links (h : ∀ edge ∈ network.edges, network.Joins edge) :
    List.Forall₂ (NetworkEdge.LinkedBy network.ids) network.edges network.links := by
  obtain ⟨nodes, edges⟩ := network
  induction edges with
  | nil => exact .nil
  | cons edge edges ih =>
    obtain ⟨hsource, htarget⟩ := h edge List.mem_cons_self
    obtain ⟨i, hi, hfirst⟩ := exists_lastIndex? hsource
    obtain ⟨j, hj, hsecond⟩ := exists_lastIndex? htarget
    have hlater := ih fun other hother => h other (List.mem_cons_of_mem edge hother)
    have hlinks : links ⟨nodes, edge :: edges⟩ = (i, j) :: links ⟨nodes, edges⟩ := by
      rw [links, List.filterMap_cons]
      simp only [index?, hi, hj]
      rfl
    rw [hlinks]
    exact .cons ⟨hfirst, hsecond⟩ hlater

end Network

/-! ## The answer -/

namespace Algorithm

variable {α : Type} [Plane α] {canvas : Canvas α} {network : Network α} {refusal : Refusal}

theorem layout_eq_error_iff (algorithm : Algorithm α) :
    algorithm.layout canvas network = .error refusal ↔
      ∃ edge, network.broken? = some edge ∧ refusal = .missingEndpoint edge.id := by
  unfold layout
  cases network.broken? with
  | none => simp
  | some edge => simp [eq_comm]

/-- What a layout answers for a valid network, given the places that it computes for its nodes. -/
structure Answers (network : Network α) (computed : List (Point α))
    (places : Table String (Point α)) : Prop where
  keys : places.keys = network.ids.eraseDups
  get? : ∀ id i, IsLastIndex network.ids id i →
    ∃ place, computed[i]? = some place ∧ places.get? id = some place

theorem answers_ofList (algorithm : Algorithm α) (canvas : Canvas α) (network : Network α) :
    Answers network (algorithm.places canvas network)
      (Table.ofList (network.ids.zip (algorithm.places canvas network))) where
  keys := by
    rw [Table.keys_ofList, map_fst_zip_places]
  get? id i hlast := by
    have hlength := algorithm.length_ids canvas network
    have hlt : i < (algorithm.places canvas network).length := by
      rw [← hlength]
      exact (List.getElem?_eq_some_iff.mp hlast.getElem?).1
    have hpaired : IsLastIndex
        ((network.ids.zip (algorithm.places canvas network)).map Prod.fst) id i := by
      rw [map_fst_zip_places]
      exact hlast
    have hfound := Table.get?_ofList hpaired
    rw [List.map_snd_zip (Nat.le_of_eq hlength.symm)] at hfound
    have hplace := List.getElem?_eq_getElem hlt
    exact ⟨_, hplace, hfound.trans hplace⟩

/-- All algorithms refuse the same networks for the same edge, and answer alike for all others. -/
theorem layout_answers (algorithm : Algorithm α) (canvas : Canvas α) (network : Network α) :
    (∀ refusal, algorithm.layout canvas network = .error refusal ↔
        ∃ before edge after, network.edges = before ++ edge :: after ∧
          (∀ other ∈ before, network.Joins other) ∧ ¬ network.Joins edge ∧
          refusal = .missingEndpoint edge.id) ∧
      ((∀ edge ∈ network.edges, network.Joins edge) →
        (∃ places, algorithm.layout canvas network = .ok places ∧
            Answers network (algorithm.places canvas network) places) ∧
          List.Forall₂ (NetworkEdge.LinkedBy network.ids) network.edges network.links) := by
  constructor
  · intro refusal
    rw [layout_eq_error_iff]
    constructor
    · rintro ⟨edge, hbroken, hrefusal⟩
      obtain ⟨hedge, before, after, hedges, hbefore⟩ := Network.broken?_eq_some_iff.mp hbroken
      exact ⟨before, edge, after, hedges, hbefore, hedge, hrefusal⟩
    · rintro ⟨before, edge, after, hedges, hbefore, hedge, hrefusal⟩
      exact ⟨edge, Network.broken?_eq_some_iff.mpr ⟨hedge, before, after, hedges, hbefore⟩,
        hrefusal⟩
  · intro hjoin
    have hvalid := algorithm.layout_of_valid canvas (Network.broken?_eq_none_iff.mpr hjoin)
    exact ⟨⟨_, hvalid, answers_ofList algorithm canvas network⟩, Network.forall₂_links hjoin⟩

/-- Two of three nodes have the same identifier. -/
def namesakes : Network ℚ where
  nodes := ["a", "b", "a"].map fun id => ⟨id, .origin, ⟨90, 70⟩⟩
  edges := [⟨"0.0.0", "a", "b"⟩, ⟨"0.0.1", "b", "a"⟩, ⟨"0.0.2", "a", "a"⟩]

/-- The third cell of the grid goes to the first key. -/
theorem layout_answers_namesakes :
    (∀ edge ∈ namesakes.edges, namesakes.Joins edge) ∧
      (∃ places, Algorithm.grid.layout .default namesakes = .ok places ∧
        places.keys = ["a", "b"] ∧ places.get? "a" = some ⟨475, 825⟩) ∧
      List.Forall₂ (NetworkEdge.LinkedBy namesakes.ids) namesakes.edges
        [(2, 1), (1, 2), (2, 2)] := by
  have hjoin : ∀ edge ∈ namesakes.edges, namesakes.Joins edge := by
    unfold Network.Joins
    decide
  have hlast : IsLastIndex namesakes.ids "a" 2 := by
    refine ⟨rfl, fun j hj => Nat.le_of_lt_succ ?_⟩
    exact (List.getElem?_eq_some_iff.mp hj).1
  have hthird : (Algorithm.grid.places .default namesakes)[2]? = some ⟨475, 825⟩ := by
    show some (Layout.gridPlace .default 2 2 2) = _
    norm_num [Layout.gridPlace, Canvas.cellCenter, Canvas.inner_width, Canvas.inner_height,
      Canvas.default]
  obtain ⟨-, hvalid⟩ := layout_answers Algorithm.grid .default namesakes
  obtain ⟨⟨places, hplaces, hanswers⟩, hlinks⟩ := hvalid hjoin
  obtain ⟨place, hplace, hget⟩ := hanswers.get? "a" 2 hlast
  obtain rfl := Option.some.inj (hplace.symm.trans hthird)
  exact ⟨hjoin, ⟨places, hplaces, hanswers.keys.trans (by decide), hget⟩, hlinks⟩

end Algorithm

end DomainStory
