import DomainStory.Proofs.Diagram.Routing

/-!
# Routing again

Routing stores the control points that it computes, and next time it finds them stored. What it
draws is therefore the same next time, and nothing more is stored (`route_again`).

An edge that is routed when its control point is stored already leaves the table as it is
(`routeEdge_fst_of_stored`). After one run over all edges the control points of those between placed
actors are all stored, each as that edge alone decides, since no two edges share a key
(`get?_routeEdges_of_mem`).
-/

namespace DomainStory.Diagram

variable {α : Type} [Plane α] {diagram : Diagram α} {options : RouteOptions α}
  {controls controls' : ControlPoints α} {edge : DiagramEdge} {edges : List DiagramEdge}
  {routed : RoutedEdge α}

/-- Whether both actors of an edge are placed. -/
def joinsPlaced (diagram : Diagram α) (edge : DiagramEdge) : Bool :=
  (diagram.position? edge.source).isSome && (diagram.position? edge.target).isSome

/-- How an edge between placed actors is drawn, given the control points stored before. -/
def Draws (diagram : Diagram α) (options : RouteOptions α) (controls : ControlPoints α)
    (edge : DiagramEdge) (routed : RoutedEdge α) : Prop :=
  ∃ source target sourceAt targetAt,
    (diagram.actor? edge.source = some source ∧ source.position = some sourceAt) ∧
    (diagram.actor? edge.target = some target ∧ target.position = some targetAt) ∧
    routed = draw options edge source target sourceAt targetAt
      (controlPoint options controls edge sourceAt targetAt)

theorem Draws.key_eq (h : diagram.Draws options controls edge routed) : routed.key = edge.key := by
  obtain ⟨_, _, _, _, -, -, rfl⟩ := h
  rfl

/-! ## One edge -/

/-- An edge whose control point is stored stores nothing. -/
theorem routeEdge_fst_of_stored {control : Point α}
    (hstored : controls.get? edge.key = some control) :
    (diagram.routeEdge options controls edge).1 = controls := by
  unfold routeEdge
  rw [hstored]
  split
  · split <;> rfl
  · rfl

/-- An edge is drawn exactly if both its actors are placed. -/
theorem routeEdge_snd_cases (diagram : Diagram α) (options : RouteOptions α)
    (controls : ControlPoints α) (edge : DiagramEdge) :
    (diagram.joinsPlaced edge = false ∧ (diagram.routeEdge options controls edge).2 = none) ∨
      ∃ routed, diagram.joinsPlaced edge = true ∧
        (diagram.routeEdge options controls edge).2 = some routed ∧
        diagram.Draws options controls edge routed := by
  rcases routeEdge_cases diagram options edge with
    ⟨hunplaced, hout⟩ | ⟨source, target, sourceAt, targetAt, hsource, htarget, hdrawn⟩
  · refine .inl ⟨?_, by rw [hout]⟩
    rcases hunplaced with h | h <;> simp [joinsPlaced, h]
  · refine .inr ⟨_, ?_, (hdrawn controls).1, source, target, sourceAt, targetAt, hsource, htarget,
      rfl⟩
    rw [joinsPlaced, position?_of_actor? hsource.1, position?_of_actor? htarget.1, hsource.2,
      htarget.2]
    rfl

/-- What is drawn goes through the control point that is stored afterwards. -/
theorem get?_routeEdge_of_drawn (h : (diagram.routeEdge options controls edge).2 = some routed) :
    (diagram.routeEdge options controls edge).1.get? routed.key = some routed.control := by
  rcases routeEdge_cases diagram options edge with ⟨-, hout⟩ | ⟨_, _, _, _, -, -, hdrawn⟩
  · rw [hout] at h
    exact absurd h (by simp)
  · rw [(hdrawn controls).1] at h
    obtain rfl := Option.some.inj h
    exact ((hdrawn controls).2 edge.key).trans (if_pos rfl)

/-- A key that is stored was stored before or is that of the edge, which is then drawn. -/
theorem mem_keys_routeEdge {key : StepKey}
    (h : key ∈ (diagram.routeEdge options controls edge).1.keys) :
    key ∈ controls.keys ∨
      ∃ routed, (diagram.routeEdge options controls edge).2 = some routed ∧ routed.key = key := by
  rcases routeEdge_cases diagram options edge with ⟨-, hout⟩ | ⟨_, _, _, _, -, -, hdrawn⟩
  · rw [hout] at h
    exact .inl h
  · by_cases hkey : key = edge.key
    · exact .inr ⟨_, (hdrawn controls).1, hkey.symm⟩
    · rw [Table.mem_keys_iff, get?_routeEdge_of_ne hkey, ← Table.mem_keys_iff] at h
      exact .inl h

/-! ## All edges -/

theorem get?_of_mem_routeEdges (h : routed ∈ (diagram.routeEdges options controls edges).2) :
    (diagram.routeEdges options controls edges).1.get? routed.key = some routed.control := by
  induction edges generalizing controls with
  | nil => exact absurd h List.not_mem_nil
  | cons first rest ih =>
    rcases mem_routeEdges_cons.mp h with hfirst | hlater
    · -- the other edges leave what the first one stored
      have hstored := get?_routeEdge_of_drawn hfirst
      show (diagram.routeEdges options _ rest).1.get? routed.key = some routed.control
      exact get?_routeEdges_of_stored hstored
    · exact ih hlater

theorem mem_keys_routeEdges {key : StepKey} :
    key ∈ (diagram.routeEdges options controls edges).1.keys ↔
      key ∈ controls.keys ∨
        key ∈ (diagram.routeEdges options controls edges).2.map RoutedEdge.key := by
  constructor
  · intro h
    induction edges generalizing controls with
    | nil => exact .inl h
    | cons first rest ih =>
      rw [routeEdges_cons, List.map_append, List.mem_append]
      rcases ih h with hfirst | hlater
      · rcases mem_keys_routeEdge hfirst with hbefore | ⟨routed, hdrawn, hkey⟩
        · exact .inl hbefore
        · refine .inr (.inl (List.mem_map.mpr ⟨routed, ?_, hkey⟩))
          exact Option.mem_toList.mpr hdrawn
      · exact .inr (.inr hlater)
  · rintro (hbefore | hdrawn)
    · obtain ⟨control, hstored⟩ := Table.mem_keys_iff_exists.mp hbefore
      exact Table.mem_keys_iff_exists.mpr ⟨control, get?_routeEdges_of_stored hstored⟩
    · obtain ⟨routed, hrouted, rfl⟩ := List.mem_map.mp hdrawn
      exact Table.mem_keys_iff_exists.mpr ⟨routed.control, get?_of_mem_routeEdges hrouted⟩

/-- Edges of which each leaves the table as it is are routed without any change of it. -/
theorem routeEdges_of_settled {draw? : DiagramEdge → Option (RoutedEdge α)}
    (h : ∀ edge ∈ edges, diagram.routeEdge options controls edge = (controls, draw? edge)) :
    diagram.routeEdges options controls edges = (controls, edges.filterMap draw?) := by
  induction edges with
  | nil => rfl
  | cons first rest ih =>
    rw [routeEdges, h first List.mem_cons_self]
    dsimp only
    rw [ih fun edge hedge => h edge (List.mem_cons_of_mem _ hedge), List.filterMap_cons]
    cases draw? first <;> rfl

section

variable (hkeys : (edges.map DiagramEdge.key).Nodup)

include hkeys

/-- The edges between placed actors are drawn in order, and no others. -/
theorem drawn_routeEdges :
    List.Forall₂ (diagram.Draws options controls) (edges.filter diagram.joinsPlaced)
      (diagram.routeEdges options controls edges).2 := by
  rw [routeEdges_of_nodup hkeys]
  clear hkeys
  induction edges with
  | nil => exact .nil
  | cons first rest ih =>
    rcases routeEdge_snd_cases diagram options controls first with
      ⟨hunplaced, hout⟩ | ⟨routed, hplaced, hdrawn, hdraws⟩
    · simp only [List.filter_cons, List.filterMap_cons, hunplaced, hout, Bool.false_eq_true,
        if_false]
      exact ih
    · simp only [List.filter_cons, List.filterMap_cons, hplaced, hdrawn, if_true]
      exact .cons hdraws ih

/-- After all edges an edge finds stored what it was drawn through. -/
theorem get?_routeEdges_of_mem (hedge : edge ∈ edges)
    (hdrawn : (diagram.routeEdge options controls edge).2 = some routed) :
    (diagram.routeEdges options controls edges).1.get? edge.key = some routed.control := by
  have hmem : routed ∈ (diagram.routeEdges options controls edges).2 := by
    rw [routeEdges_of_nodup hkeys]
    exact List.mem_filterMap.mpr ⟨edge, hedge, hdrawn⟩
  rw [← key_of_routeEdge hdrawn]
  exact get?_of_mem_routeEdges hmem

theorem map_key_routeEdges :
    (diagram.routeEdges options controls edges).2.map RoutedEdge.key
      = (edges.filter diagram.joinsPlaced).map DiagramEdge.key := by
  refine Eq.symm ?_
  rw [← List.forall₂_eq_eq_eq, List.forall₂_map_left_iff, List.forall₂_map_right_iff]
  exact (drawn_routeEdges hkeys).imp fun _ _ hdraws => hdraws.key_eq.symm

/-- Once all edges were routed, routing one of them again changes nothing. -/
theorem routeEdge_again (hedge : edge ∈ edges) :
    diagram.routeEdge options (diagram.routeEdges options controls edges).1 edge
      = ((diagram.routeEdges options controls edges).1,
          (diagram.routeEdge options controls edge).2) := by
  rcases routeEdge_cases diagram options edge with
    ⟨-, hout⟩ | ⟨source, target, sourceAt, targetAt, -, -, hdrawn⟩
  · rw [hout, hout]
  · have hstored := get?_routeEdges_of_mem hkeys hedge (hdrawn controls).1
    refine Prod.ext (routeEdge_fst_of_stored hstored) ?_
    rw [(hdrawn _).1, (hdrawn controls).1, controlPoint, hstored]
    rfl

theorem routeEdges_again :
    diagram.routeEdges options (diagram.routeEdges options controls edges).1 edges
      = diagram.routeEdges options controls edges := by
  rw [routeEdges_of_settled fun edge hedge => routeEdge_again hkeys hedge,
    ← routeEdges_of_nodup hkeys]

end

/-! ## Routing a diagram -/

/-- What routing a diagram draws and stores. -/
structure Routes (diagram : Diagram α) (options : RouteOptions α)
    (controls controls' : ControlPoints α) (routed : List (RoutedEdge α)) : Prop where
  /-- The edges between placed actors are drawn, in order. -/
  drawn : List.Forall₂ (diagram.Draws options controls) (diagram.edges.filter diagram.joinsPlaced)
    routed
  distinct : (routed.map RoutedEdge.key).Nodup
  /-- What was stored stays. -/
  kept : ∀ key control, controls.get? key = some control → controls'.get? key = some control
  /-- Nothing is stored but for what is drawn. -/
  keys : ∀ key, key ∈ controls'.keys ↔ key ∈ controls.keys ∨ key ∈ routed.map RoutedEdge.key
  /-- What is drawn goes through the control point that is stored for it. -/
  stored : ∀ drawn ∈ routed, controls'.get? drawn.key = some drawn.control

theorem routes_route (hkeys : (diagram.edges.map DiagramEdge.key).Nodup) :
    Routes diagram options controls (diagram.route options controls).1
      (diagram.route options controls).2 where
  drawn := drawn_routeEdges hkeys
  distinct := by
    rw [route, map_key_routeEdges hkeys]
    exact (List.filter_sublist.map _).nodup hkeys
  kept _ _ hstored := get?_routeEdges_of_stored hstored
  keys _ := mem_keys_routeEdges
  stored _ hdrawn := get?_of_mem_routeEdges hdrawn

/-- A composed diagram, wherever its actors are and however large, is routed as it was when it is
routed again, and no control point is stored the second time. -/
theorem route_again {domains : List Domain} {view : View} {prior : Diagram α}
    (h : diagram.bare = (compose domains view prior).diagram.bare) (options : RouteOptions α)
    (controls : ControlPoints α) :
    Routes diagram options controls (diagram.route options controls).1
        (diagram.route options controls).2 ∧
      diagram.route options (diagram.route options controls).1
        = diagram.route options controls := by
  have hdistinct : diagram.FlowsDistinct := by
    rw [FlowsDistinct, flows_eq_of_bare_eq h]
    exact flowsDistinct_compose domains view prior
  have hkeys := nodup_keys_edges hdistinct
  exact ⟨routes_route hkeys, routeEdges_again hkeys⟩

/-- Of the steps of the library the second one is not drawn, and the last one keeps its curve. -/
theorem route_again_library :
    library.bare = (compose [lending] .all (empty : Diagram Float)).diagram.bare ∧
      ∃ controls routed, library.route .default dragged = (controls, routed) ∧
        routed.map RoutedEdge.key = [⟨0, 0, 0⟩, ⟨0, 0, 2⟩] ∧
        Routes library .default dragged controls routed ∧
        library.route .default controls = (controls, routed) := by
  have hbare : library.bare = (compose [lending] .all (empty : Diagram Float)).diagram.bare := by
    rw [bare_library, bare_compose]
  obtain ⟨hroutes, hagain⟩ := route_again hbare .default dragged
  exact ⟨hbare, _, _, rfl, rfl, hroutes, hagain⟩

end DomainStory.Diagram
