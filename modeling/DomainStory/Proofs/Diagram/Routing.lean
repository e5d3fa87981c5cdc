import DomainStory.Diagram.Route
import DomainStory.Proofs.Diagram.Edges
import DomainStory.Proofs.Diagram.Placing

/-!
# Routing edge by edge

Routing hands the control points on from edge to edge, and each edge may store one under its key.
`routeEdge_cases` says all that an edge can do: it is drawn if its actors are placed, through the
control point that is stored for it or else is computed from its two ends.

What is stored stays, so that the first edge with a key decides for all of them
(`control_of_first`). Where no two edges share a key, every edge is routed as it would be alone
(`routeEdges_of_nodup`).
-/

namespace DomainStory.Diagram

variable {α : Type} [Plane α] {diagram : Diagram α} {options : RouteOptions α}
  {controls controls' : ControlPoints α} {edge : DiagramEdge}

/-- The control point of an edge: the stored one, or else the one computed from its ends. -/
def controlPoint (options : RouteOptions α) (controls : ControlPoints α) (edge : DiagramEdge)
    (sourceAt targetAt : Point α) : Point α :=
  (controls.get? edge.key).getD
    (Curve.control sourceAt targetAt edge.index edge.flowLength options.fanSpacing)

/-! ## One edge -/

/-- An edge is left out and stores nothing if one of its actors is not placed. -/
theorem routeEdge_of_unplaced (options : RouteOptions α) (controls : ControlPoints α)
    (h : diagram.position? edge.source = none ∨ diagram.position? edge.target = none) :
    diagram.routeEdge options controls edge = (controls, none) := by
  unfold routeEdge
  split
  · next source target hsource htarget =>
    rw [position?_of_actor? hsource, position?_of_actor? htarget] at h
    split
    · next hsourceAt htargetAt =>
      rw [hsourceAt, htargetAt] at h
      exact absurd h (by simp)
    · rfl
  · rfl

/-- An edge between placed actors is drawn through its control point, which is stored afterwards,
and nothing else is stored. -/
theorem routeEdge_of_actors (options : RouteOptions α) (controls : ControlPoints α)
    {source target : DiagramActor α} {sourceAt targetAt : Point α}
    (hsource : diagram.actor? edge.source = some source)
    (hsourceAt : source.position = some sourceAt)
    (htarget : diagram.actor? edge.target = some target)
    (htargetAt : target.position = some targetAt) :
    (diagram.routeEdge options controls edge).2
        = some (draw options edge source target sourceAt targetAt
            (controlPoint options controls edge sourceAt targetAt)) ∧
      ∀ key, (diagram.routeEdge options controls edge).1.get? key
        = if key = edge.key then some (controlPoint options controls edge sourceAt targetAt)
          else controls.get? key := by
  unfold routeEdge
  simp only [hsource, htarget, hsourceAt, htargetAt, controlPoint]
  cases hstored : controls.get? edge.key with
  | none => exact ⟨rfl, fun key => Table.get?_insert _ _ _ _⟩
  | some control =>
    refine ⟨rfl, fun key => ?_⟩
    show controls.get? key = if key = edge.key then some control else controls.get? key
    split
    · next hkey => rw [hkey, hstored]
    · rfl

/-- These are all the ways in which an edge may be routed. -/
theorem routeEdge_cases (diagram : Diagram α) (options : RouteOptions α) (edge : DiagramEdge) :
    ((diagram.position? edge.source = none ∨ diagram.position? edge.target = none) ∧
        ∀ controls, diagram.routeEdge options controls edge = (controls, none)) ∨
      ∃ source target sourceAt targetAt,
        (diagram.actor? edge.source = some source ∧ source.position = some sourceAt) ∧
        (diagram.actor? edge.target = some target ∧ target.position = some targetAt) ∧
        ∀ controls,
          (diagram.routeEdge options controls edge).2
              = some (draw options edge source target sourceAt targetAt
                  (controlPoint options controls edge sourceAt targetAt)) ∧
            ∀ key, (diagram.routeEdge options controls edge).1.get? key
              = if key = edge.key then some (controlPoint options controls edge sourceAt targetAt)
                else controls.get? key := by
  cases hsource : diagram.position? edge.source with
  | none =>
    exact .inl ⟨.inl rfl, fun controls => routeEdge_of_unplaced options controls (.inl hsource)⟩
  | some sourceAt =>
    cases htarget : diagram.position? edge.target with
    | none =>
      exact .inl ⟨.inr rfl, fun controls => routeEdge_of_unplaced options controls (.inr htarget)⟩
    | some targetAt =>
      obtain ⟨source, hactor, hsourceAt⟩ := exists_actor_of_position? hsource
      obtain ⟨target, hother, htargetAt⟩ := exists_actor_of_position? htarget
      exact .inr ⟨source, target, sourceAt, targetAt, ⟨hactor, hsourceAt⟩, ⟨hother, htargetAt⟩,
        fun controls => routeEdge_of_actors options controls hactor hsourceAt hother htargetAt⟩

/-- An edge between placed actors is drawn, and its control point is stored afterwards. -/
theorem routeEdge_of_placed (options : RouteOptions α) (controls : ControlPoints α)
    {sourceAt targetAt : Point α}
    (hsource : diagram.position? edge.source = some sourceAt)
    (htarget : diagram.position? edge.target = some targetAt) :
    ∃ source target,
      (diagram.routeEdge options controls edge).2
          = some (draw options edge source target sourceAt targetAt
              (controlPoint options controls edge sourceAt targetAt)) ∧
        (diagram.routeEdge options controls edge).1.get? edge.key
          = some (controlPoint options controls edge sourceAt targetAt) := by
  obtain ⟨source, hactor, hsourceAt⟩ := exists_actor_of_position? hsource
  obtain ⟨target, hother, htargetAt⟩ := exists_actor_of_position? htarget
  obtain ⟨hdraw, hstore⟩ :=
    routeEdge_of_actors options controls hactor hsourceAt hother htargetAt
  exact ⟨source, target, hdraw, (hstore edge.key).trans (if_pos rfl)⟩

theorem key_of_routeEdge {routed : RoutedEdge α}
    (h : (diagram.routeEdge options controls edge).2 = some routed) : routed.key = edge.key := by
  rcases routeEdge_cases diagram options edge with ⟨-, hout⟩ | ⟨_, _, _, _, -, -, hdrawn⟩
  · rw [hout] at h
    exact absurd h (by simp)
  · rw [(hdrawn controls).1] at h
    obtain rfl := Option.some.inj h
    rfl

/-- An edge stores nothing under other keys than its own. -/
theorem get?_routeEdge_of_ne {key : StepKey} (h : key ≠ edge.key) :
    (diagram.routeEdge options controls edge).1.get? key = controls.get? key := by
  rcases routeEdge_cases diagram options edge with ⟨-, hout⟩ | ⟨_, _, _, _, -, -, hdrawn⟩
  · rw [hout]
  · rw [(hdrawn controls).2, if_neg h]

/-- An edge looks at the control point under its own key alone. -/
theorem routeEdge_congr (h : controls'.get? edge.key = controls.get? edge.key) :
    (diagram.routeEdge options controls' edge).2 = (diagram.routeEdge options controls edge).2 := by
  rcases routeEdge_cases diagram options edge with ⟨-, hout⟩ | ⟨_, _, _, _, -, -, hdrawn⟩
  · rw [hout, hout]
  · rw [(hdrawn controls').1, (hdrawn controls).1, controlPoint, controlPoint, h]

/-- A control point that is stored stays, and the edge of its key is drawn through it. -/
theorem routeEdge_of_stored (diagram : Diagram α) (options : RouteOptions α) (edge : DiagramEdge)
    {key : StepKey} {control : Point α} (hstored : controls.get? key = some control) :
    (diagram.routeEdge options controls edge).1.get? key = some control ∧
      ∀ routed, (diagram.routeEdge options controls edge).2 = some routed →
        routed.key = key → routed.control = control := by
  rcases routeEdge_cases diagram options edge with
    ⟨-, hout⟩ | ⟨_, _, sourceAt, targetAt, -, -, hdrawn⟩
  · rw [hout]
    exact ⟨hstored, fun routed hrouted => absurd hrouted (by simp)⟩
  · obtain ⟨hdraw, hstore⟩ := hdrawn controls
    have hown : key = edge.key →
        controlPoint options controls edge sourceAt targetAt = control := by
      intro hkey
      rw [controlPoint, ← hkey, hstored, Option.getD_some]
    constructor
    · rw [hstore]
      split
      · next hkey => rw [hown hkey]
      · exact hstored
    · intro routed hrouted hkey
      rw [hdraw] at hrouted
      obtain rfl := Option.some.inj hrouted
      exact hown hkey.symm

/-! ## All edges -/

theorem routeEdges_cons (options : RouteOptions α) (controls : ControlPoints α)
    (first : DiagramEdge) (rest : List DiagramEdge) :
    (diagram.routeEdges options controls (first :: rest)).2
      = (diagram.routeEdge options controls first).2.toList
        ++ (diagram.routeEdges options (diagram.routeEdge options controls first).1 rest).2 := rfl

theorem mem_routeEdges_cons {first : DiagramEdge} {rest : List DiagramEdge}
    {routed : RoutedEdge α} :
    routed ∈ (diagram.routeEdges options controls (first :: rest)).2 ↔
      (diagram.routeEdge options controls first).2 = some routed ∨ routed ∈
        (diagram.routeEdges options (diagram.routeEdge options controls first).1 rest).2 := by
  rw [routeEdges_cons, List.mem_append, Option.mem_toList]

/-- Edges with keys of their own are routed one by one. -/
theorem routeEdges_of_nodup {edges : List DiagramEdge}
    (h : (edges.map DiagramEdge.key).Nodup) :
    (diagram.routeEdges options controls edges).2
      = edges.filterMap fun edge => (diagram.routeEdge options controls edge).2 := by
  induction edges generalizing controls with
  | nil => rfl
  | cons first rest ih =>
    rw [List.map_cons, List.nodup_cons] at h
    -- what the first edge stores is nothing to the others
    have hrest : ∀ edge ∈ rest,
        (diagram.routeEdge options (diagram.routeEdge options controls first).1 edge).2
          = (diagram.routeEdge options controls edge).2 := by
      intro edge hedge
      refine routeEdge_congr (get?_routeEdge_of_ne fun hkey => h.1 ?_)
      exact List.mem_map.mpr ⟨edge, hedge, hkey⟩
    rw [routeEdges_cons, ih h.2, List.filterMap_congr hrest, List.filterMap_cons]
    cases (diagram.routeEdge options controls first).2 <;> rfl

/-- Whatever is drawn under a key goes through the control point that is stored there. -/
theorem control_of_stored {edges : List DiagramEdge} {key : StepKey} {control : Point α}
    {routed : RoutedEdge α} (hstored : controls.get? key = some control)
    (hrouted : routed ∈ (diagram.routeEdges options controls edges).2) (hkey : routed.key = key) :
    routed.control = control := by
  induction edges generalizing controls with
  | nil => exact absurd hrouted List.not_mem_nil
  | cons first rest ih =>
    obtain ⟨hkept, hfirst⟩ := routeEdge_of_stored diagram options first hstored
    rcases mem_routeEdges_cons.mp hrouted with hdrawn | hlater
    · exact hfirst routed hdrawn hkey
    · exact ih hkept hlater

/-- What is stored is never replaced. -/
theorem get?_routeEdges_of_stored {edges : List DiagramEdge} {key : StepKey} {control : Point α}
    (hstored : controls.get? key = some control) :
    (diagram.routeEdges options controls edges).1.get? key = some control := by
  induction edges generalizing controls with
  | nil => exact hstored
  | cons first rest ih => exact ih (routeEdge_of_stored diagram options first hstored).1

/-- Under other keys than those of the edges nothing is stored. -/
theorem get?_routeEdges_of_notMem {edges : List DiagramEdge} {key : StepKey}
    (h : key ∉ edges.map DiagramEdge.key) :
    (diagram.routeEdges options controls edges).1.get? key = controls.get? key := by
  induction edges generalizing controls with
  | nil => rfl
  | cons first rest ih =>
    rw [List.map_cons, List.mem_cons, not_or] at h
    exact (ih h.2).trans (get?_routeEdge_of_ne h.1)

section

variable {edges : List DiagramEdge} {sourceAt targetAt : Point α}
  (hsource : diagram.position? edge.source = some sourceAt)
  (htarget : diagram.position? edge.target = some targetAt)

include hsource htarget

/-- Every edge between placed actors is routed. -/
theorem exists_routed (options : RouteOptions α) (controls : ControlPoints α)
    (hedge : edge ∈ edges) :
    ∃ routed ∈ (diagram.routeEdges options controls edges).2, routed.key = edge.key := by
  induction edges generalizing controls with
  | nil => exact absurd hedge List.not_mem_nil
  | cons first rest ih =>
    rcases List.mem_cons.mp hedge with rfl | hlater
    · obtain ⟨source, target, hdrawn, -⟩ := routeEdge_of_placed options controls hsource htarget
      exact ⟨_, mem_routeEdges_cons.mpr (.inl hdrawn), rfl⟩
    · obtain ⟨routed, hrouted, hkey⟩ := ih (diagram.routeEdge options controls first).1 hlater
      exact ⟨routed, mem_routeEdges_cons.mpr (.inr hrouted), hkey⟩

/-- The first edge with a key decides about the control point of all that is drawn under the key. -/
theorem control_of_first {routed : RoutedEdge α}
    (hfirst : edges.find? (fun other => other.key = edge.key) = some edge)
    (hrouted : routed ∈ (diagram.routeEdges options controls edges).2)
    (hkey : routed.key = edge.key) :
    routed.control = controlPoint options controls edge sourceAt targetAt := by
  induction edges generalizing controls with
  | nil => exact absurd hfirst (by simp)
  | cons first rest ih =>
    rw [List.find?_cons] at hfirst
    by_cases hsame : first.key = edge.key
    · rw [decide_eq_true hsame] at hfirst
      obtain rfl := Option.some.inj hfirst
      obtain ⟨source, target, hdrawn, hstored⟩ :=
        routeEdge_of_placed options controls hsource htarget
      rcases mem_routeEdges_cons.mp hrouted with hdrawn' | hlater
      · rw [hdrawn] at hdrawn'
        obtain rfl := Option.some.inj hdrawn'
        rfl
      · exact control_of_stored hstored hlater hkey
    · rw [decide_eq_false hsame] at hfirst
      rcases mem_routeEdges_cons.mp hrouted with hdrawn | hlater
      · exact absurd ((key_of_routeEdge hdrawn).symm.trans hkey) hsame
      · -- what the edges before it store is nothing to this one
        rw [ih hfirst hlater, controlPoint, controlPoint, get?_routeEdge_of_ne (Ne.symm hsame)]

end

end DomainStory.Diagram
