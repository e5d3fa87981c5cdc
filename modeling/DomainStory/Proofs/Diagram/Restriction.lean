import DomainStory.Proofs.Diagram.Routing
import DomainStory.Proofs.List

/-!
# One domain and all domains

The view of one domain draws what the view of everything draws of it, in other colors at most, for
the color of a step follows the place of its flow among the visible ones.

Up to that place, the edges of the one diagram are those edges of the other that come from the
domain (`edges_compose_domain`), and their actors stand and measure the same. Routing such an edge
gives the same in both, and routing any other edge stores nothing for the domain. Both runs
therefore stay in step (`routeEdges_restricted`), which `route_domain` puts together.
-/

namespace DomainStory

/-- The edge, wherever its flow stands among the visible flows. -/
def DiagramEdge.unranked (edge : DiagramEdge) : DiagramEdge := { edge with flowOrdinal := 0 }

/-- The routed edge, whatever its color. -/
def RoutedEdge.uncolored {α : Type} (routed : RoutedEdge α) : RoutedEdge α :=
  { routed with color := "" }

/-- The same control points are stored for the steps of a domain. -/
def ControlPoints.AgreeOn {α : Type} (domain : Nat) (controls controls' : ControlPoints α) : Prop :=
  ∀ key : StepKey, key.domain = domain → controls'.get? key = controls.get? key

namespace Diagram

variable {α : Type} {diagram diagram' : Diagram α} {key : String} {i : Nat}

/-- An actor stands at the same place in both diagrams, if at all, and has the same size. -/
structure AgreeAt (diagram diagram' : Diagram α) (key : String) : Prop where
  position : diagram'.position? key = diagram.position? key
  measured : diagram'.measured? key = diagram.measured? key

/-- A placed actor has its like in the other diagram. -/
theorem AgreeAt.exists_actor {actor : DiagramActor α} {spot : Point α}
    (h : AgreeAt diagram diagram' key) (hactor : diagram.actor? key = some actor)
    (hspot : actor.position = some spot) :
    ∃ actor', diagram'.actor? key = some actor' ∧ actor'.position = some spot ∧
      actor'.measured = actor.measured := by
  have hposition : diagram'.position? key = some spot := by
    rw [h.position, position?_of_actor? hactor, hspot]
  obtain ⟨actor', hactor', hspot'⟩ := exists_actor_of_position? hposition
  refine ⟨actor', hactor', hspot', ?_⟩
  rw [← measured?_of_actor? hactor', h.measured, measured?_of_actor? hactor]

/-! ## The edges of a domain -/

section

variable {domains : List Domain} {prior : Diagram α}

/-- The flows of a domain are the same in every view that shows it. -/
theorem flows_compose_domain (hi : i < domains.length) (prior prior' : Diagram α) :
    (compose domains (.domain i) prior).diagram.flows
      = (compose domains .all prior').diagram.flows.filter fun flow => flow.domainIndex = i := by
  have hall : (View.all.clamp domains.length).select domains = domains.zipIdx := by
    simp [View.clamp, View.select, View.span, List.take_of_length_le]
  have hone : ((View.domain i).clamp domains.length).select domains
      = domains.zipIdx.filter fun shown => shown.2 = i := by
    rw [View.clamp, if_pos hi, View.select_domain]
  show List.flatMap _ (View.select _ _) = (List.flatMap _ (View.select _ _)).filter _
  rw [hall, hone, List.filter_flatMap_of_const]
  rintro ⟨domain, k⟩ _ flow hflow
  obtain ⟨_, -, rfl⟩ := List.mem_map.mp hflow
  rfl

/-- Where all steps are resolved, the edges of a domain come from its flows. -/
theorem unranked_edges_of_domain (h : diagram.Resolved) (i : Nat) :
    (diagram.edges.filter fun edge => edge.key.domain = i).map DiagramEdge.unranked
      = (diagram.flows.filter fun flow => flow.domainIndex = i).flatMap fun flow =>
          flow.steps.zipIdx.map fun (step, index) => flow.edge 0 step index := by
  have hedges : diagram.edges.map DiagramEdge.unranked = diagram.flows.flatMap fun flow =>
      flow.steps.zipIdx.map fun (step, index) => flow.edge 0 step index :=
    map_edges _ h fun _ _ _ _ => rfl
  have hdomain : ∀ flow ∈ diagram.flows, ∀ edge ∈ (flow.steps.zipIdx.map fun (step, index) =>
      flow.edge 0 step index), decide (edge.key.domain = i) = decide (flow.domainIndex = i) := by
    intro flow _ edge hedge
    obtain ⟨_, -, rfl⟩ := List.mem_map.mp hedge
    rfl
  rw [← List.filter_flatMap_of_const hdomain, ← hedges, List.filter_map]
  rfl

/-- The view of a domain has those edges of the view of everything that come from the domain. -/
theorem edges_compose_domain (hi : i < domains.length)
    (hmerged : diagram.bare = (compose domains .all empty).diagram) (hresolved : diagram.Resolved)
    (hsingle : (compose domains (.domain i) diagram).diagram.Resolved) :
    (compose domains (.domain i) diagram).diagram.edges.map DiagramEdge.unranked
      = (diagram.edges.filter fun edge => edge.key.domain = i).map DiagramEdge.unranked := by
  have hflows : diagram.bare.flows = (compose domains .all (empty : Diagram α)).diagram.flows :=
    congrArg Diagram.flows hmerged
  rw [unranked_edges_of_domain hresolved, show diagram.flows = diagram.bare.flows from rfl, hflows,
    ← flows_compose_domain hi diagram empty]
  exact map_edges _ hsingle fun _ _ _ _ => rfl

end

/-! ## One edge in both diagrams -/

section

variable [Plane α] {options : RouteOptions α} {controls controls' : ControlPoints α}
  {edge edge' : DiagramEdge}

/-- The drawing of an edge shows the place of its flow in the color alone. -/
theorem uncolored_draw {source source' target target' : DiagramActor α}
    (hedge : edge'.unranked = edge.unranked) (hsource : source'.measured = source.measured)
    (htarget : target'.measured = target.measured) (sourceAt targetAt control : Point α) :
    (draw options edge' source' target' sourceAt targetAt control).uncolored
      = (draw options edge source target sourceAt targetAt control).uncolored := by
  obtain ⟨hkey, hends, hends', -, hnumber, -, hindex, hcontent⟩ := DiagramEdge.mk.inj hedge
  unfold draw DiagramActor.boxSize RoutedEdge.uncolored
  rw [hkey, hends, hends', hnumber, hindex, hcontent, hsource, htarget]

/-- An edge of the domain is routed to the same in both diagrams, and the tables go on agreeing. -/
theorem routeEdge_alike (hedge : edge'.unranked = edge.unranked)
    (hsource : AgreeAt diagram diagram' edge.source)
    (htarget : AgreeAt diagram diagram' edge.target) (hdomain : edge.key.domain = i)
    (hcontrols : ControlPoints.AgreeOn i controls controls') :
    (diagram'.routeEdge options controls' edge').2.map RoutedEdge.uncolored
        = (diagram.routeEdge options controls edge).2.map RoutedEdge.uncolored ∧
      ControlPoints.AgreeOn i (diagram.routeEdge options controls edge).1
        (diagram'.routeEdge options controls' edge').1 := by
  obtain ⟨hkey, hends, hends', -, -, hlength, hindex, -⟩ := DiagramEdge.mk.inj hedge
  rcases routeEdge_cases diagram options edge with
    ⟨hunplaced, hout⟩ | ⟨source, target, p, q, ⟨hactor, hp⟩, ⟨hother, hq⟩, hdrawn⟩
  · have hunplaced' : diagram'.position? edge'.source = none ∨
        diagram'.position? edge'.target = none := by
      rw [hends, hends', hsource.position, htarget.position]
      exact hunplaced
    rw [hout, routeEdge_of_unplaced options controls' hunplaced']
    exact ⟨rfl, hcontrols⟩
  · obtain ⟨source', hactor', hp', hsize⟩ := hsource.exists_actor hactor hp
    obtain ⟨target', hother', hq', hsize'⟩ := htarget.exists_actor hother hq
    rw [← hends] at hactor'
    rw [← hends'] at hother'
    have hcontrol : controlPoint options controls' edge' p q
        = controlPoint options controls edge p q := by
      rw [controlPoint, controlPoint, hkey, hindex, hlength, hcontrols edge.key hdomain]
    obtain ⟨hdraw, hstore⟩ := hdrawn controls
    obtain ⟨hdraw', hstore'⟩ := routeEdge_of_actors options controls' hactor' hp' hother' hq'
    refine ⟨?_, fun key hkeyDomain => ?_⟩
    · rw [hdraw, hdraw', Option.map_some, Option.map_some, hcontrol,
        uncolored_draw hedge hsize hsize']
    · rw [hstore, hstore', hkey, hcontrol, hcontrols key hkeyDomain]

/-- An edge of another domain stores nothing for the domain, and is not drawn as one of its
edges. -/
theorem routeEdge_elsewhere (options : RouteOptions α) (hdomain : edge.key.domain ≠ i)
    (hcontrols : ControlPoints.AgreeOn i controls controls') :
    (diagram.routeEdge options controls edge).2.toList.filter
        (fun routed => routed.key.domain = i) = [] ∧
      ControlPoints.AgreeOn i (diagram.routeEdge options controls edge).1 controls' := by
  constructor
  · refine List.filter_eq_nil_iff.mpr fun routed hrouted => ?_
    rw [key_of_routeEdge (Option.mem_toList.mp hrouted), decide_eq_true_eq]
    exact hdomain
  · intro key hkey
    rw [hcontrols key hkey, get?_routeEdge_of_ne]
    rintro rfl
    exact hdomain hkey

/-! ## All edges -/

/-- Routing the edges of a domain gives what routing all edges gives of the domain. -/
theorem routeEdges_restricted {edges edges' : List DiagramEdge}
    (hedges : edges'.map DiagramEdge.unranked
      = (edges.filter fun edge => edge.key.domain = i).map DiagramEdge.unranked)
    (hends : ∀ edge ∈ edges, edge.key.domain = i →
      AgreeAt diagram diagram' edge.source ∧ AgreeAt diagram diagram' edge.target)
    (hcontrols : ControlPoints.AgreeOn i controls controls') :
    (diagram'.routeEdges options controls' edges').2.map RoutedEdge.uncolored
        = ((diagram.routeEdges options controls edges).2.filter
            fun routed => routed.key.domain = i).map RoutedEdge.uncolored ∧
      ControlPoints.AgreeOn i (diagram.routeEdges options controls edges).1
        (diagram'.routeEdges options controls' edges').1 := by
  -- induction on all edges: those of the domain are routed in both diagrams, the others in one
  induction edges generalizing edges' controls controls' with
  | nil =>
    obtain rfl : edges' = [] := List.map_eq_nil_iff.mp hedges
    exact ⟨rfl, hcontrols⟩
  | cons first rest ih =>
    have hrest : ∀ edge ∈ rest, edge.key.domain = i →
        AgreeAt diagram diagram' edge.source ∧ AgreeAt diagram diagram' edge.target :=
      fun edge hedge => hends edge (List.mem_cons_of_mem _ hedge)
    by_cases hdomain : first.key.domain = i
    · rw [List.filter_cons_of_pos (by simpa using hdomain), List.map_cons] at hedges
      obtain ⟨first', rest', rfl, hfirst, hothers⟩ := List.map_eq_cons_iff.mp hedges
      obtain ⟨hsource, htarget⟩ := hends first List.mem_cons_self hdomain
      obtain ⟨hrouted, hstored⟩ := routeEdge_alike hfirst hsource htarget hdomain hcontrols
      obtain ⟨hdrawn, hagree⟩ := ih hothers hrest hstored
      refine ⟨?_, hagree⟩
      have hkept : (diagram.routeEdge options controls first).2.toList.filter
          (fun routed => routed.key.domain = i)
            = (diagram.routeEdge options controls first).2.toList := by
        refine List.filter_eq_self.mpr fun routed hmem => ?_
        rw [key_of_routeEdge (Option.mem_toList.mp hmem), decide_eq_true_eq]
        exact hdomain
      rw [routeEdges_cons, routeEdges_cons, List.map_append, List.filter_append, List.map_append,
        hkept, hdrawn, ← Option.toList_map, ← Option.toList_map, hrouted]
    · rw [List.filter_cons_of_neg (by simpa using hdomain)] at hedges
      obtain ⟨hnone, hstored⟩ := routeEdge_elsewhere options hdomain hcontrols
      obtain ⟨hdrawn, hagree⟩ := ih hedges hrest hstored
      refine ⟨?_, hagree⟩
      rw [routeEdges_cons, List.filter_append, hnone, List.nil_append]
      exact hdrawn

/-- Of a story that was read, the view of a domain is routed as its part of the view of everything,
wherever the actors are: the same curves and labels in the same order, in other colors at most, and
the same control points afterwards. -/
theorem route_domain {config : Config} {text : String}
    (hi : i < (Story.read config text).domains.length)
    (hmerged : diagram.bare = (compose (Story.read config text).domains .all empty).diagram)
    (options : RouteOptions α) (controls : ControlPoints α) :
    let single := (compose (Story.read config text).domains (.domain i) diagram).diagram
    (single.route options controls).2.map RoutedEdge.uncolored
        = ((diagram.route options controls).2.filter fun routed => routed.key.domain = i).map
            RoutedEdge.uncolored ∧
      ∀ key : StepKey, key.domain = i →
        (single.route options controls).1.get? key
          = (diagram.route options controls).1.get? key := by
  intro single
  have hresolved : diagram.Resolved := by
    rw [← resolved_bare, hmerged]
    exact resolved_compose_read config text .all empty
  have hsingle : single.Resolved := resolved_compose_read config text (.domain i) diagram
  have hedges := edges_compose_domain hi hmerged hresolved hsingle
  refine routeEdges_restricted hedges (fun edge hedge hdomain => ?_) fun _ _ => rfl
  -- an edge of the domain is an edge of its view, whose actors come from the diagram
  have hthere : edge.unranked ∈ single.edges.map DiagramEdge.unranked := by
    rw [hedges]
    exact List.mem_map_of_mem (List.mem_filter.mpr ⟨hedge, by simpa using hdomain⟩)
  obtain ⟨edge', hedge', hsame⟩ := List.mem_map.mp hthere
  obtain ⟨hsource, htarget⟩ := ends_mem_keys hsingle hedge'
  obtain ⟨-, hends, hends', -⟩ := DiagramEdge.mk.inj hsame
  exact ⟨⟨position?_compose (hends ▸ hsource), measured?_compose (hends ▸ hsource)⟩,
    ⟨position?_compose (hends' ▸ htarget), measured?_compose (hends' ▸ htarget)⟩⟩

end

/-! ## A story in two parts -/

/-- B takes part in both domains, and both have a first flow. -/
def frontAndBack : String :=
  "# Front\n@A (person)\n@B (person)\n## Order\nA asks B\nB asks B\n"
    ++ "# Back\n@B (person)\n@C (system)\n## Ship\nB calls C\nC answers B"

/-- Everything in it, with places for B and C only. -/
def frontAndBackPlaced : Diagram Float :=
  ((compose (Story.read .default frontAndBack).domains .all .empty).diagram.place "B" ⟨0, 0⟩).place
    "C" ⟨100, 0⟩

/-- Only the step from A is not drawn. -/
theorem route_domain_back :
    1 < (Story.read .default frontAndBack).domains.length ∧
      frontAndBackPlaced.bare
        = (compose (Story.read .default frontAndBack).domains .all empty).diagram ∧
      ((compose (Story.read .default frontAndBack).domains (.domain 1)
            frontAndBackPlaced).diagram.route .default .empty).2.map RoutedEdge.uncolored
        = ((frontAndBackPlaced.route .default .empty).2.filter
            fun routed => routed.key.domain = 1).map RoutedEdge.uncolored ∧
      (frontAndBackPlaced.route .default .empty).2.map RoutedEdge.key
        = [⟨0, 0, 1⟩, ⟨1, 0, 0⟩, ⟨1, 0, 1⟩] := by
  have hi : 1 < (Story.read .default frontAndBack).domains.length := by decide +kernel
  have hmerged : frontAndBackPlaced.bare
      = (compose (Story.read .default frontAndBack).domains .all empty).diagram := by
    rw [frontAndBackPlaced, bare_place, bare_place]
    exact bare_compose _ _ _
  exact ⟨hi, hmerged, (route_domain hi hmerged .default .empty).1, by decide +kernel⟩

end Diagram

end DomainStory
