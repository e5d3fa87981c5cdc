import DomainStory.Proofs.Diagram.Routing
import DomainStory.Proofs.Session.Consistency

/-!
# The outline and the drawing tell the same steps

An outline is written from the domains of a story, a drawing is routed from the diagram that is
composed of them. Both tell the steps of the diagram in order (`Diagram.narrative`): the outline
because the flows of a domain stand in the order of their numbers already
(`Outline.steps_ofDomains`), the drawing because every step is resolved, between actors that are
placed, and hence drawn (`Diagram.told_route`). `Session.outline_eq_route` says so of every state
that a session can get into.
-/

namespace DomainStory

variable {α : Type}

/-- The steps of all domains and flows of an outline. -/
def Outline.steps (outline : Outline) : List OutlineStep :=
  outline.domains.flatMap fun domain => domain.flows.flatMap OutlineFlow.steps

/-- What a drawn step says: its badge, and the sentence that is made of its actors and texts. -/
def RoutedEdge.told (routed : RoutedEdge α) : OutlineStep where
  number := routed.badgeLabel
  sentence := Step.sentence
    ⟨routed.source, routed.action, routed.target, routed.workObject, routed.remark⟩

/-- What an edge says once it is drawn. -/
def DiagramEdge.told (edge : DiagramEdge) : OutlineStep where
  number := stepNumber edge.flowNumber edge.index
  sentence := Step.sentence ⟨edge.source, edge.content.action, edge.target,
    edge.content.workObject, edge.content.remark⟩

namespace Diagram

/-- The steps of a diagram as numbered sentences. -/
def narrative (diagram : Diagram α) : List OutlineStep :=
  diagram.flows.flatMap fun flow =>
    flow.steps.zipIdx.map fun (step, index) => ⟨stepNumber flow.number index, step.sentence⟩

theorem length_narrative (diagram : Diagram α) : diagram.narrative.length = diagram.stepCount := by
  rw [narrative, List.length_flatMap]
  simp only [List.length_map, List.length_zipIdx]
  rfl

end Diagram

/-! ## The outline -/

namespace Outline

/-- Flows that are numbered in order stay in order. -/
theorem flows_ofDomain {domain : Domain}
    (h : domain.flows.map Flow.number = List.range' 1 domain.flows.length) :
    (ofDomain domain).flows = domain.flows.map ofFlow := by
  have hsorted : domain.flows.Pairwise fun f g => decide (f.number ≤ g.number) = true := by
    have hnumbers : (domain.flows.map Flow.number).Pairwise (· ≤ ·) := by
      rw [h]
      exact List.pairwise_le_range' _
    simpa [List.pairwise_map] using hnumbers
  rw [ofDomain, List.mergeSort_of_pairwise hsorted]

theorem steps_ofDomains {domains : List Domain}
    (h : ∀ domain ∈ domains, domain.flows.map Flow.number = List.range' 1 domain.flows.length)
    (view : View) (prior : Diagram α) :
    (ofDomains domains view).steps = (Diagram.compose domains view prior).diagram.narrative := by
  have hdomain : ∀ shown ∈ (view.clamp domains.length).select domains,
      (ofDomain shown.1).flows.flatMap OutlineFlow.steps
        = (Diagram.domainFlows shown.1 shown.2).flatMap fun flow =>
            flow.steps.zipIdx.map fun (step, index) =>
              ⟨stepNumber flow.number index, step.sentence⟩ := by
    intro (domain, i) hshown
    have hmem : domain ∈ domains := List.mem_of_getElem? (View.getElem?_of_mem_select hshown)
    -- the index of the domain is no part of what is told
    have hflows : domain.flows = domain.flows.zipIdx.map Prod.fst := (List.zipIdx_map_fst 0 _).symm
    rw [flows_ofDomain (h domain hmem), List.flatMap_map, Diagram.domainFlows, List.flatMap_map]
    conv_lhs => rw [hflows, List.flatMap_map]
    rfl
  show List.flatMap _ (List.map _ _) = List.flatMap _ (List.flatMap _ _)
  rw [List.flatMap_map, List.flatMap_assoc]
  exact List.flatMap_congr hdomain

end Outline

/-! ## The drawing -/

namespace Diagram

variable [Plane α] {diagram : Diagram α}

theorem told_route (options : RouteOptions α) (controls : ControlPoints α)
    (hresolved : diagram.Resolved) (hflows : diagram.FlowsDistinct) (hplaced : diagram.AllPlaced) :
    (diagram.route options controls).2.map RoutedEdge.told = diagram.narrative := by
  have hdrawn : ∀ edge ∈ diagram.edges,
      ((diagram.routeEdge options controls edge).2.map RoutedEdge.told) = some edge.told := by
    intro edge hedge
    obtain ⟨hsource, htarget⟩ := ends_mem_keys hresolved hedge
    obtain ⟨sourceAt, hsourceAt⟩ := Option.isSome_iff_exists.mp (hplaced _ hsource)
    obtain ⟨targetAt, htargetAt⟩ := Option.isSome_iff_exists.mp (hplaced _ htarget)
    obtain ⟨source, target, hdraw, -⟩ := routeEdge_of_placed options controls hsourceAt htargetAt
    rw [hdraw]
    rfl
  calc (diagram.route options controls).2.map RoutedEdge.told
      = diagram.edges.filterMap fun edge =>
          (diagram.routeEdge options controls edge).2.map RoutedEdge.told := by
        rw [route, routeEdges_of_nodup (nodup_keys_edges hflows), List.map_filterMap]
    _ = diagram.edges.map DiagramEdge.told := List.filterMap_eq_map_iff_forall_eq_some.mpr hdrawn
    _ = diagram.narrative :=
        map_edges (fun flow step i => OutlineStep.mk (stepNumber flow.number i) step.sentence)
          hresolved fun _ _ _ _ => rfl

end Diagram

/-! ## Sessions -/

namespace Session

variable {config : Config} {session : Session α}

theorem Consistent.resolved (h : session.Consistent config) : session.diagram.Resolved := by
  rw [← Diagram.resolved_bare, h.bare_eq, h.story_eq]
  exact Diagram.resolved_compose_read _ _ _ _

theorem Consistent.flowsDistinct (h : session.Consistent config) :
    session.diagram.FlowsDistinct := by
  show session.diagram.bare.FlowsDistinct
  rw [h.bare_eq]
  exact Diagram.flowsDistinct_compose _ _ _

theorem Consistent.steps_outline (h : session.Consistent config) :
    session.outline.steps = session.diagram.narrative := by
  show _ = session.diagram.bare.narrative
  rw [h.bare_eq]
  refine Outline.steps_ofDomains ?_ _ _
  rw [h.story_eq]
  exact fun domain hdomain => ((Story.read_wellFormed _ _).1.domains domain hdomain).numbered

variable [Plane α]

/-- The steps of the outline are the drawn steps, in order, and as many as the diagram counts. -/
theorem outline_eq_route (h : session.Reachable config) :
    session.outline.steps = session.route.2.map RoutedEdge.told ∧
      session.route.2.length = session.diagram.stepCount := by
  have hconsistent := h.consistent
  have htold : session.route.2.map RoutedEdge.told = session.diagram.narrative :=
    Diagram.told_route _ _ hconsistent.resolved hconsistent.flowsDistinct
      (Diagram.allPlaced_iff.mpr hconsistent.placed)
  constructor
  · rw [htold]
    exact hconsistent.steps_outline
  · rw [← Diagram.length_narrative, ← htold, List.length_map]

/-- A session that shows the second of two domains, after an actor of it was moved. -/
def visited : Session Float :=
  ((start .default).withCanvas ⟨800.0, 600.0⟩).run [
    .updateText "@A (person)\n# Meal\n@B (person)\n@C (person)\n## Meal\nC thanks B {Soup}",
    .setView (.domain 1), .moveActor "B" ⟨10.0, 20.0⟩, .route]

theorem outline_eq_route_visited :
    visited.Reachable .default ∧
      visited.outline.steps = [⟨"1.1", "C thanks B. Soup."⟩] ∧
      visited.route.2.map RoutedEdge.told = [⟨"1.1", "C thanks B. Soup."⟩] ∧
      visited.route.2.length = visited.diagram.stepCount := by
  have hreachable : visited.Reachable .default := (Reachable.start.withCanvas _).run _
  obtain ⟨hsteps, hlength⟩ := outline_eq_route hreachable
  have houtline : visited.outline.steps = [⟨"1.1", "C thanks B. Soup."⟩] := by decide +kernel
  refine ⟨hreachable, houtline, ?_, hlength⟩
  rw [← hsteps, houtline]

end Session

end DomainStory
