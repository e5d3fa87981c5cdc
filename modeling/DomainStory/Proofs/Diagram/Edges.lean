import Mathlib.Data.List.Basic
import Mathlib.Data.List.Nodup
import DomainStory.Proofs.Diagram.Content
import DomainStory.Proofs.List
import DomainStory.Proofs.Story.Reading

/-!
# Every step has its edge

An edge comes from a step of a flow (`mem_edges`), and as long as no flow is in a diagram twice,
it has a key of its own (`nodup_keys_edges`), under which the step is found again
(`step?_of_mem_edges`).

Steps whose actors are not in a diagram have no edge. This never happens to a story that was read:
its steps name actors of their own domain (`Story.read_wellFormed`), and the diagram of every view
that shows the domain has these actors under their names (`resolve_compose`). The edges are then
exactly the visible steps in order (`edges_of_resolved`). `edgesComplete_read` puts this together.
-/

namespace DomainStory

/-- The edge of a step, given its index and the place of its flow among the visible flows. -/
def DiagramFlow.edge (flow : DiagramFlow) (ordinal : Nat) (step : Step) (index : Nat) :
    DiagramEdge where
  key := ⟨flow.domainIndex, flow.flowIndex, index⟩
  source := step.source
  target := step.target
  flowOrdinal := ordinal
  flowNumber := flow.number
  flowLength := flow.steps.length
  index
  content := step

namespace Diagram

variable {α : Type} {diagram : Diagram α}

/-! ## Edges and their steps -/

theorem mem_flowEdges {flow : DiagramFlow} {ordinal : Nat} {edge : DiagramEdge}
    (h : edge ∈ diagram.flowEdges flow ordinal) :
    flow.steps[edge.index]? = some edge.content ∧
      edge.key = ⟨flow.domainIndex, flow.flowIndex, edge.index⟩ ∧
      edge.flowOrdinal = ordinal ∧ edge.flowLength = flow.steps.length := by
  obtain ⟨⟨step, index⟩, hstep, hedge⟩ := List.mem_filterMap.mp h
  dsimp only at hedge
  split at hedge
  · obtain rfl := Option.some.inj hedge
    exact ⟨List.mem_zipIdx_iff_getElem?.mp hstep, rfl, rfl, rfl⟩
  · exact absurd hedge (by simp)

/-- An edge comes from a step of a visible flow. -/
theorem mem_edges {edge : DiagramEdge} (h : edge ∈ diagram.edges) :
    ∃ flow, diagram.flows[edge.flowOrdinal]? = some flow ∧
      flow.steps[edge.index]? = some edge.content ∧
      edge.key = ⟨flow.domainIndex, flow.flowIndex, edge.index⟩ ∧
      edge.flowLength = flow.steps.length := by
  obtain ⟨⟨flow, ordinal⟩, hflow, hmem⟩ := List.mem_flatMap.mp h
  obtain ⟨hstep, hkey, hordinal, hlength⟩ := mem_flowEdges hmem
  rw [hordinal]
  exact ⟨flow, List.mem_zipIdx_iff_getElem?.mp hflow, hstep, hkey, hlength⟩

/-- No two flows are the same flow of the same domain. -/
def FlowsDistinct (diagram : Diagram α) : Prop :=
  (diagram.flows.map fun flow => (flow.domainIndex, flow.flowIndex)).Nodup

/-- Every edge has a key of its own. -/
theorem nodup_keys_edges (hflows : diagram.FlowsDistinct) :
    (diagram.edges.map DiagramEdge.key).Nodup := by
  have hordinals : (diagram.flows.zipIdx.map fun p => (p.1.domainIndex, p.1.flowIndex)).Nodup := by
    have hfst := List.zipIdx_map_fst 0 diagram.flows
    rw [FlowsDistinct, ← hfst, List.map_map] at hflows
    exact hflows
  rw [List.Nodup, List.pairwise_map, edges, List.pairwise_flatMap]
  constructor
  · -- steps of one flow differ in the index
    intro (flow, ordinal) _
    have hindices : (flow.steps.zipIdx.map Prod.snd).Nodup := by
      rw [List.zipIdx_map_snd]
      exact List.nodup_range'
    refine List.pairwise_filterMap.mpr ((List.pairwise_map.mp hindices).imp ?_)
    intro (step, index) (step', index') hne edge hedge edge' hedge' hkey
    dsimp only at hedge hedge'
    split at hedge
    · split at hedge'
      · obtain rfl := Option.some.inj hedge
        obtain rfl := Option.some.inj hedge'
        exact hne (congrArg StepKey.step hkey)
      · exact absurd hedge' (by simp)
    · exact absurd hedge (by simp)
  · -- steps of different flows differ in the domain or the flow
    refine (List.pairwise_map.mp hordinals).imp fun {p p'} hne edge hedge edge' hedge' hkey => ?_
    rw [(mem_flowEdges hedge).2.1, (mem_flowEdges hedge').2.1] at hkey
    obtain ⟨hdomain, hflow, -⟩ := StepKey.mk.inj hkey
    exact hne (Prod.ext hdomain hflow)

/-- A step is found under the key of its edge. -/
theorem step?_of_mem_edges (hflows : diagram.FlowsDistinct) {edge : DiagramEdge}
    (hedge : edge ∈ diagram.edges) : diagram.step? edge.key = some edge.content := by
  obtain ⟨flow, hflow, hstep, hkey, -⟩ := mem_edges hedge
  have hmem : flow ∈ diagram.flows := List.mem_of_getElem? hflow
  have hfound : diagram.flows.find? (fun other =>
      other.domainIndex = flow.domainIndex && other.flowIndex = flow.flowIndex) = some flow := by
    refine List.find?_eq_some_of_unique hmem (by simp) fun other hother hindices => ?_
    simp only [Bool.and_eq_true, decide_eq_true_eq] at hindices
    exact List.inj_on_of_nodup_map hflows hother hmem (Prod.ext hindices.1 hindices.2)
  rw [hkey]
  show ((diagram.flows.find? fun other => other.domainIndex = flow.domainIndex
    && other.flowIndex = flow.flowIndex).bind fun found => found.steps[edge.index]?) = _
  rw [hfound]
  exact hstep

/-- No edge is the second one with its key. -/
theorem find?_edges (hflows : diagram.FlowsDistinct) {edge : DiagramEdge}
    (hedge : edge ∈ diagram.edges) :
    diagram.edges.find? (fun other => other.key = edge.key) = some edge := by
  refine List.find?_eq_some_of_unique hedge (by simp) fun other hother hkey => ?_
  rw [decide_eq_true_eq] at hkey
  exact List.inj_on_of_nodup_map (nodup_keys_edges hflows) hother hedge hkey

/-! ## Resolved steps -/

/-- Both names of every step denote an actor that is kept under this name. -/
def Resolved (diagram : Diagram α) : Prop :=
  ∀ flow ∈ diagram.flows, ∀ step ∈ flow.steps, ∀ name ∈ [step.source, step.target],
    (diagram.resolve flow name).map DiagramActor.key = some name

theorem resolve_bare (diagram : Diagram α) (flow : DiagramFlow) (name : String) :
    diagram.bare.resolve flow name = (diagram.resolve flow name).map DiagramActor.bare := by
  have hactor : diagram.bare.actor? name = (diagram.actor? name).map DiagramActor.bare :=
    Table.get?_mapEntries _ _ _
  rw [resolve, hactor, Option.filter_map]
  rfl

/-- Places and sizes are nothing to which steps are resolved. -/
theorem resolved_bare : diagram.bare.Resolved ↔ diagram.Resolved := by
  have hkey : ∀ flow name, (diagram.bare.resolve flow name).map DiagramActor.key
      = (diagram.resolve flow name).map DiagramActor.key := by
    intro flow name
    rw [resolve_bare, Option.map_map]
    rfl
  simp only [Resolved, hkey]
  exact Iff.rfl

theorem flowEdges_of_resolved {flow : DiagramFlow} (ordinal : Nat)
    (h : ∀ step ∈ flow.steps, ∀ name ∈ [step.source, step.target],
      (diagram.resolve flow name).map DiagramActor.key = some name) :
    diagram.flowEdges flow ordinal
      = flow.steps.zipIdx.map fun (step, index) => flow.edge ordinal step index := by
  refine List.filterMap_eq_map_iff_forall_eq_some.mpr fun (step, index) hmem => ?_
  have hstep : step ∈ flow.steps := List.fst_mem_of_mem_zipIdx hmem
  obtain ⟨source, hsource, hsourceKey⟩ :=
    Option.map_eq_some_iff.mp (h step hstep step.source (by simp))
  obtain ⟨target, htarget, htargetKey⟩ :=
    Option.map_eq_some_iff.mp (h step hstep step.target (by simp))
  simp only [hsource, htarget, hsourceKey, htargetKey, DiagramFlow.edge]

/-- Where all steps are resolved, the edges are the steps in order. -/
theorem edges_of_resolved (h : diagram.Resolved) :
    diagram.edges = diagram.flows.zipIdx.flatMap fun (flow, ordinal) =>
      flow.steps.zipIdx.map fun (step, index) => flow.edge ordinal step index := by
  refine List.flatMap_congr fun (flow, ordinal) hmem => ?_
  exact flowEdges_of_resolved ordinal (h flow (List.fst_mem_of_mem_zipIdx hmem))

/-- What does not depend on the place of the flow can be read off flow by flow. -/
theorem map_edges {β : Type} {read : DiagramEdge → β} (readStep : DiagramFlow → Step → Nat → β)
    (h : diagram.Resolved)
    (hread : ∀ flow ordinal step index, read (flow.edge ordinal step index)
      = readStep flow step index) :
    diagram.edges.map read = diagram.flows.flatMap fun flow =>
      flow.steps.zipIdx.map fun (step, index) => readStep flow step index := by
  have hflow : ∀ (flow : DiagramFlow) (ordinal : Nat),
      (flow.steps.zipIdx.map fun (step, index) => flow.edge ordinal step index).map read
        = flow.steps.zipIdx.map fun (step, index) => readStep flow step index := by
    intro flow ordinal
    rw [List.map_map]
    exact List.map_congr_left fun (step, index) _ => hread flow ordinal step index
  calc diagram.edges.map read
      = diagram.flows.zipIdx.flatMap fun p =>
          p.1.steps.zipIdx.map fun (step, index) => readStep p.1 step index := by
        rw [edges_of_resolved h, List.map_flatMap]
        exact List.flatMap_congr fun (flow, ordinal) _ => hflow flow ordinal
    _ = (diagram.flows.zipIdx.map Prod.fst).flatMap fun flow =>
          flow.steps.zipIdx.map fun (step, index) => readStep flow step index :=
        by rw [List.flatMap_map]
    _ = _ := by rw [List.zipIdx_map_fst]

/-- The ends of an edge are keys of actors. -/
theorem ends_mem_keys (h : diagram.Resolved) {edge : DiagramEdge} (hedge : edge ∈ diagram.edges) :
    edge.source ∈ diagram.actors.keys ∧ edge.target ∈ diagram.actors.keys := by
  have hkey : ∀ flow ∈ diagram.flows, ∀ step ∈ flow.steps, ∀ name ∈ [step.source, step.target],
      name ∈ diagram.actors.keys := by
    intro flow hflow step hstep name hname
    obtain ⟨actor, hresolve, -⟩ := Option.map_eq_some_iff.mp (h flow hflow step hstep name hname)
    have hactor : diagram.actor? name = some actor := (Option.filter_eq_some_iff.mp hresolve).1
    exact Table.mem_keys_iff_exists.mpr ⟨actor, hactor⟩
  rw [edges_of_resolved h] at hedge
  obtain ⟨⟨flow, ordinal⟩, hflow, hmem⟩ := List.mem_flatMap.mp hedge
  obtain ⟨⟨step, index⟩, hstep, rfl⟩ := List.mem_map.mp hmem
  have hends := hkey flow (List.fst_mem_of_mem_zipIdx hflow) step (List.fst_mem_of_mem_zipIdx hstep)
  exact ⟨hends step.source (by simp), hends step.target (by simp)⟩

/-! ## Composed diagrams -/

section

variable {domains : List Domain} {view : View} {prior : Diagram α}

/-- The flows of a composed diagram are those of the domains that the view shows. -/
theorem mem_flows_compose {flow : DiagramFlow}
    (h : flow ∈ (compose domains view prior).diagram.flows) :
    ∃ domain i told j, (domain, i) ∈ (view.clamp domains.length).select domains ∧
      domain.flows[j]? = some told ∧ flow.domainIndex = i ∧ flow.flowIndex = j ∧
        flow.steps = told.steps := by
  obtain ⟨⟨domain, i⟩, hvisible, hmem⟩ := List.mem_flatMap.mp h
  obtain ⟨⟨told, j⟩, htold, rfl⟩ := List.mem_map.mp hmem
  exact ⟨domain, i, told, j, hvisible, List.mem_zipIdx_iff_getElem?.mp htold, rfl, rfl, rfl⟩

theorem flowsDistinct_compose (domains : List Domain) (view : View) (prior : Diagram α) :
    (compose domains view prior).diagram.FlowsDistinct := by
  show (List.map _ (List.flatMap _ _)).Nodup
  rw [List.map_flatMap, List.nodup_flatMap]
  constructor
  · intro (domain, i) _
    have hindices : (domainFlows domain i).map (fun flow => (flow.domainIndex, flow.flowIndex))
        = (List.range' 0 domain.flows.length).map fun j => (i, j) := by
      rw [← List.zipIdx_map_snd, domainFlows, List.map_map, List.map_map]
      rfl
    rw [hindices]
    exact List.Nodup.map (fun j j' hj => (Prod.mk.inj hj).2) List.nodup_range'
  · -- the flows of different domains differ in the domain
    refine (List.pairwise_map.mp (View.nodup_select _ _)).imp fun {shown shown'} hne => ?_
    intro indices hmem hmem'
    obtain ⟨flow, hflow, rfl⟩ := List.mem_map.mp hmem
    obtain ⟨flow', hflow', hsame⟩ := List.mem_map.mp hmem'
    obtain ⟨_, _, rfl⟩ := List.mem_map.mp hflow
    obtain ⟨_, _, rfl⟩ := List.mem_map.mp hflow'
    exact hne (Prod.mk.inj hsame).1.symm

/-- A name that a visible domain declares denotes an actor of the diagram. -/
theorem resolve_compose {domain : Domain} {i : Nat} {flow : DiagramFlow} {name : String}
    (hvisible : (domain, i) ∈ (view.clamp domains.length).select domains)
    (hflow : flow.domainIndex = i) (hname : name ∈ domain.actorNames) :
    ((compose domains view prior).diagram.resolve flow name).map DiagramActor.key = some name := by
  obtain ⟨decl, hdecl, rfl⟩ := List.mem_map.mp hname
  -- somebody is declared by this name, and the first who is gets the key
  obtain ⟨actor, hactor⟩ : ∃ actor, (newActors (view.clamp domains.length)
      ((view.clamp domains.length).select domains) : Table String (DiagramActor α)).get? decl.name
        = some actor := by
    rw [← Option.isSome_iff_exists, get?_newActors, List.find?_isSome]
    exact ⟨newActor _ i decl, mem_declared.mpr ⟨domain, i, hvisible, decl, hdecl, rfl⟩, by
      simp [newActor]⟩
  obtain ⟨hdeclared, hkey⟩ := declared_of_mem_newActors (Table.get?_eq_some_iff.mp hactor)
  have hcomposed : (compose domains view prior).diagram.actor? decl.name
      = some (carryOver prior.actors decl.name actor) := by
    show (Table.mapEntries _ _).get? _ = _
    rw [Table.get?_mapEntries, hactor]
    rfl
  -- in a view of one domain, this domain is the actor's and the flow's
  have hshown : ((compose domains view prior).diagram.view.isAll
      || decide (actor.domainIndex = some flow.domainIndex)) = true := by
    obtain ⟨domain', i', hvisible', decl', -, rfl⟩ := mem_declared.mp hdeclared
    show ((view.clamp domains.length).isAll || _) = true
    cases hview : view.clamp domains.length with
    | all => rfl
    | domain k =>
      rw [hview] at hvisible hvisible'
      rw [View.index_of_mem_select hvisible] at hflow
      simp [newActor, View.isAll, hflow, View.index_of_mem_select hvisible']
  rw [resolve, hcomposed, Option.filter_some, domainIndex_carryOver, hshown, if_pos rfl,
    Option.map_some, key_carryOver, hkey]

/-- All steps between actors of their domain are resolved. -/
theorem resolved_compose (h : ∀ domain ∈ domains, ∀ flow ∈ domain.flows, ∀ step ∈ flow.steps,
    step.source ∈ domain.actorNames ∧ step.target ∈ domain.actorNames) :
    (compose domains view prior).diagram.Resolved := by
  intro flow hflow step hstep name hname
  obtain ⟨domain, i, told, j, hvisible, htold, hdomain, -, hsteps⟩ := mem_flows_compose hflow
  rw [hsteps] at hstep
  have hends := h domain (List.mem_of_getElem? (View.getElem?_of_mem_select hvisible)) told
    (List.mem_of_getElem? htold) step hstep
  refine resolve_compose hvisible hdomain ?_
  rcases List.mem_pair.mp hname with rfl | rfl
  · exact hends.1
  · exact hends.2

theorem resolved_compose_read (config : Config) (text : String) (view : View) (prior : Diagram α) :
    (compose (Story.read config text).domains view prior).diagram.Resolved := by
  refine resolved_compose fun domain hdomain flow hflow step hstep => ?_
  have hwell := (Story.read_wellFormed config text).1.domains domain hdomain
  have hends := hwell.steps flow hflow step hstep
  exact ⟨hends.source_mem, hends.target_mem⟩

end

/-- The edges of a diagram tell all steps of the domains that a view shows, each once. -/
structure EdgesComplete (domains : List Domain) (view : View) (diagram : Diagram α) : Prop where
  /-- The flows are those of the visible domains, in order. -/
  flows : diagram.flows.map (fun flow => (flow.domainIndex, flow.flowIndex, flow.steps))
    = ((view.clamp domains.length).select domains).flatMap fun (domain, i) =>
        domain.flows.zipIdx.map fun (flow, j) => (i, j, flow.steps)
  /-- There is one edge for each of their steps, in order, between the actors that it names. -/
  edges : diagram.edges = diagram.flows.zipIdx.flatMap fun (flow, ordinal) =>
    flow.steps.zipIdx.map fun (step, index) => flow.edge ordinal step index
  ends : ∀ edge ∈ diagram.edges,
    edge.source ∈ diagram.actors.keys ∧ edge.target ∈ diagram.actors.keys
  keys : (diagram.edges.map DiagramEdge.key).Nodup
  /-- A step is found under the key of its edge. -/
  found : ∀ edge ∈ diagram.edges, diagram.step? edge.key = some edge.content

/-- Of a story that was read, no visible step is lost in a diagram, whatever was there before. -/
theorem edgesComplete_read (config : Config) (text : String) (view : View) (prior : Diagram α) :
    (compose (Story.read config text).domains view prior).diagram.EdgesComplete
      (Story.read config text).domains view := by
  have hresolved := resolved_compose_read config text view prior
  have hdistinct := flowsDistinct_compose (Story.read config text).domains view prior
  exact {
    flows := by
      show (List.flatMap _ _).map _ = _
      rw [List.map_flatMap]
      refine List.flatMap_congr fun (domain, i) _ => ?_
      simp [domainFlows, Function.comp_def]
    edges := edges_of_resolved hresolved
    ends := fun edge hedge => ends_mem_keys hresolved hedge
    keys := nodup_keys_edges hdistinct
    found := fun edge hedge => step?_of_mem_edges hdistinct hedge }

end Diagram

end DomainStory
