import DomainStory.Proofs.Diagram.Placing

/-!
# What a composed diagram is

`Composes` says what the diagram of a view is in terms of the domains that the view shows: whose the
actors are and in what order, what each of them takes from its declaration and from the diagram
before, who is released, and which flows there are. Exactly one composition is so for given domains,
view and diagram before, and it is the one that `Diagram.compose` makes (`Diagram.composes_iff`).

To compose once more, from what was composed, therefore changes nothing: the same composition is so
for the diagram that is there by then.
-/

namespace DomainStory

/-! ## What a view shows -/

/-- The items that a view shows, each with its index. -/
def View.shown {β : Type} (view : View) (items : List β) : List (β × Nat) :=
  match view with
  | all => items.zipIdx
  | domain i => (items[i]?.map fun item => (item, i)).toList

theorem View.select_eq_shown {β : Type} (view : View) (items : List β) :
    view.select items = view.shown items := by
  cases view with
  | all =>
    show (items.zipIdx.take items.length).drop 0 = items.zipIdx
    rw [List.drop_zero, List.take_of_length_le (Nat.le_of_eq List.length_zipIdx)]
  | domain i =>
    rw [select_domain, List.filter_zipIdx_snd (Nat.zero_le i), Nat.sub_zero, List.take_one,
      List.head?_drop, List.getElem?_zipIdx, Nat.zero_add]
    rfl

variable {α : Type}

/-- The actors that the domains shown by a view declare, in order. -/
def View.declarations (view : View) (domains : List Domain) : List ActorDecl :=
  (view.shown domains).flatMap fun shown => shown.1.participants

/-! ## The specification -/

/-- The actor of a declaration in a view, where the diagram before had put it. -/
def ActorDecl.drawn (view : View) (prior : Diagram α) (decl : ActorDecl) : DiagramActor α where
  key := decl.name
  displayName := decl.name
  icon := decl.icon
  kind := decl.kind
  remark := decl.remark
  domainIndex := view.index?
  position := prior.position? decl.name
  measured := prior.measured? decl.name

/-- The flow of a domain that a view shows, tagged with the domain and with both indices. -/
def Flow.drawn (domain : Domain) (domainIndex flowIndex : Nat) (flow : Flow) : DiagramFlow where
  domainIndex
  domainTitle := domain.title
  domainColor := domain.color
  flowIndex
  number := flow.number
  title := flow.title
  steps := flow.steps

/-- What the composition of a view is, a view of a domain that does not exist showing everything. -/
structure Composes (domains : List Domain) (view : View) (prior : Diagram α)
    (made : Composition α) : Prop where
  view_eq : made.diagram.view = view.clamp domains.length
  /-- Every name is a key once, at the place of its first declaration. -/
  keys : made.diagram.actors.keys
    = (((view.clamp domains.length).declarations domains).map ActorDecl.name).eraseDups
  /-- The first declaration of a name makes the actor. -/
  actor? : ∀ key, made.diagram.actor? key
    = (((view.clamp domains.length).declarations domains).find? fun decl => decl.name = key).map
        (ActorDecl.drawn (view.clamp domains.length) prior)
  released : made.released = prior.actors.keys.filter fun key => key ∉ made.diagram.actors.keys
  flows : made.diagram.flows
    = ((view.clamp domains.length).shown domains).flatMap fun (domain, domainIndex) =>
        domain.flows.mapIdx (Flow.drawn domain domainIndex)

/-- No two compositions are so. -/
theorem Composes.unique {domains : List Domain} {view : View} {prior : Diagram α}
    {made made' : Composition α} (h : Composes domains view prior made)
    (h' : Composes domains view prior made') : made = made' := by
  obtain ⟨⟨view₁, actors, flows⟩, released⟩ := made
  obtain ⟨⟨view₂, actors', flows'⟩, released'⟩ := made'
  obtain rfl : view₁ = view₂ := h.view_eq.trans h'.view_eq.symm
  obtain rfl : actors = actors' :=
    Table.ext_get? (h.keys.trans h'.keys.symm) fun key => (h.actor? key).trans (h'.actor? key).symm
  obtain rfl : flows = flows' := h.flows.trans h'.flows.symm
  obtain rfl : released = released' := h.released.trans h'.released.symm
  rfl

/-- What was composed is the composition of the same view for the diagram that it is itself. -/
theorem Composes.again {domains : List Domain} {view : View} {prior : Diagram α}
    {made : Composition α} (h : Composes domains view prior made) :
    Composes domains view made.diagram ⟨made.diagram, []⟩ where
  view_eq := h.view_eq
  keys := h.keys
  actor? := by
    intro key
    rw [h.actor? key]
    refine Option.map_congr fun decl hfound => ?_
    have hname : decl.name = key := by simpa using List.find?_some hfound
    have hactor : made.diagram.actor? decl.name
        = some (decl.drawn (view.clamp domains.length) prior) := by
      rw [hname, h.actor? key, hfound, Option.map_some]
    -- where the actor is now is where it was before
    rw [ActorDecl.drawn, ActorDecl.drawn, Diagram.position?_of_actor? hactor,
      Diagram.measured?_of_actor? hactor]
    rfl
  released := by
    refine (List.filter_eq_nil_iff.mpr fun key hkey => ?_).symm
    simpa using hkey
  flows := h.flows

namespace Diagram

/-! ## Composing meets it -/

/-- A view of one domain shows actors of that domain alone, and no other view knows theirs. -/
theorem declared_select (view : View) (domains : List Domain) :
    (declared view (view.select domains) : List (DiagramActor α))
      = (view.declarations domains).map (ActorDecl.drawn view empty) := by
  rw [declared, View.declarations, List.map_flatMap, ← View.select_eq_shown]
  refine List.flatMap_congr fun shown hshown => List.map_congr_left fun decl _ => ?_
  obtain ⟨domain, index⟩ := shown
  cases view with
  | all => rfl
  | domain i =>
    rw [View.index_of_mem_select hshown]
    rfl

theorem carryOver_drawn (view : View) (prior : Diagram α) (decl : ActorDecl) :
    carryOver prior.actors decl.name (decl.drawn view empty) = decl.drawn view prior := by
  unfold carryOver ActorDecl.drawn position? measured? actor?
  cases prior.actors.get? decl.name <;> rfl

theorem keys_newActors (view : View) (domains : List Domain) :
    (newActors view (view.select domains) : Table String (DiagramActor α)).keys
      = ((view.declarations domains).map ActorDecl.name).eraseDups := by
  have hkeys : (declared view (view.select domains)).map (DiagramActor.key (α := α))
      = (view.declarations domains).map ActorDecl.name := by
    rw [declared_select, List.map_map]
    rfl
  refine (Table.keys_foldl_insert_new DiagramActor.key (declared view _) .empty).trans ?_
  rw [hkeys]
  -- nothing is in the table at first
  simp [Table.keys, Table.empty]

theorem actor?_compose_eq (domains : List Domain) (view : View) (prior : Diagram α) (key : String) :
    (compose domains view prior).diagram.actor? key
      = (((view.clamp domains.length).declarations domains).find? fun decl => decl.name = key).map
          (ActorDecl.drawn (view.clamp domains.length) prior) := by
  show ((newActors _ _).mapEntries _).get? key = _
  rw [Table.get?_mapEntries, get?_newActors, declared_select, List.find?_map, Option.map_map]
  refine Option.map_congr fun decl hfound => ?_
  have hfits := List.find?_some hfound
  have hname : decl.name = key := of_decide_eq_true hfits
  rw [Function.comp_apply, ← hname]
  exact carryOver_drawn _ prior decl

theorem compose_composes (domains : List Domain) (view : View) (prior : Diagram α) :
    Composes domains view prior (compose domains view prior) where
  view_eq := rfl
  keys := by
    show ((newActors _ _).mapEntries _).keys = _
    rw [Table.keys_mapEntries, keys_newActors]
  actor? := actor?_compose_eq domains view prior
  released := by
    refine List.filter_congr fun key _ => ?_
    show (!(newActors _ _).contains key) = decide (key ∉ ((newActors _ _).mapEntries _).keys)
    rw [Table.keys_mapEntries, Bool.eq_iff_iff, Bool.not_eq_true', decide_eq_true_iff,
      ← Table.contains_iff, Bool.not_eq_true]
  flows := by
    show ((view.clamp domains.length).select domains).flatMap _ = _
    rw [View.select_eq_shown]
    refine List.flatMap_congr fun shown _ => ?_
    obtain ⟨domain, index⟩ := shown
    show domainFlows domain index = domain.flows.mapIdx (Flow.drawn domain index)
    rw [List.mapIdx_eq_zipIdx_map]
    rfl

/-- Composing makes the one composition there is of a view, and makes nothing else of the same view
when it is composed again. -/
theorem composes_iff (domains : List Domain) (view : View) (prior : Diagram α) :
    (∀ made, Composes domains view prior made ↔ made = compose domains view prior) ∧
      compose domains view (compose domains view prior).diagram
        = ⟨(compose domains view prior).diagram, []⟩ := by
  have hmade := compose_composes domains view prior
  refine ⟨fun made => ⟨fun h => h.unique hmade, ?_⟩, ?_⟩
  · rintro rfl
    exact hmade
  · exact (compose_composes domains view _).unique hmade.again

end Diagram

end DomainStory
