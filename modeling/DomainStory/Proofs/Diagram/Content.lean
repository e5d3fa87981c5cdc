import DomainStory.Diagram.Arrange
import DomainStory.Diagram.Compose
import DomainStory.Proofs.List
import DomainStory.Proofs.Table

/-!
# What a diagram shows

`Diagram.bare` forgets where the actors are and how large they are. What is left depends on the
story and the view alone: placing, measuring and laying out keep it, and composing gives it whatever
diagram was there before (`bare_compose`).
-/

namespace DomainStory

/-! ## Views -/

namespace View

theorem clamp_eq_all_or (count : Nat) (view : View) :
    view.clamp count = .all ∨ ∃ i < count, view.clamp count = .domain i := by
  cases view with
  | all => exact .inl rfl
  | domain i =>
    by_cases hi : i < count
    · exact .inr ⟨i, hi, if_pos hi⟩
    · exact .inl (if_neg hi)

theorem clamp_clamp (count : Nat) (view : View) :
    (view.clamp count).clamp count = view.clamp count := by
  rcases clamp_eq_all_or count view with hall | ⟨i, hi, hdomain⟩
  · rw [hall]
    rfl
  · rw [hdomain]
    exact if_pos hi

/-- What is selected is a part of all, in order. -/
theorem select_sublist {β : Type} (view : View) (items : List β) :
    (view.select items).Sublist items.zipIdx :=
  (List.drop_sublist _ _).trans (List.take_sublist _ _)

theorem getElem?_of_mem_select {β : Type} {view : View} {items : List β} {item : β} {i : Nat}
    (h : (item, i) ∈ view.select items) : items[i]? = some item :=
  List.mem_zipIdx_iff_getElem?.mp ((select_sublist view items).subset h)

/-- No item is selected twice. -/
theorem nodup_select {β : Type} (view : View) (items : List β) :
    ((view.select items).map Prod.snd).Nodup := by
  refine ((select_sublist view items).map Prod.snd).nodup ?_
  rw [List.zipIdx_map_snd]
  exact List.nodup_range'

/-- A view of one domain selects the item with its index. -/
theorem select_domain {β : Type} (items : List β) (i : Nat) :
    (domain i).select items = items.zipIdx.filter fun shown => shown.2 = i := by
  rw [List.filter_zipIdx_snd (Nat.zero_le i), Nat.sub_zero]
  by_cases hi : i < items.length
  · simp [select, span, hi, List.take_drop]
  · have hnone : (items.zipIdx.drop i).take 1 = [] := by simp [Nat.le_of_not_lt hi]
    simp [select, span, hi, hnone]

theorem index_of_mem_select {β : Type} {items : List β} {item : β} {i k : Nat}
    (h : (item, i) ∈ (domain k).select items) : i = k := by
  rw [select_domain] at h
  simpa using List.of_mem_filter h

end View

variable {α : Type}

/-! ## Without places and sizes -/

/-- The actor without place and size. -/
def DiagramActor.bare (actor : DiagramActor α) : DiagramActor α :=
  { actor with position := none, measured := none }

namespace Diagram

/-- The diagram without places and sizes. -/
def bare (diagram : Diagram α) : Diagram α :=
  { diagram with actors := diagram.actors.mapEntries fun _ actor => actor.bare }

/-- Every actor is kept under its own key. -/
def Keyed (diagram : Diagram α) : Prop :=
  ∀ key actor, (key, actor) ∈ diagram.actors.entries → actor.key = key

theorem Keyed.map_key_values {diagram : Diagram α} (hkeyed : diagram.Keyed) :
    diagram.actors.values.map DiagramActor.key = diagram.actors.keys := by
  rw [Table.values, Table.keys, List.map_map]
  exact List.map_congr_left fun e he => hkeyed e.1 e.2 he

/-- Whether actors are kept under their own keys can be seen without places and sizes. -/
theorem Keyed.of_bare_eq {diagram diagram' : Diagram α} (hkeyed : diagram.Keyed)
    (h : diagram'.bare = diagram.bare) : diagram'.Keyed := by
  intro key actor hmem
  have hbare : (key, actor.bare) ∈ diagram'.bare.actors.entries :=
    Table.mem_mapEntries.mpr ⟨actor, hmem, rfl⟩
  rw [h] at hbare
  obtain ⟨actor', hmem', hactor'⟩ := Table.mem_mapEntries.mp hbare
  exact (congrArg DiagramActor.key hactor').symm.trans (hkeyed key actor' hmem')

theorem view_eq_of_bare_eq {diagram diagram' : Diagram α} (h : diagram'.bare = diagram.bare) :
    diagram'.view = diagram.view := by
  have hview : diagram'.bare.view = diagram.bare.view := congrArg Diagram.view h
  exact hview

theorem flows_eq_of_bare_eq {diagram diagram' : Diagram α} (h : diagram'.bare = diagram.bare) :
    diagram'.flows = diagram.flows := by
  have hflows : diagram'.bare.flows = diagram.bare.flows := congrArg Diagram.flows h
  exact hflows

/-- A change that touches only places and sizes keeps the bare diagram. -/
theorem bare_modify (diagram : Diagram α) (key : String)
    {change : DiagramActor α → DiagramActor α} (h : ∀ actor, (change actor).bare = actor.bare) :
    bare { diagram with actors := diagram.actors.modify key change } = diagram.bare := by
  simp only [bare, Table.modify, Table.mapEntries_mapEntries]
  congr 2
  funext key' actor
  split
  · exact h actor
  · rfl

theorem bare_place (diagram : Diagram α) (key : String) (spot : Point α) :
    (diagram.place key spot).bare = diagram.bare :=
  bare_modify diagram key fun _ => rfl

/-- What no single place changes, no list of places changes. -/
theorem foldl_place_eq {β : Type} (read : Diagram α → β)
    (h : ∀ diagram key spot, read (diagram.place key spot) = read diagram) (diagram : Diagram α)
    (spots : List (String × Point α)) :
    read (spots.foldl (fun d (key, spot) => d.place key spot) diagram) = read diagram := by
  induction spots generalizing diagram with
  | nil => rfl
  | cons first spots ih =>
    rw [List.foldl_cons, ih]
    exact h diagram first.1 first.2

theorem bare_foldl_place (diagram : Diagram α) (spots : List (String × Point α)) :
    (spots.foldl (fun d (key, spot) => d.place key spot) diagram).bare = diagram.bare :=
  foldl_place_eq bare bare_place diagram spots

/-! ## Composing -/

/-- All actors that the visible domains declare, in order. -/
def declared (view : View) (visible : List (Domain × Nat)) : List (DiagramActor α) :=
  visible.flatMap fun (domain, index) => domain.participants.map (newActor view index)

theorem mem_declared {view : View} {visible : List (Domain × Nat)} {actor : DiagramActor α} :
    actor ∈ declared view visible ↔
      ∃ domain index, (domain, index) ∈ visible ∧
        ∃ decl ∈ domain.participants, newActor view index decl = actor := by
  simp [declared]

/-- The first declaration of a name counts. -/
theorem get?_newActors (view : View) (visible : List (Domain × Nat)) (key : String) :
    (newActors view visible : Table String (DiagramActor α)).get? key
      = (declared view visible).find? fun actor => actor.key = key := by
  -- whoever is in the table already comes before those who are still to be entered
  have hfold : ∀ (actors : List (DiagramActor α)) (table : Table String (DiagramActor α)),
      (actors.foldl (fun table actor =>
          if table.contains actor.key then table else table.insert actor.key actor) table).get? key
        = (table.get? key).or (actors.find? fun actor => actor.key = key) := by
    intro actors
    induction actors with
    | nil => simp
    | cons first actors ih =>
      intro table
      rw [List.foldl_cons, ih]
      by_cases hkey : first.key = key
      · subst hkey
        cases hget : table.get? first.key with
        | none => simp [Table.contains, hget, Table.get?_insert]
        | some old => simp [Table.contains, hget]
      · have hfirst : (if table.contains first.key then table
            else table.insert first.key first).get? key = table.get? key := by
          split
          · rfl
          · rw [Table.get?_insert, if_neg (Ne.symm hkey)]
        rw [hfirst, List.find?_cons, decide_eq_false hkey]
  exact (hfold _ .empty).trans (Option.none_or)

/-- What enters a diagram was declared under its key. -/
theorem declared_of_mem_newActors {view : View} {visible : List (Domain × Nat)} {key : String}
    {actor : DiagramActor α} (h : (key, actor) ∈ (newActors view visible).entries) :
    actor ∈ declared view visible ∧ actor.key = key := by
  rw [← Table.get?_eq_some_iff, get?_newActors] at h
  exact ⟨List.mem_of_find?_eq_some h, by simpa using List.find?_some h⟩

/-- What enters a diagram is an actor under its own key, without place and size. -/
theorem newActors_bare {view : View} {visible : List (Domain × Nat)} {key : String}
    {actor : DiagramActor α} (h : (key, actor) ∈ (newActors view visible).entries) :
    actor.key = key ∧ actor.bare = actor := by
  obtain ⟨hdeclared, hkey⟩ := declared_of_mem_newActors h
  obtain ⟨domain, index, -, decl, -, rfl⟩ := mem_declared.mp hdeclared
  exact ⟨hkey, rfl⟩

theorem compose_empty (domains : List Domain) (view : View) :
    (compose domains view (empty : Diagram α)).diagram.actors
      = newActors (view.clamp domains.length) ((view.clamp domains.length).select domains) :=
  Table.mapEntries_eq_self fun _ _ _ => rfl

theorem bare_carryOver (prior : Table String (DiagramActor α)) (key : String)
    (actor : DiagramActor α) : (carryOver prior key actor).bare = actor.bare := by
  unfold carryOver
  split <;> rfl

@[simp] theorem key_carryOver (prior : Table String (DiagramActor α)) (key : String)
    (actor : DiagramActor α) : (carryOver prior key actor).key = actor.key := by
  unfold carryOver
  split <;> rfl

@[simp] theorem domainIndex_carryOver (prior : Table String (DiagramActor α)) (key : String)
    (actor : DiagramActor α) : (carryOver prior key actor).domainIndex = actor.domainIndex := by
  unfold carryOver
  split <;> rfl

/-- What a composed diagram shows does not depend on the diagram before. -/
theorem bare_compose (domains : List Domain) (view : View) (prior : Diagram α) :
    (compose domains view prior).diagram.bare = (compose domains view empty).diagram := by
  have hactors : (compose domains view prior).diagram.bare.actors
      = (compose domains view (empty : Diagram α)).diagram.actors := by
    rw [compose_empty]
    simp only [bare, compose, Table.mapEntries_mapEntries]
    refine Table.mapEntries_eq_self fun key actor hmem => ?_
    rw [bare_carryOver]
    exact (newActors_bare hmem).2
  show Diagram.mk _ _ _ = Diagram.mk _ _ _
  rw [Diagram.mk.injEq]
  exact ⟨rfl, hactors, rfl⟩

theorem compose_clamp (domains : List Domain) (view : View) (prior : Diagram α) :
    compose domains (view.clamp domains.length) prior = compose domains view prior := by
  unfold compose
  rw [View.clamp_clamp]

theorem keys_bare (diagram : Diagram α) : diagram.bare.actors.keys = diagram.actors.keys :=
  Table.keys_mapEntries _ _

/-- A diagram that shows what a composition gives keeps every actor under its own key. -/
theorem keyed_of_bare {diagram : Diagram α} {domains : List Domain} {view : View}
    (h : diagram.bare = (compose domains view empty).diagram) : diagram.Keyed := by
  intro key actor hmem
  have hbare : (key, actor.bare) ∈ diagram.bare.actors.entries :=
    Table.mem_mapEntries.mpr ⟨actor, hmem, rfl⟩
  rw [h, compose_empty] at hbare
  exact (newActors_bare hbare).1

end Diagram

end DomainStory
