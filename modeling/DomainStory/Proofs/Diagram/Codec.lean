import DomainStory.Proofs.Diagram.Placing
import DomainStory.Proofs.Story.Codec
import DomainStory.Proofs.Table
import DomainStory.Proofs.View.Selector

/-!
# Diagrams that are read back

A diagram is read back from its JSON form if the places and the sizes of its actors are finite
(`Diagram.ofJson?_toJson`), with its actors under their keys in the order in which they are kept. A
float that is not finite is written as null, so that one of them is enough for the diagram not to be
read at all.
-/

namespace DomainStory

open Json (record?_obj list?_ofList optional_eq_ite float?_ofFloat)

/-! ## Points and sizes -/

def Point.Finite (p : Point Float) : Prop := p.x.isFinite = true ∧ p.y.isFinite = true

instance (p : Point Float) : Decidable p.Finite :=
  inferInstanceAs (Decidable (p.x.isFinite = true ∧ p.y.isFinite = true))

def Size.Finite (size : Size Float) : Prop :=
  size.width.isFinite = true ∧ size.height.isFinite = true

instance (size : Size Float) : Decidable size.Finite :=
  inferInstanceAs (Decidable (size.width.isFinite = true ∧ size.height.isFinite = true))

theorem Point.ofJson?_toJson (p : Point Float) :
    ofJson? p.toJson = if p.Finite then some p else none := by
  unfold ofJson? toJson
  rw [record?_obj (by rfl) (by decide)]
  by_cases hx : p.x.isFinite = true <;> by_cases hy : p.y.isFinite = true <;>
    simp [Point.Finite, float?_ofFloat, hx, hy]

theorem Size.ofJson?_toJson (size : Size Float) :
    ofJson? size.toJson = if size.Finite then some size else none := by
  unfold ofJson? toJson
  rw [record?_obj (by rfl) (by decide)]
  by_cases hwidth : size.width.isFinite = true <;>
    by_cases hheight : size.height.isFinite = true <;>
    simp [Size.Finite, float?_ofFloat, hwidth, hheight]

theorem Point.toJson_ne_null (p : Point Float) : p.toJson ≠ .null := Json.noConfusion

theorem Size.toJson_ne_null (size : Size Float) : size.toJson ≠ .null := Json.noConfusion

/-! ## Actors -/

namespace DiagramActor

/-- Where the actor is and how large it is, if that is known, is finite. -/
def Finite (actor : DiagramActor Float) : Prop :=
  (∀ p ∈ actor.position, p.Finite) ∧ ∀ size ∈ actor.measured, size.Finite

instance (actor : DiagramActor Float) : Decidable actor.Finite :=
  inferInstanceAs (Decidable
    ((∀ p ∈ actor.position, p.Finite) ∧ ∀ size ∈ actor.measured, size.Finite))

/-- An actor is read back if it is finite, and refused otherwise. -/
theorem ofJson?_toJson (actor : DiagramActor Float) :
    ofJson? actor.toJson = if actor.Finite then some actor else none := by
  have hposition := optional_eq_ite actor.position rfl Point.toJson_ne_null Point.ofJson?_toJson
  have hmeasured := optional_eq_ite actor.measured rfl Size.toJson_ne_null Size.ofJson?_toJson
  unfold ofJson? toJson
  rw [record?_obj (by rfl) (by decide)]
  simp only [List.map_cons, List.map_nil, Json.required_some, Json.str?_str,
    ActorKind.ofJson?_toJson, Json.optional_str, Json.optional_nat, hposition, hmeasured]
  by_cases hp : ∀ p ∈ actor.position, p.Finite
  · by_cases hm : ∀ size ∈ actor.measured, size.Finite
    · rw [if_pos hp, if_pos hm, if_pos ⟨hp, hm⟩]
      rfl
    · rw [if_pos hp, if_neg hm, if_neg fun h : actor.Finite => hm h.2]
      rfl
  · rw [if_neg hp, if_neg fun h : actor.Finite => hp h.1]
    rfl

end DiagramActor

/-! ## Diagrams -/

theorem DiagramFlow.ofJson?_toJson (flow : DiagramFlow) :
    DiagramFlow.ofJson? flow.toJson = some flow := by
  have hsteps := list?_ofList fun step (_ : step ∈ flow.steps) => step.ofJson?_toJson
  unfold ofJson? toJson
  rw [record?_obj (by rfl) (by decide)]
  simp [hsteps]

/-- The object of a table is read as the table, entry by entry in the same order, if every value is
read back. If one is refused, so is the table. -/
theorem Table.ofJson?_obj {ν : Type} {read : Json → Option ν} {write : ν → Json}
    {accepts : ν → Prop} [DecidablePred accepts] (t : Table String ν)
    (h : ∀ value, read (write value) = if accepts value then some value else none) :
    Table.ofJson? read (.obj (t.entries.map fun e => (e.1, write e.2)))
      = if ∀ value ∈ t.values, accepts value then some t else none := by
  rw [Table.ofJson?, List.mapM_map]
  by_cases hall : ∀ value ∈ t.values, accepts value
  · rw [if_pos hall, List.mapM_eq_some_map (g := id), List.map_id, Option.map_some]
    · rw [show Table.ofList t.entries = t from Table.ext (Table.entries_ofList t.nodup)]
    · intro e he
      show (read (write e.2)).map _ = some e
      rw [h, if_pos (hall e.2 (List.mem_map_of_mem he))]
      rfl
  · rw [if_neg hall]
    obtain ⟨value, hvalue, hrefused⟩ : ∃ value ∈ t.values, ¬ accepts value := by
      simpa using hall
    obtain ⟨e, he, rfl⟩ := List.mem_map.mp hvalue
    rw [List.mapM_eq_none_of_mem he]
    · rfl
    · show (read (write e.2)).map _ = none
      rw [h, if_neg hrefused]
      rfl

namespace Diagram

/-- Every place and every size is finite. -/
def Finite (diagram : Diagram Float) : Prop := ∀ actor ∈ diagram.actors.values, actor.Finite

instance (diagram : Diagram Float) : Decidable diagram.Finite :=
  inferInstanceAs (Decidable (∀ actor ∈ diagram.actors.values, actor.Finite))

theorem ofJson?_toJson (diagram : Diagram Float) :
    ofJson? diagram.toJson = if diagram.Finite then some diagram else none := by
  have hactors := Table.ofJson?_obj diagram.actors DiagramActor.ofJson?_toJson
  have hflows := list?_ofList fun flow (_ : flow ∈ diagram.flows) => flow.ofJson?_toJson
  unfold ofJson? toJson
  rw [record?_obj (by rfl) (by decide)]
  simp only [List.map_cons, List.map_nil, Json.required_some, View.ofJson?_toJson, hactors, hflows]
  by_cases hfinite : ∀ actor ∈ diagram.actors.values, actor.Finite
  · rw [if_pos hfinite, if_pos (show diagram.Finite from hfinite)]
    rfl
  · rw [if_neg hfinite, if_neg (show ¬ diagram.Finite from hfinite)]
    rfl

end Diagram

/-- Whatever is written is read back. For a story nothing is needed. A diagram is read back if it is
finite, and no other diagram is read at all. -/
theorem written_read_back :
    (∀ story : Story, Story.ofJson? story.toJson = some story) ∧
    ∀ diagram : Diagram Float,
      Diagram.ofJson? diagram.toJson = if diagram.Finite then some diagram else none :=
  ⟨Story.ofJson?_toJson, Diagram.ofJson?_toJson⟩

/-- The library is read back with the places of its readers. If one of them is nowhere, nothing
is. -/
theorem written_read_back_library :
    Diagram.library.Finite ∧
      Diagram.ofJson? Diagram.library.toJson = some Diagram.library ∧
      Diagram.ofJson? (Diagram.library.place "Reader" ⟨0.0 / 0.0, 0.0⟩).toJson = none := by
  have hfinite : Diagram.library.Finite := by decide
  have hnowhere : ¬ (Diagram.library.place "Reader" ⟨0.0 / 0.0, 0.0⟩).Finite := by decide
  obtain ⟨-, hread⟩ := written_read_back
  refine ⟨hfinite, ?_, ?_⟩
  · rw [hread, if_pos hfinite]
  · rw [hread, if_neg hnowhere]

end DomainStory
