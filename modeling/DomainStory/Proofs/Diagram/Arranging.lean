import DomainStory.Proofs.Diagram.Placing
import DomainStory.Proofs.Layout.Places
import DomainStory.Proofs.Layout.Refusal

/-!
# What a layout changes

A layout of a diagram gives every actor a place and changes nothing else of the diagram. Both of its
parts, seeding and writing the places back, give one actor after the other a place, and each such
step leaves all but this one place as it was (`Moved.place`). So does then a whole run
(`Moved.foldl_place`).

The places are written back under the keys of the actors. The network that is laid out has these
keys as its identifiers, in order and each once (`ids_seed`), so that every actor gets the place
that was computed for it.
-/

namespace DomainStory.Diagram

variable {α : Type} {diagram diagram' diagram'' : Diagram α}

/-! ## Moving actors -/

/-- A diagram in which actors were moved. All but their places is as it was before. -/
structure Moved (diagram diagram' : Diagram α) : Prop where
  view : diagram'.view = diagram.view
  flows : diagram'.flows = diagram.flows
  keys : diagram'.actors.keys = diagram.actors.keys
  actors : ∀ key actor, diagram.actor? key = some actor →
    ∃ position, diagram'.actor? key = some { actor with position }

namespace Moved

theorem refl (diagram : Diagram α) : Moved diagram diagram :=
  ⟨rfl, rfl, rfl, fun _ actor hactor => ⟨actor.position, hactor⟩⟩

theorem trans (h : Moved diagram diagram') (h' : Moved diagram' diagram'') :
    Moved diagram diagram'' where
  view := h'.view.trans h.view
  flows := h'.flows.trans h.flows
  keys := h'.keys.trans h.keys
  actors key actor hactor := by
    obtain ⟨_, hactor'⟩ := h.actors key actor hactor
    obtain ⟨_, hactor''⟩ := h'.actors key _ hactor'
    exact ⟨_, hactor''⟩

theorem place (diagram : Diagram α) (key : String) (spot : Point α) :
    Moved diagram (diagram.place key spot) where
  view := rfl
  flows := rfl
  keys := keys_place diagram key spot
  actors key' actor hactor := by
    unfold actor? Diagram.place
    rw [Table.get?_modify]
    split
    · next hkey =>
      rw [← hkey, show diagram.actors.get? key' = some actor from hactor]
      exact ⟨some spot, rfl⟩
    · exact ⟨actor.position, hactor⟩

theorem foldl_place (diagram : Diagram α) (spots : List (String × Point α)) :
    Moved diagram (spots.foldl (fun d (key, spot) => d.place key spot) diagram) := by
  induction spots generalizing diagram with
  | nil => exact refl diagram
  | cons first spots ih => exact (place diagram first.1 first.2).trans (ih _)

/-- Where an actor was moved to is all that there is to know about it. -/
theorem actor?_eq (h : Moved diagram diagram') {key : String} {actor : DiagramActor α}
    {spot : Point α} (hactor : diagram.actor? key = some actor)
    (hspot : diagram'.position? key = some spot) :
    diagram'.actor? key = some { actor with position := some spot } := by
  obtain ⟨position, hactor'⟩ := h.actors key actor hactor
  rw [position?_of_actor? hactor'] at hspot
  rw [hactor', ← hspot]

end Moved

/-- A diagram whose actors were moved to the places that a table has for their keys. -/
structure LaidOut (places : Table String (Point α)) (diagram diagram' : Diagram α) : Prop
    extends Moved diagram diagram' where
  placed : ∀ key actor, diagram.actor? key = some actor →
    ∃ spot, places.get? key = some spot ∧
      diagram'.actor? key = some { actor with position := some spot }

/-- Places for exactly the keys of a diagram are all taken up. -/
theorem laidOut_placeAll {places : Table String (Point α)} (h : Moved diagram diagram')
    (hkeys : places.keys = diagram.actors.keys) :
    LaidOut places diagram (diagram'.placeAll places) := by
  have hmoved : Moved diagram (diagram'.placeAll places) :=
    h.trans (.foldl_place diagram' places.entries)
  refine ⟨hmoved, fun key actor hactor => ?_⟩
  have hkey : key ∈ diagram.actors.keys := Table.mem_keys_iff_exists.mpr ⟨actor, hactor⟩
  obtain ⟨spot, hspot⟩ := Table.mem_keys_iff_exists.mp (hkeys.symm ▸ hkey)
  refine ⟨spot, hspot, hmoved.actor?_eq hactor ?_⟩
  exact position?_foldl_place_of_mem (Table.get?_eq_some_iff.mp hspot) places.nodup
    (h.keys.symm ▸ hkey)

/-! ## Laying out -/

section

variable [Plane α]

theorem moved_seed (diagram : Diagram α) (canvas : Canvas α) :
    Moved diagram (diagram.seed canvas).1 :=
  .foldl_place diagram _

/-- What is laid out are the actors of the diagram, in order. -/
theorem ids_seed (hkeyed : diagram.Keyed) (canvas : Canvas α) (fallback : Size α) :
    (Network.ofDiagram (diagram.seed canvas).1 fallback).ids = diagram.actors.keys := by
  rw [Network.ids_ofDiagram, (hkeyed.of_bare_eq bare_seed).map_key_values, keys_seed]

/-- Any diagram can be laid out by any algorithm. Without actors nothing happens to it. Otherwise
every control point is dropped and every actor gets the place that the algorithm computes for it
after seeding, and nothing else of the diagram changes. -/
theorem laidOut_arrange (hkeyed : diagram.Keyed) (controls : ControlPoints α)
    (algorithm : Algorithm α) (canvas : Canvas α) (fallback : Size α) :
    (diagram.actors.isEmpty = true →
        diagram.arrange controls algorithm canvas fallback = .ok (diagram, controls)) ∧
      (diagram.actors.isEmpty = false →
        ∃ places arranged,
          algorithm.layout canvas (Network.ofDiagram (diagram.seed canvas).1 fallback)
              = .ok places ∧
            places.keys = diagram.actors.keys ∧
            places.values
              = algorithm.places canvas (Network.ofDiagram (diagram.seed canvas).1 fallback) ∧
            diagram.arrange controls algorithm canvas fallback = .ok (arranged, .empty) ∧
            LaidOut places diagram arranged) := by
  constructor
  · intro hempty
    rw [arrange, if_pos hempty]
  · intro hactors
    obtain ⟨places, hplaces⟩ := algorithm.exists_layout canvas (diagram.seed canvas).1 fallback
    have hids := ids_seed hkeyed canvas fallback
    have hnodup : (Network.ofDiagram (diagram.seed canvas).1 fallback).ids.Nodup := by
      rw [hids]
      exact diagram.actors.nodup
    have hkeys : places.keys = diagram.actors.keys :=
      (Algorithm.keys_of_layout hnodup hplaces).trans hids
    refine ⟨places, (diagram.seed canvas).1.placeAll places, hplaces, hkeys,
      Algorithm.values_of_layout hnodup hplaces, ?_,
      laidOut_placeAll (moved_seed diagram canvas) hkeys⟩
    rw [arrange, if_neg (by rw [hactors]; exact Bool.false_ne_true)]
    simp only [hplaces]

end

theorem laidOut_arrange_library :
    library.Keyed ∧
      ∃ places arranged, places.keys = ["Reader", "Librarian", "Catalogue"] ∧
        library.arrange dragged .flow .default ⟨90.0, 70.0⟩ = .ok (arranged, .empty) ∧
        LaidOut places library arranged := by
  obtain ⟨-, harranged⟩ := laidOut_arrange keyed_library dragged .flow .default ⟨90.0, 70.0⟩
  obtain ⟨places, arranged, -, hkeys, -, hresult, hlaidOut⟩ := harranged rfl
  exact ⟨keyed_library, places, arranged, hkeys, hresult, hlaidOut⟩

end DomainStory.Diagram
