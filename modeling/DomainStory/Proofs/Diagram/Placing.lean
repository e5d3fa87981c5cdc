import DomainStory.Proofs.Diagram.Content

/-!
# Where the actors of a diagram are

`Diagram.position?` looks the place of an actor up. Seeding leaves placed actors where they are
(`position?_seed_of_placed`) and gives the unplaced ones the points of the seeding circle in order
(`position?_seed_of_unplaced`), so that every actor is placed afterwards (`allPlaced_seed`). A
composed diagram takes over exactly the places and sizes of the diagram before
(`position?_compose`, `measured?_compose`).

Moving, measuring and laying out leave what the diagram shows and never unplace an actor (`Kept`).
-/

namespace DomainStory

namespace Diagram

variable {α : Type} {diagram : Diagram α} {key : String}

def position? (diagram : Diagram α) (key : String) : Option (Point α) :=
  (diagram.actor? key).bind DiagramActor.position

def measured? (diagram : Diagram α) (key : String) : Option (Size α) :=
  (diagram.actor? key).bind DiagramActor.measured

theorem position?_of_actor? {actor : DiagramActor α} (h : diagram.actor? key = some actor) :
    diagram.position? key = actor.position := by
  rw [position?, h, Option.bind_some]

/-- Only an actor has a place. -/
theorem exists_actor_of_position? {spot : Point α} (h : diagram.position? key = some spot) :
    ∃ actor, diagram.actor? key = some actor ∧ actor.position = some spot :=
  Option.bind_eq_some_iff.mp h

theorem measured?_of_actor? {actor : DiagramActor α} (h : diagram.actor? key = some actor) :
    diagram.measured? key = actor.measured := by
  rw [measured?, h, Option.bind_some]

/-- Every actor has a place. -/
def AllPlaced (diagram : Diagram α) : Prop :=
  ∀ key ∈ diagram.actors.keys, (diagram.position? key).isSome = true

theorem allPlaced_iff :
    diagram.AllPlaced ↔ ∀ actor ∈ diagram.actors.values, actor.position.isSome = true := by
  constructor
  · intro hplaced actor hactor
    obtain ⟨⟨key, actor'⟩, hmem, rfl⟩ := List.mem_map.mp hactor
    have hposition := hplaced key (Table.mem_keys_of_mem hmem)
    rw [position?, actor?, Table.get?_eq_some_iff.mpr hmem] at hposition
    exact hposition
  · intro hplaced key hkey
    obtain ⟨⟨key', actor⟩, hmem, rfl⟩ := List.mem_map.mp hkey
    rw [position?, actor?, Table.get?_eq_some_iff.mpr hmem]
    exact hplaced actor (List.mem_map.mpr ⟨(key', actor), hmem, rfl⟩)

/-! ## Placing one actor after the other -/

theorem keys_place (diagram : Diagram α) (key : String) (spot : Point α) :
    (diagram.place key spot).actors.keys = diagram.actors.keys :=
  Table.keys_modify _ _ _

theorem keys_foldl_place (diagram : Diagram α) (spots : List (String × Point α)) :
    (spots.foldl (fun d (key, spot) => d.place key spot) diagram).actors.keys
      = diagram.actors.keys :=
  foldl_place_eq (fun diagram => diagram.actors.keys) keys_place diagram spots

theorem position?_place_of_ne {key' : String} (spot : Point α) (h : key' ≠ key) :
    (diagram.place key spot).position? key' = diagram.position? key' := by
  unfold position? actor? place
  rw [Table.get?_modify, if_neg h]

theorem position?_place_self (spot : Point α) (h : key ∈ diagram.actors.keys) :
    (diagram.place key spot).position? key = some spot := by
  obtain ⟨actor, hactor⟩ := Table.mem_keys_iff_exists.mp h
  unfold position? actor? place
  rw [Table.get?_modify, if_pos rfl, hactor]
  rfl

/-- A key that is not among those placed keeps its place. -/
theorem position?_foldl_place_of_notMem {spots : List (String × Point α)}
    (h : key ∉ spots.map Prod.fst) :
    (spots.foldl (fun d (key, spot) => d.place key spot) diagram).position? key
      = diagram.position? key := by
  induction spots generalizing diagram with
  | nil => rfl
  | cons first spots ih =>
    rw [List.map_cons, List.mem_cons, not_or] at h
    rw [List.foldl_cons, ih h.2]
    exact position?_place_of_ne first.2 h.1

/-- A key that is placed once gets its place. -/
theorem position?_foldl_place_of_mem {spots : List (String × Point α)} {spot : Point α}
    (hmem : (key, spot) ∈ spots) (hnodup : (spots.map Prod.fst).Nodup)
    (hkey : key ∈ diagram.actors.keys) :
    (spots.foldl (fun d (key, spot) => d.place key spot) diagram).position? key = some spot := by
  induction spots generalizing diagram with
  | nil => exact absurd hmem List.not_mem_nil
  | cons first spots ih =>
    rw [List.map_cons, List.nodup_cons] at hnodup
    rw [List.foldl_cons]
    rcases List.mem_cons.mp hmem with rfl | hlater
    · -- no later pair has the key again
      rw [position?_foldl_place_of_notMem hnodup.1]
      exact position?_place_self spot hkey
    · refine ih hlater hnodup.2 ?_
      rw [keys_place]
      exact hkey

/-- A place, once given, is never taken away. -/
theorem isSome_position?_foldl_place (spots : List (String × Point α))
    (h : (diagram.position? key).isSome = true) :
    ((spots.foldl (fun d (key, spot) => d.place key spot) diagram).position? key).isSome
      = true := by
  induction spots generalizing diagram with
  | nil => exact h
  | cons first spots ih =>
    rw [List.foldl_cons]
    apply ih
    -- the first pair gives this key a new place, or another key one
    by_cases hkey : key = first.1
    · have hmem : first.1 ∈ diagram.actors.keys := by
        obtain ⟨spot, hspot⟩ := Option.isSome_iff_exists.mp h
        obtain ⟨actor, hactor, -⟩ := exists_actor_of_position? hspot
        exact hkey ▸ Table.mem_keys_iff_exists.mpr ⟨actor, hactor⟩
      rw [hkey, position?_place_self first.2 hmem]
      rfl
    · rw [position?_place_of_ne first.2 hkey]
      exact h

/-- A change of one actor that leaves what is read of actors leaves it for all of them. -/
theorem bind_actor?_modify {β : Type} {read : DiagramActor α → Option β}
    {change : DiagramActor α → DiagramActor α} (h : ∀ actor, read (change actor) = read actor)
    (diagram : Diagram α) (key key' : String) :
    (actor? { diagram with actors := diagram.actors.modify key change } key').bind read
      = (diagram.actor? key').bind read := by
  unfold actor?
  rw [Table.get?_modify]
  split
  · next hsame =>
    rw [hsame]
    cases diagram.actors.get? key with
    | none => rfl
    | some actor => exact h actor
  · rfl

/-- Places are nothing to sizes. -/
theorem measured?_place (key' : String) (spot : Point α) :
    (diagram.place key' spot).measured? key = diagram.measured? key := by
  refine bind_actor?_modify ?_ diagram key' key
  exact fun _ => rfl

theorem measured?_foldl_place (spots : List (String × Point α)) :
    (spots.foldl (fun d (key, spot) => d.place key spot) diagram).measured? key
      = diagram.measured? key :=
  foldl_place_eq (fun diagram => diagram.measured? key) (fun _ => measured?_place) diagram spots

/-- Sizes are nothing to places. -/
theorem position?_measured (key' : String) (size : Size α) :
    position? { diagram with
      actors := diagram.actors.modify key' fun actor => { actor with measured := some size } } key
      = diagram.position? key := by
  refine bind_actor?_modify ?_ diagram key' key
  exact fun _ => rfl

theorem measured?_measured_of_ne {key' : String} (size : Size α) (h : key ≠ key') :
    measured? { diagram with
      actors := diagram.actors.modify key' fun actor => { actor with measured := some size } } key
      = diagram.measured? key := by
  unfold measured? actor?
  rw [Table.get?_modify, if_neg h]

/-! ## The actors without a place -/

/-- The unplaced keys are the keys without a position, in order. -/
theorem unplacedKeys_eq (hkeyed : diagram.Keyed) :
    diagram.unplacedKeys
      = diagram.actors.keys.filter fun key => (diagram.position? key).isNone := by
  have hposition : ∀ e ∈ diagram.actors.entries, diagram.position? e.1 = e.2.position := by
    intro e he
    rw [position?, actor?, Table.get?_eq_some_iff.mpr he, Option.bind_some]
  -- looking an entry up finds that entry, as no key stands twice
  have hfilter : diagram.actors.entries.filter (fun e => !e.2.isPlaced)
      = diagram.actors.entries.filter (fun e => (diagram.position? e.1).isNone) := by
    refine List.filter_congr fun e he => ?_
    rw [hposition e he, DiagramActor.isPlaced, Option.not_isSome]
  unfold unplacedKeys Table.values Table.keys
  rw [List.filter_map, List.map_map, List.filter_map]
  show (diagram.actors.entries.filter fun e => !e.2.isPlaced).map (fun e => e.2.key)
    = (diagram.actors.entries.filter fun e => (diagram.position? e.1).isNone).map Prod.fst
  rw [hfilter]
  refine List.map_congr_left fun e he => ?_
  exact hkeyed e.1 e.2 (List.mem_of_mem_filter he)

theorem nodup_unplacedKeys (hkeyed : diagram.Keyed) : diagram.unplacedKeys.Nodup := by
  rw [unplacedKeys_eq hkeyed]
  exact diagram.actors.nodup.filter _

theorem mem_unplacedKeys (hkeyed : diagram.Keyed) :
    key ∈ diagram.unplacedKeys ↔ key ∈ diagram.actors.keys ∧ diagram.position? key = none := by
  rw [unplacedKeys_eq hkeyed, List.mem_filter, Option.isNone_iff_eq_none]

/-! ## Seeding -/

section Seed

variable [Plane α] {canvas : Canvas α}

def seedRadius (canvas : Canvas α) : α := canvas.halfSide * canvas.seedFactor

/-- The point of the seeding circle at the `i`-th of `n` equal steps. -/
def seedSpot (canvas : Canvas α) (n i : Nat) : Point α :=
  Point.onRing canvas.center (seedRadius canvas) n i

/-- Seeding pairs the unplaced keys with the points of the circle. -/
def seedSpots (diagram : Diagram α) (canvas : Canvas α) : List (String × Point α) :=
  diagram.unplacedKeys.zip
    (Point.ring canvas.center (seedRadius canvas) diagram.unplacedKeys.length)

theorem seed_eq (diagram : Diagram α) (canvas : Canvas α) :
    (diagram.seed canvas).1
      = (diagram.seedSpots canvas).foldl (fun d (key, spot) => d.place key spot) diagram := rfl

/-- There are as many points as unplaced keys, so that no key goes without. -/
theorem map_fst_seedSpots : (diagram.seedSpots canvas).map Prod.fst = diagram.unplacedKeys := by
  refine List.map_fst_zip (Nat.le_of_eq ?_)
  rw [Point.ring, List.length_map, List.length_range]

theorem bare_seed : (diagram.seed canvas).1.bare = diagram.bare :=
  bare_foldl_place diagram _

theorem keys_seed : (diagram.seed canvas).1.actors.keys = diagram.actors.keys :=
  keys_foldl_place diagram _

theorem measured?_seed : (diagram.seed canvas).1.measured? key = diagram.measured? key :=
  measured?_foldl_place _

/-- Placed actors stay where they are. -/
theorem position?_seed_of_placed (hkeyed : diagram.Keyed)
    (hplaced : (diagram.position? key).isSome = true) :
    (diagram.seed canvas).1.position? key = diagram.position? key := by
  rw [seed_eq]
  refine position?_foldl_place_of_notMem fun hmem => ?_
  rw [map_fst_seedSpots, mem_unplacedKeys hkeyed] at hmem
  rw [hmem.2] at hplaced
  exact absurd hplaced (by simp)

/-- The `i`-th of the unplaced actors gets the `i`-th point. -/
theorem position?_seed_of_unplaced (hkeyed : diagram.Keyed) {i : Nat}
    (hi : diagram.unplacedKeys[i]? = some key) :
    (diagram.seed canvas).1.position? key
      = some (seedSpot canvas diagram.unplacedKeys.length i) := by
  have hlength : i < diagram.unplacedKeys.length := (List.getElem?_eq_some_iff.mp hi).1
  have hkey : key ∈ diagram.actors.keys :=
    ((mem_unplacedKeys hkeyed).mp (List.mem_of_getElem? hi)).1
  have hmem : (key, seedSpot canvas diagram.unplacedKeys.length i)
      ∈ diagram.seedSpots canvas := by
    refine List.mem_of_getElem? (i := i) ?_
    rw [seedSpots, List.getElem?_zip_eq_some]
    refine ⟨hi, ?_⟩
    rw [Point.ring, List.getElem?_map, List.getElem?_range hlength]
    rfl
  rw [seed_eq]
  refine position?_foldl_place_of_mem hmem ?_ hkey
  rw [map_fst_seedSpots]
  exact nodup_unplacedKeys hkeyed

/-- After seeding nobody is without a place. -/
theorem allPlaced_seed (hkeyed : diagram.Keyed) : (diagram.seed canvas).1.AllPlaced := by
  intro key hkey
  rw [keys_seed] at hkey
  cases hposition : diagram.position? key with
  | some spot =>
    rw [position?_seed_of_placed hkeyed (by rw [hposition]; rfl), hposition]
    rfl
  | none =>
    have hmem : key ∈ diagram.unplacedKeys := (mem_unplacedKeys hkeyed).mpr ⟨hkey, hposition⟩
    obtain ⟨i, hi⟩ := List.mem_iff_getElem?.mp hmem
    rw [position?_seed_of_unplaced hkeyed hi]
    rfl

end Seed

/-! ## Composing -/

theorem keyed_compose (domains : List Domain) (view : View) (prior : Diagram α) :
    (compose domains view prior).diagram.Keyed :=
  keyed_of_bare (bare_compose domains view prior)

section

variable {domains : List Domain} {view : View} {prior : Diagram α}
  (hkey : key ∈ (compose domains view prior).diagram.actors.keys)

include hkey

/-- An actor of a composed diagram was declared without place and size, and then took over those of
the diagram before. -/
theorem actor?_compose :
    ∃ declared, declared.bare = declared ∧
      (compose domains view prior).diagram.actor? key
        = some (carryOver prior.actors key declared) := by
  obtain ⟨composed, hcomposed⟩ := Table.mem_keys_iff_exists.mp hkey
  have hentries := hcomposed
  simp only [compose] at hentries
  rw [Table.get?_mapEntries] at hentries
  obtain ⟨declared, hdeclared, rfl⟩ := Option.map_eq_some_iff.mp hentries
  exact ⟨declared, (newActors_bare (Table.get?_eq_some_iff.mp hdeclared)).2, hcomposed⟩

/-- A composed diagram takes over the places of the diagram before. -/
theorem position?_compose :
    (compose domains view prior).diagram.position? key = prior.position? key := by
  obtain ⟨declared, hbare, hactor⟩ := actor?_compose hkey
  rw [position?_of_actor? hactor, position?, actor?, carryOver]
  cases prior.actors.get? key with
  | none =>
    rw [← hbare]
    rfl
  | some old => rfl

/-- So it does with the sizes. -/
theorem measured?_compose :
    (compose domains view prior).diagram.measured? key = prior.measured? key := by
  obtain ⟨declared, hbare, hactor⟩ := actor?_compose hkey
  rw [measured?_of_actor? hactor, measured?, actor?, carryOver]
  cases prior.actors.get? key with
  | none =>
    rw [← hbare]
    rfl
  | some old => rfl

end

/-! ## Seeding what was composed -/

section

variable [Plane α] {domains : List Domain} {view : View} {prior : Diagram α} {canvas : Canvas α}

omit [Plane α] in
/-- Once all actors before had a place, the unplaced ones are those that were not there before. -/
theorem unplacedKeys_compose (hprior : prior.AllPlaced) :
    (compose domains view prior).diagram.unplacedKeys
      = (compose domains view prior).diagram.actors.keys.filter fun key =>
          !prior.actors.contains key := by
  rw [unplacedKeys_eq (keyed_compose domains view prior)]
  refine List.filter_congr fun key hkey => ?_
  rw [position?_compose hkey]
  -- who was there before has a place, and nobody else
  by_cases hmem : key ∈ prior.actors.keys
  · have hplaced := hprior key hmem
    rw [Table.contains_iff.mpr hmem, ← Option.not_isSome, hplaced]
  · have hcontains : prior.actors.contains key = false := by
      rw [← Bool.not_eq_true, Table.contains_iff]
      exact hmem
    have hget : prior.actors.get? key = none := by
      rw [Table.contains] at hcontains
      exact Option.not_isSome_iff_eq_none.mp (by rw [hcontains]; exact Bool.false_ne_true)
    rw [hcontains, position?, actor?, hget]
    rfl

theorem position?_seed_compose_of_mem (hprior : prior.AllPlaced)
    (hkey : key ∈ (compose domains view prior).diagram.actors.keys)
    (hmem : key ∈ prior.actors.keys) :
    ((compose domains view prior).diagram.seed canvas).1.position? key = prior.position? key := by
  have hposition := position?_compose hkey
  rw [position?_seed_of_placed (keyed_compose _ _ _) (by rw [hposition]; exact hprior key hmem)]
  exact hposition

end

/-! ## Laying out -/

section

variable [Plane α] {diagram' : Diagram α} {controls controls' : ControlPoints α}
  {algorithm : Algorithm α} {canvas : Canvas α} {fallback : Size α}

/-- A layout places the actors, if there are any, and then drops the control points. -/
theorem arrange_cases
    (h : diagram.arrange controls algorithm canvas fallback = .ok (diagram', controls')) :
    (diagram.actors.isEmpty = true ∧ diagram' = diagram ∧ controls' = controls) ∨
      (diagram.actors.isEmpty = false ∧
        ∃ places, diagram' = (diagram.seed canvas).1.placeAll places ∧ controls' = .empty) := by
  unfold arrange at h
  split at h
  · next hempty =>
    obtain ⟨rfl, rfl⟩ := Prod.mk.inj (Except.ok.inj h)
    exact .inl ⟨hempty, rfl, rfl⟩
  · next hactors =>
    dsimp only at h
    split at h
    · exact absurd h (by simp)
    · next places hlayout =>
      obtain ⟨rfl, rfl⟩ := Prod.mk.inj (Except.ok.inj h)
      exact .inr ⟨Bool.eq_false_iff.mpr hactors, places, rfl, rfl⟩

/-- Sizes are left by a layout. -/
theorem measured?_arrange
    (h : diagram.arrange controls algorithm canvas fallback = .ok (diagram', controls')) :
    diagram'.measured? key = diagram.measured? key := by
  rcases arrange_cases h with ⟨-, rfl, -⟩ | ⟨-, places, rfl, -⟩
  · rfl
  · exact (measured?_foldl_place places.entries).trans measured?_seed

end

/-! ## Changes in place -/

/-- A diagram in which actors were moved or measured, none of them losing its place. -/
structure Kept (diagram diagram' : Diagram α) : Prop where
  bare_eq : diagram'.bare = diagram.bare
  placed : diagram.AllPlaced → diagram'.AllPlaced

namespace Kept

theorem refl (diagram : Diagram α) : Kept diagram diagram := ⟨rfl, id⟩

theorem foldl_place (diagram : Diagram α) (spots : List (String × Point α)) :
    Kept diagram (spots.foldl (fun d (key, spot) => d.place key spot) diagram) where
  bare_eq := bare_foldl_place diagram spots
  placed := by
    intro hplaced key hkey
    rw [keys_foldl_place] at hkey
    exact isSome_position?_foldl_place spots (hplaced key hkey)

theorem place (diagram : Diagram α) (key : String) (spot : Point α) :
    Kept diagram (diagram.place key spot) :=
  foldl_place diagram [(key, spot)]

theorem trans {diagram' diagram'' : Diagram α} (h : Kept diagram diagram')
    (h' : Kept diagram' diagram'') : Kept diagram diagram'' :=
  ⟨h'.bare_eq.trans h.bare_eq, fun hplaced => h'.placed (h.placed hplaced)⟩

/-- A measurement leaves every actor where it is. -/
theorem measured (diagram : Diagram α) (key : String) (size : Size α) :
    Kept diagram { diagram with
      actors := diagram.actors.modify key fun actor => { actor with measured := some size } } where
  bare_eq := bare_modify diagram key fun _ => rfl
  placed := by
    intro hplaced key' hkey
    rw [Table.keys_modify] at hkey
    rw [position?_measured]
    exact hplaced key' hkey

theorem arrange [Plane α] {diagram' : Diagram α} {controls controls' : ControlPoints α}
    {algorithm : Algorithm α} {canvas : Canvas α} {fallback : Size α}
    (h : diagram.arrange controls algorithm canvas fallback = .ok (diagram', controls')) :
    Kept diagram diagram' := by
  rcases arrange_cases h with ⟨-, rfl, -⟩ | ⟨-, places, rfl, -⟩
  · exact refl _
  · -- seeding places the unplaced, and the layout then places all
    have hseed : Kept diagram (diagram.seed canvas).1 := foldl_place diagram _
    exact hseed.trans (foldl_place (diagram.seed canvas).1 places.entries)

end Kept

/-! ## Some actors placed, some not -/

def lending : Domain where
  title := "Lending"
  notes := []
  participants := [⟨"Reader", "person", none⟩, ⟨"Librarian", "badge", none⟩,
    ⟨"Catalogue", "storage", none⟩]
  flows := [⟨1, "Borrow", [⟨"Reader", "asks", "Librarian", some "book", none⟩,
    ⟨"Librarian", "searches", "Catalogue", none, none⟩,
    ⟨"Librarian", "hands", "Reader", some "book", none⟩]⟩]
  color := "#4c78a8"

/-- People have been given places, and what they use has not. -/
def library : Diagram Float :=
  ((compose [lending] .all .empty).diagram.place "Reader" ⟨300.0, 400.0⟩).place "Librarian"
    ⟨700.0, 400.0⟩

/-- The curve of the last step was dragged aside. -/
def dragged : ControlPoints Float := Table.empty.insert ⟨0, 0, 2⟩ ⟨520.0, 180.0⟩

theorem bare_library : library.bare = (compose [lending] .all (empty : Diagram Float)).diagram := by
  rw [library, bare_place, bare_place, bare_compose]

theorem keyed_library : library.Keyed := keyed_of_bare bare_library

end Diagram

end DomainStory
