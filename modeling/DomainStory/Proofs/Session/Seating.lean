import Mathlib.Data.List.Induction
import DomainStory.Proofs.Geometry.Exact
import DomainStory.Proofs.Session.Consistency

/-!
# Who sits where

Edits of the text and the view seed the actors that they bring in and leave all others where they
are. The place of an actor therefore tells of the edit that brought the actor in last: the `i`-th of
the `n` actors of that edit got the `i`-th of `n` points of the seeding circle, and has kept it.
`Seat` records this number and this count, and `Seated` says that an actor took a seat and has been
there ever since.

The places of two actors depend on their seats alone. In exact geometry they are the same exactly if
the seats are the same fraction of the circle (`seatedApart`). This never happens to two actors that
one edit brought in, but it does to two that came one by one (`stacked`).
-/

namespace DomainStory

/-- Whether an edit builds the diagram anew. -/
def Edit.reseeds {α : Type} : Edit α → Bool
  | .updateText _ | .setView _ | .nextView | .prevView => true
  | _ => false

/-- A place on the seeding circle: the number of the edit that gave it, its index among the places
that this edit gave, and their count. -/
structure Seat where
  batch : Nat
  index : Nat
  size : Nat

namespace Session

variable {α : Type} [Plane α]

/-- The state after the first edits of a history. -/
def stage (config : Config) (edits : List (Edit α)) (n : Nat) : Session α :=
  (start config).run (edits.take n)

def keys (session : Session α) : List String := session.diagram.actors.keys

/-- The actors that an edit of a history brought in, in order. -/
def newcomers (config : Config) (edits : List (Edit α)) (n : Nat) : List String :=
  (stage config edits (n + 1)).keys.filter fun key =>
    !(stage config edits n).diagram.actors.contains key

/-- After the first edits of a history, an actor has the seat that was taken on coming in. -/
structure Seated (config : Config) (edits : List (Edit α)) (n : Nat) (key : String) (seat : Seat) :
    Prop where
  before : seat.batch < n
  came : (newcomers config edits seat.batch)[seat.index]? = some key
  size : seat.size = (newcomers config edits seat.batch).length
  stayed : ∀ k, seat.batch < k → k ≤ n → key ∈ (stage config edits k).keys

variable {config : Config} {edits : List (Edit α)} {n : Nat}

theorem stage_length (config : Config) (edits : List (Edit α)) :
    stage config edits edits.length = (start config).run edits := by
  rw [stage, List.take_length]

theorem stage_succ {edit : Edit α} (h : edits[n]? = some edit) :
    stage config edits (n + 1) = (stage config edits n).after edit := by
  rw [stage, List.take_add_one, h]
  exact run_concat _ _ _

theorem stage_placed (config : Config) (edits : List (Edit α)) (n : Nat) :
    (stage config edits n).diagram.AllPlaced :=
  Diagram.allPlaced_iff.mpr ((start_consistent config).run (edits.take n)).placed

/-! ## One edit -/

theorem after_reseeds (session : Session α) {edit : Edit α} (h : edit.reseeds = true) :
    (session.after edit).canvas = session.canvas ∧ ∃ domains view,
      (session.after edit).diagram
        = ((Diagram.compose domains view session.diagram).diagram.seed session.canvas).1 := by
  cases edit with
  | updateText text => exact ⟨rfl, (Story.read session.config text).domains, session.view, rfl⟩
  | setView view => exact ⟨rfl, session.story.domains, view, rfl⟩
  | nextView => exact ⟨rfl, session.story.domains, _, rfl⟩
  | prevView => exact ⟨rfl, session.story.domains, _, rfl⟩
  | _ => exact absurd h (by simp [Edit.reseeds])

/-- In a history of such edits, each state is seeded from the one before, on the same canvas. -/
theorem stage_seeded (config : Config) (hedits : ∀ edit ∈ edits, edit.reseeds = true)
    (hn : n < edits.length) :
    (stage config edits (n + 1)).canvas = (stage config edits n).canvas ∧ ∃ domains view,
      (stage config edits (n + 1)).diagram
        = ((Diagram.compose domains view (stage config edits n).diagram).diagram.seed
            (stage config edits n).canvas).1 := by
  obtain ⟨edit, hedit⟩ : ∃ edit, edits[n]? = some edit := ⟨_, List.getElem?_eq_getElem hn⟩
  rw [stage_succ hedit]
  exact after_reseeds _ (hedits edit (List.mem_of_getElem? hedit))

theorem canvas_stage (hedits : ∀ edit ∈ edits, edit.reseeds = true) (hn : n ≤ edits.length) :
    (stage config edits n).canvas = .ofConfig config := by
  induction n with
  | zero => rfl
  | succ n ih =>
    rw [(stage_seeded config hedits hn).1]
    exact ih (Nat.le_of_succ_le hn)

/-- An actor who is there before and after an edit keeps the place. -/
theorem position?_stage_of_mem {key : String} (hedits : ∀ edit ∈ edits, edit.reseeds = true)
    (hn : n < edits.length) (hbefore : key ∈ (stage config edits n).keys)
    (hafter : key ∈ (stage config edits (n + 1)).keys) :
    (stage config edits (n + 1)).diagram.position? key
      = (stage config edits n).diagram.position? key := by
  obtain ⟨-, domains, view, hdiagram⟩ := stage_seeded config hedits hn
  rw [keys, hdiagram, Diagram.keys_seed] at hafter
  rw [hdiagram]
  exact Diagram.position?_seed_compose_of_mem (stage_placed config edits n) hafter hbefore

/-- An actor who comes in gets a place by the order of coming in. -/
theorem position?_stage_of_came {key : String} {i : Nat}
    (hedits : ∀ edit ∈ edits, edit.reseeds = true) (hn : n < edits.length)
    (hcame : (newcomers config edits n)[i]? = some key) :
    (stage config edits (n + 1)).diagram.position? key
      = some (Diagram.seedSpot (.ofConfig config) (newcomers config edits n).length i) := by
  obtain ⟨-, domains, view, hdiagram⟩ := stage_seeded config hedits hn
  have hunplaced :
      (Diagram.compose domains view (stage config edits n).diagram).diagram.unplacedKeys
        = newcomers config edits n := by
    rw [Diagram.unplacedKeys_compose (stage_placed config edits n), newcomers, keys, hdiagram,
      Diagram.keys_seed]
  rw [hdiagram, ← hunplaced, ← canvas_stage hedits (Nat.le_of_lt hn)]
  refine Diagram.position?_seed_of_unplaced (Diagram.keyed_compose _ _ _) ?_
  rw [hunplaced]
  exact hcame

/-! ## Whole histories -/

/-- Whoever is there has a seat. -/
theorem exists_seated (config : Config) (edits : List (Edit α)) (n : Nat) {key : String}
    (hkey : key ∈ (stage config edits n).keys) : ∃ seat, Seated config edits n key seat := by
  induction n with
  | zero => exact absurd hkey List.not_mem_nil
  | succ n ih =>
    by_cases hbefore : key ∈ (stage config edits n).keys
    · -- the seat is the one from before
      obtain ⟨seat, hseat⟩ := ih hbefore
      refine ⟨seat, { hseat with before := Nat.lt_succ_of_lt hseat.before, stayed := ?_ }⟩
      intro k hlt hle
      rcases Nat.lt_or_ge n k with hk | hk
      · rw [show k = n + 1 by omega]
        exact hkey
      · exact hseat.stayed k hlt hk
    · -- the seat is taken now
      have hcame : key ∈ newcomers config edits n := by
        refine List.mem_filter.mpr ⟨hkey, ?_⟩
        rw [Bool.not_eq_true', ← Bool.not_eq_true, Table.contains_iff]
        exact hbefore
      obtain ⟨i, hi⟩ := List.mem_iff_getElem?.mp hcame
      refine ⟨⟨n, i, (newcomers config edits n).length⟩, Nat.lt_succ_self n, hi, rfl, ?_⟩
      intro k hlt hle
      rw [Nat.le_antisymm hle hlt]
      exact hkey

theorem Seated.position? {key : String} {seat : Seat} (hedits : ∀ edit ∈ edits, edit.reseeds = true)
    (hn : n ≤ edits.length) (h : Seated config edits n key seat) :
    (stage config edits n).diagram.position? key
      = some (Diagram.seedSpot (.ofConfig config) seat.size seat.index) := by
  -- from the edit that gave the seat on, the place does not change
  have hall : ∀ k, seat.batch + 1 ≤ k → k ≤ n →
      (stage config edits k).diagram.position? key
        = some (Diagram.seedSpot (.ofConfig config) seat.size seat.index) := by
    intro k hk
    induction k, hk using Nat.le_induction with
    | base =>
      intro hle
      rw [h.size]
      exact position?_stage_of_came hedits (by omega) h.came
    | succ k hk ih =>
      intro hle
      rw [← ih (by omega)]
      exact position?_stage_of_mem hedits (by omega) (h.stayed k (by omega) (by omega))
        (h.stayed (k + 1) (by omega) hle)
  exact hall n h.before (Nat.le_refl n)

theorem Seated.index_lt {key : String} {seat : Seat} (h : Seated config edits n key seat) :
    seat.index < seat.size := by
  rw [h.size]
  exact (List.getElem?_eq_some_iff.mp h.came).1

/-- Two actors that one edit brought in have different seats. -/
theorem Seated.index_ne {key key' : String} {seat seat' : Seat}
    (h : Seated config edits n key seat) (h' : Seated config edits n key' seat')
    (hbatch : seat.batch = seat'.batch) (hne : key ≠ key') :
    seat.size = seat'.size ∧ seat.index ≠ seat'.index := by
  refine ⟨by rw [h.size, h'.size, hbatch], fun hindex => hne ?_⟩
  have hcame := h.came
  rw [hbatch, hindex, h'.came] at hcame
  exact (Option.some.inj hcame).symm

/-- A seat belongs to one actor at most once: who is there does not come in again. -/
theorem Seated.unique {key : String} {seat seat' : Seat} (h : Seated config edits n key seat)
    (h' : Seated config edits n key seat') : seat' = seat := by
  -- who is there already is no newcomer to a later edit
  have hfresh : ∀ {seat seat' : Seat}, Seated config edits n key seat →
      Seated config edits n key seat' → ¬ seat.batch < seat'.batch := by
    intro seat seat' h h' hlt
    have hnew := (List.mem_filter.mp (List.mem_of_getElem? h'.came)).2
    have hthere := h.stayed seat'.batch hlt (Nat.le_of_lt h'.before)
    rw [Bool.not_eq_true', ← Bool.not_eq_true, Table.contains_iff] at hnew
    exact hnew hthere
  have hbatch : seat'.batch = seat.batch := by
    have hle := hfresh h h'
    have hge := hfresh h' h
    omega
  have hindex : seat'.index = seat.index := by
    -- nobody is twice among the newcomers of one edit
    have hnodup : (newcomers config edits seat.batch).Nodup :=
      (stage config edits (seat.batch + 1)).diagram.actors.nodup.filter _
    have hlength : seat'.index < (newcomers config edits seat.batch).length := by
      rw [← hbatch, ← h'.size]
      exact h'.index_lt
    have hsame : (newcomers config edits seat.batch)[seat'.index]?
        = (newcomers config edits seat.batch)[seat.index]? := by
      rw [h.came, ← hbatch]
      exact h'.came
    exact (List.getElem?_inj hlength hnodup).mp hsame
  have hsize : seat'.size = seat.size := by rw [h.size, h'.size, hbatch]
  obtain ⟨batch, index, size⟩ := seat
  obtain ⟨batch', index', size'⟩ := seat'
  dsimp only at hbatch hindex hsize
  rw [hbatch, hindex, hsize]

/-! ## Actors in one place -/

/-- The places of the actors after a history differ exactly as their seats do. -/
structure SeatedApart (config : Config) (edits : List (Edit ℝ)) : Prop where
  /-- Every actor has one seat, and is there. -/
  seated : ∀ key ∈ ((start config).run edits).keys, ∃! seat,
    Seated config edits edits.length key seat ∧
      ((start config).run edits).diagram.position? key
        = some (Diagram.seedSpot (.ofConfig config) seat.size seat.index)
  /-- Actors that came in together are in different places. -/
  together : ∀ key key' seat seat', key ≠ key' →
    Seated config edits edits.length key seat → Seated config edits edits.length key' seat' →
    seat.batch = seat'.batch →
      ((start config).run edits).diagram.position? key
        ≠ ((start config).run edits).diagram.position? key'
  /-- Any two actors are in one place exactly if their seats are the same fraction of a turn. -/
  coincide : ∀ key key' seat seat',
    Seated config edits edits.length key seat → Seated config edits edits.length key' seat' →
      (((start config).run edits).diagram.position? key
          = ((start config).run edits).diagram.position? key' ↔
        seat.index * seat'.size = seat'.index * seat.size)

/-- Edits of the text and the view put two actors in one place exactly if these were seeded by
different edits, on the same fraction of the circle. -/
theorem seatedApart {config : Config} {edits : List (Edit ℝ)}
    (hradius : Diagram.seedRadius (Canvas.ofConfig config : Canvas ℝ) ≠ 0)
    (hedits : ∀ edit ∈ edits, edit.reseeds = true) : SeatedApart config edits := by
  have hposition : ∀ {key : String} {seat : Seat}, Seated config edits edits.length key seat →
      ((start config).run edits).diagram.position? key
        = some (Diagram.seedSpot (.ofConfig config) seat.size seat.index) := by
    intro key seat hseat
    rw [← stage_length]
    exact hseat.position? hedits (Nat.le_refl _)
  have hcoincide : ∀ key key' seat seat', Seated config edits edits.length key seat →
      Seated config edits edits.length key' seat' →
      (((start config).run edits).diagram.position? key
          = ((start config).run edits).diagram.position? key' ↔
        seat.index * seat'.size = seat'.index * seat.size) := by
    intro key key' seat seat' hseat hseat'
    rw [hposition hseat, hposition hseat', Option.some.injEq]
    exact Point.onRing_eq_iff hradius hseat.index_lt hseat'.index_lt
  refine ⟨?_, ?_, hcoincide⟩
  · intro key hkey
    rw [← stage_length] at hkey
    obtain ⟨seat, hseat⟩ := exists_seated config edits edits.length hkey
    exact ⟨seat, ⟨hseat, hposition hseat⟩, fun seat' hseat' => hseat.unique hseat'.1⟩
  · intro key key' seat seat' hne hseat hseat' hbatch hsame
    -- of equally many steps, different ones are different fractions
    obtain ⟨hsize, hindex⟩ := hseat.index_ne hseat' hbatch hne
    have hcross := (hcoincide key key' seat seat' hseat hseat').mp hsame
    rw [hsize] at hcross
    have hpos : 0 < seat'.size := Nat.lt_of_le_of_lt (Nat.zero_le _) hseat'.index_lt
    exact hindex (Nat.eq_of_mul_eq_mul_right hpos hcross)

theorem seedRadius_default_pos :
    0 < Diagram.seedRadius (Canvas.ofConfig .default : Canvas ℝ) := by
  have hwidth : 0 < (Config.default.scalar "canvas.width" 1600.0 : ℝ) :=
    Config.scalar_pos 1600.0 (show _ = some 1600.0 from rfl) (by decide)
  have hheight : 0 < (Config.default.scalar "canvas.height" 1200.0 : ℝ) :=
    Config.scalar_pos 1200.0 (show _ = some 1200.0 from rfl) (by decide)
  have hfactor : 0 < (Config.default.scalar "layout.seedRadiusFactor" 0.6 : ℝ) :=
    Config.scalar_pos 0.6 (show _ = some 0.6 from rfl) (by decide)
  exact mul_pos (Canvas.halfSide_pos hwidth hheight) hfactor

/-- Two actors who are entered one by one, and two more who are entered together. -/
def arrivals : List (Edit α) :=
  [.updateText "@A (person)", .updateText "@A (person)\n@B (person)",
    .updateText "@A (person)\n@B (person)\n@C (person)\n@D (person)"]

theorem seatedApart_arrivals :
    Diagram.seedRadius (Canvas.ofConfig .default : Canvas ℝ) ≠ 0 ∧
      (∀ edit ∈ (arrivals : List (Edit ℝ)), edit.reseeds = true) ∧
      SeatedApart .default arrivals := by
  have hradius : Diagram.seedRadius (Canvas.ofConfig .default : Canvas ℝ) ≠ 0 :=
    ne_of_gt seedRadius_default_pos
  have hedits : ∀ edit ∈ (arrivals : List (Edit ℝ)), edit.reseeds = true := by
    simp [arrivals, Edit.reseeds]
  exact ⟨hradius, hedits, seatedApart hradius hedits⟩

/-- The first two are stacked: each is the only one whom an edit brings in, and gets the top of the
circle. -/
theorem stacked :
    (∀ edit ∈ (arrivals : List (Edit Float)).take 2, edit.reseeds = true) ∧
      ((start .default).run ((arrivals : List (Edit Float)).take 2)).keys = ["A", "B"] ∧
      (((start .default).run ((arrivals : List (Edit Float)).take 2)).diagram.position? "A").isSome
        = true ∧
      ((start .default).run ((arrivals : List (Edit Float)).take 2)).diagram.position? "A"
        = ((start .default).run ((arrivals : List (Edit Float)).take 2)).diagram.position? "B" :=
  ⟨by simp [arrivals, Edit.reseeds], rfl, rfl, rfl⟩

end Session

end DomainStory
