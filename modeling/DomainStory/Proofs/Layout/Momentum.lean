import Mathlib.Algebra.BigOperators.Ring.List
import DomainStory.Proofs.Geometry.Field
import DomainStory.Proofs.Layout.Places

/-!
# Forces that balance

Every force of the simulation is a kick, by which one node gains the velocity that another one
loses. As long as both are nodes of the swarm, a kick leaves the sum of all velocities as it was
(`momentum_apply`), also where a node kicks itself. All kicks of a round are of this kind, and
damping scales the sum like each velocity (`momentum_round`), so that after any number of rounds the
sum is the first one, damped as often (`momentum_simulate`). It is zero if the swarm starts at rest.

Where a node comes to stand after a round does not depend on the forces in one respect: it is inside
the margins, if these leave room (`Canvas.holds_clamp`).

No notion of length enters into this. Lengths are divided by where they are positive only.
-/

namespace DomainStory

/-! ## Within the margins -/

/-- A place that is not beyond the margins. -/
structure Canvas.Holds {α : Type} [Scalar α] (canvas : Canvas α) (p : Point α) : Prop where
  left : canvas.padding ≤ p.x
  right : p.x ≤ canvas.size.width - canvas.padding
  top : canvas.padding ≤ p.y
  bottom : p.y ≤ canvas.size.height - canvas.padding

variable {K : Type} [Field K] [LinearOrder K] [Compass K]

section

variable [IsStrictOrderedRing K] {canvas : Canvas K} {side padding : K}

theorem Canvas.clampCoordinate_between (h : padding * 2 ≤ side) (a : K) :
    padding ≤ clampCoordinate side padding a ∧ clampCoordinate side padding a ≤ side - padding := by
  have hroom : padding ≤ side - padding := by linarith
  unfold clampCoordinate
  rw [Scalar.max_eq_sup, Scalar.min_eq_inf]
  exact ⟨le_sup_left, sup_le hroom inf_le_left⟩

theorem Canvas.holds_clamp (hwidth : canvas.padding * 2 ≤ canvas.size.width)
    (hheight : canvas.padding * 2 ≤ canvas.size.height) (p : Point K) :
    canvas.Holds (canvas.clamp p) where
  left := (clampCoordinate_between hwidth p.x).1
  right := (clampCoordinate_between hwidth p.x).2
  top := (clampCoordinate_between hheight p.y).1
  bottom := (clampCoordinate_between hheight p.y).2

end

namespace Layout

/-! ## The sum of all velocities -/

def momentum (velocities : Array (Vec K)) : Vec K :=
  ⟨(velocities.toList.map Vec.x).sum, (velocities.toList.map Vec.y).sum⟩

/-- What a velocity gains in a coordinate is gained by the sum. -/
theorem sum_map_modify {coordinate : Vec K → K} {change : Vec K → Vec K} {gain : K}
    (hchange : ∀ v, coordinate (change v) = coordinate v + gain) {velocities : List (Vec K)}
    {i : Nat} (hi : i < velocities.length) :
    ((velocities.modify i change).map coordinate).sum = (velocities.map coordinate).sum + gain := by
  induction velocities generalizing i with
  | nil => exact absurd hi (Nat.not_lt_zero i)
  | cons v velocities ih =>
    cases i with
    | zero =>
      rw [List.modify_zero_cons, List.map_cons, List.map_cons, List.sum_cons, List.sum_cons,
        hchange, add_right_comm]
    | succ i =>
      rw [List.modify_succ_cons, List.map_cons, List.map_cons, List.sum_cons, List.sum_cons,
        ih (Nat.lt_of_succ_lt_succ hi), add_assoc]

/-- A kick between two nodes of a swarm, which may be one and the same. -/
structure Kick.Within (n : Nat) (kick : Kick K) : Prop where
  giver : kick.giver < n
  taker : kick.taker < n

variable {velocities : Array (Vec K)} {kick : Kick K}

theorem sum_apply {coordinate : Vec K → K}
    (hsub : ∀ v, coordinate (v.sub kick.amount) = coordinate v + -coordinate kick.amount)
    (hadd : ∀ v, coordinate (v.add kick.amount) = coordinate v + coordinate kick.amount)
    (h : kick.Within velocities.size) :
    ((kick.apply velocities).toList.map coordinate).sum
      = (velocities.toList.map coordinate).sum := by
  have hgiver : kick.giver < velocities.toList.length := h.giver
  have htaker : kick.taker
      < (velocities.toList.modify kick.giver fun v => v.sub kick.amount).length := by
    rw [List.length_modify]
    exact h.taker
  rw [Kick.apply, Array.toList_modify, Array.toList_modify, sum_map_modify hadd htaker,
    sum_map_modify hsub hgiver, neg_add_cancel_right]

/-- A kick changes no sum. -/
theorem momentum_apply (h : kick.Within velocities.size) :
    momentum (kick.apply velocities) = momentum velocities := by
  unfold momentum
  rw [sum_apply (fun v => sub_eq_add_neg _ _) (fun v => rfl) h,
    sum_apply (fun v => sub_eq_add_neg _ _) (fun v => rfl) h]

theorem momentum_foldl_apply {kicks : List (Kick K)}
    (h : ∀ kick ∈ kicks, kick.Within velocities.size) :
    momentum (kicks.foldl Kick.apply velocities) = momentum velocities := by
  induction kicks generalizing velocities with
  | nil => rfl
  | cons kick kicks ih =>
    obtain ⟨hfirst, hlater⟩ := List.forall_mem_cons.mp h
    have hsize : (kick.apply velocities).size = velocities.size := by
      rw [Kick.apply, Array.size_modify, Array.size_modify]
    rw [List.foldl_cons, ih (hsize.symm ▸ hlater), momentum_apply hfirst]

/-! ## A round -/

theorem mem_pairs {n i j : Nat} : (i, j) ∈ pairs n ↔ i < j ∧ j < n := by
  simp only [pairs, List.mem_flatMap, List.mem_range, List.mem_map, List.mem_range'_1,
    Prod.mk.injEq]
  constructor
  · rintro ⟨_, hi, _, hj, rfl, rfl⟩
    omega
  · rintro ⟨hij, hj⟩
    exact ⟨i, by omega, j, by omega, rfl, rfl⟩

variable {n : Nat} {edges : List (Nat × Nat)} {canvas : Canvas K} {options : ForceOptions K}
  {swarm : Swarm K}

/-- Nodes push each other, and edges join nodes. -/
theorem within_of_mem_kicks {places : Array (Point K)} (hedges : Within places.size edges)
    (h : kick ∈ kicks options edges places) : kick.Within places.size := by
  rcases List.mem_append.mp h with hpush | hpull
  · obtain ⟨⟨i, j⟩, hpair, rfl⟩ := List.mem_map.mp hpush
    obtain ⟨hij, hj⟩ := mem_pairs.mp hpair
    exact ⟨hij.trans hj, hj⟩
  · obtain ⟨edge, hedge, rfl⟩ := List.mem_map.mp hpull
    exact ⟨(hedges edge hedge).1, (hedges edge hedge).2⟩

theorem momentum_map_scale (damping : K) :
    momentum (velocities.map fun v => v.scale damping) = (momentum velocities).scale damping := by
  unfold momentum Vec.scale
  simp only [Array.toList_map, List.map_map, Function.comp_def, List.sum_map_mul_right]

/-- A round damps the sum of all velocities like each of them. -/
theorem momentum_round (hswarm : swarm.OfSize n) (hedges : Within n edges) :
    momentum (round canvas options edges swarm).velocities
      = (momentum swarm.velocities).scale options.damping := by
  have hkicks : ∀ kick ∈ kicks options edges swarm.places, kick.Within swarm.velocities.size := by
    intro kick hkick
    rw [hswarm.velocities, ← hswarm.places]
    exact within_of_mem_kicks (hswarm.places.symm ▸ hedges) hkick
  show momentum (Array.map _ _) = _
  rw [momentum_map_scale, momentum_foldl_apply hkicks]

/-- A round brings every node inside the margins, whatever its velocity. -/
theorem holds_of_mem_round [IsStrictOrderedRing K]
    (hwidth : canvas.padding * 2 ≤ canvas.size.width)
    (hheight : canvas.padding * 2 ≤ canvas.size.height) {p : Point K}
    (hp : p ∈ (round canvas options edges swarm).places) : canvas.Holds p := by
  unfold round drift at hp
  obtain ⟨i, hi, rfl⟩ := Array.mem_iff_getElem.mp hp
  rw [Array.getElem_zipWith]
  exact Canvas.holds_clamp hwidth hheight _

/-! ## Any number of rounds -/

theorem momentum_simulate (rounds : Nat) (hswarm : swarm.OfSize n) (hedges : Within n edges) :
    momentum (simulate canvas options edges rounds swarm).velocities
      = (momentum swarm.velocities).scale (options.damping ^ rounds) := by
  induction rounds generalizing swarm with
  | zero => simp [simulate, Vec.scale]
  | succ rounds ih =>
    rw [simulate, ih hswarm.round, momentum_round hswarm hedges]
    simp only [Vec.scale, mul_assoc, pow_succ']

theorem momentum_atRest [IsStrictOrderedRing K] (places : List (Point K)) :
    momentum (atRest places).velocities = ⟨0, 0⟩ := by
  norm_num [momentum, atRest, Vec.zero]

theorem holds_of_mem_simulate [IsStrictOrderedRing K]
    (hwidth : canvas.padding * 2 ≤ canvas.size.width)
    (hheight : canvas.padding * 2 ≤ canvas.size.height) {rounds : Nat}
    (hswarm : ∀ p ∈ swarm.places, canvas.Holds p) {p : Point K}
    (hp : p ∈ (simulate canvas options edges rounds swarm).places) : canvas.Holds p := by
  induction rounds generalizing swarm with
  | zero => exact hswarm p hp
  | succ rounds ih => exact ih (fun _ hround => holds_of_mem_round hwidth hheight hround) hp

/-- A swarm that starts at rest keeps every node, and its velocities balance after every round. From
the first round on all nodes are inside the margins, if these leave room. -/
theorem simulate_balanced [IsStrictOrderedRing K] {places : List (Point K)}
    (hedges : Within places.length edges) (canvas : Canvas K) (options : ForceOptions K)
    (rounds : Nat) :
    (simulate canvas options edges rounds (atRest places)).OfSize places.length ∧
      momentum (simulate canvas options edges rounds (atRest places)).velocities = ⟨0, 0⟩ ∧
      (canvas.padding * 2 ≤ canvas.size.width → canvas.padding * 2 ≤ canvas.size.height →
        0 < rounds → ∀ p ∈ (simulate canvas options edges rounds (atRest places)).places,
          canvas.Holds p) ∧
      ∀ network : Network K, network.nodes.map NetworkNode.center = places →
        network.links = edges → options.iterations = rounds →
          (Algorithm.force options).places canvas network
            = (simulate canvas options edges rounds (atRest places)).places.toList := by
  have hswarm : (atRest places).OfSize places.length := ofSize_atRest places
  refine ⟨hswarm.simulate rounds, ?_, fun hwidth hheight hrounds p hp => ?_, ?_⟩
  · rw [momentum_simulate rounds hswarm hedges, momentum_atRest]
    simp [Vec.scale]
  · obtain ⟨later, rfl⟩ := Nat.exists_eq_succ_of_ne_zero hrounds.ne'
    rw [simulate] at hp
    exact holds_of_mem_simulate hwidth hheight
      (fun _ hround => holds_of_mem_round hwidth hheight hround) hp
  · rintro network rfl rfl rfl
    rfl

/-- A canvas with no room to move up or down. -/
def corridor : Canvas ℚ := ⟨⟨800, 300⟩, 150, 1⟩

/-- Two nodes at one place, and a third beyond the margin. -/
def crowd : List (Point ℚ) := [⟨400, 150⟩, ⟨400, 150⟩, ⟨0, 150⟩]

/-- One edge stands twice, and one enters the node that it leaves. -/
def crowdEdges : List (Nat × Nat) := [(0, 1), (0, 1), (2, 2), (2, 0)]

theorem simulate_balanced_crowd :
    Within 3 crowdEdges ∧ corridor.padding * 2 ≤ corridor.size.width ∧
      corridor.padding * 2 ≤ corridor.size.height ∧
      (simulate corridor .default crowdEdges 3 (atRest crowd)).OfSize 3 ∧
      momentum (simulate corridor .default crowdEdges 3 (atRest crowd)).velocities = ⟨0, 0⟩ ∧
      ∀ p ∈ (simulate corridor .default crowdEdges 3 (atRest crowd)).places, corridor.Holds p := by
  have hwithin : Within crowd.length crowdEdges := by decide
  have hwidth : corridor.padding * 2 ≤ corridor.size.width := by norm_num [corridor]
  have hheight : corridor.padding * 2 ≤ corridor.size.height := by norm_num [corridor]
  obtain ⟨hsize, hbalanced, hinside, -⟩ := simulate_balanced hwithin corridor .default 3
  exact ⟨hwithin, hwidth, hheight, hsize, hbalanced, hinside hwidth hheight (by decide)⟩

end Layout

end DomainStory
