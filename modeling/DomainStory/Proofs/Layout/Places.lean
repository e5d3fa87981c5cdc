import DomainStory.Proofs.Layout.Columns
import DomainStory.Proofs.Table

/-!
# One place for each node

A layout pairs the identifiers of a network with the places that its algorithm computes. Neither
list runs out before the other: every algorithm computes as many places as there are nodes
(`Algorithm.length_places`). Where no identifier repeats, the layout therefore lists the identifiers
in the order of the nodes, each with the place of its own node (`Algorithm.keys_of_layout`,
`Algorithm.values_of_layout`).

The force simulation changes places round after round. That each node keeps one place and one
velocity is its invariant (`Swarm.OfSize`).
-/

namespace DomainStory

namespace Layout

variable {α : Type} {n : Nat}

/-! ## Rounds of the force simulation -/

/-- A swarm of so many nodes. -/
structure Swarm.OfSize (n : Nat) (swarm : Swarm α) : Prop where
  places : swarm.places.size = n
  velocities : swarm.velocities.size = n

theorem size_foldl_apply [Scalar α] (kicks : List (Kick α)) (velocities : Array (Vec α)) :
    (kicks.foldl Kick.apply velocities).size = velocities.size := by
  induction kicks generalizing velocities with
  | nil => rfl
  | cons kick kicks ih => rw [List.foldl_cons, ih, Kick.apply, Array.size_modify, Array.size_modify]

variable [Plane α] {canvas : Canvas α} {options : ForceOptions α} {edges : List (Nat × Nat)}
  {swarm : Swarm α}

theorem ofSize_atRest (places : List (Point α)) : (atRest places).OfSize places.length where
  places := List.size_toArray
  velocities := Array.size_replicate

theorem Swarm.OfSize.round (h : swarm.OfSize n) : (round canvas options edges swarm).OfSize n := by
  have hvelocities :
      ((kicks options edges swarm.places).foldl Kick.apply swarm.velocities).size = n := by
    rw [size_foldl_apply, h.velocities]
  constructor
  · -- a place without a velocity would be lost
    show (Array.zipWith _ swarm.places _).size = n
    rw [Array.size_zipWith, h.places, hvelocities, Nat.min_self]
  · show (Array.map _ _).size = n
    rw [Array.size_map, hvelocities]

theorem Swarm.OfSize.simulate (rounds : Nat) (h : swarm.OfSize n) :
    (simulate canvas options edges rounds swarm).OfSize n := by
  induction rounds generalizing swarm with
  | zero => exact h
  | succ rounds ih => exact ih h.round

theorem length_byForce (places : List (Point α)) :
    (byForce canvas options places edges).length = places.length := by
  rw [byForce, Array.length_toList]
  exact ((ofSize_atRest places).simulate options.iterations).places

end Layout

/-! ## All algorithms -/

namespace Algorithm

variable {α : Type} [Plane α] {algorithm : Algorithm α} {canvas : Canvas α} {network : Network α}
  {places : Table String (Point α)}

theorem length_places (algorithm : Algorithm α) (canvas : Canvas α) (network : Network α) :
    (algorithm.places canvas network).length = network.nodes.length := by
  cases algorithm with
  | radial => simp [Algorithm.places, Layout.circle, Point.ring]
  | grid => simp [Algorithm.places, Layout.grid]
  | flow => simp [Algorithm.places, Layout.length_byLevel]
  | force options => simp [Algorithm.places, Layout.length_byForce]

theorem length_ids (algorithm : Algorithm α) (canvas : Canvas α) (network : Network α) :
    network.ids.length = (algorithm.places canvas network).length := by
  rw [length_places, Network.ids, List.length_map]

/-- No identifier goes without a place. -/
theorem map_fst_zip_places (algorithm : Algorithm α) (canvas : Canvas α) (network : Network α) :
    (network.ids.zip (algorithm.places canvas network)).map Prod.fst = network.ids :=
  List.map_fst_zip (Nat.le_of_eq (algorithm.length_ids canvas network))

section

variable (hids : network.ids.Nodup) (h : algorithm.layout canvas network = .ok places)

include hids h

theorem entries_of_layout :
    places.entries = network.ids.zip (algorithm.places canvas network) := by
  unfold layout at h
  split at h
  · exact absurd h (by simp)
  · obtain rfl := Except.ok.inj h
    refine Table.entries_ofList ?_
    rw [map_fst_zip_places]
    exact hids

/-- The identifiers are listed in the order of the nodes. -/
theorem keys_of_layout : places.keys = network.ids := by
  rw [Table.keys, entries_of_layout hids h, map_fst_zip_places]

/-- Each comes with the place of its node. -/
theorem values_of_layout : places.values = algorithm.places canvas network := by
  rw [Table.values, entries_of_layout hids h]
  exact List.map_snd_zip (Nat.le_of_eq (algorithm.length_ids canvas network).symm)

theorem get?_of_layout {id : String} {place : Point α} : places.get? id = some place ↔
    ∃ i : Nat, network.ids[i]? = some id ∧ (algorithm.places canvas network)[i]? = some place := by
  rw [Table.get?_eq_some_iff, entries_of_layout hids h, List.mem_iff_getElem?]
  simp only [List.getElem?_zip_eq_some]

end

end Algorithm

end DomainStory
