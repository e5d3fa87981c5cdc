import Mathlib.Data.List.Nodup
import Mathlib.Data.List.Perm.Subperm
import Mathlib.Data.Nat.ModEq
import Mathlib.Logic.Function.Iterate
import DomainStory.Proofs.Diagram.Content

/-!
# Stepping through the views

As soon as there are two domains, the views stand in rings. Everything and the domains after it make
up the ring of `next`, with one place ahead at each step; the domains alone make up the ring of
`prev`, where one place back is as good as all places but one ahead.

A step by a stride that has no divisor in common with the size of the ring comes to every place
before it comes home (`Ring.nodup_visited`, `Ring.mem_visited_iff`, `Ring.iterate_size`). Both
rings are of this kind, so that no view is left out or met twice (`next_prev_tour`).
-/

namespace DomainStory.View

variable {count size stride p k : Nat} {view other : View}

/-- The views that so many steps lead to, one after the other. -/
def visited (step : View → View) (steps : Nat) (view : View) : List View :=
  (List.range steps).map fun k => step^[k + 1] view

/-! ## Rings -/

/-- A step around a ring of different views. It leads the same number of places ahead from every
place, and this stride and the size of the ring have no divisor in common. -/
structure Ring (step : View → View) (place : Nat → View) (size stride : Nat) : Prop where
  pos : 0 < size
  coprime : size.Coprime stride
  injective : place.Injective
  step_place : ∀ p < size, step (place p) = place ((p + stride) % size)

namespace Ring

variable {step : View → View} {place : Nat → View}

/-- Any number of steps, in one formula. -/
theorem iterate_place (h : Ring step place size stride) (hp : p < size) (k : Nat) :
    step^[k] (place p) = place ((p + k * stride) % size) := by
  induction k with
  | zero =>
    show place p = _
    rw [Nat.zero_mul, Nat.add_zero, Nat.mod_eq_of_lt hp]
  | succ k ih =>
    rw [Function.iterate_succ_apply', ih, h.step_place _ (Nat.mod_lt _ h.pos), Nat.mod_add_mod,
      Nat.succ_mul, Nat.add_assoc]

theorem iterate_size (h : Ring step place size stride) (hp : p < size) :
    step^[size] (place p) = place p := by
  rw [h.iterate_place hp, Nat.add_mul_mod_self_left, Nat.mod_eq_of_lt hp]

theorem visited_place (h : Ring step place size stride) (hp : p < size) (steps : Nat) :
    visited step steps (place p)
      = ((List.range steps).map fun k => (p + (k + 1) * stride) % size).map place := by
  rw [visited, List.map_map]
  apply List.map_congr_left
  intro k _
  exact h.iterate_place hp (k + 1)

/-- As many steps as the ring has places lead to each place once. -/
theorem places_perm (h : Ring step place size stride) (p : Nat) :
    ((List.range size).map fun k => (p + (k + 1) * stride) % size).Perm (List.range size) := by
  have hnodup : ((List.range size).map fun k => (p + (k + 1) * stride) % size).Nodup := by
    apply List.Nodup.map_on _ List.nodup_range
    intro k hk j hj hsame
    -- equal remainders come from equal numbers of steps, up to whole rounds
    have hsteps : (k + 1) * stride ≡ (j + 1) * stride [MOD size] :=
      Nat.ModEq.add_left_cancel' p hsame
    have hrounds : k ≡ j [MOD size] :=
      Nat.ModEq.add_right_cancel' 1 (hsteps.cancel_right_of_coprime h.coprime)
    exact hrounds.eq_of_lt_of_lt (List.mem_range.mp hk) (List.mem_range.mp hj)
  have hsubset : ((List.range size).map fun k => (p + (k + 1) * stride) % size)
      ⊆ List.range size := by
    intro q hq
    obtain ⟨k, -, rfl⟩ := List.mem_map.mp hq
    exact List.mem_range.mpr (Nat.mod_lt _ h.pos)
  exact (hnodup.subperm hsubset).perm_of_length_le (by simp)

theorem visited_perm (h : Ring step place size stride) (hp : p < size) :
    (visited step size (place p)).Perm ((List.range size).map place) := by
  rw [h.visited_place hp]
  exact (h.places_perm p).map place

theorem nodup_visited (h : Ring step place size stride) (hp : p < size) :
    (visited step size (place p)).Nodup :=
  (h.visited_perm hp).nodup_iff.mpr (List.nodup_range.map h.injective)

theorem mem_visited_iff (h : Ring step place size stride) (hp : p < size) :
    other ∈ visited step size (place p) ↔ ∃ q < size, other = place q := by
  rw [(h.visited_perm hp).mem_iff, List.mem_map]
  simp only [List.mem_range, eq_comm]

end Ring

/-! ## The step on -/

/-- Everything comes first, and the domains in their order after it. -/
def atPlace : Nat → View
  | 0 => all
  | i + 1 => domain i

theorem atPlace_injective : atPlace.Injective := by
  intro p q h
  cases p <;> cases q <;> simp_all [atPlace]

theorem clamp_atPlace (hp : p ≤ count) : (atPlace p).clamp count = atPlace p := by
  cases p with
  | zero => rfl
  | succ i => exact if_pos (by omega)

theorem exists_atPlace_eq_clamp (count : Nat) (view : View) :
    ∃ p ≤ count, view.clamp count = atPlace p := by
  rcases clamp_eq_all_or count view with hall | ⟨i, hi, hdomain⟩
  · exact ⟨0, Nat.zero_le _, hall⟩
  · exact ⟨i + 1, hi, hdomain⟩

theorem exists_atPlace_iff :
    (∃ p < count + 1, other = atPlace p) ↔ other = all ∨ ∃ i < count, other = domain i := by
  constructor
  · rintro ⟨p, hp, rfl⟩
    cases p with
    | zero => exact .inl rfl
    | succ i => exact .inr ⟨i, by omega, rfl⟩
  · rintro (rfl | ⟨i, hi, rfl⟩)
    · exact ⟨0, by omega, rfl⟩
    · exact ⟨i + 1, by omega, rfl⟩

theorem next_atPlace (hcount : 2 ≤ count) (hp : p < count + 1) :
    next count (atPlace p) = atPlace ((p + 1) % (count + 1)) := by
  unfold next
  rw [if_neg (by omega), clamp_atPlace (by omega)]
  cases p with
  | zero =>
    rw [Nat.mod_eq_of_lt (by omega)]
    rfl
  | succ i =>
    show (if i + 1 < count then domain (i + 1) else all) = _
    by_cases hlast : i + 1 < count
    · rw [if_pos hlast, Nat.mod_eq_of_lt (by omega)]
      rfl
    · -- the last domain is followed by everything
      rw [if_neg hlast, show i + 1 + 1 = count + 1 by omega, Nat.mod_self]
      rfl

theorem ring_next (hcount : 2 ≤ count) : Ring (next count) atPlace (count + 1) 1 where
  pos := Nat.succ_pos count
  coprime := Nat.coprime_one_right _
  injective := atPlace_injective
  step_place _ hp := next_atPlace hcount hp

/-- A view of no domain steps on as everything does. -/
theorem next_clamp (hcount : 2 ≤ count) (view : View) :
    next count (view.clamp count) = next count view := by
  unfold next
  rw [if_neg (by omega), if_neg (by omega), clamp_clamp]

theorem iterate_next_clamp (hcount : 2 ≤ count) (view : View) (k : Nat) :
    (next count)^[k + 1] view = (next count)^[k + 1] (view.clamp count) := by
  rw [Function.iterate_succ_apply, Function.iterate_succ_apply, next_clamp hcount]

theorem visited_next_clamp (hcount : 2 ≤ count) (view : View) (steps : Nat) :
    visited (next count) steps view = visited (next count) steps (view.clamp count) := by
  apply List.map_congr_left
  intro k _
  exact iterate_next_clamp hcount view k

/-! ## The step back -/

theorem prev_domain (hcount : 2 ≤ count) (hp : p < count) :
    prev count (domain p) = domain ((p + (count - 1)) % count) := by
  have hclamp : (domain p).clamp count = domain p := if_pos hp
  unfold prev
  rw [if_neg (by omega), hclamp]
  cases p with
  | zero => rw [Nat.zero_add, Nat.mod_eq_of_lt (by omega)]
  | succ i =>
    -- all places but one ahead is one place back
    rw [show i + 1 + (count - 1) = i + count by omega, Nat.add_mod_right,
      Nat.mod_eq_of_lt (by omega)]

theorem ring_prev (hcount : 2 ≤ count) : Ring (prev count) domain count (count - 1) where
  pos := by omega
  coprime := by
    rw [Nat.coprime_self_sub_right (by omega)]
    exact Nat.coprime_one_right _
  injective _ _ h := View.domain.inj h
  step_place _ hp := prev_domain hcount hp

/-- A step back never shows everything. -/
theorem prev_ne_all (hcount : 2 ≤ count) (view : View) : prev count view ≠ all := by
  unfold prev
  rw [if_neg (by omega)]
  split <;> exact View.noConfusion

theorem prev_next_domain (hcount : 2 ≤ count) (hp : p < count) :
    prev count (next count (domain p)) = domain p := by
  have hnext : next count (domain p) = atPlace ((p + 1 + 1) % (count + 1)) :=
    next_atPlace (p := p + 1) hcount (by omega)
  rw [hnext]
  by_cases hlast : p + 1 < count
  · rw [Nat.mod_eq_of_lt (by omega)]
    show prev count (domain (p + 1)) = domain p
    rw [prev_domain hcount hlast, show p + 1 + (count - 1) = p + count by omega,
      Nat.add_mod_right, Nat.mod_eq_of_lt hp]
  · -- on from the last domain is everything, and back from there is the last domain again
    rw [show p + 1 + 1 = count + 1 by omega, Nat.mod_self]
    show prev count all = domain p
    unfold prev
    rw [if_neg (by omega)]
    show domain (count - 1) = domain p
    rw [show count - 1 = p by omega]

/-- A tour of the views leads home and meets every view once: on from any view, with everything and
each domain on the way, and back from any domain, with the domains alone. A step back undoes a step
on from a domain. -/
theorem next_prev_tour (hcount : 2 ≤ count) :
    (∀ view, (next count)^[count + 1] view = view.clamp count ∧
      (visited (next count) (count + 1) view).Nodup ∧
      ∀ other, other ∈ visited (next count) (count + 1) view ↔
        other = all ∨ ∃ i < count, other = domain i) ∧
    (∀ view, prev count view ≠ all) ∧
    (∀ i < count, (prev count)^[count] (domain i) = domain i ∧
      (visited (prev count) count (domain i)).Nodup ∧
      ∀ other, other ∈ visited (prev count) count (domain i) ↔
        ∃ j < count, other = domain j) ∧
    ∀ i < count, prev count (next count (domain i)) = domain i := by
  have hnext := ring_next hcount
  have hprev := ring_prev hcount
  refine ⟨?_, prev_ne_all hcount, ?_, fun i hi => prev_next_domain hcount hi⟩
  · intro view
    obtain ⟨p, hp, hplace⟩ := exists_atPlace_eq_clamp count view
    have hlt : p < count + 1 := by omega
    rw [iterate_next_clamp hcount, visited_next_clamp hcount, hplace]
    refine ⟨hnext.iterate_size hlt, hnext.nodup_visited hlt, fun other => ?_⟩
    rw [hnext.mem_visited_iff hlt]
    exact exists_atPlace_iff
  · intro i hi
    exact ⟨hprev.iterate_size hi, hprev.nodup_visited hi, fun other => hprev.mem_visited_iff hi⟩

/-- Three domains: a view of a domain that is gone comes round to everything, and from the middle
one each step back meets another domain. -/
theorem next_prev_tour_threeDomains :
    2 ≤ 3 ∧ (next 3)^[4] (domain 7) = all ∧ (visited (next 3) 4 (domain 7)).Nodup ∧
      (prev 3)^[3] (domain 1) = domain 1 ∧ domain 2 ∈ visited (prev 3) 3 (domain 1) ∧
      prev 3 (next 3 (domain 2)) = domain 2 := by
  have hcount : 2 ≤ 3 := by omega
  obtain ⟨hon, -, hback, hundone⟩ := next_prev_tour hcount
  obtain ⟨hhome, hnodup, -⟩ := hon (domain 7)
  obtain ⟨hhome', -, hmem⟩ := hback 1 (by omega)
  exact ⟨hcount, hhome, hnodup, hhome', (hmem _).mpr ⟨2, by omega, rfl⟩, hundone 2 (by omega)⟩

end DomainStory.View
