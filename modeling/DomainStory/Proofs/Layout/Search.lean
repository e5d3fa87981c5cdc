import Mathlib.Data.List.Nodup
import Mathlib.Data.List.Perm.Subperm
import Mathlib.Data.List.ReduceOption
import DomainStory.Layout.Levels

/-!
# The search for levels

A node enters the queue when it gets its level. In every state of the search the levels rise along
the order and leave no gap (`Levelling.Rising`), the queue is the end of the order, and no level is
higher than the next one of a node in the queue (`Search.Queued`). So what enters in a step gets the
highest level so far or the one after it. A step preserves the last property because nodes that wait
behind the first have no lower level than it has (`Search.Queued.level_le`).

A step takes a node from the queue that never comes back, and so the queue is empty after as many
rounds as there are nodes (`Search.queue_done`). The levels that are given afterwards continue those
of the search, one by one (`Levelling.Filled`).
-/

namespace DomainStory.Layout

/-- Edges between nodes below a bound. -/
def Within (n : Nat) (edges : List (Nat × Nat)) : Prop := ∀ edge ∈ edges, edge.1 < n ∧ edge.2 < n

instance (n : Nat) (edges : List (Nat × Nat)) : Decidable (Within n edges) :=
  inferInstanceAs (Decidable (∀ edge ∈ edges, edge.1 < n ∧ edge.2 < n))

/-! ## Roots -/

section Roots

variable {n : Nat} {edges : List (Nat × Nat)} {node : Nat}

theorem mem_successors {start : Nat} : node ∈ successors edges start ↔ (start, node) ∈ edges := by
  simp [successors]

/-- The nodes that no edge enters. -/
def unentered (n : Nat) (edges : List (Nat × Nat)) : List Nat :=
  (List.range n).filter fun node => !edges.any fun edge => edge.2 = node

theorem mem_unentered : node ∈ unentered n edges ↔ node < n ∧ ∀ edge ∈ edges, edge.2 ≠ node := by
  simp [unentered]

theorem roots_eq : roots n edges = if unentered n edges = [] then
    if n = 0 then [] else [0] else unentered n edges := by
  unfold roots
  split
  · next hnone => exact (if_pos hnone).symm
  · next hsome => exact (if_neg fun hnone => hsome hnone).symm

theorem nodup_roots : (roots n edges).Nodup := by
  rw [roots_eq]
  split_ifs
  · simp
  · simp
  · exact List.nodup_range.filter _

theorem lt_of_mem_roots (h : node ∈ roots n edges) : node < n := by
  rw [roots_eq] at h
  split_ifs at h with hnone hn
  · simp at h
  · obtain rfl : node = 0 := by simpa using h
    omega
  · exact (mem_unentered.mp h).1

end Roots

/-! ## Giving levels -/

namespace Levelling

variable {n level free node other : Nat} {found nodes : List Nat}
  {levelling before middle after : Levelling}

theorem level?_empty : (empty n).level? node = none := by
  rw [level?, empty, List.getD_eq_getElem?_getD, List.getElem?_replicate]
  split <;> rfl

theorem lt_of_level? (h : levelling.level? node = some level) :
    node < levelling.levels.length := by
  by_contra hge
  rw [level?, List.getD_eq_getElem?_getD, List.getElem?_eq_none (Nat.le_of_not_lt hge)] at h
  exact absurd h (by simp)

theorem level?_give (h : node < levelling.levels.length) :
    (levelling.give level node).level? other
      = if other = node then some level else levelling.level? other := by
  simp only [level?, give, List.getD_eq_getElem?_getD, List.getElem?_set]
  by_cases heq : node = other
  · subst heq
    simp [h]
  · rw [if_neg heq, if_neg fun h => heq h.symm]

/-- From one levelling to another a list of nodes got a level. -/
structure Grows (level : Nat) (found : List Nat) (before after : Levelling) : Prop where
  length : after.levels.length = before.levels.length
  order : after.order = before.order ++ found
  nodup : found.Nodup
  fresh : ∀ node ∈ found, before.level? node = none
  level? : ∀ node, after.level? node = if node ∈ found then some level else before.level? node

theorem Grows.refl : Grows level [] levelling levelling where
  length := rfl
  order := (List.append_nil _).symm
  nodup := List.nodup_nil
  fresh := by simp
  level? := by simp

theorem Grows.trans {later : List Nat} (h : Grows level found before middle)
    (h' : Grows level later middle after) : Grows level (found ++ later) before after where
  length := h'.length.trans h.length
  order := by rw [h'.order, h.order, List.append_assoc]
  nodup := by
    refine h.nodup.append h'.nodup fun node hfound hlater => ?_
    have hnone := h'.fresh node hlater
    rw [h.level?, if_pos hfound] at hnone
    exact absurd hnone (by simp)
  fresh node hnode := by
    rcases List.mem_append.mp hnode with hfound | hlater
    · exact h.fresh node hfound
    · have hnone := h'.fresh node hlater
      rw [h.level?] at hnone
      split_ifs at hnone
      exact hnone
  level? node := by
    rw [h'.level?, h.level?]
    by_cases hfound : node ∈ found <;> by_cases hlater : node ∈ later <;> simp [hfound, hlater]

theorem grows_give (hnode : node < levelling.levels.length)
    (hfresh : levelling.level? node = none) :
    Grows level [node] levelling (levelling.give level node) where
  length := List.length_set
  order := rfl
  nodup := List.nodup_singleton node
  fresh := by simpa using hfresh
  level? := by simp [level?_give hnode]

theorem Grows.level?_of_some (h : Grows level found before after) {k : Nat}
    (hnode : before.level? node = some k) : after.level? node = some k := by
  rw [h.level?, if_neg, hnode]
  intro hfound
  rw [h.fresh node hfound] at hnode
  exact absurd hnode (by simp)

theorem Grows.cases (h : Grows level found before after) {k : Nat}
    (hnode : after.level? node = some k) :
    node ∈ found ∧ k = level ∨ before.level? node = some k := by
  rw [h.level?] at hnode
  split_ifs at hnode with hfound
  · exact .inl ⟨hfound, (Option.some.inj hnode).symm⟩
  · exact .inr hnode

/-- Levels that rise along the order and leave no gap. -/
structure Rising (n : Nat) (levelling : Levelling) : Prop where
  length : levelling.levels.length = n
  mem_order : ∀ node, node ∈ levelling.order ↔ ∃ level, levelling.level? node = some level
  nodup : levelling.order.Nodup
  rising : levelling.order.Pairwise fun a b =>
    ∀ j k, levelling.level? a = some j → levelling.level? b = some k → j ≤ k
  gapless : ∀ node level, levelling.level? node = some (level + 1) →
    ∃ other, levelling.level? other = some level

/-- It is the turn of a level: no level is higher, and the one before it was given. -/
structure InTurn (level : Nat) (levelling : Levelling) : Prop where
  highest : ∀ node k, levelling.level? node = some k → k ≤ level
  before : ∀ k, level = k + 1 → ∃ node, levelling.level? node = some k

theorem rising_empty : Rising n (empty n) where
  length := List.length_replicate
  mem_order node := by
    rw [level?_empty]
    simp [empty]
  nodup := List.nodup_nil
  rising := List.Pairwise.nil
  gapless node level h := absurd h (by simp [level?_empty])

theorem inTurn_empty : InTurn 0 (empty n) where
  highest node k h := absurd h (by simp [level?_empty])
  before := by simp

theorem Rising.lt (h : Rising n levelling) (hnode : node ∈ levelling.order) : node < n := by
  obtain ⟨level, hlevel⟩ := (h.mem_order node).mp hnode
  exact h.length ▸ lt_of_level? hlevel

theorem Rising.grow (h : Rising n before) (hturn : InTurn level before)
    (hgrows : Grows level found before after) : Rising n after where
  length := hgrows.length.trans h.length
  mem_order node := by
    rw [hgrows.order, List.mem_append, h.mem_order]
    constructor
    · rintro (⟨k, hk⟩ | hfound)
      · exact ⟨k, hgrows.level?_of_some hk⟩
      · exact ⟨level, by rw [hgrows.level?, if_pos hfound]⟩
    · rintro ⟨k, hk⟩
      rcases hgrows.cases hk with ⟨hfound, -⟩ | hbefore
      · exact .inr hfound
      · exact .inl ⟨k, hbefore⟩
  nodup := by
    rw [hgrows.order]
    refine h.nodup.append hgrows.nodup fun node hbefore hfound => ?_
    obtain ⟨k, hk⟩ := (h.mem_order node).mp hbefore
    rw [hgrows.fresh node hfound] at hk
    exact absurd hk (by simp)
  rising := by
    have hlast : ∀ a, ∀ b ∈ found, ∀ j k, after.level? a = some j → after.level? b = some k →
        j ≤ k := by
      intro a b hb j k hj hk
      obtain rfl : level = k := by rwa [hgrows.level?, if_pos hb, Option.some_inj] at hk
      rcases hgrows.cases hj with ⟨-, rfl⟩ | hbefore
      · exact Nat.le_refl _
      · exact hturn.highest a j hbefore
    rw [hgrows.order, List.pairwise_append]
    refine ⟨h.rising.imp_of_mem fun {a b} ha hb hle j k hj hk => ?_,
      List.pairwise_of_forall_mem_list fun a _ b hb => hlast a b hb, fun a _ b hb => hlast a b hb⟩
    obtain ⟨j', hj'⟩ := (h.mem_order a).mp ha
    obtain ⟨k', hk'⟩ := (h.mem_order b).mp hb
    rw [hgrows.level?_of_some hj', Option.some_inj] at hj
    rw [hgrows.level?_of_some hk', Option.some_inj] at hk
    exact hj ▸ hk ▸ hle j' k' hj' hk'
  gapless node k hk := by
    rcases hgrows.cases hk with ⟨-, hlevel⟩ | hbefore
    · obtain ⟨other, hother⟩ := hturn.before k hlevel.symm
      exact ⟨other, hgrows.level?_of_some hother⟩
    · obtain ⟨other, hother⟩ := h.gapless node k hbefore
      exact ⟨other, hgrows.level?_of_some hother⟩

/-- After a level that a node got it is the turn of the next. -/
theorem InTurn.give (h : InTurn level levelling) (hnode : node < levelling.levels.length)
    (hfresh : levelling.level? node = none) :
    InTurn (level + 1) (levelling.give level node) where
  highest other k hk := by
    rcases (grows_give hnode hfresh).cases hk with ⟨-, rfl⟩ | hbefore
    · exact Nat.le_succ _
    · exact Nat.le_succ_of_le (h.highest other k hbefore)
  before k hk := by
    obtain rfl : level = k := by omega
    exact ⟨node, by simp [level?_give hnode]⟩

/-! ## Filling up -/

theorem Rising.fill (h : Rising n levelling) (hturn : InTurn free levelling)
    (hnodes : ∀ node ∈ nodes, node < n) : Rising n (levelling.fill free nodes) := by
  induction nodes generalizing levelling free with
  | nil => exact h
  | cons node nodes ih =>
    have hlater : ∀ node ∈ nodes, node < n := fun node hnode => hnodes node (.tail _ hnode)
    have hnode : node < levelling.levels.length := h.length ▸ hnodes node (.head _)
    rw [Levelling.fill]
    split_ifs with hfresh
    · exact ih (h.grow hturn (grows_give hnode hfresh)) (hturn.give hnode hfresh) hlater
    · exact ih h hturn hlater

/-- From one levelling to another a list of nodes got successive levels. -/
structure Filled (free : Nat) (others : List Nat) (before after : Levelling) : Prop where
  kept : ∀ node, node ∉ others → after.level? node = before.level? node
  given : ∀ i node, others[i]? = some node → after.level? node = some (free + i)

theorem Filled.cons {others : List Nat} (hnode : node < before.levels.length)
    (hnot : node ∉ others) (h : Filled (free + 1) others (before.give free node) after) :
    Filled free (node :: others) before after where
  kept other hother := by
    obtain ⟨hne, hother⟩ := not_or.mp (mt List.mem_cons.mpr hother)
    rw [h.kept other hother, level?_give hnode, if_neg hne]
  given i other hother := by
    cases i with
    | zero =>
      obtain rfl : node = other := by simpa using hother
      rw [h.kept node hnot, level?_give hnode, if_pos rfl, Nat.add_zero]
    | succ i => rw [h.given i other (by simpa using hother), Nat.add_right_comm, Nat.add_assoc]

theorem filled_fill (free : Nat) (hnodes : ∀ node ∈ nodes, node < levelling.levels.length)
    (hnodup : nodes.Nodup) :
    Filled free (nodes.filter fun node => levelling.level? node = none) levelling
      (levelling.fill free nodes) := by
  induction nodes generalizing levelling free with
  | nil => exact ⟨fun _ _ => rfl, fun i node h => absurd h (by simp)⟩
  | cons node nodes ih =>
    obtain ⟨hnot, hnodup⟩ := List.nodup_cons.mp hnodup
    have hlater : ∀ node ∈ nodes, node < levelling.levels.length :=
      fun node hnode => hnodes node (.tail _ hnode)
    rw [fill]
    split_ifs with hfresh
    · have hnode := hnodes node (.head _)
      -- giving the first node a level makes no difference to the rest
      have hsame : (nodes.filter fun other => (levelling.give free node).level? other = none)
          = nodes.filter fun other => levelling.level? other = none := by
        refine List.filter_congr fun other hother => ?_
        rw [level?_give hnode, if_neg (ne_of_mem_of_not_mem hother hnot)]
      have hlater' : ∀ other ∈ nodes, other < (levelling.give free node).levels.length := by
        rwa [(grows_give hnode hfresh).length]
      have hrest := ih (free + 1) hlater' hnodup
      rw [hsame] at hrest
      rw [List.filter_cons_of_pos (by simpa using hfresh)]
      exact hrest.cons hnode fun hmem => hnot (List.mem_filter.mp hmem).1
    · rw [List.filter_cons_of_neg (by simpa using hfresh)]
      exact ih free hlater hnodup

end Levelling

/-! ## Entering the queue -/

namespace Search

open Levelling

variable {n level : Nat} {edges : List (Nat × Nat)} {found nodes : List Nat}
  {search before after : Search}

/-- Nodes got a level and entered the queue. -/
structure Entered (level : Nat) (found : List Nat) (before after : Search) : Prop extends
    Grows level found before.toLevelling after.toLevelling where
  queue : after.queue = before.queue ++ found

theorem entered_enter (level : Nat) {node : Nat} (hnode : node < search.levels.length)
    (hfresh : search.level? node = none) :
    Entered level [node] search (search.enter level node) :=
  ⟨grows_give hnode hfresh, rfl⟩

theorem Entered.trans {middle : Search} {later : List Nat} (h : Entered level found before middle)
    (h' : Entered level later middle after) : Entered level (found ++ later) before after :=
  ⟨h.toGrows.trans h'.toGrows, by rw [h'.queue, h.queue, List.append_assoc]⟩

/-- Of the nodes that the search comes to, those without a level enter. -/
theorem exists_entered_foldl_visit (level : Nat) (search : Search)
    (hnodes : ∀ node ∈ nodes, node < search.levels.length) :
    ∃ found, Entered level found search (nodes.foldl (visit level) search) ∧
      ∀ node, node ∈ found ↔ node ∈ nodes ∧ search.level? node = none := by
  induction nodes generalizing search with
  | nil => exact ⟨[], ⟨.refl, (List.append_nil _).symm⟩, by simp⟩
  | cons node nodes ih =>
    have hlater : ∀ node ∈ nodes, node < search.levels.length :=
      fun node hnode => hnodes node (.tail _ hnode)
    rw [List.foldl_cons, visit]
    split_ifs with hfresh
    · have hnode := hnodes node (.head _)
      have hfirst := entered_enter level hnode hfresh
      obtain ⟨found, hentered, hfound⟩ := ih (search.enter level node) fun other hother =>
        hfirst.length ▸ hlater other hother
      refine ⟨node :: found, hfirst.trans hentered, fun other => ?_⟩
      have hlevel : (search.enter level node).level? other = none
          ↔ other ≠ node ∧ search.level? other = none := by
        rw [hfirst.level?]
        by_cases heq : other = node <;> simp [heq]
      rw [List.mem_cons, hfound, hlevel, List.mem_cons]
      by_cases heq : other = node
      · simp [heq, hfresh]
      · simp [heq]
    · obtain ⟨found, hentered, hfound⟩ := ih search hlater
      refine ⟨found, hentered, fun other => ?_⟩
      rw [hfound, List.mem_cons]
      by_cases heq : other = node
      · simp [heq, hfresh]
      · simp [heq]

theorem entered_foldl_enter (hnodes : ∀ node ∈ nodes, node < search.levels.length)
    (hfresh : ∀ node ∈ nodes, search.level? node = none) (hnodup : nodes.Nodup) :
    Entered level nodes search (nodes.foldl (enter level) search) := by
  induction nodes generalizing search with
  | nil => exact ⟨.refl, (List.append_nil _).symm⟩
  | cons node nodes ih =>
    obtain ⟨hnot, hnodup⟩ := List.nodup_cons.mp hnodup
    have hfirst := entered_enter level (hnodes node (.head _)) (hfresh node (.head _))
    refine hfirst.trans (ih (fun other hother => ?_) (fun other hother => ?_) hnodup)
    · exact hfirst.length ▸ hnodes other (.tail _ hother)
    · have hne : other ∉ [node] := by simpa using ne_of_mem_of_not_mem hother hnot
      rw [hfirst.level?, if_neg hne]
      exact hfresh other (.tail _ hother)

theorem entered_start : Entered 0 (roots n edges) ⟨.empty n, []⟩ (start n edges) :=
  entered_foldl_enter (fun node hnode => by simpa [empty] using lt_of_mem_roots hnode)
    (fun _ _ => level?_empty) nodup_roots

/-! ## The invariant of the queue -/

/-- The queue is the end of the order, and no level is higher than the next one of a node in it. -/
structure Queued (n : Nat) (search : Search) : Prop extends Rising n search.toLevelling where
  suffix : search.queue <:+ search.order
  span : ∀ node ∈ search.queue, ∀ other j k, search.level? node = some j →
    search.level? other = some k → k ≤ j + 1

theorem queued_start : Queued n (start n edges) := by
  have hentered : Entered 0 (roots n edges) ⟨.empty n, []⟩ (start n edges) := entered_start
  refine ⟨rising_empty.grow inTurn_empty hentered.toGrows, ?_, fun node _ other j k _ hk => ?_⟩
  · rw [hentered.queue, hentered.order]
    exact List.suffix_refl _
  · rcases hentered.cases hk with ⟨-, rfl⟩ | hbefore
    · exact Nat.zero_le _
    · exact absurd hbefore (by simp [level?_empty])

/-- What a step does: the first node leaves the queue, and those of the nodes it leads to that have
no level get the next one and enter. -/
theorem Queued.step_cases (hwithin : Within n edges) (h : Queued n search) :
    search.queue = [] ∧ search.step edges = search ∨
      ∃ node queue level found, search.queue = node :: queue ∧ search.level? node = some level ∧
        Entered (level + 1) found { search with queue } (search.step edges) ∧
          ∀ next, next ∈ found ↔ (node, next) ∈ edges ∧ search.level? next = none := by
  cases hqueue : search.queue with
  | nil => exact .inl ⟨rfl, by simp [step, hqueue]⟩
  | cons node queue =>
    have hnode : node ∈ search.order := h.suffix.subset (by simp [hqueue])
    obtain ⟨level, hlevel⟩ := (h.mem_order node).mp hnode
    have hstep : search.step edges
        = (successors edges node).foldl (visit (level + 1)) { search with queue } := by
      simp only [step, hqueue, hlevel, Option.getD_some]
    have hnext : ∀ next ∈ successors edges node, next < search.levels.length := fun next hnext =>
      h.length ▸ (hwithin _ (mem_successors.mp hnext)).2
    obtain ⟨found, hentered, hfound⟩ :=
      exists_entered_foldl_visit (level + 1) { search with queue } hnext
    rw [← hstep] at hentered
    exact .inr ⟨node, queue, level, found, rfl, hlevel, hentered, fun next => by
      rw [hfound, mem_successors]⟩

/-- Nodes that wait in the queue have no lower level than those before them. -/
theorem Queued.level_le (h : Queued n search) {node later j k : Nat} {queue : List Nat}
    (hqueue : search.queue = node :: queue) (hlater : later ∈ queue)
    (hj : search.level? node = some j) (hk : search.level? later = some k) : j ≤ k := by
  have hrising := h.rising.sublist h.suffix.sublist
  rw [hqueue, List.pairwise_cons] at hrising
  exact hrising.1 later hlater j k hj hk

theorem Queued.inTurn (h : Queued n search) {node level : Nat} (hnode : node ∈ search.queue)
    (hlevel : search.level? node = some level) : InTurn (level + 1) search.toLevelling where
  highest other k hk := h.span node hnode other level k hlevel hk
  before k hk := by
    obtain rfl : level = k := by omega
    exact ⟨node, hlevel⟩

theorem Queued.step (hwithin : Within n edges) (h : Queued n search) :
    Queued n (search.step edges) := by
  rcases h.step_cases hwithin with
    ⟨-, hstep⟩ | ⟨node, queue, level, found, hqueue, hlevel, hentered, -⟩
  · rwa [hstep]
  have hturn := h.inTurn (by simp [hqueue]) hlevel
  refine ⟨h.toRising.grow hturn hentered.toGrows, ?_, fun waiting hwaiting other j k hj hk => ?_⟩
  · rw [hentered.queue, hentered.order]
    obtain ⟨gone, hgone⟩ := h.suffix
    exact ⟨gone ++ [node], by rw [← hgone, hqueue]; simp⟩
  · have hhigh : k ≤ level + 1 := by
      rcases hentered.cases hk with ⟨-, rfl⟩ | hbefore
      · exact Nat.le_refl _
      · exact hturn.highest other k hbefore
    have hlow : level ≤ j := by
      rcases hentered.cases hj with ⟨-, rfl⟩ | hbefore
      · exact Nat.le_succ _
      · -- it had a level before, so it waited behind the first node
        rw [hentered.queue, List.mem_append] at hwaiting
        rcases hwaiting with hwaiting | hfound
        · exact h.level_le hqueue hwaiting hlevel hbefore
        · have hfresh : search.level? waiting = none := hentered.fresh waiting hfound
          have hlevel' : search.level? waiting = some j := hbefore
          rw [hfresh] at hlevel'
          exact absurd hlevel' (by simp)
    omega

/-- What a step preserves holds after the search. -/
theorem run_induction {motive : Search → Prop}
    (hstep : ∀ search, motive search → motive (search.step edges)) {rounds : Nat}
    (h : motive search) : motive (search.run edges rounds) := by
  induction rounds generalizing search with
  | zero => exact h
  | succ rounds ih => exact ih (hstep search h)

theorem queued_done (hwithin : Within n edges) : Queued n (done n edges) :=
  run_induction (fun _ h => h.step hwithin) queued_start

/-! ## The end of the search -/

theorem run_of_queue_nil (h : search.queue = []) {rounds : Nat} :
    (search.run edges rounds).queue = [] := by
  refine run_induction (fun search (hqueue : search.queue = []) => ?_) h
  rw [step, hqueue]
  exact hqueue

theorem Queued.length_order_le (h : Queued n search) : search.order.length ≤ n := by
  have hsubset : search.order ⊆ List.range n := fun node hnode => List.mem_range.mpr (h.lt hnode)
  calc search.order.length ≤ (List.range n).length :=
        (List.subperm_of_subset h.nodup hsubset).length_le
    _ = n := List.length_range

/-- As many rounds are enough as there are nodes that did not leave the queue yet. -/
theorem Queued.queue_run (hwithin : Within n edges) (h : Queued n search) {rounds : Nat}
    (hrounds : n + search.queue.length ≤ rounds + search.order.length) :
    (search.run edges rounds).queue = [] := by
  induction rounds generalizing search with
  | zero =>
    have hle := h.length_order_le
    exact List.length_eq_zero_iff.mp (by simp only [run]; omega)
  | succ rounds ih =>
    rcases h.step_cases hwithin with
      ⟨hqueue, -⟩ | ⟨node, queue, level, found, hqueue, -, hentered, -⟩
    · exact run_of_queue_nil hqueue
    · refine ih (h.step hwithin) ?_
      rw [hentered.queue, hentered.order]
      simp only [hqueue, List.length_cons, List.length_append] at hrounds ⊢
      omega

theorem queue_done (hwithin : Within n edges) : (done n edges).queue = [] := by
  refine queued_start.queue_run hwithin ?_
  rw [entered_start.queue, entered_start.order]
  simp [empty]

end Search

/-! ## All levels -/

section Depth

variable {levels : List Nat} {level : Nat}

theorem lt_depth (h : level ∈ levels) : level < depth levels := by
  obtain ⟨highest, hmax⟩ := Option.isSome_iff_exists.mp (List.isSome_max?_of_mem h)
  have hle := (List.max?_eq_some_iff.mp hmax).2 level h
  rw [depth, hmax]
  exact Nat.lt_succ_of_le hle

theorem mem_of_depth_eq (h : depth levels = level + 1) : level ∈ levels := by
  cases hmax : levels.max? with
  | none => simp [depth, hmax] at h
  | some highest =>
    obtain rfl : highest = level := by simpa [depth, hmax] using h
    exact (List.max?_eq_some_iff.mp hmax).1

end Depth

namespace Levelling

theorem mem_reduceOption {levelling : Levelling} {level : Nat} :
    level ∈ levelling.levels.reduceOption ↔ ∃ node, levelling.level? node = some level := by
  rw [List.reduceOption_mem_iff, List.mem_iff_getElem?]
  simp only [level?, List.getD_eq_getElem?_getD]
  refine exists_congr fun node => ?_
  cases levelling.levels[node]? <;> simp

theorem inTurn_depth (levelling : Levelling) :
    InTurn (depth levelling.levels.reduceOption) levelling where
  highest node _ hk := Nat.le_of_lt (lt_depth (mem_reduceOption.mpr ⟨node, hk⟩))
  before _ hk := mem_reduceOption.mp (mem_of_depth_eq hk)

end Levelling

section

variable {n : Nat} {edges : List (Nat × Nat)}

/-- The nodes that the search never comes to, in ascending order. -/
def unreached (n : Nat) (edges : List (Nat × Nat)) : List Nat :=
  (List.range n).filter fun node => (Search.done n edges).level? node = none

theorem filled_levelling (h : Within n edges) :
    Levelling.Filled (depth (Search.done n edges).levels.reduceOption) (unreached n edges)
      (Search.done n edges).toLevelling (levelling n edges) := by
  refine Levelling.filled_fill _ (fun node hnode => ?_) List.nodup_range
  rw [(Search.queued_done h).length]
  exact List.mem_range.mp hnode

theorem rising_levelling (h : Within n edges) : (levelling n edges).Rising n :=
  (Search.queued_done h).toRising.fill (Levelling.inTurn_depth _) fun _ => List.mem_range.mp

/-- Every node has a level. -/
theorem exists_level (h : Within n edges) {node : Nat} (hnode : node < n) :
    ∃ level, (levelling n edges).level? node = some level := by
  by_cases hmem : node ∈ unreached n edges
  · obtain ⟨i, hi⟩ := List.mem_iff_getElem?.mp hmem
    exact ⟨_, (filled_levelling h).given i node hi⟩
  · rw [(filled_levelling h).kept node hmem]
    refine Option.ne_none_iff_exists'.mp fun hnone => hmem ?_
    exact List.mem_filter.mpr ⟨List.mem_range.mpr hnode, by simpa using hnone⟩

theorem levels_of_level? {node level : Nat} (h : (levelling n edges).level? node = some level) :
    (levels n edges)[node]? = some level := by
  rw [Levelling.level?, List.getD_eq_getElem?_getD] at h
  cases hat : (levelling n edges).levels[node]? with
  | none => simp [hat] at h
  | some given =>
    obtain rfl : given = some level := by simpa [hat] using h
    rw [levels, List.getElem?_map, hat]
    rfl

end

end DomainStory.Layout
