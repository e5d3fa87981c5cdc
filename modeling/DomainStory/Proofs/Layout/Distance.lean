import Mathlib.Order.Bounds.Basic
import DomainStory.Proofs.Layout.Search

/-!
# Levels are distances

The distance of a node is the length of a shortest walk to it that starts at a root. The levels that
the search gives are lengths of walks, and when a node has left the queue no edge leads from it
beyond the next level (`Search.Explored`). Once the queue is empty that holds of all nodes, so that
no walk is shorter than the level of the node to which it leads (`exists_level_le`). Hence the nodes
that have a level are those at a distance, and the level is the distance (`isDistance_iff`).

The nodes that no walk reaches take the levels after the deepest, one each and in ascending order
(`levels_shortest`).
-/

namespace DomainStory.Layout

/-! ## Walks -/

/-- A walk along edges, with its length. -/
inductive Walk (edges : List (Nat × Nat)) (start : Nat) : Nat → Nat → Prop where
  | refl : Walk edges start 0 start
  | step {length node next : Nat} (walk : Walk edges start length node)
      (edge : (node, next) ∈ edges) : Walk edges start (length + 1) next

/-- A root is a node that no edge enters, or the first node if every node is entered. -/
def IsRoot (n : Nat) (edges : List (Nat × Nat)) (node : Nat) : Prop :=
  node < n ∧ ((∀ edge ∈ edges, edge.2 ≠ node) ∨
    node = 0 ∧ ∀ other < n, ∃ edge ∈ edges, edge.2 = other)

def Reaches (n : Nat) (edges : List (Nat × Nat)) (length node : Nat) : Prop :=
  ∃ root, IsRoot n edges root ∧ Walk edges root length node

def Reached (n : Nat) (edges : List (Nat × Nat)) (node : Nat) : Prop :=
  ∃ length, Reaches n edges length node

def IsDistance (n : Nat) (edges : List (Nat × Nat)) (node distance : Nat) : Prop :=
  IsLeast {length | Reaches n edges length node} distance

section

variable {n : Nat} {edges : List (Nat × Nat)} {node : Nat}

theorem mem_roots_iff : node ∈ roots n edges ↔ IsRoot n edges node := by
  rw [roots_eq, IsRoot]
  by_cases hnone : unentered n edges = []
  · have hentered : ∀ other < n, ∃ edge ∈ edges, edge.2 = other := by
      intro other hother
      by_contra hfree
      have hmem : other ∈ unentered n edges :=
        mem_unentered.mpr ⟨hother, fun edge hedge hend => hfree ⟨edge, hedge, hend⟩⟩
      exact absurd hmem (by simp [hnone])
    rw [if_pos hnone]
    constructor
    · intro hmem
      split_ifs at hmem with hn
      · simp at hmem
      · obtain rfl : node = 0 := by simpa using hmem
        exact ⟨by omega, .inr ⟨rfl, hentered⟩⟩
    · rintro ⟨hnode, hfree | ⟨rfl, -⟩⟩
      · obtain ⟨edge, hedge, hend⟩ := hentered node hnode
        exact absurd hend (hfree edge hedge)
      · rw [if_neg (by omega)]
        exact List.mem_singleton_self 0
  · rw [if_neg hnone, mem_unentered]
    obtain ⟨free, hfree⟩ := List.exists_mem_of_ne_nil _ hnone
    obtain ⟨hlt, hfree⟩ := mem_unentered.mp hfree
    refine and_congr_right fun _ => (or_iff_left ?_).symm
    rintro ⟨-, hentered⟩
    obtain ⟨edge, hedge, hend⟩ := hentered free hlt
    exact hfree edge hedge hend

theorem reaches_zero : Reaches n edges 0 node ↔ IsRoot n edges node := by
  constructor
  · rintro ⟨root, hroot, ⟨⟩⟩
    exact hroot
  · intro hroot
    exact ⟨node, hroot, .refl⟩

theorem reaches_succ {length : Nat} : Reaches n edges (length + 1) node ↔
    ∃ before, Reaches n edges length before ∧ (before, node) ∈ edges := by
  constructor
  · rintro ⟨root, hroot, ⟨⟩⟩
    next before hwalk hedge => exact ⟨before, ⟨root, hroot, hwalk⟩, hedge⟩
  · rintro ⟨before, ⟨root, hroot, hwalk⟩, hedge⟩
    exact ⟨root, hroot, hwalk.step hedge⟩

/-! ## What the search has explored -/

/-- Levels are lengths of walks. The roots have the lowest, and from a node that has left the queue
no edge leads beyond the next. -/
structure Search.Explored (n : Nat) (edges : List (Nat × Nat)) (search : Search) : Prop where
  reaches : ∀ node level, search.level? node = some level → Reaches n edges level node
  roots : ∀ node, IsRoot n edges node → search.level? node = some 0
  followed : ∀ node next level, search.level? node = some level → node ∉ search.queue →
    (node, next) ∈ edges → ∃ nextLevel ≤ level + 1, search.level? next = some nextLevel

theorem Search.explored_start : Explored n edges (start n edges) := by
  have hentered : Entered 0 (Layout.roots n edges) ⟨.empty n, []⟩ (start n edges) := entered_start
  have hcases : ∀ {node level}, (start n edges).level? node = some level →
      node ∈ Layout.roots n edges ∧ level = 0 := fun hlevel =>
    (hentered.cases hlevel).resolve_right fun hbefore =>
      absurd hbefore (by simp [Levelling.level?_empty])
  refine ⟨fun node level hlevel => ?_, fun node hroot => ?_,
    fun node next level hlevel hqueue => ?_⟩
  · obtain ⟨hroot, rfl⟩ := hcases hlevel
    exact reaches_zero.mpr (mem_roots_iff.mp hroot)
  · rw [hentered.level?, if_pos (mem_roots_iff.mpr hroot)]
  · -- whatever has a level is in the queue
    rw [hentered.queue] at hqueue
    exact absurd (hcases hlevel).1 (by simpa using hqueue)

theorem Search.Explored.step {search : Search} (hwithin : Within n edges)
    (hqueued : Queued n search) (h : Explored n edges search) :
    Explored n edges (search.step edges) := by
  rcases hqueued.step_cases hwithin with
    ⟨-, hstep⟩ | ⟨first, queue, level, found, hqueue, hlevel, hentered, hfound⟩
  · rwa [hstep]
  have hkept : ∀ {node k}, search.level? node = some k →
      (search.step edges).level? node = some k := fun hk => hentered.level?_of_some hk
  refine ⟨fun node k hk => ?_, fun node hroot => hkept (h.roots node hroot),
    fun node next k hk hout hedge => ?_⟩
  · rcases hentered.cases hk with ⟨hnew, rfl⟩ | hbefore
    · exact reaches_succ.mpr ⟨first, h.reaches first level hlevel, ((hfound node).mp hnew).1⟩
    · exact h.reaches node k hbefore
  · rw [hentered.queue, List.mem_append, not_or] at hout
    have hbefore : search.level? node = some k :=
      (hentered.cases hk).resolve_left fun hnew => hout.2 hnew.1
    by_cases hfirst : node = first
    · -- the node whose edges were followed: what it leads to had a level, or got the next one
      subst hfirst
      obtain rfl : level = k := Option.some.inj (hlevel.symm.trans hbefore)
      cases hnext : search.level? next with
      | none =>
        refine ⟨level + 1, Nat.le_refl _, ?_⟩
        rw [hentered.level?, if_pos ((hfound next).mpr ⟨hedge, hnext⟩)]
      | some nextLevel =>
        have hle := (hqueued.inTurn (by simp [hqueue]) hlevel).highest next nextLevel hnext
        exact ⟨nextLevel, hle, hkept hnext⟩
    · have hgone : node ∉ search.queue := by simpa [hqueue, hfirst] using hout.1
      obtain ⟨nextLevel, hle, hnext⟩ := h.followed node next k hbefore hgone hedge
      exact ⟨nextLevel, hle, hkept hnext⟩

theorem Search.explored_done (hwithin : Within n edges) : Explored n edges (done n edges) := by
  have hboth : Queued n (done n edges) ∧ Explored n edges (done n edges) := by
    refine run_induction (motive := fun search => Queued n search ∧ Explored n edges search) ?_
      ⟨queued_start, explored_start⟩
    rintro search ⟨hqueued, hexplored⟩
    exact ⟨hqueued.step hwithin, hexplored.step hwithin hqueued⟩
  exact hboth.2

/-! ## Distances -/

/-- No walk is shorter than the level of the node to which it leads. -/
theorem exists_level_le (h : Within n edges) {length : Nat} (hwalk : Reaches n edges length node) :
    ∃ level ≤ length, (Search.done n edges).level? node = some level := by
  have hexplored := Search.explored_done h
  induction length generalizing node with
  | zero => exact ⟨0, Nat.le_refl 0, hexplored.roots node (reaches_zero.mp hwalk)⟩
  | succ length ih =>
    obtain ⟨before, hbefore, hedge⟩ := reaches_succ.mp hwalk
    obtain ⟨level, hle, hlevel⟩ := ih hbefore
    have hout : before ∉ (Search.done n edges).queue := by simp [Search.queue_done h]
    obtain ⟨nextLevel, hnext_le, hnext⟩ := hexplored.followed before node level hlevel hout hedge
    exact ⟨nextLevel, by omega, hnext⟩

theorem isDistance_iff (h : Within n edges) {distance : Nat} :
    IsDistance n edges node distance ↔ (Search.done n edges).level? node = some distance := by
  constructor
  · intro hdistance
    obtain ⟨level, hle, hlevel⟩ := exists_level_le h hdistance.1
    have hge : distance ≤ level := hdistance.2 ((Search.explored_done h).reaches node level hlevel)
    rwa [Nat.le_antisymm hge hle]
  · intro hlevel
    refine ⟨(Search.explored_done h).reaches node distance hlevel, fun length hwalk => ?_⟩
    obtain ⟨level, hle, hlevel'⟩ := exists_level_le h hwalk
    obtain rfl : distance = level := Option.some.inj (hlevel.symm.trans hlevel')
    exact hle

theorem reached_iff (h : Within n edges) :
    Reached n edges node ↔ ∃ level, (Search.done n edges).level? node = some level := by
  constructor
  · rintro ⟨length, hwalk⟩
    obtain ⟨level, -, hlevel⟩ := exists_level_le h hwalk
    exact ⟨level, hlevel⟩
  · rintro ⟨level, hlevel⟩
    exact ⟨level, (Search.explored_done h).reaches node level hlevel⟩

/-! ## Levels -/

theorem level_of_isDistance (h : Within n edges) {distance : Nat}
    (hnode : IsDistance n edges node distance) : (levels n edges)[node]? = some distance := by
  have hlevel := (isDistance_iff h).mp hnode
  refine levels_of_level? ?_
  rw [(filled_levelling h).kept node fun hmem => ?_, hlevel]
  simp [unreached, hlevel] at hmem

theorem mem_unreached_iff (h : Within n edges) :
    node ∈ unreached n edges ↔ node < n ∧ ¬ Reached n edges node := by
  rw [reached_iff h, ← Option.ne_none_iff_exists', not_not, unreached, List.mem_filter,
    List.mem_range, decide_eq_true_eq]

/-- There is a root, unless there are no nodes. -/
theorem exists_isRoot (hn : 0 < n) : ∃ root, IsRoot n edges root := by
  have hroots : roots n edges ≠ [] := by
    rw [roots_eq]
    split_ifs with hnone hzero
    · omega
    · simp
    · exact hnone
  obtain ⟨root, hroot⟩ := List.exists_mem_of_ne_nil _ hroots
  exact ⟨root, mem_roots_iff.mp hroot⟩

/-- The last level of the search is the greatest of a reached node. -/
theorem isGreatest_level (h : Within n edges) {deepest : Nat}
    (hdepth : depth (Search.done n edges).levels.reduceOption = deepest + 1) :
    IsGreatest {level | ∃ node, Reached n edges node ∧ (levels n edges)[node]? = some level}
      deepest := by
  constructor
  · obtain ⟨node, hlevel⟩ := Levelling.mem_reduceOption.mp (mem_of_depth_eq hdepth)
    exact ⟨node, (reached_iff h).mpr ⟨deepest, hlevel⟩,
      level_of_isDistance h ((isDistance_iff h).mpr hlevel)⟩
  · rintro level ⟨node, hreached, hlevel⟩
    obtain ⟨distance, hdistance⟩ := (reached_iff h).mp hreached
    rw [level_of_isDistance h ((isDistance_iff h).mpr hdistance), Option.some_inj] at hlevel
    have hlt := lt_depth (Levelling.mem_reduceOption.mpr ⟨node, hdistance⟩)
    omega

/-- Levels by distance from the roots, with the nodes that no walk reaches after all others. -/
structure ShortestLevels (n : Nat) (edges : List (Nat × Nat)) (levels : List Nat) : Prop where
  length : levels.length = n
  reached : ∀ node, Reached n edges node →
    ∃ level, levels[node]? = some level ∧ IsDistance n edges node level
  unreached : 0 < n → ∃ (deepest : Nat) (others : List Nat),
    IsGreatest {level | ∃ node, Reached n edges node ∧ levels[node]? = some level} deepest ∧
      others.Pairwise (· < ·) ∧ (∀ node, node ∈ others ↔ node < n ∧ ¬ Reached n edges node) ∧
        ∀ i node, others[i]? = some node → levels[node]? = some (deepest + 1 + i)

/-- A node that can be reached from a root has its distance as level, and the others follow, each
with a level of its own. -/
theorem levels_shortest (h : Within n edges) : ShortestLevels n edges (levels n edges) where
  length := by rw [levels, List.length_map, (rising_levelling h).length]
  reached node hreached := by
    obtain ⟨distance, hlevel⟩ := (reached_iff h).mp hreached
    have hdistance := (isDistance_iff h).mpr hlevel
    exact ⟨distance, level_of_isDistance h hdistance, hdistance⟩
  unreached hn := by
    obtain ⟨root, hroot⟩ := exists_isRoot hn
    have hlt : 0 < depth (Search.done n edges).levels.reduceOption :=
      lt_depth (Levelling.mem_reduceOption.mpr ⟨root, (Search.explored_done h).roots root hroot⟩)
    obtain ⟨deepest, hdepth⟩ := Nat.exists_eq_succ_of_ne_zero hlt.ne'
    refine ⟨deepest, unreached n edges, isGreatest_level h hdepth,
      List.pairwise_lt_range.filter _, fun node => mem_unreached_iff h, fun i node hnode => ?_⟩
    rw [levels_of_level? ((filled_levelling h).given i node hnode), hdepth]

/-- Two roots and a cycle apart, with an edge that stands twice, one that enters the node it leaves,
and two ways to the third node. -/
theorem levels_shortest_detour :
    Within 6 [(0, 3), (3, 2), (0, 2), (0, 2), (2, 2), (1, 3), (5, 4), (4, 5)] ∧
      ShortestLevels 6 [(0, 3), (3, 2), (0, 2), (0, 2), (2, 2), (1, 3), (5, 4), (4, 5)]
        [0, 0, 1, 1, 2, 3] := by
  have hwithin : Within 6 [(0, 3), (3, 2), (0, 2), (0, 2), (2, 2), (1, 3), (5, 4), (4, 5)] := by
    decide
  have hlevels : levels 6 [(0, 3), (3, 2), (0, 2), (0, 2), (2, 2), (1, 3), (5, 4), (4, 5)]
      = [0, 0, 1, 1, 2, 3] := by decide
  exact ⟨hwithin, hlevels ▸ levels_shortest hwithin⟩

end

end DomainStory.Layout
