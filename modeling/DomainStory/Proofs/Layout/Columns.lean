import DomainStory.Layout.Algorithm
import DomainStory.Proofs.Layout.Search
import DomainStory.Proofs.List

/-!
# The columns of a flow layout

The levels of a search rise along the order of discovery and leave no gap. Nodes put into the
columns of their levels therefore leave no column empty, and since they come in the order of their
levels, the columns one after the other are that order (`Layered.toColumned`). So the layout has one
cell for each node, and divides no side by an empty column (`FillsCells`).
-/

namespace DomainStory.Layout

/-! ## Putting nodes into columns -/

section Columns

variable {levels order : List Nat} {level : Nat}

/-- A column gets the nodes of its level, in the order in which they come. -/
theorem columnsOf_eq : columnsOf levels order
    = (List.range (depth levels)).map fun level =>
        order.filter fun node => levels.getD node 0 = level := by
  refine List.ext_getElem? fun level => ?_
  rw [columnsOf, List.getElem?_foldl_modify_concat fun node => levels.getD node 0,
    List.getElem?_replicate, List.getElem?_map]
  by_cases hlevel : level < depth levels
  · rw [if_pos hlevel, List.getElem?_range hlevel]
    rfl
  · rw [if_neg hlevel, List.getElem?_eq_none (by simpa using hlevel)]
    rfl

theorem getElem?_columnsOf (h : level < depth levels) : (columnsOf levels order)[level]?
    = some (order.filter fun node => levels.getD node 0 = level) := by
  rw [columnsOf_eq, List.getElem?_map, List.getElem?_range h]
  rfl

/-- The columns one after the other are the list that was put into them, if it rises by level. -/
theorem flatten_columnsOf (h : order.Pairwise fun a b => levels.getD a 0 ≤ levels.getD b 0)
    (hdepth : ∀ node ∈ order, levels.getD node 0 < depth levels) :
    (columnsOf levels order).flatten = order := by
  rw [columnsOf_eq, List.flatten_map_filter_of_pairwise h]
  exact List.filter_eq_self.mpr fun node hnode => by simpa using hdepth node hnode

end Columns

/-- The levels of the nodes below a bound, an order of these nodes and a table of columns that
belong together: the columns are the order, cut where the level changes. -/
structure Columned (n : Nat) (levels order : List Nat) (columns : List (List Nat)) : Prop where
  length : levels.length = n
  perm : order.Perm (List.range n)
  ascending : order.Pairwise fun a b => levels.getD a 0 ≤ levels.getD b 0
  /-- There is a column for each level up to the highest. -/
  count : columns.length = levels.max?.elim 0 (· + 1)
  filled : ∀ column ∈ columns, column ≠ []
  grouped : ∀ level column, columns[level]? = some column →
    column = order.filter fun node => levels[node]? = some level
  once : ∀ node < n, ∃ level column, levels[node]? = some level ∧ columns[level]? = some column ∧
    column.count node = 1 ∧ columns.flatten.count node = 1
  flatten : columns.flatten = order

/-! ## Levels without a gap -/

/-- The levels of the nodes below a bound, with an order of these nodes by level. Every level up to
the highest is that of some node. -/
structure Layered (n : Nat) (levels order : List Nat) : Prop where
  length : levels.length = n
  perm : order.Perm (List.range n)
  ascending : order.Pairwise fun a b => levels.getD a 0 ≤ levels.getD b 0
  taken : ∀ level < depth levels, ∃ node : Nat, levels[node]? = some level

namespace Layered

variable {n node level : Nat} {levels order column : List Nat}

theorem mem_order (h : Layered n levels order) : node ∈ order ↔ node < n := by
  rw [h.perm.mem_iff, List.mem_range]

theorem nodup (h : Layered n levels order) : order.Nodup := h.perm.nodup_iff.mpr List.nodup_range

theorem getElem?_levels (h : Layered n levels order) (hnode : node < n) :
    levels[node]? = some (levels.getD node 0) := by
  rw [List.getD_eq_getElem?_getD, List.getElem?_eq_getElem (h.length ▸ hnode)]
  rfl

theorem level_lt_depth (h : Layered n levels order) (hnode : node < n) :
    levels.getD node 0 < depth levels :=
  lt_depth (List.mem_of_getElem? (h.getElem?_levels hnode))

theorem flatten (h : Layered n levels order) : (columnsOf levels order).flatten = order :=
  flatten_columnsOf h.ascending fun _ hnode => h.level_lt_depth (h.mem_order.mp hnode)

/-- No column is empty. -/
theorem ne_nil (h : Layered n levels order) (hcolumn : column ∈ columnsOf levels order) :
    column ≠ [] := by
  rw [columnsOf_eq, List.mem_map] at hcolumn
  obtain ⟨level, hlt, rfl⟩ := hcolumn
  obtain ⟨node, hat⟩ := h.taken level (List.mem_range.mp hlt)
  have hnode : node < n := by
    obtain ⟨hlt, -⟩ := List.getElem?_eq_some_iff.mp hat
    exact h.length ▸ hlt
  rw [h.getElem?_levels hnode, Option.some_inj] at hat
  refine List.ne_nil_of_mem (List.mem_filter.mpr ⟨h.mem_order.mpr hnode, ?_⟩)
  exact decide_eq_true hat

theorem grouped (h : Layered n levels order)
    (hcolumn : (columnsOf levels order)[level]? = some column) :
    column = order.filter fun node => levels[node]? = some level := by
  have hlt : level < depth levels := by
    obtain ⟨hlt, -⟩ := List.getElem?_eq_some_iff.mp hcolumn
    simpa [columnsOf_eq] using hlt
  rw [getElem?_columnsOf hlt, Option.some_inj] at hcolumn
  rw [← hcolumn]
  refine List.filter_congr fun node hnode => ?_
  rw [h.getElem?_levels (h.mem_order.mp hnode)]
  exact decide_eq_decide.mpr Option.some_inj.symm

theorem toColumned (h : Layered n levels order) :
    Columned n levels order (columnsOf levels order) where
  length := h.length
  perm := h.perm
  ascending := h.ascending
  count := by simp [columnsOf_eq, depth]
  filled _ hcolumn := h.ne_nil hcolumn
  grouped _ _ hcolumn := h.grouped hcolumn
  once node hnode := by
    have hin : node ∈ order := h.mem_order.mpr hnode
    refine ⟨_, _, h.getElem?_levels hnode, getElem?_columnsOf (h.level_lt_depth hnode), ?_, ?_⟩
    · exact List.count_eq_one_of_mem (h.nodup.filter _) (List.mem_filter.mpr ⟨hin, by simp⟩)
    · rw [h.flatten]
      exact List.count_eq_one_of_mem h.nodup hin
  flatten := h.flatten

end Layered

/-! ## The levels of the search -/

/-- Below a level that was given every level was given. -/
theorem Levelling.Rising.exists_level {n : Nat} {levelling : Levelling} (h : levelling.Rising n)
    {node level lower : Nat} (hnode : levelling.level? node = some level) (hle : lower ≤ level) :
    ∃ other, levelling.level? other = some lower := by
  induction level generalizing node with
  | zero =>
    obtain rfl : lower = 0 := by omega
    exact ⟨node, hnode⟩
  | succ level ih =>
    rcases Nat.lt_or_eq_of_le hle with hlt | rfl
    · obtain ⟨other, hother⟩ := h.gapless node level hnode
      exact ih hother (by omega)
    · exact ⟨node, hnode⟩

section Levels

variable {n : Nat} {edges : List (Nat × Nat)}

theorem length_levels (h : Within n edges) : (levels n edges).length = n := by
  rw [levels, List.length_map, (rising_levelling h).length]

theorem level?_of_levels (h : Within n edges) {node level : Nat}
    (hnode : (levels n edges)[node]? = some level) :
    (levelling n edges).level? node = some level := by
  obtain ⟨hlt, -⟩ := List.getElem?_eq_some_iff.mp hnode
  rw [length_levels h] at hlt
  obtain ⟨given, hgiven⟩ := exists_level h hlt
  rw [← hnode, levels_of_level? hgiven, hgiven]

theorem layered_levels (h : Within n edges) : Layered n (levels n edges) (levelOrder n edges) := by
  have hrising := rising_levelling h
  refine ⟨length_levels h, ?_, ?_, fun level hlevel => ?_⟩
  · refine (List.perm_ext_iff_of_nodup hrising.nodup List.nodup_range).mpr fun node => ?_
    rw [List.mem_range]
    exact ⟨hrising.lt, fun hnode => (hrising.mem_order node).mpr (exists_level h hnode)⟩
  · refine hrising.rising.imp_of_mem fun {a b} ha hb hle => ?_
    obtain ⟨j, hj⟩ := (hrising.mem_order a).mp ha
    obtain ⟨k, hk⟩ := (hrising.mem_order b).mp hb
    rw [List.getD_eq_getElem?_getD, List.getD_eq_getElem?_getD, levels_of_level? hj,
      levels_of_level? hk]
    exact hle j k hj hk
  · -- some node has the highest level, and no level below that is left out
    obtain ⟨highest, hhighest⟩ := Nat.exists_eq_succ_of_ne_zero (Nat.ne_zero_of_lt hlevel)
    obtain ⟨top, htop⟩ := List.mem_iff_getElem?.mp (mem_of_depth_eq hhighest)
    have hle : level ≤ highest := by omega
    obtain ⟨node, hnode⟩ := hrising.exists_level (level?_of_levels h htop) hle
    exact ⟨node, levels_of_level? hnode⟩

end Levels

/-! ## Cells -/

section Places

variable {α : Type} {placed : List (Nat × Point α)} {places : List (Point α)}

theorem length_foldl_set :
    (placed.foldl (fun places (node, place) => places.set node place) places).length
      = places.length := by
  induction placed generalizing places with
  | nil => rfl
  | cons first placed ih => rw [List.foldl_cons, ih, List.length_set]

theorem getElem?_foldl_set_of_notMem {node : Nat} (h : node ∉ placed.map Prod.fst) :
    (placed.foldl (fun places (node, place) => places.set node place) places)[node]?
      = places[node]? := by
  induction placed generalizing places with
  | nil => rfl
  | cons first placed ih =>
    obtain ⟨hne, hlater⟩ := not_or.mp (mt List.mem_cons.mpr h)
    rw [List.foldl_cons, ih hlater, List.getElem?_set_ne (Ne.symm hne)]

/-- Of nodes that are placed once each, every one stands where it was placed. -/
theorem getElem?_foldl_set (hnodup : (placed.map Prod.fst).Nodup)
    (hlt : ∀ node ∈ placed.map Prod.fst, node < places.length) {cell : Nat × Point α}
    (hcell : cell ∈ placed) :
    (placed.foldl (fun places (node, place) => places.set node place) places)[cell.1]?
      = some cell.2 := by
  induction placed generalizing places with
  | nil => exact absurd hcell List.not_mem_nil
  | cons first placed ih =>
    obtain ⟨hnot, hnodup⟩ := List.nodup_cons.mp hnodup
    rw [List.foldl_cons]
    rcases List.mem_cons.mp hcell with rfl | hlater
    · rw [getElem?_foldl_set_of_notMem hnot, List.getElem?_set_self (hlt _ (.head _))]
    · refine ih hnodup (fun node hnode => ?_) hlater
      rw [List.length_set]
      exact hlt node (.tail _ hnode)

end Places

section Cells

variable {α : Type} [Scalar α]

/-- Places that give each of so many nodes the one cell in which it stands. No extent is divided by
the size of an empty column. -/
structure FillsCells (canvas : Canvas α) (n : Nat) (columns : List (List Nat))
    (places : List (Point α)) : Prop where
  length : places.length = n
  once : ((cells canvas columns).map Prod.fst).Perm (List.range n)
  placed : ∀ cell ∈ cells canvas columns, places[cell.1]? = some cell.2
  nonempty : ∀ column ∈ columns, column.length ≠ 0

theorem map_fst_cells (canvas : Canvas α) (columns : List (List Nat)) :
    (cells canvas columns).map Prod.fst = columns.flatten := by
  rw [cells, List.map_flatMap, List.flatMap_def]
  congr 1
  calc columns.zipIdx.map _ = columns.zipIdx.map Prod.fst :=
        List.map_congr_left fun (column, level) _ => by
          rw [List.map_map]
          exact List.zipIdx_map_fst 0 column
    _ = columns := List.zipIdx_map_fst 0 columns

theorem length_byLevel {canvas : Canvas α} {n : Nat} {edges : List (Nat × Nat)} :
    (byLevel canvas n edges).length = n := by
  rw [byLevel, length_foldl_set, List.length_replicate]

theorem fillsCells_byLevel {n : Nat} {edges : List (Nat × Nat)} (h : Within n edges)
    (canvas : Canvas α) : FillsCells canvas n (columns n edges) (byLevel canvas n edges) := by
  have hlayered := layered_levels h
  have hperm : ((cells canvas (columns n edges)).map Prod.fst).Perm (List.range n) := by
    rw [map_fst_cells, columns, hlayered.flatten]
    exact hlayered.perm
  refine ⟨length_byLevel, hperm, fun cell hcell => ?_, fun column hcolumn => ?_⟩
  · refine getElem?_foldl_set (hperm.nodup_iff.mpr List.nodup_range) (fun node hnode => ?_) hcell
    rw [List.length_replicate]
    exact List.mem_range.mp (hperm.mem_iff.mp hnode)
  · rw [ne_eq, List.length_eq_zero_iff]
    exact hlayered.ne_nil hcolumn

end Cells

end DomainStory.Layout

namespace DomainStory

theorem lastIndex?_lt {ids : List String} {id : String} {i : Nat} (h : lastIndex? ids id = some i) :
    i < ids.length := by
  induction ids generalizing i with
  | nil => simp [lastIndex?] at h
  | cons first rest ih =>
    unfold lastIndex? at h
    split at h
    · next later hlater =>
      obtain rfl := Option.some.inj h
      exact Nat.succ_lt_succ (ih hlater)
    · split at h
      · obtain rfl := Option.some.inj h
        exact Nat.succ_pos _
      · exact absurd h (by simp)

/-- The links of a network join its nodes. -/
theorem Network.within_links {α : Type} (network : Network α) :
    Layout.Within network.nodes.length network.links := by
  intro link hlink
  obtain ⟨edge, -, hedge⟩ := List.mem_filterMap.mp hlink
  split at hedge
  · next source target hsource htarget =>
    obtain rfl := Option.some.inj hedge
    rw [← List.length_map NetworkNode.id]
    exact ⟨lastIndex?_lt hsource, lastIndex?_lt htarget⟩
  · exact absurd hedge (by simp)

namespace Layout

/-- Levels form columns without a gap, in the order in which the nodes are found, and the layout by
flow gives each node of a network one cell of them. -/
theorem columned {n : Nat} {edges : List (Nat × Nat)} (h : Within n edges) :
    Columned n (levels n edges) (levelOrder n edges) (columns n edges) ∧
      ∀ {α : Type} [Plane α] (canvas : Canvas α) (network : Network α),
        network.nodes.length = n → network.links = edges →
          FillsCells canvas n (columns n edges) (Algorithm.flow.places canvas network) := by
  refine ⟨(layered_levels h).toColumned, ?_⟩
  rintro α _ canvas network rfl rfl
  exact fillsCells_byLevel h canvas

/-- Two nodes that nothing enters, of which one leads to two others, and a cycle apart. One edge
stands twice, and one enters the node that it leaves. -/
def islands : Network Float where
  nodes := ["Ann", "Ben", "Cy", "Dee", "Eve", "Fay"].map fun id => ⟨id, .origin, ⟨90.0, 70.0⟩⟩
  edges := [⟨"0", "Ann", "Dee"⟩, ⟨"1", "Ann", "Cy"⟩, ⟨"2", "Ann", "Dee"⟩, ⟨"3", "Dee", "Dee"⟩,
    ⟨"4", "Eve", "Fay"⟩, ⟨"5", "Fay", "Eve"⟩]

theorem columned_islands :
    Within 6 islands.links ∧
      Columned 6 [0, 0, 1, 1, 2, 3] [0, 1, 3, 2, 4, 5] [[0, 1], [3, 2], [4], [5]] ∧
      FillsCells Canvas.default 6 [[0, 1], [3, 2], [4], [5]]
        (Algorithm.flow.places Canvas.default islands) := by
  have hwithin : Within 6 islands.links := islands.within_links
  have hlevels : levels 6 islands.links = [0, 0, 1, 1, 2, 3] := by decide
  have horder : levelOrder 6 islands.links = [0, 1, 3, 2, 4, 5] := by decide
  have hcolumns : columns 6 islands.links = [[0, 1], [3, 2], [4], [5]] := by decide
  obtain ⟨hcolumned, hcells⟩ := columned hwithin
  rw [hlevels, horder, hcolumns] at hcolumned
  rw [hcolumns] at hcells
  exact ⟨hwithin, hcolumned, hcells Canvas.default islands rfl rfl⟩

end Layout

end DomainStory
