import DomainStory.Proofs.Geometry.Field
import DomainStory.Proofs.Layout.Places
import DomainStory.Proofs.Layout.Refusal

/-!
# Nodes that stand apart

A grid and a layout by levels cut the area within the margins into columns, and each column into
rows. A node stands in the middle of its cell, which lies within the margins (`Canvas.inside_cell`),
and a place tells the column, and then the row, to which it belongs (`Canvas.column_of_cell`,
`Canvas.row_of_cell`). So two nodes share a place only if they share a cell, and no two do: a grid
has a cell for each number below the number of nodes, and in a layout by levels a cell is an entry
of the table of columns, in which every node stands once.
-/

namespace DomainStory

/-! ## Cells of the canvas -/

namespace Canvas

section

variable {α : Type} [Scalar α]

/-- A place strictly within the margins. -/
structure Inside (canvas : Canvas α) (p : Point α) : Prop where
  left : canvas.padding < p.x
  right : p.x < canvas.size.width - canvas.padding
  top : canvas.padding < p.y
  bottom : p.y < canvas.size.height - canvas.padding

/-- The middle of a cell, where the area within the margins is cut into so many columns, and the
column into so many rows. -/
def cell (canvas : Canvas α) (columns rows column row : Nat) : Point α :=
  ⟨cellCenter canvas.padding (canvas.inner.width / (columns : α)) column,
    cellCenter canvas.padding (canvas.inner.height / (rows : α)) row⟩

end

variable {K : Type} [Field K] [LinearOrder K] [IsStrictOrderedRing K] [Compass K]
  {canvas : Canvas K} {columns rows rows' column column' row row' : Nat}

theorem inside_cell (hwidth : 0 < canvas.inner.width) (hheight : 0 < canvas.inner.height)
    (hcolumn : column < columns) (hrow : row < rows) :
    canvas.Inside (canvas.cell columns rows column row) := by
  obtain ⟨hleft, hright⟩ := cellCenter_between canvas.padding hwidth hcolumn
  obtain ⟨htop, hbottom⟩ := cellCenter_between canvas.padding hheight hrow
  refine ⟨hleft, hright.trans_eq ?_, htop, hbottom.trans_eq ?_⟩
  · rw [inner_width]
    ring
  · rw [inner_height]
    ring

theorem column_of_cell (hwidth : 0 < canvas.inner.width) (hcolumns : 0 < columns)
    (h : canvas.cell columns rows column row = canvas.cell columns rows' column' row') :
    column = column' := by
  have hextent : 0 < canvas.inner.width / columns := div_pos hwidth (Nat.cast_pos.mpr hcolumns)
  exact (cellCenter_strictMono hextent).injective (Point.mk.inj h).1

theorem row_of_cell (hheight : 0 < canvas.inner.height) (hrows : 0 < rows)
    (h : canvas.cell columns rows column row = canvas.cell columns rows column' row') :
    row = row' := by
  have hextent : 0 < canvas.inner.height / rows := div_pos hheight (Nat.cast_pos.mpr hrows)
  exact (cellCenter_strictMono hextent).injective (Point.mk.inj h).2

end Canvas

namespace Layout

/-! ## The grid -/

theorem isLeast_ceilRoot (n : Nat) : IsLeast {k | n ≤ k * k} (ceilRoot n) := by
  unfold ceilRoot
  cases hfind : (List.range (n + 1)).find? fun k => decide (n ≤ k * k) with
  | none =>
    -- the number itself would do
    have hnone := List.find?_eq_none.mp hfind n (List.mem_range.mpr (Nat.lt_succ_self n))
    exact absurd (Nat.le_mul_self n) (by simpa using hnone)
  | some k =>
    obtain ⟨hk, -, hleast⟩ := List.find?_range_eq_some.mp hfind
    refine ⟨by simpa using hk, fun other hother => ?_⟩
    by_contra hlt
    have hless := hleast other (by simpa using hlt)
    simp at hless
    exact absurd hother (by simpa using hless)

theorem ceilRoot_pos {n : Nat} (hn : 0 < n) : 0 < ceilRoot n := by
  have hle : n ≤ ceilRoot n * ceilRoot n := (isLeast_ceilRoot n).1
  exact Nat.pos_of_mul_pos_left (hn.trans_le hle)

/-- There are rows enough for all nodes. -/
theorem div_lt_ceilDiv {n d i : Nat} (hd : 0 < d) (hi : i < n) : i / d < ceilDiv n d := by
  have hle : n ≤ ceilDiv n d * d := by
    have hlt := Nat.lt_div_mul_add (a := n + d - 1) hd
    unfold ceilDiv
    omega
  exact (Nat.div_lt_iff_lt_mul hd).mpr (hi.trans_le hle)

theorem gridPlace_eq_cell {α : Type} [Scalar α] (canvas : Canvas α) (columns rows i : Nat) :
    gridPlace canvas columns rows i = canvas.cell columns rows (i % columns) (i / columns) := rfl

section

variable {K : Type} [Field K] [LinearOrder K] [IsStrictOrderedRing K] [Compass K]
  {canvas : Canvas K} {n : Nat} {edges : List (Nat × Nat)}

theorem inside_of_mem_grid (hwidth : 0 < canvas.inner.width) (hheight : 0 < canvas.inner.height)
    {p : Point K} (hp : p ∈ grid canvas n) : canvas.Inside p := by
  obtain ⟨i, hi, rfl⟩ := List.mem_map.mp hp
  rw [List.mem_range] at hi
  have hcolumns : 0 < ceilRoot n := ceilRoot_pos (Nat.zero_lt_of_lt hi)
  exact Canvas.inside_cell hwidth hheight (Nat.mod_lt i hcolumns) (div_lt_ceilDiv hcolumns hi)

theorem nodup_grid (hwidth : 0 < canvas.inner.width) (hheight : 0 < canvas.inner.height) :
    (grid canvas n).Nodup := by
  refine List.Nodup.map_on (fun i hi j hj hsame => ?_) List.nodup_range
  rw [List.mem_range] at hi hj
  have hcolumns : 0 < ceilRoot n := ceilRoot_pos (Nat.zero_lt_of_lt hi)
  have hrows : 0 < ceilDiv n (ceilRoot n) := Nat.zero_lt_of_lt (div_lt_ceilDiv hcolumns hi)
  rw [gridPlace_eq_cell, gridPlace_eq_cell] at hsame
  -- the remainder and the quotient tell the number
  have hcolumn : i % ceilRoot n = j % ceilRoot n := Canvas.column_of_cell hwidth hcolumns hsame
  rw [hcolumn] at hsame
  have hrow : i / ceilRoot n = j / ceilRoot n := Canvas.row_of_cell hheight hrows hsame
  rw [← Nat.div_add_mod i (ceilRoot n), hrow, hcolumn, Nat.div_add_mod]

end

/-! ## Levels -/

section

variable {α : Type} [Scalar α] {canvas : Canvas α} {n : Nat} {edges : List (Nat × Nat)}

/-- The cell of a node is the entry of the table of columns in which it stands. -/
structure InCell (canvas : Canvas α) (n : Nat) (edges : List (Nat × Nat)) (node level row : Nat)
    (column : List Nat) : Prop where
  level_eq : (levels n edges)[node]? = some level
  column_eq : (columns n edges)[level]? = some column
  row_eq : column[row]? = some node
  place_eq : (byLevel canvas n edges)[node]?
    = some (canvas.cell (Nat.max (columns n edges).length 1) column.length level row)

theorem exists_inCell (h : Within n edges) (canvas : Canvas α) {node : Nat} (hnode : node < n) :
    ∃ level row column, InCell canvas n edges node level row column := by
  obtain ⟨level, column, hlevel, hcolumn, hcount, -⟩ :=
    (layered_levels h).toColumned.once node hnode
  have hmem : node ∈ column := List.count_pos_iff.mp (hcount ▸ Nat.zero_lt_one)
  obtain ⟨row, hrow⟩ := List.mem_iff_getElem?.mp hmem
  refine ⟨level, row, column, hlevel, hcolumn, hrow, ?_⟩
  have hcell : (node, canvas.cell (Nat.max (columns n edges).length 1) column.length level row)
      ∈ cells canvas (columns n edges) := by
    refine List.mem_flatMap.mpr ⟨(column, level), ?_, List.mem_map.mpr ⟨(node, row), ?_, rfl⟩⟩
    · exact List.mk_mem_zipIdx_iff_getElem?.mpr hcolumn
    · exact List.mk_mem_zipIdx_iff_getElem?.mpr hrow
  exact (fillsCells_byLevel h canvas).placed _ hcell

variable {node level row : Nat} {column : List Nat}

theorem InCell.level_lt (h : InCell canvas n edges node level row column) :
    level < Nat.max (columns n edges).length 1 := by
  obtain ⟨hlt, -⟩ := List.getElem?_eq_some_iff.mp h.column_eq
  exact hlt.trans_le (Nat.le_max_left _ _)

theorem InCell.row_lt (h : InCell canvas n edges node level row column) : row < column.length := by
  obtain ⟨hlt, -⟩ := List.getElem?_eq_some_iff.mp h.row_eq
  exact hlt

end

section

variable {K : Type} [Field K] [LinearOrder K] [IsStrictOrderedRing K] [Compass K]
  {canvas : Canvas K} {n : Nat} {edges : List (Nat × Nat)}

/-- Nodes that share a place share an entry of the table. -/
theorem InCell.node_eq {node node' level level' row row' : Nat} {column column' : List Nat}
    (hwidth : 0 < canvas.inner.width) (hheight : 0 < canvas.inner.height)
    (h : InCell canvas n edges node level row column)
    (h' : InCell canvas n edges node' level' row' column')
    (hsame : (byLevel canvas n edges)[node]? = (byLevel canvas n edges)[node']?) :
    node = node' := by
  rw [h.place_eq, h'.place_eq, Option.some_inj] at hsame
  obtain rfl : level = level' :=
    Canvas.column_of_cell hwidth (Nat.zero_lt_of_lt h.level_lt) hsame
  obtain rfl : column = column' := Option.some.inj (h.column_eq.symm.trans h'.column_eq)
  obtain rfl : row = row' := Canvas.row_of_cell hheight (Nat.zero_lt_of_lt h.row_lt) hsame
  exact Option.some.inj (h.row_eq.symm.trans h'.row_eq)

theorem inside_of_mem_byLevel (h : Within n edges) (hwidth : 0 < canvas.inner.width)
    (hheight : 0 < canvas.inner.height) {p : Point K} (hp : p ∈ byLevel canvas n edges) :
    canvas.Inside p := by
  obtain ⟨node, hp⟩ := List.mem_iff_getElem?.mp hp
  have hnode : node < n := by
    obtain ⟨hlt, -⟩ := List.getElem?_eq_some_iff.mp hp
    rwa [length_byLevel] at hlt
  obtain ⟨level, row, column, hcell⟩ := exists_inCell h canvas hnode
  rw [hcell.place_eq, Option.some_inj] at hp
  rw [← hp]
  exact Canvas.inside_cell hwidth hheight hcell.level_lt hcell.row_lt

theorem nodup_byLevel (h : Within n edges) (hwidth : 0 < canvas.inner.width)
    (hheight : 0 < canvas.inner.height) : (byLevel canvas n edges).Nodup := by
  refine List.nodup_iff_injective_getElem.mpr fun ⟨node, hnode⟩ ⟨node', hnode'⟩ hsame => ?_
  have hat : (byLevel canvas n edges)[node]? = (byLevel canvas n edges)[node']? := by
    rw [List.getElem?_eq_getElem hnode, List.getElem?_eq_getElem hnode']
    exact congrArg some hsame
  rw [length_byLevel] at hnode hnode'
  obtain ⟨level, row, column, hcell⟩ := exists_inCell h canvas hnode
  obtain ⟨level', row', column', hcell'⟩ := exists_inCell h canvas hnode'
  exact Fin.ext (hcell.node_eq hwidth hheight hcell' hat)

/-- A node stands in the column of its level, and columns follow each other from left to right. -/
theorem exists_strictMono_byLevel (h : Within n edges) (hwidth : 0 < canvas.inner.width) :
    ∃ column : Nat → K, StrictMono column ∧ ∀ node < n, ∃ level p,
      (levels n edges)[node]? = some level ∧ (byLevel canvas n edges)[node]? = some p ∧
        p.x = column level := by
  have hcolumns : (0 : K) < (Nat.max (columns n edges).length 1 : Nat) :=
    Nat.cast_pos.mpr (Nat.lt_of_lt_of_le Nat.zero_lt_one (Nat.le_max_right _ _))
  refine ⟨Canvas.cellCenter canvas.padding _,
    Canvas.cellCenter_strictMono (div_pos hwidth hcolumns), fun node hnode => ?_⟩
  obtain ⟨level, row, column, hcell⟩ := exists_inCell h canvas hnode
  exact ⟨level, _, hcell.level_eq, hcell.place_eq, rfl⟩

end

end Layout

/-! ## Networks -/

/-- Every node has a place of its own strictly within the margins. -/
structure Spread {α : Type} [Scalar α] (canvas : Canvas α) (network : Network α)
    (places : Table String (Point α)) : Prop where
  keys : places.keys = network.ids
  inside : ∀ id p, places.get? id = some p → canvas.Inside p
  apart : ∀ id id' p, places.get? id = some p → places.get? id' = some p → id = id'

theorem spread_of_layout {α : Type} [Plane α] {algorithm : Algorithm α} {canvas : Canvas α}
    {network : Network α} {places : Table String (Point α)} (hids : network.ids.Nodup)
    (h : algorithm.layout canvas network = .ok places)
    (hinside : ∀ p ∈ algorithm.places canvas network, canvas.Inside p)
    (hnodup : (algorithm.places canvas network).Nodup) : Spread canvas network places where
  keys := Algorithm.keys_of_layout hids h
  inside id p hp := by
    obtain ⟨i, -, hi⟩ := (Algorithm.get?_of_layout hids h).mp hp
    exact hinside p (List.mem_of_getElem? hi)
  apart id id' p hp hp' := by
    obtain ⟨i, hid, hi⟩ := (Algorithm.get?_of_layout hids h).mp hp
    obtain ⟨j, hid', hj⟩ := (Algorithm.get?_of_layout hids h).mp hp'
    -- no place is given twice
    obtain ⟨hlt, -⟩ := List.getElem?_eq_some_iff.mp hi
    obtain rfl : i = j := (List.getElem?_inj hlt hnodup).mp (hi.trans hj.symm)
    exact Option.some.inj (hid.symm.trans hid')

section

variable {K : Type} [Field K] [LinearOrder K] [IsStrictOrderedRing K] [Compass K]

/-- A valid network without repeated identifiers is laid out by a grid and by levels so that its
nodes stand apart, strictly within the margins, and by levels the higher the level of a node, the
farther to the right it stands. -/
theorem Algorithm.spread_grid_and_flow {network : Network K} {canvas : Canvas K}
    (hids : network.ids.Nodup)
    (hends : ∀ edge ∈ network.edges, edge.source ∈ network.ids ∧ edge.target ∈ network.ids)
    (hwidth : 0 < canvas.inner.width) (hheight : 0 < canvas.inner.height) :
    (∃ places, Algorithm.grid.layout canvas network = .ok places ∧ Spread canvas network places) ∧
      ∃ places, Algorithm.flow.layout canvas network = .ok places ∧ Spread canvas network places ∧
        ∃ column : Nat → K, StrictMono column ∧ ∀ (i : Nat) (id : String),
          network.ids[i]? = some id → ∃ level p,
            (Layout.levels network.nodes.length network.links)[i]? = some level ∧
              places.get? id = some p ∧ p.x = column level := by
  have hvalid : network.broken? = none := Network.broken?_eq_none_iff.mpr hends
  have hwithin := network.within_links
  obtain ⟨gridPlaces, hgrid⟩ := Algorithm.grid.exists_layout_of_valid canvas hvalid
  obtain ⟨flowPlaces, hflow⟩ := Algorithm.flow.exists_layout_of_valid canvas hvalid
  refine ⟨⟨gridPlaces, hgrid, ?_⟩, flowPlaces, hflow, ?_, ?_⟩
  · exact spread_of_layout hids hgrid (fun _ hp => Layout.inside_of_mem_grid hwidth hheight hp)
      (Layout.nodup_grid hwidth hheight)
  · exact spread_of_layout hids hflow
      (fun _ hp => Layout.inside_of_mem_byLevel hwithin hwidth hheight hp)
      (Layout.nodup_byLevel hwithin hwidth hheight)
  · obtain ⟨column, hmono, hcolumn⟩ := Layout.exists_strictMono_byLevel hwithin hwidth
    refine ⟨column, hmono, fun i id hid => ?_⟩
    have hi : i < network.nodes.length := by
      obtain ⟨hlt, -⟩ := List.getElem?_eq_some_iff.mp hid
      simpa [Network.ids] using hlt
    obtain ⟨level, p, hlevel, hp, hx⟩ := hcolumn i hi
    exact ⟨level, p, hlevel, (Algorithm.get?_of_layout hids hflow).mpr ⟨i, hid, hp⟩, hx⟩

end

/-- The islands, with rational places. -/
def rationalIslands : Network ℚ where
  nodes := Layout.islands.ids.map fun id => ⟨id, .origin, ⟨90, 70⟩⟩
  edges := Layout.islands.edges

theorem Algorithm.spread_grid_and_flow_islands :
    rationalIslands.ids.Nodup ∧
      (∀ edge ∈ rationalIslands.edges,
        edge.source ∈ rationalIslands.ids ∧ edge.target ∈ rationalIslands.ids) ∧
      (0 : ℚ) < Canvas.default.inner.width ∧ (0 : ℚ) < Canvas.default.inner.height ∧
      (∃ places, Algorithm.grid.layout .default rationalIslands = .ok places ∧
        Spread .default rationalIslands places) ∧
      ∃ places, Algorithm.flow.layout .default rationalIslands = .ok places ∧
        Spread .default rationalIslands places ∧
          ∃ column : Nat → ℚ, StrictMono column ∧ ∀ (i : Nat) (id : String),
            rationalIslands.ids[i]? = some id → ∃ level p,
              [0, 0, 1, 1, 2, 3][i]? = some level ∧ places.get? id = some p ∧
                p.x = column level := by
  have hids : rationalIslands.ids.Nodup := by decide
  have hends : ∀ edge ∈ rationalIslands.edges,
      edge.source ∈ rationalIslands.ids ∧ edge.target ∈ rationalIslands.ids := by decide
  have hwidth : (0 : ℚ) < Canvas.default.inner.width := by
    rw [Canvas.inner_width]
    norm_num [Canvas.default]
  have hheight : (0 : ℚ) < Canvas.default.inner.height := by
    rw [Canvas.inner_height]
    norm_num [Canvas.default]
  have hlevels : Layout.levels rationalIslands.nodes.length rationalIslands.links
      = [0, 0, 1, 1, 2, 3] := by decide
  have hspread := Algorithm.spread_grid_and_flow hids hends hwidth hheight
  rw [hlevels] at hspread
  exact ⟨hids, hends, hwidth, hheight, hspread⟩

end DomainStory
