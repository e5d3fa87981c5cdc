import Mathlib.Data.List.Basic

/-!
# Facts about lists

What stories, diagrams, layouts and JSON values need to know about lists, and no library says in
this form: what a search, a filter or a traversal comes to, and what a change of single entries
leaves.
-/

namespace List

variable {β γ : Type} {items : List β} {item : β}

/-! ## Searching and filtering -/

/-- A search finds what alone is searched for. -/
theorem find?_eq_some_of_unique {p : β → Bool} (hmem : item ∈ items) (hitem : p item = true)
    (hunique : ∀ other ∈ items, p other = true → other = item) : items.find? p = some item := by
  cases hfind : items.find? p with
  | none => exact absurd hitem (find?_eq_none.mp hfind item hmem)
  | some other => rw [hunique other (mem_of_find?_eq_some hfind) (find?_some hfind)]

/-- A filter that takes all or nothing of each part is a filter of the parts. -/
theorem filter_flatMap_of_const {parts : β → List γ} {p : γ → Bool} {q : β → Bool}
    (h : ∀ item ∈ items, ∀ part ∈ parts item, p part = q item) :
    (items.flatMap parts).filter p = (items.filter q).flatMap parts := by
  induction items with
  | nil => rfl
  | cons first items ih =>
    have hfirst : (parts first).filter p = if q first then parts first else [] := by
      split
      · next hq =>
        refine filter_eq_self.mpr fun part hpart => ?_
        rw [h first mem_cons_self part hpart, hq]
      · next hq =>
        refine filter_eq_nil_iff.mpr fun part hpart => ?_
        rw [h first mem_cons_self part hpart]
        exact hq
    rw [flatMap_cons, filter_append, hfirst,
      ih fun item hitem => h item (mem_cons_of_mem _ hitem), filter_cons]
    split <;> rfl

/-- Counted from a number, the item with an index is found by dropping those before it. -/
theorem filter_zipIdx_snd {n i : Nat} (h : n ≤ i) :
    (items.zipIdx n).filter (fun counted => counted.2 = i)
      = ((items.zipIdx n).drop (i - n)).take 1 := by
  induction items generalizing n with
  | nil => simp
  | cons first items ih =>
    rw [zipIdx_cons]
    rcases Nat.eq_or_lt_of_le h with rfl | hlater
    · -- all others have larger indices
      have hothers : (items.zipIdx (n + 1)).filter (fun counted => counted.2 = n) = [] := by
        refine filter_eq_nil_iff.mpr fun (item, i) hmem => ?_
        have hle := le_snd_of_mem_zipIdx hmem
        simp only [decide_eq_true_eq]
        omega
      simp [hothers]
    · rw [filter_cons_of_neg (by simp; omega), ih hlater,
        show i - n = i - (n + 1) + 1 by omega, drop_succ_cons]

/-! ## Lists that rise -/

section Rising

variable {rank : β → Nat} {n : Nat}

/-- In a list that rises by rank, the items of a rank come next after those below it. -/
theorem filter_lt_succ_of_pairwise (h : items.Pairwise fun a b => rank a ≤ rank b) :
    items.filter (fun item => rank item < n + 1)
      = items.filter (fun item => rank item < n) ++ items.filter fun item => rank item = n := by
  induction items with
  | nil => rfl
  | cons item items ih =>
    obtain ⟨hfirst, hlater⟩ := pairwise_cons.mp h
    have hsplit := ih hlater
    rcases Nat.lt_trichotomy (rank item) n with hlt | heq | hgt
    · rw [filter_cons_of_pos (by simpa using Nat.lt_succ_of_lt hlt),
        filter_cons_of_pos (by simpa using hlt),
        filter_cons_of_neg (by simpa using Nat.ne_of_lt hlt), hsplit, cons_append]
    · -- what follows has the same rank or a higher one
      have hbelow : items.filter (fun item => rank item < n) = [] :=
        filter_eq_nil_iff.mpr fun other hother => by simpa using heq ▸ hfirst other hother
      rw [filter_cons_of_pos (by simp [heq]), filter_cons_of_neg (by simp [heq]),
        filter_cons_of_pos (by simp [heq]), hsplit, hbelow, nil_append, nil_append]
    · rw [filter_cons_of_neg (by simpa using Nat.succ_le_of_lt hgt),
        filter_cons_of_neg (by simpa using Nat.le_of_lt hgt),
        filter_cons_of_neg (by simpa using Nat.ne_of_gt hgt), hsplit]

/-- A list that rises by rank is put together again from the items of each rank. -/
theorem flatten_map_filter_of_pairwise (h : items.Pairwise fun a b => rank a ≤ rank b) :
    ((range n).map fun k => items.filter fun item => rank item = k).flatten
      = items.filter fun item => rank item < n := by
  induction n with
  | zero => simp
  | succ n ih =>
    rw [range_succ, map_append, flatten_append, ih, filter_lt_succ_of_pairwise h]
    simp

end Rising

/-! ## Changing entries -/

/-- The last item is changed alone. -/
theorem modify_length_concat (change : β → β) (before : List β) (last : β) :
    (before ++ [last]).modify before.length change = before ++ [change last] := by
  induction before with
  | nil => rfl
  | cons first before ih => simpa using ih

/-- Items that are put into columns one by one stand in each column in the order in which they
come. -/
theorem getElem?_foldl_modify_concat (place : β → Nat) (columns : List (List β)) (k : Nat) :
    (items.foldl (fun columns item => columns.modify (place item) fun column => column ++ [item])
        columns)[k]?
      = columns[k]?.map (· ++ items.filter fun item => place item = k) := by
  induction items generalizing columns with
  | nil => simp
  | cons item items ih =>
    rw [foldl_cons, ih, getElem?_modify]
    by_cases hplace : place item = k
    · cases columns[k]? <;> simp [hplace]
    · cases columns[k]? <;> simp [hplace]

/-! ## Values that may be missing -/

/-- If every item gives something, the list of it is given. -/
theorem mapM_eq_some_map {f : γ → Option β} {g : γ → β} {items : List γ}
    (h : ∀ item ∈ items, f item = some (g item)) : items.mapM f = some (items.map g) := by
  induction items with
  | nil => rfl
  | cons item items ih =>
    rw [mapM_cons, h item mem_cons_self,
      ih fun other hother => h other (mem_cons_of_mem item hother)]
    rfl

/-- If one item gives nothing, nothing is given. -/
theorem mapM_eq_none_of_mem {f : β → Option γ} (hmem : item ∈ items) (h : f item = none) :
    items.mapM f = none := by
  induction items with
  | nil => exact absurd hmem not_mem_nil
  | cons first items ih =>
    rw [mapM_cons]
    rcases mem_cons.mp hmem with rfl | hrest
    · rw [h]
      rfl
    · rw [ih hrest]
      cases f first <;> rfl

end List
