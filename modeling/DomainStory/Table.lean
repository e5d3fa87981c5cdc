/-!
# Tables in insertion order

A table maps keys to values and lists its entries in the order in which their keys first came.
Writing to a key that is present keeps its place; a new key goes last. No two entries share a key.

`Table.get?` is the view through which every operation is described.
-/

namespace DomainStory

/-- A finite map whose entries keep the order in which their keys were first inserted. -/
structure Table (κ ν : Type) where
  entries : List (κ × ν)
  nodup : (entries.map Prod.fst).Nodup

namespace Table

variable {κ ν μ : Type}

@[ext] theorem ext {s t : Table κ ν} (h : s.entries = t.entries) : s = t := by
  cases s; cases t; simp_all

def empty : Table κ ν := ⟨[], List.nodup_nil⟩

instance : Inhabited (Table κ ν) := ⟨empty⟩

def keys (t : Table κ ν) : List κ := t.entries.map Prod.fst

def values (t : Table κ ν) : List ν := t.entries.map Prod.snd

def size (t : Table κ ν) : Nat := t.entries.length

def isEmpty (t : Table κ ν) : Bool := t.entries.isEmpty

/-- Applies a function to every entry, keeping keys and order. -/
def mapEntries (f : κ → ν → μ) (t : Table κ ν) : Table κ μ :=
  ⟨t.entries.map fun e => (e.1, f e.1 e.2), by
    have h : (t.entries.map fun e => (e.1, f e.1 e.2)).map Prod.fst = t.entries.map Prod.fst := by
      simp [Function.comp_def]
    rw [h]; exact t.nodup⟩

variable [DecidableEq κ]

def get? (t : Table κ ν) (k : κ) : Option ν :=
  (t.entries.find? fun e => e.1 = k).map Prod.snd

def contains (t : Table κ ν) (k : κ) : Bool := (t.get? k).isSome

/-- Replaces the value of a key that is present; other keys and the order stay as they are. -/
def modify (t : Table κ ν) (k : κ) (f : ν → ν) : Table κ ν :=
  t.mapEntries fun k' v => if k' = k then f v else v

/-- Stores a value: in place when the key is present, else as the last entry. -/
def insert (t : Table κ ν) (k : κ) (v : ν) : Table κ ν :=
  if h : k ∈ t.keys then t.modify k fun _ => v
  else ⟨t.entries ++ [(k, v)], by
    have hnd := t.nodup
    simp only [keys] at h
    simp only [List.map_append, List.map_cons, List.map_nil, List.nodup_append]
    refine ⟨hnd, by simp, ?_⟩
    intro a ha b hb
    rw [List.mem_singleton] at hb
    subst hb
    intro hab
    subst hab
    exact h ha⟩

def erase (t : Table κ ν) (k : κ) : Table κ ν :=
  ⟨t.entries.filter fun e => e.1 ≠ k, by
    exact (List.filter_sublist.map Prod.fst).nodup t.nodup⟩

/-- The table of a list of pairs: each key at the place of its first pair, with its last value. -/
def ofList (pairs : List (κ × ν)) : Table κ ν :=
  pairs.foldl (fun t p => t.insert p.1 p.2) empty

/-! ## The view of each operation -/

/-- Looking a key up after a map over the entries maps the value found. -/
theorem get?_mapEntries (f : κ → ν → μ) (t : Table κ ν) (k : κ) :
    (t.mapEntries f).get? k = (t.get? k).map (f k) := by
  obtain ⟨entries, nodup⟩ := t
  simp only [get?, mapEntries]
  clear nodup
  induction entries with
  | nil => rfl
  | cons e rest ih =>
    simp only [List.map_cons, List.find?_cons]
    by_cases h : e.1 = k
    · subst h; simp
    · simpa [h] using ih

omit [DecidableEq κ] in
@[simp] theorem keys_mapEntries (f : κ → ν → μ) (t : Table κ ν) :
    (t.mapEntries f).keys = t.keys := by
  simp [keys, mapEntries, Function.comp_def]

theorem mem_keys_iff (t : Table κ ν) (k : κ) : k ∈ t.keys ↔ (t.get? k).isSome = true := by
  simp [keys, get?, List.find?_isSome]

theorem get?_modify (t : Table κ ν) (k k' : κ) (f : ν → ν) :
    (t.modify k f).get? k' = if k' = k then (t.get? k).map f else t.get? k' := by
  rw [modify, get?_mapEntries]
  by_cases h : k' = k
  · subst h; simp
  · simp [h]

@[simp] theorem keys_modify (t : Table κ ν) (k : κ) (f : ν → ν) : (t.modify k f).keys = t.keys :=
  keys_mapEntries _ t

theorem get?_insert (t : Table κ ν) (k k' : κ) (v : ν) :
    (t.insert k v).get? k' = if k' = k then some v else t.get? k' := by
  unfold insert
  split
  · next h =>
    rw [get?_modify]
    split
    · obtain ⟨w, hw⟩ := Option.isSome_iff_exists.mp ((mem_keys_iff t k).mp h)
      simp [hw]
    · rfl
  · next h =>
    simp only [get?, List.find?_append]
    by_cases hk : k' = k
    · subst hk
      have hnone : t.entries.find? (fun e => e.1 = k') = none := by
        rw [List.find?_eq_none]
        intro e he hek
        exact h (List.mem_map.mpr ⟨e, he, by simpa using hek⟩)
      simp [hnone]
    · have hk' : ¬ k = k' := fun e => hk e.symm
      simp [hk, hk']

/-- An insertion keeps the keys and appends a key that is new. -/
theorem keys_insert (t : Table κ ν) (k : κ) (v : ν) :
    (t.insert k v).keys = if k ∈ t.keys then t.keys else t.keys ++ [k] := by
  unfold insert
  split
  · simp
  · simp [keys]

theorem get?_erase (t : Table κ ν) (k k' : κ) :
    (t.erase k).get? k' = if k' = k then none else t.get? k' := by
  obtain ⟨entries, nodup⟩ := t
  simp only [get?, erase]
  clear nodup
  induction entries with
  | nil => simp
  | cons e rest ih =>
    by_cases he : e.1 = k
    · simp only [List.filter_cons, he, ne_eq, not_true_eq_false, decide_false, Bool.false_eq_true,
        if_false, List.find?_cons]
      rw [ih]
      by_cases h : k' = k
      · simp [h]
      · have h' : ¬ k = k' := fun e => h e.symm
        simp [h, h']
    · simp only [List.filter_cons, he, ne_eq, not_false_eq_true, decide_true, if_true,
        List.find?_cons]
      by_cases h : e.1 = k'
      · simp [h, h ▸ he]
      · simpa [h] using ih

end Table

end DomainStory
