import Mathlib.Data.List.Basic
import Mathlib.Data.List.Induction
import DomainStory.Table

/-!
# Entries and look-up

No two entries share a key, so that looking a key up finds exactly the value it is listed with
(`get?_eq_some_iff`), and the keys with what is found under them make up the table (`ext_get?`).
Maps over the entries compose, and a map that changes no entry changes nothing.

The table of a list of pairs has the keys in the order in which they first came (`keys_ofList`),
each with the value that it came with last (`get?_ofList`). If no key repeats, the pairs are its
entries (`entries_ofList`).
-/

namespace DomainStory

/-! ## The last place of an item -/

/-- The last place at which an item stands in a list. -/
structure IsLastIndex {β : Type} (items : List β) (item : β) (i : Nat) : Prop where
  getElem? : items[i]? = some item
  last : ∀ j : Nat, items[j]? = some item → j ≤ i

namespace IsLastIndex

variable {β : Type} {items : List β} {item other : β} {i j : Nat}

theorem unique (h : IsLastIndex items item i) (h' : IsLastIndex items item j) : i = j :=
  Nat.le_antisymm (h'.last i h.getElem?) (h.last j h'.getElem?)

theorem head (h : item ∉ items) : IsLastIndex (item :: items) item 0 where
  getElem? := rfl
  last j hj := by
    cases j with
    | zero => exact Nat.le_refl 0
    | succ j =>
      have htail : items[j]? = some item := hj
      exact absurd (List.mem_of_getElem? htail) h

theorem cons (h : IsLastIndex items item i) : IsLastIndex (other :: items) item (i + 1) where
  getElem? := h.getElem?
  last j hj := by
    cases j with
    | zero => exact Nat.zero_le _
    | succ j => exact Nat.succ_le_succ (h.last j hj)

theorem concat_self (items : List β) (item : β) :
    IsLastIndex (items ++ [item]) item items.length where
  getElem? := List.getElem?_concat_length
  last j hj := by
    have hlt : j < (items ++ [item]).length := (List.getElem?_eq_some_iff.mp hj).1
    rw [List.length_append, List.length_singleton] at hlt
    exact Nat.le_of_lt_succ hlt

/-- Another item at the end makes no difference. -/
theorem of_concat (hne : other ≠ item) (h : IsLastIndex (items ++ [other]) item i) :
    IsLastIndex items item i := by
  have hlt : i < items.length := by
    have hle : i < (items ++ [other]).length := (List.getElem?_eq_some_iff.mp h.getElem?).1
    rw [List.length_append, List.length_singleton] at hle
    refine Nat.lt_of_le_of_ne (Nat.le_of_lt_succ hle) ?_
    rintro rfl
    have hend := h.getElem?
    rw [List.getElem?_concat_length] at hend
    exact hne (Option.some.inj hend)
  refine ⟨?_, fun j hj => h.last j ?_⟩
  · rw [← List.getElem?_append_left hlt]
    exact h.getElem?
  · have hlt' : j < items.length := (List.getElem?_eq_some_iff.mp hj).1
    rw [List.getElem?_append_left hlt']
    exact hj

end IsLastIndex

end DomainStory

namespace DomainStory.Table

variable {κ ν μ ρ : Type}

theorem mapEntries_mapEntries (f : κ → ν → μ) (g : κ → μ → ρ) (t : Table κ ν) :
    (t.mapEntries f).mapEntries g = t.mapEntries fun k v => g k (f k v) := by
  apply Table.ext
  simp [mapEntries]

theorem mapEntries_congr {f g : κ → ν → μ} {t : Table κ ν}
    (h : ∀ k v, (k, v) ∈ t.entries → f k v = g k v) : t.mapEntries f = t.mapEntries g := by
  apply Table.ext
  refine List.map_congr_left fun e he => ?_
  rw [h e.1 e.2 he]

theorem mapEntries_eq_self {f : κ → ν → ν} {t : Table κ ν}
    (h : ∀ k v, (k, v) ∈ t.entries → f k v = v) : t.mapEntries f = t := by
  rw [mapEntries_congr (g := fun _ v => v) h]
  apply Table.ext
  simp [mapEntries]

theorem mem_mapEntries {f : κ → ν → μ} {t : Table κ ν} {k : κ} {w : μ} :
    (k, w) ∈ (t.mapEntries f).entries ↔ ∃ v, (k, v) ∈ t.entries ∧ f k v = w := by
  simp only [mapEntries, List.mem_map, Prod.mk.injEq, Prod.exists]
  constructor
  · rintro ⟨k', v, hmem, rfl, rfl⟩
    exact ⟨v, hmem, rfl⟩
  · rintro ⟨v, hmem, rfl⟩
    exact ⟨k, v, hmem, rfl, rfl⟩

theorem mem_keys_of_mem {t : Table κ ν} {k : κ} {v : ν} (h : (k, v) ∈ t.entries) : k ∈ t.keys :=
  List.mem_map.mpr ⟨(k, v), h, rfl⟩

variable [DecidableEq κ]

/-- A key is looked up exactly as it is listed. -/
theorem get?_eq_some_iff {t : Table κ ν} {k : κ} {v : ν} :
    t.get? k = some v ↔ (k, v) ∈ t.entries := by
  obtain ⟨entries, nodup⟩ := t
  simp only [get?, Option.map_eq_some_iff]
  induction entries with
  | nil => simp
  | cons e rest ih =>
    rw [List.map_cons, List.nodup_cons] at nodup
    by_cases hk : e.1 = k
    · -- the first entry has the key, and hence no other has
      have hrest : (k, v) ∉ rest := fun hmem =>
        nodup.1 (List.mem_map.mpr ⟨(k, v), hmem, hk.symm⟩)
      simp only [List.find?_cons, hk, decide_true, List.mem_cons, hrest, or_false]
      constructor
      · rintro ⟨e', he, rfl⟩
        obtain rfl := Option.some.inj he
        exact Prod.ext hk.symm rfl
      · rintro rfl
        exact ⟨_, rfl, rfl⟩
    · have hne : (k, v) ≠ e := by
        rintro rfl
        exact hk rfl
      simp only [List.find?_cons, hk, decide_false, List.mem_cons, hne, false_or]
      exact ih nodup.2

/-- A key is there if something is found under it. -/
theorem mem_keys_iff_exists {t : Table κ ν} {k : κ} : k ∈ t.keys ↔ ∃ v, t.get? k = some v := by
  rw [mem_keys_iff, Option.isSome_iff_exists]

theorem contains_iff {t : Table κ ν} {k : κ} : t.contains k = true ↔ k ∈ t.keys := by
  rw [contains, mem_keys_iff]

/-- Its keys in order and what is found under them make up a table. -/
theorem ext_get? {s t : Table κ ν} (hkeys : s.keys = t.keys) (hget : ∀ k, s.get? k = t.get? k) :
    s = t := by
  have hentries : ∀ t : Table κ ν,
      t.entries.map some = t.keys.map fun k => (t.get? k).map fun v => (k, v) := by
    intro t
    rw [keys, List.map_map]
    refine List.map_congr_left fun e he => ?_
    rw [Function.comp_apply, get?_eq_some_iff.mpr (show (e.1, e.2) ∈ t.entries from he)]
    rfl
  apply Table.ext
  apply List.map_injective_iff.mpr fun _ _ => Option.some.inj
  rw [hentries, hentries, hkeys]
  simp only [hget]

/-- When entries come in one by one, the keys stand in the order in which they first came. -/
theorem keys_foldl {step : Table κ ν → μ → Table κ ν} (key : μ → κ)
    (hstep : ∀ t item, (step t item).keys
      = if key item ∈ t.keys then t.keys else t.keys ++ [key item])
    (items : List μ) (t : Table κ ν) :
    (items.foldl step t).keys
      = t.keys ++ ((items.map key).filter fun k => k ∉ t.keys).eraseDups := by
  induction items generalizing t with
  | nil => simp
  | cons item items ih =>
    rw [List.foldl_cons, ih, hstep, List.map_cons]
    by_cases hmem : key item ∈ t.keys
    · rw [if_pos hmem, List.filter_cons_of_neg (by simpa using hmem)]
    · rw [if_neg hmem, List.filter_cons_of_pos (by simpa using hmem), List.eraseDups_cons,
        List.filter_filter, List.append_assoc, List.singleton_append]
      -- what comes later and is neither there already nor the new key
      congr 3
      refine List.filter_congr fun k _ => ?_
      by_cases hk : k = key item <;> simp [hk]

/-- It makes no difference to this if a key that is there already keeps its entry. -/
theorem keys_foldl_insert_new (key : ν → κ) (values : List ν) (t : Table κ ν) :
    (values.foldl (fun t v => if t.contains (key v) then t else t.insert (key v) v) t).keys
      = t.keys ++ ((values.map key).filter fun k => k ∉ t.keys).eraseDups := by
  refine keys_foldl key (fun t v => ?_) values t
  by_cases hmem : key v ∈ t.keys
  · rw [if_pos (contains_iff.mpr hmem), if_pos hmem]
  · rw [if_neg (by rwa [contains_iff]), keys_insert]

/-! ## Tables of lists -/

theorem keys_ofList (pairs : List (κ × ν)) :
    (ofList pairs).keys = (pairs.map Prod.fst).eraseDups := by
  have hkeys := keys_foldl Prod.fst (fun t p => keys_insert t p.1 p.2) pairs empty
  have hall : ((pairs.map Prod.fst).filter fun k => k ∉ (empty : Table κ ν).keys)
      = pairs.map Prod.fst :=
    List.filter_eq_self.mpr fun k _ => decide_eq_true List.not_mem_nil
  rw [hall] at hkeys
  exact hkeys

/-- Of equal keys the last value counts. -/
theorem get?_ofList {pairs : List (κ × ν)} {k : κ} {i : Nat}
    (h : IsLastIndex (pairs.map Prod.fst) k i) :
    (ofList pairs).get? k = (pairs.map Prod.snd)[i]? := by
  induction pairs using List.reverseRecOn with
  | nil => exact absurd h.getElem? (by simp)
  | append_singleton pairs p ih =>
    have hconcat : ofList (pairs ++ [p]) = (ofList pairs).insert p.1 p.2 := by
      rw [ofList, List.foldl_append]
      rfl
    rw [List.map_append, List.map_singleton] at h ⊢
    rw [hconcat, get?_insert]
    by_cases hk : k = p.1
    · subst hk
      have hend := List.getElem?_concat_length (l := pairs.map Prod.snd) (a := p.2)
      rw [List.length_map] at hend
      rw [if_pos rfl, h.unique (IsLastIndex.concat_self _ _), List.length_map, hend]
    · have hbefore := h.of_concat (Ne.symm hk)
      have hlt : i < (pairs.map Prod.snd).length := by
        rw [List.length_map, ← List.length_map Prod.fst]
        exact (List.getElem?_eq_some_iff.mp hbefore.getElem?).1
      rw [if_neg hk, ih hbefore, List.getElem?_append_left hlt]

/-- Entries under keys of their own are stored one after the other. -/
theorem entries_foldl_insert {pairs : List (κ × ν)} {t : Table κ ν}
    (h : (t.keys ++ pairs.map Prod.fst).Nodup) :
    (pairs.foldl (fun t p => t.insert p.1 p.2) t).entries = t.entries ++ pairs := by
  induction pairs generalizing t with
  | nil => rw [List.foldl_nil, List.append_nil]
  | cons first pairs ih =>
    have hfirst : first.1 ∉ t.keys := fun hmem =>
      (List.nodup_append.mp h).2.2 first.1 hmem first.1 List.mem_cons_self rfl
    have hentries : (t.insert first.1 first.2).entries = t.entries ++ [first] := by
      rw [insert, dif_neg hfirst]
    rw [List.foldl_cons, ih, hentries, List.append_assoc, List.singleton_append]
    rw [keys_insert, if_neg hfirst, List.append_assoc, List.singleton_append]
    exact h

/-- A list of pairs without a repeated key is the list of entries of its table. -/
theorem entries_ofList {pairs : List (κ × ν)} (h : (pairs.map Prod.fst).Nodup) :
    (ofList pairs).entries = pairs :=
  entries_foldl_insert (t := empty) h

end DomainStory.Table
