import DomainStory.Json.Basic
import DomainStory.Proofs.Table

/-!
# What a merge leaves at a path

A merge is read name by name: under a name the merged object has what the two objects have there,
laid one over the other (`get?_mergeFields`), and the names that only the upper object has come last
(`names_mergeFields`). This needs that no object has two fields of one name (`Unambiguous`), for the
fields of the upper object are laid over the base one after the other.

From one name to a path it is one step more. The upper value may name the path, or replace what was
on the way to it, or leave it alone: `mergedAt` says what is found there in each case.
-/

namespace DomainStory.Json

namespace Fields

variable {fields fields' : Fields} {key : String} {value : Json}

/-- The names of fields, in order. -/
def names (fields : Fields) : List String := fields.map Prod.fst

/-- Fields without a repeated name make up a table. -/
theorem get?_eq_some_iff (h : fields.names.Nodup) :
    fields.get? key = some value ↔ (key, value) ∈ fields :=
  Table.get?_eq_some_iff (t := ⟨fields, h⟩)

theorem mem_names_iff : key ∈ fields.names ↔ (fields.get? key).isSome = true := by
  simp [names, get?, List.find?_isSome]

theorem get?_eq_none_iff : fields.get? key = none ↔ key ∉ fields.names := by
  rw [mem_names_iff, Option.not_isSome_iff_eq_none]

/-- Fields are told apart by their names in order and by what is found under them. -/
theorem ext_get? (h : fields.names.Nodup) (hnames : fields'.names = fields.names)
    (hget : ∀ key, fields'.get? key = fields.get? key) : fields' = fields := by
  have h' : (fields'.map Prod.fst).Nodup := by
    rw [show fields'.map Prod.fst = fields.names from hnames]
    exact h
  have htables : (⟨fields', h'⟩ : Table String Json) = ⟨fields, h⟩ := Table.ext_get? hnames hget
  exact congrArg Table.entries htables

theorem get?_cons (first : String × Json) (rest : Fields) (key : String) :
    get? (first :: rest) key = if first.1 = key then some first.2 else rest.get? key := by
  unfold get?
  rw [List.find?_cons]
  by_cases hfirst : first.1 = key <;> simp [hfirst]

theorem get?_set (fields : Fields) (key key' : String) (value : Json) :
    (fields.set key value).get? key' = if key = key' then some value else fields.get? key' := by
  induction fields with
  | nil => exact get?_cons (key, value) [] key'
  | cons first rest ih =>
    rw [set]
    by_cases hfirst : first.1 = key
    · rw [if_pos hfirst, get?_cons, get?_cons, hfirst]
      split <;> rfl
    · rw [if_neg hfirst, get?_cons, get?_cons, ih]
      -- the first field keeps its name, which is not the one that is set
      by_cases hkey : key = key'
      · rw [if_neg (hkey ▸ hfirst), if_pos hkey, if_pos hkey]
      · rw [if_neg hkey, if_neg hkey]

theorem names_set (fields : Fields) (key : String) (value : Json) :
    (fields.set key value).names
      = if key ∈ fields.names then fields.names else fields.names ++ [key] := by
  induction fields with
  | nil => rfl
  | cons first rest ih =>
    rw [set]
    by_cases hfirst : first.1 = key
    · simp [names, hfirst]
    · have hne : key ≠ first.1 := fun heq => hfirst heq.symm
      have hnames : ∀ rest, names (first :: rest) = first.1 :: names rest := fun _ => rfl
      rw [if_neg hfirst, hnames, hnames, ih]
      simp only [List.mem_cons, hne, false_or]
      split <;> rfl

theorem nodup_names_set (h : fields.names.Nodup) (key : String) (value : Json) :
    (fields.set key value).names.Nodup := by
  rw [names_set]
  split
  · exact h
  · next hkey => exact List.nodup_append.mpr ⟨h, by simp, by grind⟩

theorem mem_set {field : String × Json} (h : field ∈ fields.set key value) :
    field = (key, value) ∨ field ∈ fields := by
  induction fields with
  | nil => exact .inl (List.mem_singleton.mp h)
  | cons first rest ih =>
    rw [set] at h
    split at h
    · exact (List.mem_cons.mp h).imp_right (List.mem_cons_of_mem _)
    · rcases List.mem_cons.mp h with rfl | hlater
      · exact .inr List.mem_cons_self
      · exact (ih hlater).imp_right (List.mem_cons_of_mem _)

end Fields

/-- No object within the value has two fields of one name. -/
inductive Unambiguous : Json → Prop
  | obj {fields : Fields} : fields.names.Nodup →
      (∀ field ∈ fields, Unambiguous field.2) → Unambiguous (obj fields)
  | arr {items : List Json} : (∀ item ∈ items, Unambiguous item) → Unambiguous (arr items)
  | atom {value : Json} : value.isObject = false → value.items? = none → Unambiguous value

@[simp] theorem unambiguous_int (n : Int) : (int n).Unambiguous := .atom rfl rfl

@[simp] theorem unambiguous_float (x : Float) : (float x).Unambiguous := .atom rfl rfl

@[simp] theorem unambiguous_str (s : String) : (str s).Unambiguous := .atom rfl rfl

@[simp] theorem unambiguous_obj_iff {fields : Fields} :
    (obj fields).Unambiguous ↔
      fields.names.Nodup ∧ ∀ field ∈ fields, field.2.Unambiguous := by
  constructor
  · intro h
    cases h with
    | obj hnodup hfields => exact ⟨hnodup, hfields⟩
    | atom hobject => exact absurd hobject (by simp [isObject])
  · rintro ⟨hnodup, hfields⟩
    exact .obj hnodup hfields

@[simp] theorem unambiguous_arr_iff {items : List Json} :
    (arr items).Unambiguous ↔ ∀ item ∈ items, item.Unambiguous := by
  constructor
  · intro h
    cases h with
    | arr hitems => exact hitems
    | atom _ hitems => exact absurd hitems (by simp [items?])
  · exact .arr

/-- What is found under a name is unambiguous in turn. -/
theorem Unambiguous.of_field? {value inner : Json} {key : String} (h : value.Unambiguous)
    (hfield : value.field? key = some inner) : inner.Unambiguous := by
  cases value with
  | obj fields =>
    obtain ⟨hnodup, hfields⟩ := unambiguous_obj_iff.mp h
    exact hfields _ ((Fields.get?_eq_some_iff hnodup).mp hfield)
  | _ => exact absurd hfield (by simp [field?])

/-! ## Merging name by name -/

/-- What two values leave when one is laid over the other, either of them being absent at times. -/
def overlay : Option Json → Option Json → Option Json
  | some base, some upper => some (base.merge upper)
  | none, upper => upper
  | base, none => base

@[simp] theorem overlay_some (base upper : Json) :
    overlay (some base) (some upper) = some (base.merge upper) := rfl

@[simp] theorem overlay_none_left (upper : Option Json) : overlay none upper = upper := by
  cases upper <;> rfl

@[simp] theorem overlay_none_right (base : Option Json) : overlay base none = base := by
  cases base <;> rfl

theorem merge_of_not_object {base upper : Json} (h : upper.isObject = false) :
    base.merge upper = upper := by
  cases upper with
  | obj fields => exact absurd h (by simp [isObject])
  | _ => rfl

theorem field?_of_not_object {value : Json} (h : value.isObject = false) (key : String) :
    value.field? key = none := by
  cases value with
  | obj fields => exact absurd h (by simp [isObject])
  | _ => rfl

theorem merge_obj_obj (base upper : Fields) :
    (obj base).merge (obj upper) = obj (mergeFields base upper) := rfl

/-- Laying one field over a base puts what the two leave under its name. -/
theorem mergeFields_cons (base : Fields) (key : String) (upper : Json) (rest : Fields) :
    ∃ merged, overlay (base.get? key) (some upper) = some merged ∧
      mergeFields base ((key, upper) :: rest) = mergeFields (base.set key merged) rest := by
  cases hget : base.get? key with
  | none => exact ⟨upper, rfl, by rw [mergeFields, hget]⟩
  | some value => exact ⟨value.merge upper, rfl, by rw [mergeFields, hget]⟩

section

variable {upper : Fields} (h : upper.names.Nodup)

include h

/-- Under each name a merge has what the two objects have there, laid one over the other. -/
theorem get?_mergeFields (base : Fields) (key : String) :
    Fields.get? (mergeFields base upper) key = overlay (base.get? key) (upper.get? key) := by
  induction upper generalizing base with
  | nil => exact (overlay_none_right _).symm
  | cons first rest ih =>
    obtain ⟨hfirst, hrest⟩ := List.nodup_cons.mp h
    obtain ⟨merged, hmerged, hcons⟩ := mergeFields_cons base first.1 first.2 rest
    rw [hcons, ih hrest, Fields.get?_set, Fields.get?_cons]
    split
    · next hkey =>
      -- no later field has this name
      rw [← hkey, Fields.get?_eq_none_iff.mpr hfirst, hmerged]
      rfl
    · rfl

/-- The names of the base stay in their places, and new ones come last. -/
theorem names_mergeFields (base : Fields) :
    Fields.names (mergeFields base upper)
      = base.names ++ upper.names.filter fun key => key ∉ base.names := by
  induction upper generalizing base with
  | nil => exact (List.append_nil _).symm
  | cons first rest ih =>
    obtain ⟨hfirst, hrest⟩ := List.nodup_cons.mp h
    obtain ⟨merged, -, hcons⟩ := mergeFields_cons base first.1 first.2 rest
    rw [hcons, ih hrest, Fields.names_set,
      show Fields.names (first :: rest) = first.1 :: Fields.names rest from rfl]
    by_cases hmem : first.1 ∈ base.names
    · rw [if_pos hmem, List.filter_cons_of_neg (by simpa using hmem)]
    · rw [if_neg hmem, List.filter_cons_of_pos (by simpa using hmem), List.append_assoc,
        List.singleton_append]
      -- the name that has come in is no later one
      congr 2
      refine List.filter_congr fun key hkey => ?_
      have hne : key ≠ first.1 := fun heq => hfirst (heq ▸ hkey)
      simp [hne]

theorem nodup_names_mergeFields {base : Fields} (hbase : base.names.Nodup) :
    (Fields.names (mergeFields base upper)).Nodup := by
  rw [names_mergeFields h, List.nodup_append]
  refine ⟨hbase, h.filter _, fun key hkey key' hkey' heq => ?_⟩
  subst heq
  exact absurd hkey (by simpa using List.of_mem_filter hkey')

end

/-- Of a value laid over another, only an object leaves something under a name. -/
theorem field?_merge {upper : Json} (h : upper.Unambiguous) (base : Json) (key : String) :
    (base.merge upper).field? key
      = if upper.isObject then overlay (base.field? key) (upper.field? key) else none := by
  cases upper with
  | obj fields =>
    cases base with
    | obj old => exact get?_mergeFields (unambiguous_obj_iff.mp h).1 old key
    | _ => exact (overlay_none_left _).symm
  | _ => rfl

/-! ## Paths -/

theorem path?_append (value : Json) (way rest : List String) :
    value.path? (way ++ rest) = (value.path? way).bind fun inner => inner.path? rest := by
  induction way generalizing value with
  | nil => rfl
  | cons key way ih =>
    rw [List.cons_append, path?, path?, Option.bind_assoc]
    simp only [ih]

theorem path?_of_not_object {value : Json} (h : value.isObject = false) {path : List String}
    (hpath : path ≠ []) : value.path? path = none := by
  cases path with
  | nil => exact absurd rfl hpath
  | cons key rest => rw [path?, field?_of_not_object h, Option.bind_none]

/-- A value that is no object stands on the way along a path. -/
def Blocks (value : Json) (path : List String) : Prop :=
  ∃ way rest inner, path = way ++ rest ∧ rest ≠ [] ∧ value.path? way = some inner ∧
    inner.isObject = false

theorem not_blocks_nil (value : Json) : ¬ value.Blocks [] := by
  rintro ⟨way, rest, inner, hsplit, hrest, -⟩
  exact hrest (List.append_eq_nil_iff.mp hsplit.symm).2

/-- The way along a path is blocked by the value itself, or further on under the first name. -/
theorem blocks_cons_iff {value : Json} {key : String} {rest : List String} :
    value.Blocks (key :: rest) ↔
      value.isObject = false ∨ ∃ inner, value.field? key = some inner ∧ inner.Blocks rest := by
  constructor
  · rintro ⟨way, after, last, hsplit, hafter, hway, hlast⟩
    cases way with
    | nil =>
      obtain rfl := Option.some.inj hway
      exact .inl hlast
    | cons first way =>
      obtain ⟨rfl, hrest⟩ := List.cons.inj hsplit
      obtain ⟨inner, hfield, hpath⟩ := Option.bind_eq_some_iff.mp hway
      exact .inr ⟨inner, hfield, way, after, last, hrest, hafter, hpath, hlast⟩
  · rintro (hobject | ⟨inner, hfield, way, after, last, rfl, hafter, hway, hlast⟩)
    · exact ⟨[], key :: rest, value, rfl, by simp, rfl, hobject⟩
    · refine ⟨key :: way, after, last, rfl, hafter, ?_, hlast⟩
      rw [path?, hfield, Option.bind_some, hway]

instance decidableBlocks : (value : Json) → (path : List String) → Decidable (value.Blocks path)
  | value, [] => .isFalse value.not_blocks_nil
  | value, key :: rest =>
    match hfield : value.field? key with
    | none => decidable_of_iff (value.isObject = false) (by simp [blocks_cons_iff, hfield])
    | some inner =>
      have := decidableBlocks inner rest
      decidable_of_iff (value.isObject = false ∨ inner.Blocks rest)
        (by simp [blocks_cons_iff, hfield])

/-- Nothing is found beyond a value that is no object. -/
theorem Blocks.path?_eq_none {value : Json} {path : List String} (h : value.Blocks path) :
    value.path? path = none := by
  obtain ⟨way, rest, inner, rfl, hrest, hway, hinner⟩ := h
  rw [path?_append, hway, Option.bind_some, path?_of_not_object hinner hrest]

/-- As long as only objects are on the way, two values are laid one over the other at a path. -/
theorem path?_merge {upper : Json} (h : upper.Unambiguous) (base : Json) {path : List String}
    (hfree : ¬ upper.Blocks path) :
    (base.merge upper).path? path = overlay (base.path? path) (upper.path? path) := by
  induction path generalizing base upper with
  | nil => rfl
  | cons key rest ih =>
    obtain ⟨hobject, hinner⟩ := not_or.mp (mt blocks_cons_iff.mpr hfree)
    rw [path?, path?, path?, field?_merge h, if_pos (by simpa using hobject)]
    cases hfield : upper.field? key with
    | none => simp
    | some inner =>
      cases base.field? key with
      | none => simp
      | some old => exact ih (h.of_field? hfield) old fun hblocks => hinner ⟨inner, hfield, hblocks⟩

/-- What is on the way in the upper value is on the way in the merged one. -/
theorem Blocks.merge {upper : Json} (h : upper.Unambiguous) (base : Json) {path : List String}
    (hblocks : upper.Blocks path) : (base.merge upper).Blocks path := by
  obtain ⟨way, rest, inner, rfl, hrest, hway, hinner⟩ := hblocks
  refine ⟨way, rest, inner, rfl, hrest, ?_, hinner⟩
  have hfree : ¬ upper.Blocks way := fun hblocks => by
    rw [hblocks.path?_eq_none] at hway
    exact absurd hway (by simp)
  rw [path?_merge h base hfree, hway]
  cases base.path? way with
  | none => rfl
  | some old => rw [overlay_some, merge_of_not_object hinner]

/-- What is found at a path when one value is laid over another. -/
structure MergedAt (base upper : Json) (path : List String) : Prop where
  /-- A value that the upper one has there is laid over the one that the base has there. -/
  overlaid : ∀ value old, upper.path? path = some value → base.path? path = some old →
    (base.merge upper).path? path = some (old.merge value)
  /-- Where the base has none, the value is taken as it is. -/
  new : ∀ value, upper.path? path = some value → base.path? path = none →
    (base.merge upper).path? path = some value
  /-- What stood at the path is gone when something on the way to it was replaced. -/
  replaced : upper.path? path = none → upper.Blocks path → (base.merge upper).path? path = none
  /-- Everything else stays. -/
  kept : upper.path? path = none → ¬ upper.Blocks path →
    (base.merge upper).path? path = base.path? path

/-- A value laid over another replaces what it names and nothing else. -/
theorem mergedAt {upper : Json} (h : upper.Unambiguous) (base : Json) (path : List String) :
    MergedAt base upper path := by
  have hnamed : ∀ value, upper.path? path = some value →
      (base.merge upper).path? path = overlay (base.path? path) (some value) := by
    intro value hvalue
    rw [← hvalue]
    refine path?_merge h base fun hblocks => ?_
    rw [hblocks.path?_eq_none] at hvalue
    exact absurd hvalue (by simp)
  exact {
    overlaid := fun value old hvalue hold => by rw [hnamed value hvalue, hold, overlay_some]
    new := fun value hvalue hnone => by rw [hnamed value hvalue, hnone, overlay_none_left]
    replaced := fun _ hblocks => (hblocks.merge h base).path?_eq_none
    kept := fun hnone hfree => by rw [path?_merge h base hfree, hnone, overlay_none_right] }

/-- Settings in two groups. -/
def settings : Json := .obj [
  ("layout", .obj [("padding", .int 150), ("rounds", .int 80)]),
  ("palette", .obj [("flows", .arr [.str "#6366f1", .str "#ef4444"])])]

/-- Overrides that name two settings of one group, and put a single color in place of the other. -/
def overrides : Json := .obj [
  ("layout", .obj [("padding", .int 40), ("columns", .int 3)]), ("palette", .str "#000000")]

theorem unambiguous_overrides : overrides.Unambiguous := by
  simp [overrides, Fields.names]

theorem mergedAt_overrides :
    overrides.Unambiguous ∧
      (settings.merge overrides).path? ["layout", "padding"] = some (.int 40) ∧
      (settings.merge overrides).path? ["layout", "columns"] = some (.int 3) ∧
      (settings.merge overrides).path? ["layout", "rounds"] = some (.int 80) ∧
      (settings.merge overrides).path? ["palette", "flows"] = none := by
  have h := mergedAt unambiguous_overrides settings
  exact ⟨unambiguous_overrides, (h _).overlaid (.int 40) (.int 150) rfl rfl,
    (h _).new (.int 3) rfl rfl, (h _).kept rfl (by decide), (h _).replaced rfl (by decide)⟩

end DomainStory.Json
