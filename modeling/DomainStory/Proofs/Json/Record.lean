import Mathlib.Data.List.Basic
import DomainStory.Json.Record
import DomainStory.Proofs.List

/-!
# Records that are read back

What the reader of a record finds in the object that the writer made. As the fields of a record have
different names, each name leads to the one value that was written under it (`record?_obj`). From
there on every field has its own way back: a list comes back when each item does (`list?_ofList`),
and an optional value when the value does, for what is absent is written as null and read as absent
(`optional_ofOption`). A float comes back unless it is not finite (`float?_ofFloat`).
-/

namespace DomainStory.Json

variable {β : Type} {read : Json → Option β} {write : β → Json}

/-! ## Lists of values -/

theorem list?_ofList {items : List β} (h : ∀ item ∈ items, read (write item) = some item) :
    list? read (ofList write items) = some items := by
  calc (items.map write).mapM read
      = items.mapM fun item => read (write item) := List.mapM_map
    _ = some (items.map id) := List.mapM_eq_some_map h
    _ = some items := by rw [List.map_id]

/-! ## Fields -/

/-- Under a name that no other field has, its field is found. -/
theorem filter_name_eq {fields : Fields} {field : String × Json}
    (hnames : (fields.map Prod.fst).Nodup) (hmem : field ∈ fields) :
    (fields.filter fun f => f.1 = field.1) = [field] := by
  induction fields with
  | nil => exact absurd hmem List.not_mem_nil
  | cons first fields ih =>
    rw [List.map_cons, List.nodup_cons] at hnames
    rcases List.mem_cons.mp hmem with rfl | hrest
    · have hothers : (fields.filter fun f => f.1 = field.1) = [] := by
        rw [List.filter_eq_nil_iff]
        intro f hf hsame
        exact hnames.1 (List.mem_map.mpr ⟨f, hf, of_decide_eq_true hsame⟩)
      rw [List.filter_cons_of_pos (by simp), hothers]
    · have hne : first.1 ≠ field.1 := by
        intro hsame
        exact hnames.1 (hsame ▸ List.mem_map.mpr ⟨field, hrest, rfl⟩)
      rw [List.filter_cons_of_neg (by simpa using hne), ih hnames.2 hrest]

/-- An object with just the fields of a record, under different names, gives their values in
order. -/
theorem record?_obj {names : List String} {fields : Fields} (hnames : fields.map Prod.fst = names)
    (hnodup : names.Nodup) : record? names (obj fields) = some (fields.map fun f => some f.2) := by
  subst hnames
  show (fields.map Prod.fst).mapM _ = _
  rw [List.mapM_map]
  apply List.mapM_eq_some_map
  intro field hmem
  rw [Function.comp_apply, filter_name_eq hnodup hmem]

@[simp] theorem required_some (value : Json) : required read (some value) = read value := rfl

/-- What is absent is null, which the reader of the value must not take for a value. -/
theorem optional_ofOption {item : Option β} (hnull : read null = none)
    (h : ∀ value ∈ item, read (write value) = some value) :
    optional read (some (ofOption write item)) = some item := by
  cases item with
  | none => rfl
  | some value =>
    have hvalue : read (write value) = some value := h value rfl
    show optional read (some (write value)) = _
    unfold optional
    split
    · next habsent => exact absurd habsent (by simp)
    · next hwritten =>
      rw [Option.some.inj hwritten, hnull] at hvalue
      exact absurd hvalue (by simp)
    · next written _ hwritten =>
      rw [← Option.some.inj hwritten, hvalue]
      rfl

theorem optional_eq_none {value : Json} (hvalue : value ≠ null) (h : read value = none) :
    optional read (some value) = none := by
  unfold optional
  split
  · next habsent => exact absurd habsent (by simp)
  · next hnull => exact absurd (Option.some.inj hnull) hvalue
  · next written _ hwritten =>
    rw [← Option.some.inj hwritten, h]
    rfl

/-- If some values are read back and all others refused, then so are optional ones. -/
theorem optional_eq_ite {accepts : β → Prop} [DecidablePred accepts] (item : Option β)
    (hnull : read null = none) (hwrite : ∀ value, write value ≠ null)
    (h : ∀ value, read (write value) = if accepts value then some value else none) :
    optional read (some (ofOption write item))
      = if ∀ value ∈ item, accepts value then some item else none := by
  by_cases hall : ∀ value ∈ item, accepts value
  · rw [if_pos hall]
    apply optional_ofOption hnull
    intro value hvalue
    rw [h, if_pos (hall value hvalue)]
  · rw [if_neg hall]
    -- what is absent is no reason to refuse
    obtain ⟨value, rfl, hvalue⟩ : ∃ value, item = some value ∧ ¬ accepts value := by
      simpa using hall
    apply optional_eq_none (hwrite value)
    rw [h, if_neg hvalue]

/-! ## Plain values -/

@[simp] theorem str?_str (s : String) : str? (str s) = some s := rfl

@[simp] theorem nat?_ofNat (n : Nat) : nat? (ofNat n) = some n := rfl

@[simp] theorem optional_str (text : Option String) :
    optional str? (some (ofOption str text)) = some text :=
  optional_ofOption rfl fun s _ => str?_str s

@[simp] theorem optional_nat (n : Option Nat) :
    optional nat? (some (ofOption ofNat n)) = some n :=
  optional_ofOption rfl fun k _ => nat?_ofNat k

/-- A float that is not finite has no form that a float could be read from. -/
theorem float?_ofFloat (x : Float) :
    float? (ofFloat x) = if x.isFinite = true then some x else none := by
  unfold ofFloat
  split <;> rfl

end DomainStory.Json
