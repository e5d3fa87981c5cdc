import DomainStory.Diagram.Codec
import DomainStory.Proofs.Json.Integer
import DomainStory.Proofs.Text.Lowercase
import DomainStory.Proofs.Text.Trim

/-!
# View selectors

A view is asked for by a word, or by the index of a domain. `View.Selects` is the grammar of what
may stand between white space, and `View.read?_eq_ok_iff` says that reading accepts this and nothing
else. What a view is written as selects the view again, be it as plain text, as a JSON value, or as
the JSON text of that value.
-/

namespace DomainStory

namespace View

/-- What asks for a view. Everything is asked for by a word, each letter of which may be a capital,
or by minus one. A domain is asked for by its index below 2^64, after a plus sign or alone. -/
inductive Selects : List Char → View → Prop
  | word {a l l' : Char} (ha : a = 'a' ∨ a = 'A') (hl : l = 'l' ∨ l = 'L')
      (hl' : l' = 'l' ∨ l' = 'L') : Selects [a, l, l'] all
  | minusOne : Selects ['-', '1'] all
  | index {digits : List Char} {i : Nat} (hdigits : Text.Spells digits i) (hi : i < 2 ^ 64) :
      Selects digits (domain i)
  | plusIndex {digits : List Char} {i : Nat} (hdigits : Text.Spells digits i) (hi : i < 2 ^ 64) :
      Selects ('+' :: digits) (domain i)

variable {cs : List Char} {i : Nat} {raw : String} {view : View} {refusal : Refusal}

/-! ## Everything -/

theorem toLower_eq_all_iff : cs.map Char.toLower = ['a', 'l', 'l'] ↔ ∃ a l l', cs = [a, l, l'] ∧
    (a = 'a' ∨ a = 'A') ∧ (l = 'l' ∨ l = 'L') ∧ (l' = 'l' ∨ l' = 'L') := by
  have ha : ∀ c : Char, c.toLower = 'a' ↔ c = 'a' ∨ c = 'A' :=
    fun c => Text.toLower_eq_iff (by decide) rfl
  have hl : ∀ c : Char, c.toLower = 'l' ↔ c = 'l' ∨ c = 'L' :=
    fun c => Text.toLower_eq_iff (by decide) rfl
  simp only [List.map_eq_cons_iff, List.map_eq_nil_iff, ha, hl]
  constructor
  · rintro ⟨a, _, rfl, ha, l, _, rfl, hl, l', _, rfl, hl', rfl⟩
    exact ⟨a, l, l', rfl, ha, hl, hl'⟩
  · rintro ⟨a, l, l', rfl, ha, hl, hl'⟩
    exact ⟨a, _, rfl, ha, l, _, rfl, hl, l', _, rfl, hl', rfl⟩

theorem selects_all_iff :
    Selects cs all ↔ cs.map Char.toLower = ['a', 'l', 'l'] ∨ cs = ['-', '1'] := by
  rw [toLower_eq_all_iff]
  constructor
  · intro h
    cases h with
    | word ha hl hl' => exact .inl ⟨_, _, _, rfl, ha, hl, hl'⟩
    | minusOne => exact .inr rfl
  · rintro (⟨a, l, l', rfl, ha, hl, hl'⟩ | rfl)
    · exact .word ha hl hl'
    · exact .minusOne

/-! ## Domains -/

/-- A plus sign is no digit. -/
theorem plus_ne_of_spells {c : Char} {digits : List Char} (h : Text.Spells (c :: digits) i) :
    c ≠ '+' := by
  rintro rfl
  exact absurd (h.isDigit '+' List.mem_cons_self) (by decide)

theorem readIndex?_eq_some_iff : readIndex? cs = some i ↔
    ∃ digits, (cs = digits ∨ cs = '+' :: digits) ∧ Text.Spells digits i ∧ i < 2 ^ 64 := by
  have hread : ∀ digits, ((Text.natural? digits).filter fun n => n < Nat.pow 2 64) = some i ↔
      Text.Spells digits i ∧ i < 2 ^ 64 := by
    intro digits
    rw [Option.filter_eq_some_iff, Text.natural?_eq_some_iff, decide_eq_true_eq]
    exact Iff.rfl
  unfold readIndex?
  rw [hread]
  split
  · next rest =>
    constructor
    · intro h
      exact ⟨rest, .inr rfl, h⟩
    · rintro ⟨digits, rfl | hplus, hdigits, hi⟩
      · exact absurd rfl (plus_ne_of_spells hdigits)
      · obtain rfl := List.tail_eq_of_cons_eq hplus
        exact ⟨hdigits, hi⟩
  · next hplain =>
    constructor
    · intro h
      exact ⟨cs, .inl rfl, h⟩
    · rintro ⟨digits, rfl | rfl, hdigits, hi⟩
      · exact ⟨hdigits, hi⟩
      · exact absurd rfl (hplain digits)

theorem selects_domain_iff : Selects cs (domain i) ↔ readIndex? cs = some i := by
  rw [readIndex?_eq_some_iff]
  constructor
  · intro h
    cases h with
    | index hdigits hi => exact ⟨cs, .inl rfl, hdigits, hi⟩
    | plusIndex hdigits hi => exact ⟨_, .inr rfl, hdigits, hi⟩
  · rintro ⟨digits, rfl | rfl, hdigits, hi⟩
    · exact .index hdigits hi
    · exact .plusIndex hdigits hi

theorem head_of_readIndex? {c : Char} {rest : List Char} (h : readIndex? (c :: rest) = some i) :
    c.isDigit = true ∨ c = '+' := by
  obtain ⟨digits, rfl | hplus, hdigits, -⟩ := readIndex?_eq_some_iff.mp h
  · exact .inl (hdigits.isDigit c List.mem_cons_self)
  · exact .inr (List.head_eq_of_cons_eq hplus)

/-- No text asks for everything and for a domain. -/
theorem readIndex?_of_selects_all (h : Selects cs all) : readIndex? cs = none := by
  rw [Option.eq_none_iff_forall_ne_some]
  intro i hi
  cases h with
  | word ha =>
    have hhead := head_of_readIndex? hi
    rcases ha with rfl | rfl <;> exact absurd hhead (by decide)
  | minusOne => exact absurd (head_of_readIndex? hi) (by decide)

/-! ## Reading -/

theorem read?_of_selects_all (h : Selects (Text.trim raw.toList) all) : read? raw = .ok all := by
  have hall := selects_all_iff.mp h
  unfold read?
  rw [if_pos (by simpa using hall)]

theorem read?_of_not_all (h : ¬ Selects (Text.trim raw.toList) all) : read? raw =
    match readIndex? (Text.trim raw.toList) with
    | some i => .ok (domain i)
    | none => .error (.invalidView raw) := by
  have hnot := selects_all_iff.not.mp h
  unfold read?
  exact if_neg (by simpa using hnot)

theorem read?_eq_ok_iff : read? raw = .ok view ↔ Selects (Text.trim raw.toList) view := by
  by_cases hall : Selects (Text.trim raw.toList) all
  · rw [read?_of_selects_all hall]
    cases view with
    | all => simp [hall]
    | domain i => simp [selects_domain_iff, readIndex?_of_selects_all hall]
  · rw [read?_of_not_all hall]
    cases view with
    | all => cases readIndex? (Text.trim raw.toList) <;> simp [hall]
    | domain i =>
      rw [selects_domain_iff]
      cases readIndex? (Text.trim raw.toList) <;> simp

theorem eq_invalidView_of_read? (h : read? raw = .error refusal) : refusal = .invalidView raw := by
  unfold read? at h
  dsimp only at h
  split at h
  · exact absurd h (by simp)
  · split at h
    · exact absurd h (by simp)
    · exact (Except.error.inj h).symm

/-- What asks for no view is refused, and answered with the whole text. -/
theorem read?_eq_error_iff : read? raw = .error refusal ↔
    (∀ view, ¬ Selects (Text.trim raw.toList) view) ∧ refusal = .invalidView raw := by
  simp only [← read?_eq_ok_iff]
  cases hread : read? raw with
  | ok view => simp
  | error cause => simp [eq_invalidView_of_read? hread, eq_comm]

/-! ## Writing -/

theorem selects_text (hview : ∀ i ∈ view.index?, i < 2 ^ 64) : Selects view.text.toList view := by
  cases view with
  | all => exact .word (.inl rfl) (.inl rfl) (.inl rfl)
  | domain i =>
    rw [text, Text.natural, String.toList_ofList]
    exact .index (Text.spells_naturalDigits i) (hview i rfl)

theorem trim_text (view : View) : Text.trim view.text.toList = view.text.toList := by
  cases view with
  | all => decide
  | domain i =>
    rw [text, Text.natural, String.toList_ofList]
    exact Text.trimmed_of_isDigit (Text.spells_naturalDigits i).isDigit

/-- The text of a view asks for the view. -/
theorem read?_text (view : View) (hview : ∀ i ∈ view.index?, i < 2 ^ 64) :
    read? view.text = .ok view := by
  rw [read?_eq_ok_iff, trim_text]
  exact selects_text hview

theorem parse?_text_toJson (pretty : Bool) (hview : ∀ i ∈ view.index?, i < 2 ^ 64) :
    Json.parse? (Json.text pretty view.toJson) = some view.toJson := by
  cases view with
  | all => cases pretty <;> rfl
  | domain i => exact Json.parse?_text_int pretty (hview i rfl)

theorem ofJson?_toJson (view : View) : ofJson? view.toJson = some view := by
  cases view with
  | all =>
    have hread : read? "all" = .ok all := read?_text all (by simp [index?])
    have hjson : all.toJson = .str "all" := rfl
    rw [hjson, ofJson?, hread]
  | domain i => rfl

/-- A view is selected by what the grammar says and by nothing else, and each view by the forms that
it is written in. -/
theorem read?_exact :
    (∀ raw view, read? raw = .ok view ↔ Selects (Text.trim raw.toList) view) ∧
      (∀ raw refusal, read? raw = .error refusal ↔
        (∀ view, ¬ Selects (Text.trim raw.toList) view) ∧ refusal = .invalidView raw) ∧
      ∀ view, (∀ i ∈ view.index?, i < 2 ^ 64) →
        read? view.text = .ok view ∧ ofJson? view.toJson = some view ∧
          ∀ pretty, (Json.parse? (Json.text pretty view.toJson)).bind ofJson? = some view := by
  refine ⟨fun raw view => read?_eq_ok_iff, fun raw refusal => read?_eq_error_iff, ?_⟩
  intro view hview
  refine ⟨read?_text view hview, ofJson?_toJson view, fun pretty => ?_⟩
  rw [parse?_text_toJson pretty hview]
  exact ofJson?_toJson view

/-- The largest index is written and read, and a small one is read in an unusual form. -/
theorem read?_exact_largest :
    (∀ i ∈ (domain 18446744073709551615).index?, i < 2 ^ 64) ∧
      read? (domain 18446744073709551615).text = .ok (domain 18446744073709551615) ∧
      read? " +007\n" = .ok (domain 7) := by
  obtain ⟨hreads, -, hwritten⟩ := read?_exact
  have hlargest : ∀ i ∈ (domain 18446744073709551615).index?, i < 2 ^ 64 := by
    simp [index?]
  refine ⟨hlargest, (hwritten _ hlargest).1, (hreads _ _).mpr ?_⟩
  have htrim : Text.trim " +007\n".toList = ['+', '0', '0', '7'] := by decide
  rw [htrim]
  exact .plusIndex ⟨by simp, by simp, by decide⟩ (by decide)

end View

end DomainStory
