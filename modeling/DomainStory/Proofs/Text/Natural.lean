import Mathlib.Data.Nat.Digits.Defs
import DomainStory.Text.Natural

/-!
# Texts of digits and the numbers they spell

A number is read from a text exactly when the text is made of digits, and it is the sum of the
digits, each times the power of ten of its place (`natural?_eq_some_iff`). Many texts spell one
number, as zeros in front do not matter. The one that is written has none there
(`naturalDigits_of_pos`).
-/

namespace DomainStory.Text

/-- The value of digits by their places, of which the last counts once. -/
def placeValue (cs : List Char) : Nat := Nat.ofDigits 10 (cs.reverse.map digitValue)

/-- Digits, at least one, that make up a number. -/
structure Spells (cs : List Char) (n : Nat) : Prop where
  ne_nil : cs ≠ []
  isDigit : ∀ c ∈ cs, c.isDigit = true
  value : placeValue cs = n

variable {cs : List Char} {n : Nat}

theorem placeValue_eq_foldl (cs : List Char) :
    placeValue cs = cs.foldl (fun n c => n * 10 + digitValue c) 0 := by
  rw [placeValue, Nat.ofDigits_eq_foldr, List.foldr_map, List.foldr_reverse]
  simp only [Nat.cast_id, Nat.add_comm, Nat.mul_comm]

theorem natural?_eq_some_iff : natural? cs = some n ↔ Spells cs n := by
  unfold natural?
  rw [← placeValue_eq_foldl]
  constructor
  · intro h
    split at h
    · exact absurd h (by simp)
    · next hdigits =>
      simp only [Bool.or_eq_true, List.isEmpty_iff, Bool.not_eq_true', not_or, Bool.not_eq_false,
        List.all_eq_true] at hdigits
      exact ⟨hdigits.1, hdigits.2, Option.some.inj h⟩
  · rintro ⟨hne, hdigits, rfl⟩
    have hall : cs.all Char.isDigit = true := List.all_eq_true.mpr hdigits
    simp [hne, hall]

theorem spells_naturalDigits (n : Nat) : Spells (naturalDigits n) n :=
  natural?_eq_some_iff.mp (natural?_naturalDigits n)

/-- The first digit written of a positive number is not zero. -/
theorem naturalDigits_of_pos (hn : 0 < n) :
    ∃ d rest, naturalDigits n = digitChar d :: rest ∧ 0 < d ∧ d < 10 := by
  induction n using naturalDigits.induct with
  | case1 n hlt =>
    rw [naturalDigits, if_pos hlt]
    exact ⟨n, [], rfl, hn, hlt⟩
  | case2 n hge ih =>
    obtain ⟨d, rest, hdigits, hd, hd'⟩ := ih (by omega)
    rw [naturalDigits, if_neg hge, hdigits]
    exact ⟨d, rest ++ [digitChar (n % 10)], rfl, hd, hd'⟩

end DomainStory.Text
