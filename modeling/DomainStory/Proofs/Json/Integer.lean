import Mathlib.Data.List.TakeWhile
import DomainStory.Json.Printer
import DomainStory.Json.Reader
import DomainStory.Proofs.Text.Natural

/-!
# Integers as JSON text

A natural number below 2^64 is written as its digits, and the reader takes them back to the number
(`parse?_text_int`). It looks at the first digit twice: a digit starts nothing but a numeral, and
only the numeral of zero may start with a zero (`readWhole_naturalDigits`).
-/

namespace DomainStory.Json

variable {c : Char} {n : Nat}

theorem text_int (pretty : Bool) (n : Nat) : text pretty (.int n) = Text.natural n := by
  have hint : intText n = Text.natural n := by
    unfold intText
    rw [if_neg (by omega)]
    simp
  cases pretty with
  | false =>
    show compact (.int n) = _
    rw [compact, hint]
  | true =>
    show indented 0 (.int n) = _
    rw [indented, hint]

/-! ## The start of a value -/

theorem isSpace_of_isDigit (hc : c.isDigit = true) : isSpace c = false := by
  unfold isSpace
  simp only [Bool.or_eq_false_iff, beq_eq_false_iff_ne]
  refine ⟨⟨⟨?_, ?_⟩, ?_⟩, ?_⟩ <;>
    rintro rfl <;>
    exact absurd hc (by decide)

theorem readValue_of_isDigit (hc : c.isDigit = true) (fuel : Nat) (cs : List Char) :
    readValue (fuel + 1) (c :: cs) = readNumeral false (c :: cs) := by
  have hspace : skipSpace (c :: cs) = c :: cs :=
    List.dropWhile_cons_of_neg (by simp [isSpace_of_isDigit hc])
  rw [readValue, hspace]
  split
  case h_8 => rfl
  all_goals
    next heq =>
      obtain ⟨rfl, -⟩ := List.cons.inj heq
      exact absurd hc (by decide)

/-! ## The numeral -/

theorem takeDigits_naturalDigits (n : Nat) :
    takeDigits (Text.naturalDigits n) = ((Text.naturalDigits n).map Text.digitValue, []) := by
  have hdigits := (Text.spells_naturalDigits n).isDigit
  unfold takeDigits
  rw [List.takeWhile_eq_self_iff.mpr hdigits, List.dropWhile_eq_nil_iff.mpr hdigits]
  rfl

theorem readWhole_naturalDigits (n : Nat) : readWhole (Text.naturalDigits n)
    = some ((Text.naturalDigits n).map Text.digitValue, []) := by
  unfold readWhole
  rw [takeDigits_naturalDigits]
  rcases Nat.eq_zero_or_pos n with rfl | hpos
  · rw [Text.naturalDigits, if_pos (by decide)]
    rfl
  · obtain ⟨d, rest, hdigits, hd, hlt⟩ := Text.naturalDigits_of_pos hpos
    rw [hdigits, List.map_cons, Text.digitValue_digitChar hlt]
    obtain ⟨k, rfl⟩ := Nat.exists_eq_succ_of_ne_zero hd.ne'
    rfl

theorem digitsValue_map (cs : List Char) :
    digitsValue (cs.map Text.digitValue) = Text.placeValue cs := by
  rw [digitsValue, List.foldl_map, Text.placeValue_eq_foldl]

theorem readNumeral_naturalDigits (hn : n < 2 ^ 64) :
    readNumeral false (Text.naturalDigits n) = some (.int n, []) := by
  unfold readNumeral
  rw [readWhole_naturalDigits]
  have hvalue : digitsValue ((Text.naturalDigits n).map Text.digitValue) = n := by
    rw [digitsValue_map]
    exact (Text.spells_naturalDigits n).value
  have hlimit : n < Nat.pow 2 64 := hn
  simp [readFraction, readExponent, Numeral.value, hvalue, hlimit]

/-! ## The whole text -/

theorem parse?_text_int (pretty : Bool) (hn : n < 2 ^ 64) :
    parse? (text pretty (.int n)) = some (.int n) := by
  have hread : read? (Text.natural n) = some (.int n) := by
    unfold read? Text.natural
    rw [String.toList_ofList]
    obtain ⟨c, cs, hdigits⟩ := List.exists_cons_of_ne_nil (Text.spells_naturalDigits n).ne_nil
    have hc : c.isDigit = true :=
      (Text.spells_naturalDigits n).isDigit c (hdigits ▸ List.mem_cons_self)
    have hvalue := readNumeral_naturalDigits hn
    rw [hdigits] at hvalue ⊢
    dsimp only
    rw [readValue_of_isDigit hc, hvalue]
    rfl
  rw [text_int, parse?, hread]
  rfl

end DomainStory.Json
