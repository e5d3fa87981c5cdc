import Mathlib.Data.List.Basic
import DomainStory.Text.Alphanumeric
import DomainStory.Text.Lowercase

/-!
# Case ignored

Two texts are equal ignoring case when `caseless` makes them equal: every character in lower case
by itself, without regard to its neighbours. The lower case of a whole text differs from that on
sigma, but a blank cuts a text in two parts whose lower cases do not depend on each other
(`lowercase_append_blank`).

`lowerWithin` is the lower case that a part of a text has at its place (`lowerAfter_append`). A part
that equals a name character by character, case ignored, is found by the lower case of the name,
once the two small forms of sigma are taken for one (`mergeSigma_lowercase_isInfix`). Without that
it may be missed, because a sigma has another form at its place than in the name alone
(`SigmaClash`). This takes a capital sigma (`SigmaClash.capital`).

`Char.toLower` is the lower case of tags and selectors. It makes the 26 capital letters of ASCII
small and leaves every other character as it is (`toNat_toLower`).
-/

namespace DomainStory.Text

/-! ## Character by character -/

/-- The characters of a text, each in lower case by itself. -/
def caseless (cs : List Char) : List (List Char) := cs.map lowerChar

theorem caseless_cons (c : Char) (cs : List Char) :
    caseless (c :: cs) = lowerChar c :: caseless cs := rfl

theorem caseless_append (cs ds : List Char) : caseless (cs ++ ds) = caseless cs ++ caseless ds :=
  List.map_append

theorem caseless_reverse (cs : List Char) : caseless cs.reverse = (caseless cs).reverse :=
  List.map_reverse

@[simp] theorem length_caseless (cs : List Char) : (caseless cs).length = cs.length :=
  List.length_map _

/-- Two characters are the same ignoring case when they have one lower case. -/
theorem sameIgnoringCase_iff {a b : Char} :
    sameIgnoringCase a b = true ↔ lowerChar a = lowerChar b := by
  simp only [sameIgnoringCase, Bool.or_eq_true, beq_iff_eq, or_iff_right_iff_imp]
  exact congrArg lowerChar

/-! ## ASCII letters -/

theorem toNat_toLower (c : Char) :
    c.toLower.toNat = if 65 ≤ c.toNat ∧ c.toNat ≤ 90 then c.toNat + 32 else c.toNat := by
  unfold Char.toLower
  split
  · next h =>
    have hcapital : 65 ≤ c.toNat ∧ c.toNat ≤ 90 := h
    have hsum : (c.val + ('a'.val - 'A'.val)).toNat = (c.toNat + 32) % 2 ^ 32 :=
      UInt32.toNat_add _ _
    rw [Nat.mod_eq_of_lt (by omega)] at hsum
    rw [if_pos hcapital]
    exact hsum
  · next h =>
    have hother : ¬ (65 ≤ c.toNat ∧ c.toNat ≤ 90) := h
    rw [if_neg hother]

/-- A letter that is made small was the small one already, or was the capital one. -/
theorem toLower_eq_iff {c small capital : Char}
    (hcapital : 65 ≤ capital.toNat ∧ capital.toNat ≤ 90)
    (hsmall : small.toNat = capital.toNat + 32) : c.toLower = small ↔ c = small ∨ c = capital := by
  rw [← Char.toNat_inj, ← Char.toNat_inj, ← Char.toNat_inj, toNat_toLower]
  split <;> omega

/-- A letter that belongs to words when it is small does so as a capital. -/
theorem isWord_of_toLower {c : Char} (h : isWord c.toLower = true) : isWord c = true := by
  by_cases hcapital : 65 ≤ c.toNat ∧ c.toNat ≤ 90
  · have hmem : (0x41, 0x5a) ∈ alphanumericRanges :=
      List.mem_cons_of_mem _ List.mem_cons_self
    have halphanumeric : isAlphanumeric c = true :=
      (CodeRanges.contains_iff alphanumericRanges_ascending _).mpr ⟨_, hmem, hcapital⟩
    rw [isWord, halphanumeric, Bool.or_true]
  · have hsame : c.toLower = c := by
      rw [← Char.toNat_inj, toNat_toLower, if_neg hcapital]
    rwa [hsame] at h

/-! ## A blank between two parts -/

/-- What follows a blank does not count for the case around a character before it. -/
theorem nearestIsCased_append_blank (cs rest : List Char) :
    nearestIsCased (cs ++ ' ' :: rest) = nearestIsCased cs := by
  have hcased : isCased ' ' = false := by decide
  have hignorable : isCaseIgnorable ' ' = false := by decide
  induction cs with
  | nil => simp [nearestIsCased, hcased, hignorable]
  | cons c cs ih =>
    by_cases hc : isCaseIgnorable c = true
    · simpa [nearestIsCased, hc] using ih
    · simp [nearestIsCased, hc]

/-- The lower case of a text that a blank follows is the same as without what follows. -/
theorem lowerAfter_append_blank (before cs rest : List Char) :
    lowerAfter before (cs ++ ' ' :: rest)
      = lowerAfter before cs ++ lowerAfter (cs.reverse ++ before) (' ' :: rest) := by
  induction cs generalizing before with
  | nil => simp [lowerAfter]
  | cons c cs ih =>
    -- a character does not see past the blank
    have hbetween : lowerBetween before c (cs ++ ' ' :: rest) = lowerBetween before c cs := by
      simp [lowerBetween, nearestIsCased_append_blank]
    rw [List.cons_append, lowerAfter, lowerAfter, hbetween, ih]
    simp

/-- The lower case of a text starts with the lower case of the part before a blank. -/
theorem lowercase_append_blank (cs rest : List Char) :
    lowercase cs <+: lowercase (cs ++ ' ' :: rest) := by
  rw [lowercase, lowercase, lowerAfter_append_blank]
  exact List.prefix_append _ _

/-! ## A part at its place -/

/-- The lower case of a part of a text, the characters before it listed nearest first. -/
def lowerWithin (before : List Char) (part after : List Char) : List Char :=
  match part with
  | [] => []
  | c :: part => lowerBetween before c (part ++ after) ++ lowerWithin (c :: before) part after

theorem lowerAfter_append (before part after : List Char) :
    lowerAfter before (part ++ after)
      = lowerWithin before part after ++ lowerAfter (part.reverse ++ before) after := by
  induction part generalizing before with
  | nil => rfl
  | cons c part ih =>
    rw [List.cons_append, lowerAfter, ih, lowerWithin, List.append_assoc, List.reverse_cons,
      List.append_assoc, List.singleton_append]

theorem lowercase_eq_lowerWithin (cs : List Char) : lowercase cs = lowerWithin [] cs [] := by
  have happend := lowerAfter_append [] cs []
  rwa [List.append_nil, lowerAfter, List.append_nil] at happend

/-- The lower case of a text holds the lower case of its parts, each at its place. -/
theorem lowerWithin_isInfix (before part after : List Char) :
    lowerWithin before.reverse part after <:+: lowercase (before ++ part ++ after) := by
  rw [lowercase, List.append_assoc, lowerAfter_append, lowerAfter_append, List.append_nil,
    ← List.append_assoc]
  exact List.infix_append _ _ _

/-! ## The two small forms of sigma -/

/-- The text with both small forms of sigma taken for one. -/
def mergeSigma (cs : List Char) : List Char := cs.map fun c => if c = 'ς' then 'σ' else c

/-- Whether a text has a sigma, other than a small one in final form. -/
def hasSigma (cs : List Char) : Bool := cs.any fun c => lowerChar c = ['σ']

/-- A text holds a name, case ignored, at a place where a sigma has another form than it has in the
name alone. -/
def SigmaClash (name text : List Char) : Prop :=
  ∃ before part after, text = before ++ part ++ after ∧ caseless part = caseless name ∧
    lowerWithin before.reverse part after ≠ lowercase name

theorem lowerChar_sigma : lowerChar 'Σ' = ['σ'] := by decide

theorem lowerBetween_of_ne {c : Char} (h : c ≠ 'Σ') (before after : List Char) :
    lowerBetween before c after = lowerChar c := if_neg h

theorem mergeSigma_append (cs ds : List Char) :
    mergeSigma (cs ++ ds) = mergeSigma cs ++ mergeSigma ds := List.map_append

/-- Up to the form of sigma, the lower case of a character does not depend on its neighbours. -/
theorem mergeSigma_lowerBetween (before : List Char) (c : Char) (after : List Char) :
    mergeSigma (lowerBetween before c after) = mergeSigma (lowerChar c) := by
  by_cases hc : c = 'Σ'
  · subst hc
    rw [lowerChar_sigma, lowerBetween, if_pos rfl]
    split <;> rfl
  · rw [lowerBetween_of_ne hc]

theorem mergeSigma_lowerWithin (before part after : List Char) :
    mergeSigma (lowerWithin before part after) = mergeSigma (caseless part).flatten := by
  induction part generalizing before with
  | nil => rfl
  | cons c part ih =>
    rw [lowerWithin, caseless_cons, List.flatten_cons, mergeSigma_append, mergeSigma_append, ih,
      mergeSigma_lowerBetween]

/-- Without a capital sigma every character is in lower case by itself. -/
theorem lowerWithin_of_notMem {part : List Char} (h : 'Σ' ∉ part) (before after : List Char) :
    lowerWithin before part after = (caseless part).flatten := by
  induction part generalizing before with
  | nil => rfl
  | cons c part ih =>
    rw [List.mem_cons, not_or] at h
    rw [lowerWithin, lowerBetween_of_ne (Ne.symm h.1), ih h.2, caseless_cons, List.flatten_cons]

/-- Whether there is a sigma does not depend on case. -/
theorem hasSigma_congr {cs ds : List Char} (h : caseless cs = caseless ds) :
    hasSigma cs = hasSigma ds := by
  have hcaseless : ∀ cs : List Char, hasSigma cs = (caseless cs).any fun lower => lower = ['σ'] :=
    fun cs => by rw [caseless, List.any_map]; rfl
  rw [hcaseless, hcaseless, h]

theorem hasSigma_of_mem {cs : List Char} (h : 'Σ' ∈ cs) : hasSigma cs = true :=
  List.any_eq_true.mpr ⟨'Σ', h, decide_eq_true lowerChar_sigma⟩

section

variable {name part : List Char} (h : caseless part = caseless name)

include h

/-- At any place a part has the lower case of the name that it equals, case ignored, up to the form
of sigma. -/
theorem mergeSigma_lowerWithin_congr (before after : List Char) :
    mergeSigma (lowerWithin before part after) = mergeSigma (lowercase name) := by
  rw [lowercase_eq_lowerWithin, mergeSigma_lowerWithin, mergeSigma_lowerWithin, h]

/-- Where the lower cases differ, there is a sigma, and a capital one on either side. -/
theorem capital_of_lowerWithin_ne {before after : List Char}
    (hne : lowerWithin before part after ≠ lowercase name) :
    hasSigma name = true ∧ ('Σ' ∈ name ∨ 'Σ' ∈ part) := by
  have hcapital : 'Σ' ∈ name ∨ 'Σ' ∈ part := by
    by_contra hnone
    rw [not_or] at hnone
    apply hne
    rw [lowercase_eq_lowerWithin, lowerWithin_of_notMem hnone.1, lowerWithin_of_notMem hnone.2, h]
  refine ⟨?_, hcapital⟩
  rcases hcapital with hname | hpart
  · exact hasSigma_of_mem hname
  · rw [← hasSigma_congr h]
    exact hasSigma_of_mem hpart

variable {text : List Char} (hpart : part <:+: text)

include hpart

/-- What stands in a text, case ignored, stands in its lower case up to the form of sigma. -/
theorem mergeSigma_lowercase_isInfix :
    mergeSigma (lowercase name) <:+: mergeSigma (lowercase text) := by
  obtain ⟨before, after, rfl⟩ := hpart
  rw [← mergeSigma_lowerWithin_congr h before.reverse after]
  exact (lowerWithin_isInfix before part after).map _

theorem lowercase_isInfix_or_sigmaClash :
    lowercase name <:+: lowercase text ∨ SigmaClash name text := by
  obtain ⟨before, after, rfl⟩ := hpart
  by_cases hsame : lowerWithin before.reverse part after = lowercase name
  · exact .inl (hsame ▸ lowerWithin_isInfix before part after)
  · exact .inr ⟨before, part, after, rfl, h, hsame⟩

end

theorem SigmaClash.capital {name text : List Char} (h : SigmaClash name text) :
    hasSigma name = true ∧ ('Σ' ∈ name ∨ 'Σ' ∈ text) := by
  obtain ⟨before, part, after, rfl, hsame, hne⟩ := h
  obtain ⟨hsigma, hcapital⟩ := capital_of_lowerWithin_ne hsame hne
  exact ⟨hsigma, hcapital.imp_right fun hmem =>
    List.mem_append_left _ (List.mem_append_right _ hmem)⟩

end DomainStory.Text
