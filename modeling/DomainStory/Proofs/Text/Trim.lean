import Mathlib.Data.List.Basic
import Mathlib.Data.List.TakeWhile
import DomainStory.Text.Alphanumeric
import DomainStory.Text.Blank

/-!
# Trimmed texts

A text is trimmed when trimming leaves it as it is, which is to say that neither of its ends is
white space (`trimmed_iff`). Trimming always gives a trimmed text (`trimmed_trim`), and white space
that is put around a text is lost again (`trim_append_left`, `trim_append_right`). It takes away
nothing but white space (`exists_append_trim`).
-/

namespace DomainStory.Text

/-- A text without white space at its ends. -/
def Trimmed (cs : List Char) : Prop := trim cs = cs

instance (cs : List Char) : Decidable (Trimmed cs) := inferInstanceAs (Decidable (trim cs = cs))

/-! ## One end at a time

The end of a text is the start of the reversed text, so that each fact on the end of a text comes
from one on its start. -/

theorem trimEnd_eq_reverse (cs : List Char) : trimEnd cs = (trimStart cs.reverse).reverse := rfl

/-- A text that starts with no white space keeps its start. -/
theorem trimStart_of_head {cs : List Char} (h : ∀ c ∈ cs.head?, isBlank c = false) :
    trimStart cs = cs := by
  cases cs with
  | nil => rfl
  | cons c cs =>
    have hc : isBlank c = false := h c rfl
    simp [trimStart, hc]

/-- A text that ends with no white space keeps its end. -/
theorem trimEnd_of_getLast {cs : List Char} (h : ∀ c ∈ cs.getLast?, isBlank c = false) :
    trimEnd cs = cs := by
  rw [trimEnd_eq_reverse, trimStart_of_head, List.reverse_reverse]
  rwa [List.head?_reverse]

/-- No white space is left at the start. -/
theorem head?_trimStart {cs : List Char} {c : Char} (h : c ∈ (trimStart cs).head?) :
    isBlank c = false := by
  induction cs with
  | nil => simp [trimStart] at h
  | cons d cs ih =>
    -- a blank is dropped, and anything else stays and is the start
    by_cases hd : isBlank d = true
    · exact ih (by simpa [trimStart, hd] using h)
    · simp [trimStart, hd] at h
      subst h
      simpa using hd

theorem getLast?_trimEnd {cs : List Char} {c : Char} (h : c ∈ (trimEnd cs).getLast?) :
    isBlank c = false := by
  rw [trimEnd_eq_reverse, List.getLast?_reverse] at h
  exact head?_trimStart h

theorem trimStart_suffix (cs : List Char) : trimStart cs <:+ cs := List.dropWhile_suffix _

theorem prefix_trimEnd (cs : List Char) : trimEnd cs <+: cs := by
  rw [trimEnd_eq_reverse, ← List.reverse_suffix, List.reverse_reverse]
  exact trimStart_suffix _

/-- What is left after the end was trimmed starts like the text did. -/
theorem head?_trimEnd {cs : List Char} {c : Char} (h : c ∈ (trimEnd cs).head?) :
    c ∈ cs.head? := by
  obtain ⟨rest, hrest⟩ := prefix_trimEnd cs
  rw [← hrest]
  cases htrim : trimEnd cs with
  | nil => simp [htrim] at h
  | cons d ds => simpa [htrim] using h

/-! ## Both ends -/

/-- A text is trimmed when it neither starts nor ends with white space. -/
theorem trimmed_iff {cs : List Char} :
    Trimmed cs ↔
      (∀ c ∈ cs.head?, isBlank c = false) ∧ (∀ c ∈ cs.getLast?, isBlank c = false) := by
  constructor
  · intro h
    have htrim : trimEnd (trimStart cs) = cs := h
    refine ⟨fun c hc => ?_, fun c hc => ?_⟩
    · rw [← htrim] at hc
      exact head?_trimStart (head?_trimEnd hc)
    · rw [← htrim] at hc
      exact getLast?_trimEnd hc
  · rintro ⟨hhead, hlast⟩
    show trimEnd (trimStart cs) = cs
    rw [trimStart_of_head hhead, trimEnd_of_getLast hlast]

theorem trimmed_trim (cs : List Char) : Trimmed (trim cs) :=
  trimmed_iff.mpr
    ⟨fun _ hc => head?_trimStart (head?_trimEnd hc), fun _ hc => getLast?_trimEnd hc⟩

theorem trim_isInfix (cs : List Char) : trim cs <:+: cs :=
  (prefix_trimEnd _).isInfix.trans (trimStart_suffix cs).isInfix

theorem mem_of_mem_trim {cs : List Char} {c : Char} (h : c ∈ trim cs) : c ∈ cs :=
  (trimStart_suffix cs).subset ((prefix_trimEnd _).subset h)

/-- Trimming leaves nothing of white space, and something of all else. -/
theorem trim_eq_nil_iff {cs : List Char} : trim cs = [] ↔ ∀ c ∈ cs, isBlank c = true := by
  constructor
  · intro h
    rw [trim, trimEnd_eq_reverse, List.reverse_eq_nil_iff, trimStart,
      List.dropWhile_eq_nil_iff] at h
    -- what is left of the start would begin with a character that is no white space
    have hstart : trimStart cs = [] := by
      cases hleft : trimStart cs with
      | nil => rfl
      | cons c rest =>
        have hfirst : c ∈ (trimStart cs).head? := by simp [hleft]
        have hblank : isBlank c = true := h c (by simp [hleft])
        rw [head?_trimStart hfirst] at hblank
        exact absurd hblank (by simp)
    rwa [trimStart, List.dropWhile_eq_nil_iff] at hstart
  · intro h
    have hstart : trimStart cs = [] := List.dropWhile_eq_nil_iff.mpr h
    rw [trim, hstart]
    rfl

/-- White space before a text is trimmed away. -/
theorem trim_cons_blank {b : Char} (hb : isBlank b = true) (cs : List Char) :
    trim (b :: cs) = trim cs := by
  simp [trim, trimStart, hb]

theorem trim_concat_blank {b : Char} (hb : isBlank b = true) (cs : List Char) :
    trim (cs ++ [b]) = trim cs := by
  induction cs with
  | nil => simp [trim, trimStart, hb]
  | cons c cs ih =>
    by_cases hc : isBlank c = true
    · rw [List.cons_append, trim_cons_blank hc, trim_cons_blank hc, ih]
    · simp [trim, trimStart, trimEnd, hb, hc]

theorem Trimmed.trim_cons {b : Char} {cs : List Char} (h : Trimmed cs) (hb : isBlank b = true) :
    trim (b :: cs) = cs := by
  rw [trim_cons_blank hb]
  exact h

theorem Trimmed.trim_concat {b : Char} {cs : List Char} (h : Trimmed cs)
    (hb : isBlank b = true) : trim (cs ++ [b]) = cs := by
  rw [trim_concat_blank hb]
  exact h

/-- A text between two trimmed texts that are not empty does not matter for trimming. -/
theorem Trimmed.append {cs ds : List Char} (hcs : Trimmed cs) (hds : Trimmed ds)
    (hcs' : cs ≠ []) (hds' : ds ≠ []) (between : List Char) :
    Trimmed (cs ++ between ++ ds) := by
  rw [trimmed_iff] at *
  refine ⟨fun c hc => hcs.1 c ?_, fun c hc => hds.2 c ?_⟩
  · simpa [List.head?_append, hcs'] using hc
  · simpa [List.getLast?_append, hds'] using hc

/-! ## White space and words -/

/-- A code point in one of two tables that have no range in common is not in the other. -/
theorem CodeRanges.contains_eq_false_of_apart {table other : CodeRanges} {bound bound' : Nat}
    (htable : table.ascendingFrom bound = true) (hother : other.ascendingFrom bound' = true)
    (hapart : ∀ r ∈ table, ∀ s ∈ other, r.2 < s.1 ∨ s.2 < r.1) {code : Nat}
    (h : table.contains code = true) : other.contains code = false := by
  obtain ⟨r, hr, hlow, hhigh⟩ := (CodeRanges.contains_iff htable code).mp h
  rw [← Bool.not_eq_true, CodeRanges.contains_iff hother code]
  rintro ⟨s, hs, hlow', hhigh'⟩
  rcases hapart r hr s hs with hbefore | hafter <;> omega

theorem blankRanges_apart :
    ∀ r ∈ blankRanges, ∀ s ∈ alphanumericRanges, r.2 < s.1 ∨ s.2 < r.1 := by
  decide +kernel

/-- White space belongs to no word. -/
theorem isWord_of_isBlank {c : Char} (h : isBlank c = true) : isWord c = false := by
  have hunderscore : c ≠ '_' := by
    rintro rfl
    exact absurd h (by decide)
  have halphanumeric : isAlphanumeric c = false :=
    CodeRanges.contains_eq_false_of_apart blankRanges_ascending alphanumericRanges_ascending
      blankRanges_apart h
  simp [isWord, hunderscore, halphanumeric]

theorem isBlank_of_isDigit {c : Char} (h : c.isDigit = true) : isBlank c = false := by
  have hcode : 0x30 ≤ c.toNat ∧ c.toNat ≤ 0x39 := Char.isDigit_iff_toNat.mp h
  have hdigits : CodeRanges.ascendingFrom 0 [(0x30, 0x39)] = true := rfl
  refine CodeRanges.contains_eq_false_of_apart hdigits blankRanges_ascending (by decide) ?_
  rw [CodeRanges.contains_iff hdigits]
  exact ⟨_, List.mem_cons_self, hcode⟩

theorem trimmed_of_isDigit {cs : List Char} (h : ∀ c ∈ cs, c.isDigit = true) : Trimmed cs :=
  trimmed_iff.mpr ⟨fun c hc => isBlank_of_isDigit (h c (List.mem_of_mem_head? hc)),
    fun c hc => isBlank_of_isDigit (h c (List.mem_of_mem_getLast? hc))⟩

/-! ## White space around a text -/

/-- Nothing but white space. -/
def Blanks (cs : List Char) : Prop := ∀ c ∈ cs, isBlank c = true

instance (cs : List Char) : Decidable (Blanks cs) :=
  decidable_of_iff (cs.all isBlank = true) List.all_eq_true

/-- What is no white space is not among it. -/
theorem Blanks.notMem {cs : List Char} {c : Char} (h : Blanks cs) (hc : isBlank c = false) :
    c ∉ cs := by
  intro hmem
  rw [h c hmem] at hc
  exact absurd hc (by simp)

theorem trim_append_left {before : List Char} (h : Blanks before) (cs : List Char) :
    trim (before ++ cs) = trim cs := by
  induction before with
  | nil => rfl
  | cons b before ih =>
    rw [List.cons_append, trim_cons_blank (h b List.mem_cons_self)]
    exact ih fun c hc => h c (List.mem_cons_of_mem b hc)

theorem trim_append_right {after : List Char} (h : Blanks after) (cs : List Char) :
    trim (cs ++ after) = trim cs := by
  induction after generalizing cs with
  | nil => rw [List.append_nil]
  | cons a after ih =>
    rw [← List.singleton_append, ← List.append_assoc,
      ih fun c hc => h c (List.mem_cons_of_mem a hc)]
    exact trim_concat_blank (h a List.mem_cons_self) cs

/-- What is trimmed away at the end is white space. -/
theorem exists_trimEnd_append (cs : List Char) :
    ∃ after, Blanks after ∧ cs = trimEnd cs ++ after := by
  refine ⟨(cs.reverse.takeWhile isBlank).reverse, fun c hc =>
    List.mem_takeWhile_imp (List.mem_reverse.mp hc), ?_⟩
  rw [trimEnd, ← List.reverse_append, List.takeWhile_append_dropWhile, List.reverse_reverse]

theorem exists_append_trim (cs : List Char) :
    ∃ before after, Blanks before ∧ Blanks after ∧ cs = before ++ trim cs ++ after := by
  obtain ⟨after, hafter, hend⟩ := exists_trimEnd_append (trimStart cs)
  refine ⟨cs.takeWhile isBlank, after, fun c hc => List.mem_takeWhile_imp hc, hafter, ?_⟩
  rw [List.append_assoc, trim, ← hend, trimStart, List.takeWhile_append_dropWhile]

/-- A trimmed text starts with no white space. -/
theorem Trimmed.eq_nil_of_blanks_append {before cs : List Char} (h : Trimmed (before ++ cs))
    (hbefore : Blanks before) : before = [] := by
  cases before with
  | nil => rfl
  | cons b before =>
    have hb : isBlank b = false := (trimmed_iff.mp h).1 b rfl
    rw [hbefore b List.mem_cons_self] at hb
    exact absurd hb (by simp)

theorem Trimmed.eq_nil_of_append_blanks {cs after : List Char} (h : Trimmed (cs ++ after))
    (hafter : Blanks after) : after = [] := by
  rcases List.eq_nil_or_concat' after with hnil | ⟨front, b, rfl⟩
  · exact hnil
  · have hlast : b ∈ (cs ++ (front ++ [b])).getLast? := by
      rw [← List.append_assoc]
      exact List.getLast?_concat
    have hb : isBlank b = false := (trimmed_iff.mp h).2 b hlast
    rw [hafter b (List.mem_append_right front (List.mem_singleton_self b))] at hb
    exact absurd hb (by simp)

/-- The first part of a trimmed text has white space at its end only. -/
theorem Trimmed.left_eq {cs ds : List Char} (h : Trimmed (cs ++ ds)) :
    ∃ gap, Blanks gap ∧ cs = trim cs ++ gap := by
  obtain ⟨before, gap, hbefore, hgap, hcs⟩ := exists_append_trim cs
  rw [hcs, List.append_assoc, List.append_assoc] at h
  rw [h.eq_nil_of_blanks_append hbefore, List.nil_append] at hcs
  exact ⟨gap, hgap, hcs⟩

theorem Trimmed.right_eq {cs ds : List Char} (h : Trimmed (cs ++ ds)) :
    ∃ gap, Blanks gap ∧ ds = gap ++ trim ds := by
  obtain ⟨gap, after, hgap, hafter, hds⟩ := exists_append_trim ds
  rw [hds, ← List.append_assoc] at h
  rw [h.eq_nil_of_append_blanks hafter, List.append_nil] at hds
  exact ⟨gap, hgap, hds⟩

end DomainStory.Text
