import Mathlib.Data.List.Basic
import DomainStory.Proofs.Text.Lowercase
import DomainStory.Proofs.Text.Trim
import DomainStory.Story.NameMatch

/-!
# Names found at the ends of a text

What is found is one of the names (`first?_mem`, `last?_mem`). A name at an end of a text is found
there, provided that it splits no word and that no other name matches the same characters or more
of them (`first?_of_unrivalled`, `last?_of_unrivalled`). In a
text that is a name from end to end, the first name is found that equals the text, case ignored
(`first?_whole`, `last?_whole`).
-/

namespace DomainStory

open Text

namespace NameMatch

/-! ## The longest match -/

theorem longest_mem {ms : List NameMatch} {m : NameMatch} (h : longest ms = some m) : m ∈ ms := by
  induction ms generalizing m with
  | nil => exact absurd h (by simp [longest])
  | cons first rest ih =>
    unfold longest at h
    split at h
    · obtain rfl := Option.some.inj h
      exact List.mem_cons_self
    · next m' hrest =>
      split at h
      · obtain rfl := Option.some.inj h
        exact List.mem_cons_of_mem _ (ih hrest)
      · obtain rfl := Option.some.inj h
        exact List.mem_cons_self

/-- A match that covers more than every other one is the longest. -/
theorem longest_eq_some {ms : List NameMatch} {m : NameMatch} (hm : m ∈ ms)
    (hlonger : ∀ m' ∈ ms, m' = m ∨ m'.covered.length < m.covered.length) :
    longest ms = some m := by
  induction ms with
  | nil => exact absurd hm (by simp)
  | cons first rest ih =>
    have hrest : ∀ m' ∈ rest, m' = m ∨ m'.covered.length < m.covered.length :=
      fun m' hm' => hlonger m' (List.mem_cons_of_mem _ hm')
    unfold longest
    by_cases hmem : m ∈ rest
    · rw [ih hmem hrest]
      rcases hlonger first List.mem_cons_self with rfl | hlt
      · simp
      · simp [hlt]
    · -- the match stands first, and what the others give is shorter
      obtain rfl : m = first := (List.mem_cons.mp hm).resolve_right hmem
      split
      · rfl
      · next m' hm' =>
        have hshorter : m'.covered.length < m.covered.length :=
          (hrest m' (longest_mem hm')).resolve_left fun h => hmem (h ▸ longest_mem hm')
        rw [if_neg (Nat.not_lt.mpr (Nat.le_of_lt hshorter))]

/-- A match is the longest when those before it cover less, and those after it no more. -/
theorem longest_append {front back : List NameMatch} {m : NameMatch}
    (hfront : ∀ m' ∈ front, m'.covered.length < m.covered.length)
    (hback : ∀ m' ∈ back, m'.covered.length ≤ m.covered.length) :
    longest (front ++ m :: back) = some m := by
  induction front with
  | nil =>
    rw [List.nil_append, longest]
    cases hrest : longest back with
    | none => rfl
    | some m' =>
      dsimp only
      rw [if_neg (Nat.not_lt.mpr (hback m' (longest_mem hrest)))]
  | cons first front ih =>
    have hrest := ih fun m' hm' => hfront m' (List.mem_cons_of_mem _ hm')
    rw [List.cons_append, longest, hrest]
    dsimp only
    rw [if_pos (hfront first List.mem_cons_self)]

theorem longest_eq_none_iff {ms : List NameMatch} : longest ms = none ↔ ms = [] := by
  cases ms with
  | nil => simp [longest]
  | cons m rest =>
    simp only [longest, reduceCtorEq, iff_false]
    split
    · simp
    · split <;> simp

/-- The longest match covers more than those before it, and no less than those after it. -/
theorem exists_append_of_longest {ms : List NameMatch} {m : NameMatch} (h : longest ms = some m) :
    ∃ front back, ms = front ++ m :: back ∧
      (∀ m' ∈ front, m'.covered.length < m.covered.length) ∧
        ∀ m' ∈ back, m'.covered.length ≤ m.covered.length := by
  induction ms generalizing m with
  | nil => exact absurd h (by simp [longest])
  | cons first rest ih =>
    unfold longest at h
    split at h
    · next hrest =>
      obtain rfl := Option.some.inj h
      exact ⟨[], rest, rfl, by simp, by simp [longest_eq_none_iff.mp hrest]⟩
    · next later hrest =>
      obtain ⟨front, back, rfl, hfront, hback⟩ := ih hrest
      split at h
      · next hlonger =>
        obtain rfl := Option.some.inj h
        exact ⟨first :: front, back, rfl, List.forall_mem_cons.mpr ⟨hlonger, hfront⟩, hback⟩
      · next hlonger =>
        -- the first match stays, and the longest of the others is no longer
        obtain rfl := Option.some.inj h
        have hlater : later.covered.length ≤ first.covered.length := Nat.not_lt.mp hlonger
        refine ⟨[], front ++ later :: back, rfl, by simp, fun m' hm' => ?_⟩
        rcases List.mem_append.mp hm' with hm' | hm'
        · exact ((hfront m' hm').trans_le hlater).le
        · rcases List.mem_cons.mp hm' with rfl | hm'
          · exact hlater
          · exact (hback m' hm').trans hlater

/-! ## Candidates -/

theorem name_of_atStart? {text : List Char} {name : String} {m : NameMatch}
    (h : atStart? text name = some m) : m.name = name := by
  unfold atStart? at h
  split at h
  · exact absurd h (by simp)
  · split at h
    · exact absurd h (by simp)
    · obtain rfl := Option.some.inj h
      rfl

theorem name_of_atEnd? {text : List Char} {name : String} {m : NameMatch}
    (h : atEnd? text name = some m) : m.name = name := by
  unfold atEnd? at h
  split at h
  · exact absurd h (by simp)
  · split at h
    · exact absurd h (by simp)
    · obtain rfl := Option.some.inj h
      rfl

/-- A name found at the start of a text is one of the names. -/
theorem first?_mem {names : List String} {text : List Char} {m : NameMatch}
    (h : first? names text = some m) : m.name ∈ names := by
  obtain ⟨name, hname, hmatch⟩ := List.mem_filterMap.mp (longest_mem h)
  rw [name_of_atStart? hmatch]
  exact hname

theorem last?_mem {names : List String} {text : List Char} {m : NameMatch}
    (h : last? names text = some m) : m.name ∈ names := by
  obtain ⟨name, hname, hmatch⟩ := List.mem_filterMap.mp (longest_mem h)
  rw [name_of_atEnd? hmatch]
  exact hname

/-- A name is split off a text exactly when the text starts with it, case ignored. -/
theorem splitName_eq_some_iff {name text covered rest : List Char} :
    splitName name text = some (covered, rest) ↔
      text = covered ++ rest ∧ caseless covered = caseless name := by
  induction name generalizing text covered with
  | nil =>
    simp only [splitName, Option.some.injEq, Prod.mk.injEq, caseless, List.map_nil,
      List.map_eq_nil_iff]
    constructor
    · rintro ⟨rfl, rfl⟩
      exact ⟨rfl, rfl⟩
    · rintro ⟨rfl, rfl⟩
      exact ⟨rfl, rfl⟩
  | cons n name ih =>
    cases text with
    | nil =>
      -- nothing is left that a longer name could cover
      simp only [splitName, reduceCtorEq, false_iff, not_and]
      intro hnil
      obtain ⟨rfl, -⟩ := List.append_eq_nil_iff.mp hnil.symm
      simp [caseless]
    | cons c text =>
      simp only [splitName]
      split
      · next hsame =>
        -- the first characters agree, and the rest is split on its own
        rw [sameIgnoringCase_iff] at hsame
        simp only [Option.map_eq_some_iff, Prod.exists, Prod.mk.injEq]
        constructor
        · rintro ⟨covered', rest', hsplit, rfl, rfl⟩
          obtain ⟨rfl, hcaseless⟩ := ih.mp hsplit
          exact ⟨rfl, by simp [caseless_cons, hsame, hcaseless]⟩
        · rintro ⟨htext, hcaseless⟩
          cases covered with
          | nil => simp [caseless] at hcaseless
          | cons d covered =>
            obtain ⟨rfl, rfl⟩ := List.cons.inj htext
            rw [caseless_cons, caseless_cons, List.cons.injEq] at hcaseless
            exact ⟨covered, rest, ih.mpr ⟨rfl, hcaseless.2⟩, rfl, rfl⟩
      · next hsame =>
        -- they differ, so that no part of the text equals the name
        simp only [reduceCtorEq, false_iff, not_and]
        intro htext hcaseless
        cases covered with
        | nil => simp [caseless] at hcaseless
        | cons d covered =>
          obtain ⟨rfl, rfl⟩ := List.cons.inj htext
          rw [caseless_cons, caseless_cons, List.cons.injEq] at hcaseless
          exact hsame (sameIgnoringCase_iff.mpr hcaseless.1)

/-- A match at the start of a text covers what equals the name, case ignored, and splits no word. -/
theorem atStart?_eq_some_iff {text : List Char} {name : String} {m : NameMatch} :
    atStart? text name = some m ↔
      m.name = name ∧ m.before = [] ∧ text = m.covered ++ m.after ∧
        caseless m.covered = caseless name.toList ∧ m.covered ≠ [] ∧
        splitsWord m.covered.getLast? m.after.head? = false := by
  obtain ⟨mname, mbefore, covered, after⟩ := m
  unfold atStart?
  constructor
  · intro h
    split at h
    · exact absurd h (by simp)
    · next covered' rest hsplit =>
      split at h
      · exact absurd h (by simp)
      · next hkept =>
        simp only [Option.some.injEq, NameMatch.mk.injEq] at h
        obtain ⟨rfl, rfl, rfl, rfl⟩ := h
        obtain ⟨htext, hcaseless⟩ := splitName_eq_some_iff.mp hsplit
        simp only [Bool.or_eq_true, not_or, List.isEmpty_iff, Bool.not_eq_true] at hkept
        exact ⟨rfl, rfl, htext, hcaseless, hkept⟩
  · rintro ⟨rfl, rfl, htext, hcaseless, hne, hword⟩
    rw [splitName_eq_some_iff.mpr ⟨htext, hcaseless⟩]
    simp [hne, hword]

/-- At the end of a text everything is the other way round. -/
theorem atEnd?_eq_some_iff {text : List Char} {name : String} {m : NameMatch} :
    atEnd? text name = some m ↔
      m.name = name ∧ m.after = [] ∧ text = m.before ++ m.covered ∧
        caseless m.covered = caseless name.toList ∧ m.covered ≠ [] ∧
        splitsWord m.covered.head? m.before.getLast? = false := by
  obtain ⟨mname, before, covered, mafter⟩ := m
  unfold atEnd?
  constructor
  · intro h
    split at h
    · exact absurd h (by simp)
    · next covered' rest hsplit =>
      split at h
      · exact absurd h (by simp)
      · next hkept =>
        simp only [Option.some.injEq, NameMatch.mk.injEq] at h
        obtain ⟨rfl, rfl, rfl, rfl⟩ := h
        obtain ⟨htext, hcaseless⟩ := splitName_eq_some_iff.mp hsplit
        rw [caseless_reverse] at hcaseless
        simp only [Bool.or_eq_true, not_or, List.isEmpty_iff, Bool.not_eq_true] at hkept
        refine ⟨rfl, rfl, ?_, ?_, by simpa using hkept.1, by simpa using hkept.2⟩
        · rw [← List.reverse_append, ← htext, List.reverse_reverse]
        · rw [caseless_reverse, hcaseless, List.reverse_reverse]
  · rintro ⟨rfl, rfl, rfl, hcaseless, hne, hword⟩
    have hsplit : splitName mname.toList.reverse (before ++ covered).reverse
        = some (covered.reverse, before.reverse) := by
      refine splitName_eq_some_iff.mpr ⟨List.reverse_append, ?_⟩
      rw [caseless_reverse, caseless_reverse, hcaseless]
    rw [hsplit]
    simp [hne, hword]

/-- A name has as many characters as what it covers. -/
theorem name_ne_empty {name : String} {covered : List Char}
    (hcaseless : caseless covered = caseless name.toList) (hne : covered ≠ []) : name ≠ "" := by
  rintro rfl
  exact hne (by simpa [caseless] using hcaseless)

/-- What is found at the start of a text is a match of its own name there. -/
theorem atStart?_of_first? {names : List String} {text : List Char} {m : NameMatch}
    (h : first? names text = some m) : atStart? text m.name = some m := by
  obtain ⟨name, -, hmatch⟩ := List.mem_filterMap.mp (longest_mem h)
  rwa [name_of_atStart? hmatch]

theorem atEnd?_of_last? {names : List String} {text : List Char} {m : NameMatch}
    (h : last? names text = some m) : atEnd? text m.name = some m := by
  obtain ⟨name, -, hmatch⟩ := List.mem_filterMap.mp (longest_mem h)
  rwa [name_of_atEnd? hmatch]

/-- What is found at the start of a text covers its start. -/
theorem first?_covered {names : List String} {text : List Char} {m : NameMatch}
    (h : first? names text = some m) :
    m.name ≠ "" ∧ text = m.covered ++ m.after ∧ caseless m.covered = caseless m.name.toList := by
  obtain ⟨-, -, htext, hcaseless, hne, -⟩ := atStart?_eq_some_iff.mp (atStart?_of_first? h)
  exact ⟨name_ne_empty hcaseless hne, htext, hcaseless⟩

theorem last?_covered {names : List String} {text : List Char} {m : NameMatch}
    (h : last? names text = some m) :
    m.name ≠ "" ∧ text = m.before ++ m.covered ∧ caseless m.covered = caseless m.name.toList := by
  obtain ⟨-, -, htext, hcaseless, hne, -⟩ := atEnd?_eq_some_iff.mp (atEnd?_of_last? h)
  exact ⟨name_ne_empty hcaseless hne, htext, hcaseless⟩

/-! ## A name without rivals

A rival of a name at the start of a text is another name that matches there and covers as much or
more. A rival equals the name ignoring case, or begins with what the name covers and the character
after it. At the end of a text everything is the other way round. -/

/-- White space next to a cut keeps it from splitting a word. -/
theorem splitsWord_of_blank {edge neighbour : Option Char}
    (h : ∀ c ∈ neighbour, isBlank c = true) : splitsWord edge neighbour = false := by
  cases neighbour with
  | none => simp [splitsWord]
  | some c => simp [splitsWord, isWord_of_isBlank (h c rfl)]

theorem splitsWord_comm (edge neighbour : Option Char) :
    splitsWord edge neighbour = splitsWord neighbour edge := Bool.and_comm _ _

/-- Whatever is split off a text is shorter than a part that the text starts with, when it neither
equals that part nor goes on after it. -/
theorem length_covered_lt {part other rest covered rest' : List Char}
    (hsplit : splitName other (part ++ rest) = some (covered, rest'))
    (hdistinct : caseless other ≠ caseless part)
    (hlonger_start : ∀ c ∈ rest.head?, ¬ caseless (part ++ [c]) <+: caseless other) :
    covered.length < part.length := by
  obtain ⟨htext, hcaseless⟩ := splitName_eq_some_iff.mp hsplit
  by_contra hge
  -- what covers as much as the part starts with it, and goes on with the character after it
  have hpart : part <+: covered :=
    List.prefix_of_prefix_length_le (List.prefix_append part rest)
      (htext ▸ List.prefix_append covered rest') (Nat.le_of_not_lt hge)
  obtain ⟨more, rfl⟩ := hpart
  cases more with
  | nil =>
    rw [List.append_nil] at hcaseless
    exact hdistinct hcaseless.symm
  | cons c more =>
    have hrest : rest = c :: more ++ rest' := by
      rw [List.append_assoc] at htext
      exact List.append_cancel_left htext
    apply hlonger_start c (by simp [hrest])
    rw [← hcaseless, show part ++ c :: more = part ++ [c] ++ more from by simp,
      caseless_append _ more]
    exact List.prefix_append _ _

/-- Of the matches of several names, the one of a name is the longest when all others are
shorter. -/
theorem longest_of_unrivalled {names : List String} {name : String} {m : NameMatch}
    {candidate : String → Option NameMatch} (hmem : name ∈ names) (hself : candidate name = some m)
    (hshorter : ∀ other ∈ names, other ≠ name → ∀ m', candidate other = some m' →
      m'.covered.length < m.covered.length) :
    longest (names.filterMap candidate) = some m := by
  refine longest_eq_some (List.mem_filterMap.mpr ⟨name, hmem, hself⟩) fun m' hm' => ?_
  obtain ⟨other, hother, hmatch⟩ := List.mem_filterMap.mp hm'
  by_cases hname : other = name
  · rw [hname, hself] at hmatch
    exact .inl (Option.some.inj hmatch).symm
  · exact .inr (hshorter other hother hname m' hmatch)

section

variable {names : List String} {name : String} {covered : List Char} (hmem : name ∈ names)
  (hne : covered ≠ []) (hsame : caseless covered = caseless name.toList)
  (hdistinct : ∀ other ∈ names, other ≠ name → caseless other.toList ≠ caseless name.toList)

include hmem hne hsame hdistinct

/-- A name without rivals that ends no word in two is found at the start of a text. -/
theorem first?_of_unrivalled {rest : List Char}
    (hword : splitsWord covered.getLast? rest.head? = false)
    (hlonger_start : ∀ c ∈ rest.head?, ∀ other ∈ names,
      ¬ caseless (covered ++ [c]) <+: caseless other.toList) :
    first? names (covered ++ rest) = some ⟨name, [], covered, rest⟩ := by
  have hself : atStart? (covered ++ rest) name = some ⟨name, [], covered, rest⟩ :=
    atStart?_eq_some_iff.mpr ⟨rfl, rfl, rfl, hsame, hne, hword⟩
  refine longest_of_unrivalled hmem hself fun other hother hne m hmatch => ?_
  obtain ⟨-, -, htext, hcaseless, -, -⟩ := atStart?_eq_some_iff.mp hmatch
  refine length_covered_lt (splitName_eq_some_iff.mpr ⟨htext, hcaseless⟩) ?_
    fun c hc => hlonger_start c hc other hother
  rw [hsame]
  exact hdistinct other hother hne

/-- A name without rivals that starts no word in two is found at the end of a text. -/
theorem last?_of_unrivalled {front : List Char}
    (hword : splitsWord covered.head? front.getLast? = false)
    (hlonger_end : ∀ c ∈ front.getLast?, ∀ other ∈ names,
      ¬ caseless (c :: covered) <:+ caseless other.toList) :
    last? names (front ++ covered) = some ⟨name, front, covered, []⟩ := by
  have hself : atEnd? (front ++ covered) name = some ⟨name, front, covered, []⟩ :=
    atEnd?_eq_some_iff.mpr ⟨rfl, rfl, rfl, hsame, hne, hword⟩
  refine longest_of_unrivalled hmem hself fun other hother hne m hmatch => ?_
  obtain ⟨-, -, htext, hcaseless, -, -⟩ := atEnd?_eq_some_iff.mp hmatch
  -- read backwards, the end of a text is its start
  have hsplit : splitName other.toList.reverse (covered.reverse ++ front.reverse)
      = some (m.covered.reverse, m.before.reverse) := by
    refine splitName_eq_some_iff.mpr ⟨?_, ?_⟩
    · rw [← List.reverse_append, htext, List.reverse_append]
    · rw [caseless_reverse, caseless_reverse, hcaseless]
  have hshorter : m.covered.reverse.length < covered.reverse.length := by
    refine length_covered_lt hsplit ?_ fun c hc => ?_
    · rw [caseless_reverse, caseless_reverse, ne_eq, List.reverse_inj, hsame]
      exact hdistinct other hother hne
    · rw [List.head?_reverse] at hc
      rw [← List.reverse_cons, caseless_reverse, caseless_reverse, List.reverse_prefix]
      exact hlonger_end c hc other hother
  rwa [List.length_reverse, List.length_reverse] at hshorter

end

/-! ## A text that is a name -/

/-- The match of a name with a text from end to end. -/
def whole (name : String) (text : List Char) : NameMatch := ⟨name, [], text, []⟩

/-- Of the matches of a whole text and of parts of it, the first whole one is the longest. -/
theorem longest_whole {names : List String} {found : String} {text : List Char}
    {candidate : String → Option NameMatch}
    (hwhole : ∀ name, caseless name.toList = caseless text →
      candidate name = some (whole name text))
    (hpart : ∀ name m, candidate name = some m →
      m.covered <:+: text ∧ caseless m.covered = caseless name.toList)
    (hfound : names.find? (fun name => caseless name.toList = caseless text) = some found) :
    longest (names.filterMap candidate) = some (whole found text) := by
  obtain ⟨hsame, front, back, rfl, hfront⟩ := List.find?_eq_some_iff_append.mp hfound
  rw [decide_eq_true_eq] at hsame
  rw [List.filterMap_append, List.filterMap_cons_some (hwhole found hsame)]
  apply longest_append
  · intro m hm
    obtain ⟨name, hname, hmatch⟩ := List.mem_filterMap.mp hm
    obtain ⟨hcovered, hcaseless⟩ := hpart name m hmatch
    -- a name before the one found differs from the text, and covers only a part of it
    have hdiffers : caseless name.toList ≠ caseless text := by simpa using hfront name hname
    refine Nat.lt_of_le_of_ne hcovered.length_le fun hlength => hdiffers ?_
    rw [← hcaseless, hcovered.eq_of_length hlength]
  · intro m hm
    obtain ⟨name, -, hmatch⟩ := List.mem_filterMap.mp hm
    exact (hpart name m hmatch).1.length_le

section

variable {names : List String} {found : String} {text : List Char} (hne : text ≠ [])
  (hfound : names.find? (fun name => caseless name.toList = caseless text) = some found)

include hne hfound

/-- At the start of a text that is a name, the first name that equals it is found. -/
theorem first?_whole : first? names text = some (whole found text) := by
  refine longest_whole (fun name hsame => ?_) (fun name m hmatch => ?_) hfound
  · exact atStart?_eq_some_iff.mpr
      ⟨rfl, rfl, (List.append_nil text).symm, hsame.symm, hne, by simp [splitsWord, whole]⟩
  · obtain ⟨-, -, rfl, hcaseless, -, -⟩ := atStart?_eq_some_iff.mp hmatch
    exact ⟨(List.prefix_append _ _).isInfix, hcaseless⟩

theorem last?_whole : last? names text = some (whole found text) := by
  refine longest_whole (fun name hsame => ?_) (fun name m hmatch => ?_) hfound
  · exact atEnd?_eq_some_iff.mpr ⟨rfl, rfl, rfl, hsame.symm, hne, by simp [splitsWord, whole]⟩
  · obtain ⟨-, -, rfl, hcaseless, -, -⟩ := atEnd?_eq_some_iff.mp hmatch
    exact ⟨(List.suffix_append _ _).isInfix, hcaseless⟩

end

end NameMatch

/-- A text mentions a name when its lower case holds that of the name. -/
theorem mentionsAny_iff {names : List String} {text : List Char} :
    mentionsAny names text = true ↔
      ∃ name ∈ names, name ≠ "" ∧ lowercase name.toList <:+: lowercase text := by
  simp only [mentionsAny, List.any_eq_true, Bool.and_eq_true, Bool.not_eq_true',
    String.isEmpty_eq_false_iff, occursIn_iff]

/-- A text that starts with a name and a blank mentions that name. -/
theorem mentionsAny_of_first {names : List String} {name : String} (hmem : name ∈ names)
    (hne : name ≠ "") (rest : List Char) :
    mentionsAny names (name.toList ++ ' ' :: rest) = true :=
  mentionsAny_iff.mpr ⟨name, hmem, hne, (lowercase_append_blank _ _).isInfix⟩

end DomainStory
