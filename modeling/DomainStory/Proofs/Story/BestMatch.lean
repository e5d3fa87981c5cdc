import Mathlib.Data.String.Basic
import DomainStory.Proofs.Story.NameMatch

/-!
# The best name at either end of a text

A name fits the start of a text if the text begins with it, case ignored, and the cut after it
splits no word (`AtStart`); it fits the end in the same way, read from the right (`AtEnd`). A search
finds nothing exactly when none of the names fits. Otherwise it finds the one with the most
characters, the first of those that have equally many, and its byte offsets enclose just the
characters that the name covers, however many bytes these take (`finds_best`).
-/

namespace DomainStory

open Text

/-! ## Bytes -/

theorem Text.byteCount_eq_utf8Len (cs : List Char) : byteCount cs = String.utf8Len cs := by
  induction cs with
  | nil => rfl
  | cons c cs ih =>
    rw [String.utf8Len_cons, ← ih, Nat.add_comm]
    rfl

namespace NameMatch

/-- The byte offsets of a match lie between characters of the text, and enclose what it covers. -/
structure Delimits (text : List Char) (m : NameMatch) : Prop where
  start : String.Pos.Raw.IsValid (String.ofList text) ⟨m.start⟩
  stop : String.Pos.Raw.IsValid (String.ofList text) ⟨m.stop⟩
  covered : String.Pos.Raw.extract (String.ofList text) ⟨m.start⟩ ⟨m.stop⟩ = String.ofList m.covered

theorem delimits {text : List Char} {m : NameMatch} (h : text = m.before ++ m.covered ++ m.after) :
    m.Delimits text := by
  have hstart : m.start = String.utf8Len m.before := byteCount_eq_utf8Len m.before
  have hstop : m.stop = String.utf8Len m.before + String.utf8Len m.covered := by
    rw [stop, hstart, byteCount_eq_utf8Len]
  refine ⟨?_, ?_, ?_⟩
  · rw [String.Pos.Raw.isValid_iff_exists_append]
    refine ⟨String.ofList m.before, String.ofList (m.covered ++ m.after), ?_, ?_⟩
    · rw [← String.ofList_append, h, List.append_assoc]
    · rw [String.Pos.Raw.ext_iff, String.byteIdx_rawEndPos, String.utf8ByteSize_ofList, hstart]
  · rw [String.Pos.Raw.isValid_iff_exists_append]
    refine ⟨String.ofList (m.before ++ m.covered), String.ofList m.after, ?_, ?_⟩
    · rw [← String.ofList_append, h]
    · rw [String.Pos.Raw.ext_iff, String.byteIdx_rawEndPos, String.utf8ByteSize_ofList,
        String.utf8Len_append, hstop]
  · rw [hstart, hstop, h]
    exact String.extract_of_valid m.before m.covered m.after

/-! ## Names that fit -/

/-- A match at the start of a text: what the name covers has as many characters and equals it, case
ignored, and its last character and the one after it do not belong to one word. -/
structure AtStart (text : List Char) (m : NameMatch) : Prop where
  name_ne : m.name ≠ ""
  before_eq : m.before = []
  text_eq : text = m.covered ++ m.after
  same : caseless m.covered = caseless m.name.toList
  apart : splitsWord m.covered.getLast? m.after.head? = false

/-- A match at the end of a text. -/
structure AtEnd (text : List Char) (m : NameMatch) : Prop where
  name_ne : m.name ≠ ""
  after_eq : m.after = []
  text_eq : text = m.before ++ m.covered
  same : caseless m.covered = caseless m.name.toList
  apart : splitsWord m.covered.head? m.before.getLast? = false

theorem length_covered {m : NameMatch} (h : caseless m.covered = caseless m.name.toList) :
    m.covered.length = m.name.length := by
  rw [← length_caseless, h, length_caseless, String.length_toList]

theorem covered_ne_nil {m : NameMatch} (hsame : caseless m.covered = caseless m.name.toList)
    (hne : m.name ≠ "") : m.covered ≠ [] := by
  intro hnil
  rw [hnil] at hsame
  exact hne (by simpa [caseless] using hsame.symm)

theorem atStart?_iff_atStart {text : List Char} {name : String} {m : NameMatch} :
    atStart? text name = some m ↔ m.name = name ∧ m.AtStart text := by
  rw [atStart?_eq_some_iff]
  constructor
  · rintro ⟨rfl, hbefore, htext, hsame, hne, hword⟩
    exact ⟨rfl, name_ne_empty hsame hne, hbefore, htext, hsame, hword⟩
  · rintro ⟨rfl, h⟩
    exact ⟨rfl, h.before_eq, h.text_eq, h.same, covered_ne_nil h.same h.name_ne, h.apart⟩

theorem atEnd?_iff_atEnd {text : List Char} {name : String} {m : NameMatch} :
    atEnd? text name = some m ↔ m.name = name ∧ m.AtEnd text := by
  rw [atEnd?_eq_some_iff]
  constructor
  · rintro ⟨rfl, hafter, htext, hsame, hne, hword⟩
    exact ⟨rfl, name_ne_empty hsame hne, hafter, htext, hsame, hword⟩
  · rintro ⟨rfl, h⟩
    exact ⟨rfl, h.after_eq, h.text_eq, h.same, covered_ne_nil h.same h.name_ne, h.apart⟩

/-! ## The best of them -/

/-- The best of the names that fit: those before it have fewer characters, and those after it no
more. -/
structure Best (names : List String) (Fits : NameMatch → Prop) (m : NameMatch) : Prop where
  fits : Fits m
  first_longest : ∃ front back, names = front ++ m.name :: back ∧
    (∀ other, Fits other → other.name ∈ front → other.name.length < m.name.length) ∧
      ∀ other, Fits other → other.name ∈ back → other.name.length ≤ m.name.length

/-- What a search of a text for the names that fit may answer. -/
structure Finds (names : List String) (text : List Char) (Fits : NameMatch → Prop)
    (found : Option NameMatch) : Prop where
  none_iff : found = none ↔ ∀ m, Fits m → m.name ∉ names
  best : ∀ m ∈ found, Best names Fits m
  delimits : ∀ m ∈ found, m.Delimits text

section

variable {names : List String} {text : List Char} {Fits : NameMatch → Prop}
  {candidate : String → Option NameMatch}
  (hcandidate : ∀ {name m}, candidate name = some m ↔ m.name = name ∧ Fits m)

include hcandidate

theorem longest_filterMap_eq_none_iff :
    longest (names.filterMap candidate) = none ↔ ∀ m, Fits m → m.name ∉ names := by
  rw [longest_eq_none_iff, List.filterMap_eq_nil_iff]
  constructor
  · intro hnone m hfits hmem
    have hfound := hcandidate.mpr ⟨rfl, hfits⟩
    rw [hnone m.name hmem] at hfound
    exact absurd hfound (by simp)
  · intro hnone name hmem
    by_contra hsome
    obtain ⟨m, hm⟩ := Option.ne_none_iff_exists'.mp hsome
    obtain ⟨rfl, hfits⟩ := hcandidate.mp hm
    exact hnone m hfits hmem

/-- The longest of the matches is the match of the best name. -/
theorem best_of_longest {m : NameMatch}
    (hsame : ∀ m, Fits m → caseless m.covered = caseless m.name.toList)
    (h : longest (names.filterMap candidate) = some m) : Best names Fits m := by
  obtain ⟨front, back, hsplit, hfront, hback⟩ := exists_append_of_longest h
  -- the matches are cut where the names are
  obtain ⟨early, rest, rfl, rfl, hrest⟩ := List.filterMap_eq_append_iff.mp hsplit
  obtain ⟨skipped, name, late, rfl, hskipped, hname, rfl⟩ := List.filterMap_eq_cons_iff.mp hrest
  obtain ⟨rfl, hfits⟩ := hcandidate.mp hname
  have hlength : ∀ other, Fits other → other.covered.length = other.name.length :=
    fun other hother => length_covered (hsame other hother)
  rw [hlength m hfits] at hfront hback
  refine ⟨hfits, early ++ skipped, late, by rw [List.append_assoc], fun other hother hmem => ?_,
    fun other hother hmem => ?_⟩
  · have hfound := hcandidate.mpr ⟨rfl, hother⟩
    rcases List.mem_append.mp hmem with hearly | hlate
    · rw [← hlength other hother]
      exact hfront other (List.mem_filterMap.mpr ⟨other.name, hearly, hfound⟩)
    · rw [hskipped other.name hlate] at hfound
      exact absurd hfound (by simp)
  · rw [← hlength other hother]
    exact hback other (List.mem_filterMap.mpr ⟨other.name, hmem, hcandidate.mpr ⟨rfl, hother⟩⟩)

end

/-- At either end of a text the best of the names that fit is found, with byte offsets that enclose
what it covers; nothing is found exactly when none fits. -/
theorem finds_best (names : List String) (text : List Char) :
    Finds names text (AtStart text) (first? names text) ∧
      Finds names text (AtEnd text) (last? names text) := by
  refine ⟨⟨longest_filterMap_eq_none_iff atStart?_iff_atStart, fun m hm => ?_, fun m hm => ?_⟩,
    ⟨longest_filterMap_eq_none_iff atEnd?_iff_atEnd, fun m hm => ?_, fun m hm => ?_⟩⟩
  · exact best_of_longest atStart?_iff_atStart (fun m hfits => hfits.same) hm
  · obtain ⟨-, hfits⟩ := atStart?_iff_atStart.mp (atStart?_of_first? hm)
    apply delimits
    rw [hfits.before_eq, List.nil_append]
    exact hfits.text_eq
  · exact best_of_longest atEnd?_iff_atEnd (fun m hfits => hfits.same) hm
  · obtain ⟨-, hfits⟩ := atEnd?_iff_atEnd.mp (atEnd?_of_last? hm)
    apply delimits
    rw [hfits.after_eq, List.append_nil]
    exact hfits.text_eq

-- the longer name would split a word, and the sign for kelvin takes three bytes where k takes one
example : (first? ["Kim P", "KIM", "kim"] "\u212aim pays".toList).map
    (fun m => (m.name, m.start, m.stop)) = some ("KIM", 0, 5) := by decide

end NameMatch

end DomainStory
