import DomainStory.Proofs.Story.StepLayout

/-!
# Actions that are names

What the groups at the end of a line leave is cut at two names: it begins with the source, and it
ends with the target. The action is the text in between, without the white space around it
(`Step.cut_of_read`), and two cuts at the same names have the same text in between (`Cut.unique`).

Nothing keeps that text from being the name of one of the two actors again. It is, exactly when the
line says three names in a row and the one in the middle is spelled as the source or the target was
declared (`Step.action_eq_name_iff`). Such a line is read without an error
(`Step.action_eq_source_of_repeated`).
-/

namespace DomainStory

open Text

/-! ## Cutting a text at two names -/

/-- A text that begins with one name and ends with another, case ignored. -/
structure Cut (text : List Char) (source target : String) (first middle last : List Char) :
    Prop where
  text_eq : text = first ++ middle ++ last
  first_same : caseless first = caseless source.toList
  last_same : caseless last = caseless target.toList

/-- At either end as many characters are cut off as the name has. -/
theorem Cut.unique {text first middle last first' middle' last' : List Char}
    {source target : String} (h : Cut text source target first middle last)
    (h' : Cut text source target first' middle' last') : middle = middle' := by
  have hfirst : first.length = first'.length := by
    rw [← length_caseless, h.first_same, ← h'.first_same, length_caseless]
  have hlast : last.length = last'.length := by
    rw [← length_caseless, h.last_same, ← h'.last_same, length_caseless]
  have htext : first ++ (middle ++ last) = first' ++ (middle' ++ last') := by
    rw [← List.append_assoc, ← List.append_assoc, ← h.text_eq, ← h'.text_eq]
  exact (List.append_inj' (List.append_inj htext hfirst).2 hlast).1

/-- A text that is three names in a row, with no more than white space between them. The one in the
middle is spelled as one of the other two is declared. -/
def RepeatsName (text : List Char) (source target : String) : Prop :=
  ∃ first gap again pause last, Blanks gap ∧ Trimmed again ∧ Blanks pause ∧
    (again = source.toList ∨ again = target.toList) ∧
      Cut text source target first (gap ++ again ++ pause) last

namespace Step

/-- What the groups at the end of a line leave. -/
def withoutGroups (line : List Char) : List Char := (splitWorkObject (splitRemark (trim line)).2).2

theorem trimmed_withoutGroups (line : List Char) : Trimmed (withoutGroups line) := by
  have hrest : Trimmed (splitRemark (trim line)).2 := (splitRemark_eq (trimmed_trim line) rfl).1
  have hnil : Blanks [] := by simp [Blanks]
  exact (splitWorkObject_eq hrest rfl hnil).1

/-- The action is what stands between the two names, without the white space around it. -/
theorem cut_of_read {names : List String} {line : List Char} {step : Step}
    (h : read names line = .ok step) :
    ∃ first middle last, Cut (withoutGroups line) step.source step.target first middle last ∧
      step.action.toList = trim middle := by
  obtain ⟨remark, rest, workObject, text, source, target, hremark, hobject, hsource, htarget,
    rfl⟩ := read_eq_ok h
  have hwithout : withoutGroups line = text := by rw [withoutGroups, hremark, hobject]
  have htrimmed : Trimmed text := hwithout ▸ trimmed_withoutGroups line
  obtain ⟨gap, -, hgap, -, hleft, -⟩ := path_parts htrimmed hsource htarget
  obtain ⟨-, htext, hsource_same⟩ := NameMatch.first?_covered hsource
  obtain ⟨-, -, htarget_same⟩ := NameMatch.last?_covered htarget
  refine ⟨source.covered, gap ++ target.before, target.covered,
    ⟨?_, hsource_same, htarget_same⟩, ?_⟩
  · rw [hwithout, htext, hleft]
    simp only [List.append_assoc]
  · rw [trim_append_left hgap, String.toList_ofList]

/-- The two actors of a step are among the names. Its action is neither of them, unless the line
repeats a name between the two, and then it is that name. -/
theorem action_eq_name_iff {names : List String} {line : List Char} {step : Step}
    (h : read names line = .ok step) :
    step.source ∈ names ∧ step.target ∈ names ∧
      (step.action = step.source ∨ step.action = step.target ↔
        RepeatsName (withoutGroups line) step.source step.target) := by
  have hmem := part_of_read h
  refine ⟨(hmem step.source (by simp)).1, (hmem step.target (by simp)).1, ?_⟩
  obtain ⟨first, middle, last, hcut, haction⟩ := cut_of_read h
  constructor
  · intro hname
    obtain ⟨gap, pause, hgap, hpause, hmiddle⟩ := exists_append_trim middle
    rw [hmiddle] at hcut
    refine ⟨first, gap, trim middle, pause, last, hgap, trimmed_trim middle, hpause, ?_, hcut⟩
    rw [← haction]
    exact hname.imp (congrArg String.toList) (congrArg String.toList)
  · rintro ⟨first', gap, again, pause, last', hgap, hagain, hpause, hname, hcut'⟩
    have haction_eq : step.action.toList = again := by
      rw [haction, hcut.unique hcut', trim_append_right hpause, trim_append_left hgap]
      exact hagain
    rw [← haction_eq] at hname
    exact hname.imp String.toList_inj.mp String.toList_inj.mp

/-- In this line the name of the target stands twice in a row, but the first time within a longer
text. -/
theorem action_eq_name_iff_tellsBen :
    read ["Ann", "Ben"] "ann tells Ben  BEN {all} \"now\"".toList
        = .ok ⟨"Ann", "tells Ben", "Ben", some "all", some "now"⟩ ∧
      ¬ RepeatsName (withoutGroups "ann tells Ben  BEN {all} \"now\"".toList) "Ann" "Ben" := by
  have hread : read ["Ann", "Ben"] "ann tells Ben  BEN {all} \"now\"".toList
      = .ok ⟨"Ann", "tells Ben", "Ben", some "all", some "now"⟩ := by decide
  obtain ⟨-, -, hiff⟩ := action_eq_name_iff hread
  exact ⟨hread, fun hrepeats => absurd (hiff.mpr hrepeats) (by decide)⟩

/-- A line that says a name twice before it says the other one. It is read without an error, and the
action is the source. -/
theorem action_eq_source_of_repeated :
    ∃ step, read ["Ann", "Ben"] "Ann Ann Ben".toList = .ok step ∧ step.action = step.source :=
  ⟨⟨"Ann", "Ann", "Ben", none, none⟩, by decide, rfl⟩

end Step

end DomainStory
