import DomainStory.Proofs.Story.NameMatch
import DomainStory.Proofs.Story.TrailingGroup
import DomainStory.Proofs.Text.Trim
import DomainStory.Story.StepGrammar

/-!
# What a step is read from

`Step.read_cases` lists the outcomes of the grammar, and `Step.read_of_parts` goes the other way.
What is split off the end of a line is never empty, and what is left is a part of the line. A step
is read between two names, and each of them stands somewhere in the line, case ignored
(`Step.part_of_read`).
-/

namespace DomainStory

open Text

namespace Step

/-! ## Outcomes -/

/-- Either the line is at fault, or a name is found at the start of what the groups at the end of
the line leave, and a name at the end of what that one leaves. -/
theorem read_cases (names : List String) (line : List Char) :
    (∃ fault,
        (fault = .emptyStep ∨ fault = .unknownSource ∨ ∃ source, fault = .unknownTarget source) ∧
        read names line = .error fault) ∨
      ∃ step, read names line = .ok step ∧
        ∃ remark rest workObject path source target,
          splitRemark (trim line) = (remark, rest) ∧ splitWorkObject rest = (workObject, path) ∧
            NameMatch.first? names path = some source ∧
            NameMatch.last? names (trim source.after) = some target ∧
            step = ⟨source.name, String.ofList (trim target.before), target.name, workObject,
              remark⟩ := by
  unfold read
  obtain ⟨remark, rest, hremark⟩ : ∃ remark rest, splitRemark (trim line) = (remark, rest) :=
    ⟨_, _, rfl⟩
  obtain ⟨workObject, path, hobject⟩ : ∃ object path, splitWorkObject rest = (object, path) :=
    ⟨_, _, rfl⟩
  simp only [hremark, hobject]
  split
  · exact .inl ⟨_, .inl rfl, rfl⟩
  · split
    · exact .inl ⟨_, .inr (.inl rfl), rfl⟩
    · next source hsource =>
      split
      · exact .inl ⟨_, .inr (.inr ⟨_, rfl⟩), rfl⟩
      · next target htarget =>
        exact .inr ⟨_, rfl, remark, rest, workObject, path, source, target, rfl, hobject, hsource,
          htarget, rfl⟩

theorem read_eq_ok {names : List String} {line : List Char} {step : Step}
    (h : read names line = .ok step) :
    ∃ remark rest workObject path source target,
      splitRemark (trim line) = (remark, rest) ∧ splitWorkObject rest = (workObject, path) ∧
        NameMatch.first? names path = some source ∧
        NameMatch.last? names (trim source.after) = some target ∧
        step = ⟨source.name, String.ofList (trim target.before), target.name, workObject,
          remark⟩ := by
  rcases read_cases names line with ⟨fault, -, hread⟩ | ⟨step', hread, hparts⟩
  · rw [hread] at h
    exact absurd h (by simp)
  · rw [hread] at h
    obtain rfl := Except.ok.inj h
    exact hparts

/-- What is found in a line makes up the step that is read. -/
theorem read_of_parts {names : List String} {line rest path : List Char}
    {remark workObject : Option String} {source target : NameMatch}
    (hremark : splitRemark (trim line) = (remark, rest))
    (hobject : splitWorkObject rest = (workObject, path))
    (hsource : NameMatch.first? names path = some source)
    (htarget : NameMatch.last? names (trim source.after) = some target) :
    read names line = .ok ⟨source.name, String.ofList (trim target.before), target.name, workObject,
      remark⟩ := by
  have hpath : path ≠ [] := by
    obtain ⟨-, -, htext, -, hne, -⟩ :=
      NameMatch.atStart?_eq_some_iff.mp (NameMatch.atStart?_of_first? hsource)
    rintro rfl
    exact hne (List.append_eq_nil_iff.mp htext.symm).1
  unfold read
  simp only [hremark, hobject, hsource, htarget, List.isEmpty_iff, hpath, if_false]

/-- White space around the line does not matter. -/
theorem read_trim (names : List String) (line : List Char) :
    read names (trim line) = read names line := by
  have htrim : trim (trim line) = trim line := trimmed_trim line
  unfold read
  rw [htrim]

/-! ## The groups at the end -/

/-- The remark that is split off a line is not empty and holds no quote. -/
theorem splitRemark_content {line rest : List Char} {remark : String}
    (h : splitRemark line = (some remark, rest)) : remark ≠ "" ∧ '"' ∉ remark.toList := by
  unfold splitRemark at h
  split at h
  · next content before hgroup =>
    obtain ⟨hne, hmem⟩ := trailingGroup_content hgroup
    simp only [Prod.mk.injEq, Option.some.injEq] at h
    obtain ⟨rfl, -⟩ := h
    exact ⟨by simpa using hne, by simpa using hmem⟩
  · exact absurd h (by simp)

/-- The work object that is split off a line is trimmed, not empty, and holds no closing brace. -/
theorem splitWorkObject_content {line rest : List Char} {object : String}
    (h : splitWorkObject line = (some object, rest)) :
    object ≠ "" ∧ Trimmed object.toList ∧ '}' ∉ object.toList := by
  unfold splitWorkObject at h
  split at h
  · next content before hgroup =>
    obtain ⟨-, hmem⟩ := trailingGroup_content hgroup
    simp only [nonBlank, Prod.mk.injEq] at h
    obtain ⟨hobject, -⟩ := h
    split at hobject
    · exact absurd hobject (by simp)
    · next hne =>
      obtain rfl := Option.some.inj hobject
      rw [String.toList_ofList]
      refine ⟨by simpa using hne, trimmed_trim _, fun h => hmem (mem_of_mem_trim h)⟩
  · exact absurd h (by simp)

theorem splitRemark_isInfix {line rest : List Char} {remark : Option String}
    (h : splitRemark line = (remark, rest)) : rest <:+: line := by
  unfold splitRemark at h
  split at h
  · next hgroup =>
    obtain ⟨-, rfl⟩ := Prod.mk.inj h
    exact trailingGroup_before_isInfix hgroup
  · obtain ⟨-, rfl⟩ := Prod.mk.inj h
    exact List.infix_refl _

theorem splitWorkObject_isInfix {line rest : List Char} {workObject : Option String}
    (h : splitWorkObject line = (workObject, rest)) : rest <:+: line := by
  unfold splitWorkObject at h
  split at h
  · next hgroup =>
    obtain ⟨-, rfl⟩ := Prod.mk.inj h
    exact trailingGroup_before_isInfix hgroup
  · obtain ⟨-, rfl⟩ := Prod.mk.inj h
    exact List.infix_refl _

/-! ## The names -/

/-- Both names of a step are among those known, and each stands somewhere in the line, case
ignored. -/
theorem part_of_read {names : List String} {line : List Char} {step : Step}
    (h : read names line = .ok step) :
    ∀ name ∈ [step.source, step.target], name ∈ names ∧ name ≠ "" ∧
      ∃ part, part <:+: line ∧ caseless part = caseless name.toList := by
  obtain ⟨remark, rest, workObject, path, source, target, hremark, hobject, hsource, htarget,
    rfl⟩ := read_eq_ok h
  have hpath : path <:+: line :=
    ((splitWorkObject_isInfix hobject).trans (splitRemark_isInfix hremark)).trans
      (trim_isInfix line)
  obtain ⟨hsource_ne, rfl, hsource_same⟩ := NameMatch.first?_covered hsource
  obtain ⟨htarget_ne, hafter, htarget_same⟩ := NameMatch.last?_covered htarget
  intro name hname
  rcases List.mem_pair.mp hname with rfl | rfl
  · exact ⟨NameMatch.first?_mem hsource, hsource_ne, source.covered,
      (List.prefix_append _ _).isInfix.trans hpath, hsource_same⟩
  · -- the target is looked for in what the source leaves
    have hcovered : target.covered <:+: trim source.after :=
      hafter ▸ (List.suffix_append _ _).isInfix
    have hrest : source.after <:+: source.covered ++ source.after :=
      (List.suffix_append _ _).isInfix
    exact ⟨NameMatch.last?_mem htarget, htarget_ne, target.covered,
      ((hcovered.trans (trim_isInfix _)).trans hrest).trans hpath, htarget_same⟩

end Step

end DomainStory
