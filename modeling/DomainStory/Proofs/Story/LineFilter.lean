import DomainStory.Proofs.Story.LineKind
import DomainStory.Proofs.Story.StepGrammar

/-!
# Steps and the filter before them

A line is read as a step only if it mentions an actor, which is to say that the lower case of some
name stands in the lower case of the line. The grammar of a step compares names in another way,
character by character. Both names of a step that is read stand in its line in that sense
(`Step.part_of_read`), hence in the lower case of the line up to the form of sigma.

The filter therefore lets every line pass that is read as a step, unless in both of its names a
sigma has another form at its place than in the name alone (`Step.mentionsAny_of_read`). It does
hold such a line back (`Step.held_back_by_sigma`).
-/

namespace DomainStory

open Text

namespace Step

/-- The line of a step mentions an actor, unless in both names of the step a sigma has another form
there. -/
theorem mentionsAny_or_sigmaClash {names : List String} {line : List Char} {step : Step}
    (h : read names line = .ok step) :
    mentionsAny names line = true ∨
      ∀ name ∈ [step.source, step.target], SigmaClash name.toList line := by
  by_cases hclash : ∀ name ∈ [step.source, step.target], SigmaClash name.toList line
  · exact .inr hclash
  · simp only [not_forall] at hclash
    obtain ⟨name, hname, hsettled⟩ := hclash
    obtain ⟨hmem, hne, part, hpart, hsame⟩ := part_of_read h name hname
    have hinfix := (lowercase_isInfix_or_sigmaClash hsame hpart).resolve_right hsettled
    exact .inl (mentionsAny_iff.mpr ⟨name, hmem, hne, hinfix⟩)

/-- A line that is read as a step passes the filter, and is not taken for prose, unless in both
names of the step a sigma has another form at its place in the line than in the name alone. Up to
the form of sigma, the lower case of the line always holds that of either name. -/
theorem mentionsAny_of_read {names : List String} {line : List Char} {step : Step}
    (h : read names line = .ok step) :
    (mentionsAny names line = true ∨
        ∀ name ∈ [step.source, step.target], SigmaClash name.toList line) ∧
      (Line.classify names line ≠ .prose ∨
        ∀ name ∈ [step.source, step.target], SigmaClash name.toList (trim line)) ∧
      ∀ name ∈ [step.source, step.target], name ∈ names ∧ name ≠ "" ∧
        mergeSigma (lowercase name.toList) <:+: mergeSigma (lowercase line) := by
  refine ⟨mentionsAny_or_sigmaClash h, ?_, fun name hname => ?_⟩
  · -- what is classified is the trimmed line, which is read as the same step
    rw [← read_trim] at h
    exact (mentionsAny_or_sigmaClash h).imp_left Line.classify_ne_prose
  · obtain ⟨hmem, hne, part, hpart, hsame⟩ := part_of_read h name hname
    exact ⟨hmem, hne, mergeSigma_lowercase_isInfix hsame hpart⟩

/-- The line of a step with one name that has no sigma, and one whose sigma is a small letter. -/
theorem mentionsAny_of_read_sigma :
    read ["ΑΣ", "Bob"] "ασ pays BOB".toList = .ok ⟨"ΑΣ", "pays", "Bob", none, none⟩ ∧
      mentionsAny ["ΑΣ", "Bob"] "ασ pays BOB".toList = true ∧
      Line.classify ["ΑΣ", "Bob"] "ασ pays BOB".toList ≠ .prose := by
  have hread : read ["ΑΣ", "Bob"] "ασ pays BOB".toList = .ok ⟨"ΑΣ", "pays", "Bob", none, none⟩ := by
    decide
  have hsettled : ∀ text, ¬ SigmaClash "Bob".toList text := fun text hclash =>
    absurd hclash.capital.1 (by decide)
  obtain ⟨hmentions, hclassify, -⟩ := mentionsAny_of_read hread
  exact ⟨hread, hmentions.resolve_right fun hclash => hsettled _ (hclash "Bob" (by simp)),
    hclassify.resolve_right fun hclash => hsettled _ (hclash "Bob" (by simp))⟩

/-- A small sigma for the capital one at the end of a name: the grammar takes both for the same
letter, but the lower case of the name ends in a final sigma. -/
theorem held_back_by_sigma :
    read ["ΑΣ"] "ασ x ασ".toList = .ok ⟨"ΑΣ", "x", "ΑΣ", none, none⟩ ∧
      mentionsAny ["ΑΣ"] "ασ x ασ".toList = false ∧
      Line.classify ["ΑΣ"] "ασ x ασ".toList = .prose := by
  decide

end Step

end DomainStory
