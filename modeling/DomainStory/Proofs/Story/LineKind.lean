import DomainStory.Story.Line

/-!
# Kinds of lines

A line with a mark at its start has the same category whatever actors are known. Any other line that
is not blank is a step or prose, and the known actors decide which (`Line.classify_cases`).
-/

namespace DomainStory

open Text

/-- The category of a line, without what it says. -/
inductive LineKind where
  | blank
  | domainHeader
  | note
  | actor
  | malformedActor
  | flowHeader
  | comment
  | stepCandidate
  | prose
deriving DecidableEq

/-- Whether a line opens a domain where there is none. -/
def LineKind.needsDomain : LineKind → Bool
  | note | actor | malformedActor | flowHeader | prose => true
  | _ => false

namespace Line

def kind : Line → LineKind
  | blank => .blank
  | domainHeader _ => .domainHeader
  | note _ => .note
  | actor _ => .actor
  | malformedActor => .malformedActor
  | flowHeader _ => .flowHeader
  | comment => .comment
  | stepCandidate => .stepCandidate
  | prose => .prose

theorem classify_cases (line : List Char) :
    (∃ marked : Line, marked ≠ stepCandidate ∧ marked ≠ prose ∧
        ∀ known, classify known line = marked) ∨
      ∀ known, classify known line
        = if mentionsAny known (trim line) then stepCandidate else prose := by
  unfold classify
  cases hline : trim line with
  | nil => exact .inl ⟨blank, by simp, by simp, fun _ => rfl⟩
  | cons c rest =>
    dsimp only
    unfold classifyTrimmed
    split
    · exact .inl ⟨_, by simp, by simp, fun _ => rfl⟩
    · exact .inl ⟨_, by simp, by simp, fun _ => rfl⟩
    · split <;> exact .inl ⟨_, by simp, by simp, fun _ => rfl⟩
    · split <;> exact .inl ⟨_, by simp, by simp, fun _ => rfl⟩
    · exact .inl ⟨_, by simp, by simp, fun _ => rfl⟩
    · exact .inr fun _ => rfl

/-- Which actors are known does not matter for a header. -/
theorem classify_header {known : List String} {line : List Char} {title : String}
    (h : classify known line = domainHeader title) (known' : List String) :
    classify known' line = domainHeader title := by
  rcases classify_cases line with ⟨marked, -, -, hmarked⟩ | hopen
  · rw [hmarked, ← hmarked known]
    exact h
  · rw [hopen] at h
    split at h <;> exact absurd h (by simp)

/-- A line that mentions an actor is not taken for prose. -/
theorem classify_ne_prose {known : List String} {line : List Char}
    (h : mentionsAny known (trim line) = true) : classify known line ≠ prose := by
  rcases classify_cases line with ⟨marked, -, hmarked, hclass⟩ | hopen
  · rw [hclass]
    exact hmarked
  · rw [hopen, if_pos h]
    nofun

/-- Where nobody is known, no line is a step. -/
theorem classify_nil_ne_stepCandidate (line : List Char) : classify [] line ≠ stepCandidate := by
  rcases classify_cases line with ⟨marked, hmarked, -, hclass⟩ | hopen
  · rw [hclass]
    exact hmarked
  · rw [hopen]
    nofun

end Line

end DomainStory
