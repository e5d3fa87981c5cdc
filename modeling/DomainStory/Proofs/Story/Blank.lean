import DomainStory.Proofs.Text.Trim
import DomainStory.Story.Reading

/-!
# Lines that tell nothing

A blank line, the mark of a note without a note, and a comment add nothing to a draft
(`Draft.addLine_of_silent`). A text of blank lines therefore tells the empty story
(`Story.read_of_blank`).
-/

namespace DomainStory

open Text

/-- A line that is blank, that has nothing but white space after the mark of a note, or that is a
comment. -/
def Line.Silent (text : List Char) : Prop :=
  trim text = [] ∨ trim text = ['>'] ∨ ['/', '/'] <+: trim text

instance (text : List Char) : Decidable (Line.Silent text) :=
  inferInstanceAs (Decidable (_ ∨ _ ∨ _))

variable {config : Config}

theorem Line.classify_of_silent {text : List Char} (h : Line.Silent text) (known : List String) :
    Line.classify known text = .blank ∨ Line.classify known text = .comment := by
  unfold Line.classify
  rcases h with hblank | hmark | ⟨rest, hcomment⟩
  · rw [hblank]
    exact .inl rfl
  · rw [hmark]
    exact .inl rfl
  · rw [← hcomment]
    exact .inr rfl

theorem Draft.addLine_of_silent {text : List Char} (h : Line.Silent text) (draft : Draft)
    (line : Nat) : draft.addLine config line text = draft := by
  unfold addLine
  rcases Line.classify_of_silent h draft.knownActors with hclass | hclass <;> rw [hclass]

theorem Draft.addLines_of_silent {lines : List (List Char)} (h : ∀ text ∈ lines, Line.Silent text)
    (draft : Draft) (line : Nat) : addLines config draft line lines = draft := by
  induction lines generalizing draft line with
  | nil => rfl
  | cons first rest ih =>
    rw [addLines, addLine_of_silent (h first List.mem_cons_self)]
    exact ih (fun text htext => h text (List.mem_cons_of_mem first htext)) draft (line + 1)

/-- A blank text tells nothing, and nothing is wrong with it. -/
theorem Story.read_of_blank {text : String} (h : trim text.toList = []) :
    Story.read config text = .empty := by
  have hlines : ∀ line ∈ Story.lines text, Line.Silent line := by
    intro line hline
    rw [trim_eq_nil_iff] at h
    exact .inl (trim_eq_nil_iff.mpr fun c hc => h c (mem_of_mem_pieces hline hc))
  rw [read, Draft.ofLines, Draft.addLines_of_silent hlines]
  rfl

end DomainStory
