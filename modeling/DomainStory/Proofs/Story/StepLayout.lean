import Mathlib.Tactic.MkIffOfInductiveProp
import DomainStory.Proofs.Story.StepGrammar

/-!
# How a step lies in its line

A `StepLayout` lists what stands in a line with a step, from left to right and with the white space
in between. Whatever line a step is read from can be laid out so: its characters are those of the
layout, in order, and the step is the one that the layout tells (`Step.readInto_cases`). So no text
of a line that gives a step is lost.
-/

namespace DomainStory

open Text

/-- What stands in a line with a step, from left to right. -/
structure StepLayout where
  source : List Char
  gap : List Char
  action : List Char
  pause : List Char
  target : List Char
  rest : List Char
  /-- What stands between braces, and the white space after them. -/
  object : Option (List Char × List Char)
  /-- What stands between quotes. -/
  remark : Option (List Char)

namespace StepLayout

/-! ## Texts -/

def path (layout : StepLayout) : List Char :=
  layout.source ++ layout.gap ++ layout.action ++ layout.pause ++ layout.target

def braced : Option (List Char × List Char) → List Char
  | some (content, after) => '{' :: content ++ '}' :: after
  | none => []

def quoted : Option (List Char) → List Char
  | some content => '"' :: content ++ ['"']
  | none => []

def text (layout : StepLayout) : List Char :=
  layout.path ++ layout.rest ++ braced layout.object ++ quoted layout.remark

/-- The step that is told, with the names of its actors as they were declared. -/
def told (layout : StepLayout) (source target : String) : Step where
  source
  action := String.ofList layout.action
  target
  workObject := layout.object.bind fun (content, _) => Step.nonBlank content
  remark := layout.remark.map String.ofList

/-- White space stands only where it may, and the groups at the end are closed where they end. -/
@[mk_iff]
structure WellFormed (layout : StepLayout) : Prop where
  gap : Blanks layout.gap
  action : Trimmed layout.action
  pause : Blanks layout.pause
  rest : Blanks layout.rest
  object : ∀ group ∈ layout.object, group.1 ≠ [] ∧ '}' ∉ group.1 ∧ Blanks group.2
  remark : ∀ content ∈ layout.remark, content ≠ [] ∧ '"' ∉ content

instance (layout : StepLayout) : Decidable layout.WellFormed :=
  decidable_of_iff' _ layout.wellFormed_iff

/-- The ends of the path are two of the names, character by character and case ignored. -/
@[mk_iff]
structure Names (layout : StepLayout) (names : List String) (source target : String) : Prop where
  source_mem : source ∈ names
  target_mem : target ∈ names
  source_ne : layout.source ≠ []
  target_ne : layout.target ≠ []
  source_same : caseless layout.source = caseless source.toList
  target_same : caseless layout.target = caseless target.toList

instance (layout : StepLayout) (names : List String) (source target : String) :
    Decidable (layout.Names names source target) :=
  decidable_of_iff' _ (layout.names_iff names source target)

/-- Neither actor ends inside a word of the line. -/
structure KeepsWords (layout : StepLayout) : Prop where
  source : NameMatch.splitsWord layout.source.getLast?
    (layout.gap ++ layout.action ++ layout.pause ++ layout.target).head? = false
  target : NameMatch.splitsWord layout.target.head?
    (layout.source ++ layout.gap ++ layout.action ++ layout.pause).getLast? = false

end StepLayout

namespace Step

/-! ## Taking a line apart -/

/-- A remark is split off with the white space before it. -/
theorem splitRemark_eq {line rest : List Char} {remark : Option String} (hline : Trimmed line)
    (h : splitRemark line = (remark, rest)) :
    Trimmed rest ∧ ∃ gap content, Blanks gap ∧
      (∀ inside ∈ content, inside ≠ [] ∧ '"' ∉ inside) ∧
      line = rest ++ gap ++ StepLayout.quoted content ∧ remark = content.map String.ofList := by
  unfold splitRemark at h
  split at h
  · next content before hgroup =>
    obtain ⟨rfl, rfl⟩ := Prod.mk.inj h
    obtain ⟨gap, hgap, hrest, htext⟩ := hline.trailingGroup_eq hgroup
    refine ⟨hrest, gap, some content, hgap, ?_, ?_, rfl⟩
    · rintro inside ⟨⟩
      exact trailingGroup_content hgroup
    · rw [htext, List.append_assoc]
      rfl
  · obtain ⟨rfl, rfl⟩ := Prod.mk.inj h
    exact ⟨hline, [], none, by simp [Blanks], by simp, by simp [StepLayout.quoted], rfl⟩

/-- So is a work object. It was the end of the line if there was no remark. -/
theorem splitWorkObject_eq {line path after : List Char} {workObject : Option String}
    (hline : Trimmed line) (h : splitWorkObject line = (workObject, path)) (hafter : Blanks after) :
    Trimmed path ∧ ∃ gap object, Blanks gap ∧
      (∀ group ∈ object, group.1 ≠ [] ∧ '}' ∉ group.1 ∧ Blanks group.2) ∧
      line ++ after = path ++ gap ++ StepLayout.braced object ∧
      workObject = object.bind fun (inside, _) => nonBlank inside := by
  unfold splitWorkObject at h
  split at h
  · next content before hgroup =>
    obtain ⟨rfl, rfl⟩ := Prod.mk.inj h
    obtain ⟨gap, hgap, hpath, htext⟩ := hline.trailingGroup_eq hgroup
    refine ⟨hpath, gap, some (content, after), hgap, ?_, ?_, rfl⟩
    · rintro group ⟨⟩
      exact ⟨(trailingGroup_content hgroup).1, (trailingGroup_content hgroup).2, hafter⟩
    · rw [htext]
      simp [StepLayout.braced]
  · obtain ⟨rfl, rfl⟩ := Prod.mk.inj h
    exact ⟨hline, after, none, hafter, by simp, by simp [StepLayout.braced], rfl⟩

/-- In a path, white space follows the source and precedes the target, unless nothing does. -/
theorem path_parts {names : List String} {path : List Char} {source target : NameMatch}
    (hpath : Trimmed path) (hsource : NameMatch.first? names path = some source)
    (htarget : NameMatch.last? names (trim source.after) = some target) :
    ∃ gap pause, Blanks gap ∧ Blanks pause ∧
      source.after = gap ++ (target.before ++ target.covered) ∧
      target.before = trim target.before ++ pause := by
  obtain ⟨-, htext, -⟩ := NameMatch.first?_covered hsource
  obtain ⟨-, hrest, -⟩ := NameMatch.last?_covered htarget
  rw [htext] at hpath
  obtain ⟨gap, hgap, hafter⟩ := hpath.right_eq
  have htrimmed : Trimmed (target.before ++ target.covered) := hrest ▸ trimmed_trim source.after
  obtain ⟨pause, hpause, hbefore⟩ := htrimmed.left_eq
  exact ⟨gap, pause, hgap, hpause, by rw [← hrest, ← hafter], hbefore⟩

end Step

/-- The target is looked for in what the source leaves without white space. If nothing is left there
but the target, it stands after the white space, or at once after the source. -/
theorem StepLayout.KeepsWords.of_found {layout : StepLayout} (hgap : Blanks layout.gap)
    (hsource : NameMatch.splitsWord layout.source.getLast?
      (layout.gap ++ layout.action ++ layout.pause ++ layout.target).head? = false)
    (htarget : NameMatch.splitsWord layout.target.head?
      (layout.action ++ layout.pause).getLast? = false) : layout.KeepsWords := by
  refine ⟨hsource, ?_⟩
  rw [List.append_assoc (layout.source ++ layout.gap), List.getLast?_append]
  cases hfront : (layout.action ++ layout.pause).getLast? with
  | some c => rwa [hfront] at htarget
  | none =>
    rw [Option.none_or, List.getLast?_append]
    cases hlast : layout.gap.getLast? with
    | some c =>
      refine NameMatch.splitsWord_of_blank ?_
      rintro _ ⟨⟩
      exact hgap c (List.mem_of_getLast? hlast)
    | none =>
      rw [List.getLast?_eq_none_iff] at hfront hlast
      rw [List.append_assoc layout.gap, hfront, hlast] at hsource
      rw [Option.none_or, NameMatch.splitsWord_comm]
      exact hsource

namespace Step

/-- A line that gives a step is laid out as the step tells. -/
theorem exists_layout_of_read {names : List String} {line : List Char} {step : Step}
    (h : read names line = .ok step) :
    ∃ layout : StepLayout, trim line = layout.text ∧ layout.WellFormed ∧
      layout.Names names step.source step.target ∧ layout.KeepsWords ∧
      step = layout.told step.source step.target := by
  obtain ⟨remark, rest, workObject, path, source, target, hremark, hobject, hsource, htarget,
    rfl⟩ := read_eq_ok h
  -- the groups are taken off the end, and the rest is cut at the two names
  obtain ⟨hrest, after, quote, hafter, hquote, hline, rfl⟩ :=
    splitRemark_eq (trimmed_trim line) hremark
  obtain ⟨hpath, between, object, hbetween, hbraces, hgroup, rfl⟩ :=
    splitWorkObject_eq hrest hobject hafter
  obtain ⟨gap, pause, hgap, hpause, hleft, hfront⟩ := path_parts hpath hsource htarget
  obtain ⟨-, -, htext, hsource_same, hsource_ne, hsource_word⟩ :=
    NameMatch.atStart?_eq_some_iff.mp (NameMatch.atStart?_of_first? hsource)
  obtain ⟨-, -, -, htarget_same, htarget_ne, htarget_word⟩ :=
    NameMatch.atEnd?_eq_some_iff.mp (NameMatch.atEnd?_of_last? htarget)
  let layout : StepLayout :=
    ⟨source.covered, gap, trim target.before, pause, target.covered, between, object, quote⟩
  have hlayout_path : path = layout.path := by
    rw [htext, hleft, hfront]
    simp [layout, StepLayout.path]
  refine ⟨layout, ?_, ⟨hgap, trimmed_trim _, hpause, hbetween, hbraces, hquote⟩,
    ⟨NameMatch.first?_mem hsource, NameMatch.last?_mem htarget, hsource_ne, htarget_ne,
      hsource_same, htarget_same⟩,
    .of_found hgap ?_ ?_, rfl⟩
  · rw [hline, hgroup, hlayout_path]
    rfl
  · rw [hleft, hfront] at hsource_word
    simpa [layout] using hsource_word
  · rw [hfront] at htarget_word
    exact htarget_word

/-- Either a line gives no step, and the one error that it leaves carries its number, or it is laid
out as the step tells, and it leaves no error. -/
theorem readInto_cases (names : List String) (number : Nat) (line : List Char)
    (errors : List LineError) :
    (∃ error : LineError, error.line = number ∧
        readInto names number line errors = (none, errors ++ [error])) ∨
      ∃ (step : Step) (layout : StepLayout),
        readInto names number line errors = (some step, errors) ∧ trim line = layout.text ∧
          layout.WellFormed ∧ layout.Names names step.source step.target ∧ layout.KeepsWords ∧
          step = layout.told step.source step.target := by
  unfold readInto
  cases hread : read names line with
  | error fault => exact .inl ⟨fault.at number, rfl, rfl⟩
  | ok step =>
    obtain ⟨layout, hlayout⟩ := exists_layout_of_read hread
    exact .inr ⟨step, layout, rfl, hlayout⟩

end Step

end DomainStory
