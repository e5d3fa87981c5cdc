import Mathlib.Data.List.Nodup
import DomainStory.Proofs.Story.ActorGrammar
import DomainStory.Proofs.Story.LegibleStep

/-!
# Lines that are read as they were written

What a line gives when the writer made it: a header gives its title, a note itself
(`Note.classify_line`), an actor itself (`ActorDecl.classify_line`), and a step is a candidate
(`Step.classify_line`) that gives itself (`Step.read_line`). Notes and actors need no more than
being well-formed. A step is only found again if no other actor can be taken for its source or its
target, which is what `Separable` says of the names of a domain.
-/

namespace DomainStory

open Text

/-! ## What can be written -/

/-- The title of a domain or a flow that a header may hold. -/
@[mk_iff]
structure IsTitle (title : String) : Prop where
  ne : title ≠ ""
  trimmed : Trimmed title.toList
  single_line : '\n' ∉ title.toList

instance (title : String) : Decidable (IsTitle title) :=
  decidable_of_iff' _ (isTitle_iff title)

/-- A name that can start a step: no other kind of line starts with it, and no group of the step
ends in it. -/
@[mk_iff]
structure IsPlainName (name : String) : Prop where
  ne : name ≠ ""
  trimmed : Trimmed name.toList
  single_line : '\n' ∉ name.toList
  no_quote : '"' ∉ name.toList
  no_open : '{' ∉ name.toList
  no_close : '}' ∉ name.toList
  no_mark : ∀ mark ∈ ["#", ">", "@", "//"], ¬ mark.toList <+: name.toList

instance (name : String) : Decidable (IsPlainName name) :=
  decidable_of_iff' _ (isPlainName_iff name)

/-- Names of which none can be taken for another one at either end of a text: they differ in more
than the case of single characters, and none goes on after, or before, another one and a blank. -/
@[mk_iff]
structure Separable (names : List String) : Prop where
  plain : ∀ name ∈ names, IsPlainName name
  distinct : (names.map fun name => caseless name.toList).Nodup
  no_longer_start : ∀ name ∈ names, ∀ other ∈ names,
    other ≠ name → ¬ caseless (name.toList ++ [' ']) <+: caseless other.toList
  no_longer_end : ∀ name ∈ names, ∀ other ∈ names,
    other ≠ name → ¬ caseless (' ' :: name.toList) <:+ caseless other.toList

instance (names : List String) : Decidable (Separable names) :=
  decidable_of_iff' _ (separable_iff names)

/-- A step whose parts fit on its line and do not look like the groups that follow them. -/
@[mk_iff]
structure Step.Writable (step : Step) : Prop where
  action_single_line : '\n' ∉ step.action.toList
  action_no_quote : '"' ∉ step.action.toList
  action_no_open : '{' ∉ step.action.toList
  action_no_close : '}' ∉ step.action.toList
  workObject_single_line : ∀ object ∈ step.workObject, '\n' ∉ object.toList
  remark_single_line : ∀ remark ∈ step.remark, '\n' ∉ remark.toList

instance (step : Step) : Decidable step.Writable :=
  decidable_of_iff' _ (Step.writable_iff step)

/-! ## Trimmed lines -/

theorem Line.classify_of_trimmed (known : List String) {line : List Char} (h : Trimmed line)
    (hne : line ≠ []) : Line.classify known line = Line.classifyTrimmed known line := by
  unfold Line.classify
  rw [show trim line = line from h]
  split
  · exact absurd rfl hne
  · rfl

/-- A mark before a text leaves nothing to trim at the start. -/
theorem trimmed_cons {mark : Char} (between : List Char) {text : List Char}
    (hmark : isBlank mark = false) (htext : Trimmed text) (hne : text ≠ []) :
    Trimmed (mark :: (between ++ text)) := by
  have hsingle : Trimmed [mark] := by
    rw [trimmed_iff]
    simp [hmark]
  exact hsingle.append htext (List.cons_ne_nil _ _) hne between

/-- A part between marks after a text leaves nothing to trim at the end. -/
theorem Text.Trimmed.append_enclosed {openMark closeMark : Char} {text : List Char}
    (hclose : isBlank closeMark = false) (htext : Trimmed text) (hne : text ≠ [])
    (part : Option String) : Trimmed (text ++ enclosed openMark closeMark part) := by
  cases part with
  | none =>
    rw [enclosed, List.append_nil]
    exact htext
  | some part =>
    have hsingle : Trimmed [closeMark] := by
      rw [trimmed_iff]
      simp [hclose]
    rw [enclosed, ← List.append_assoc]
    exact htext.append hsingle hne (List.cons_ne_nil _ _) _

/-! ## Headers -/

theorem Domain.classify_header {known : List String} {domain : Domain} (h : IsTitle domain.title) :
    Line.classify known domain.header = .domainHeader domain.title := by
  have hne : domain.title.toList ≠ [] := by simpa using h.ne
  have htitle : trim (' ' :: domain.title.toList) = domain.title.toList :=
    h.trimmed.trim_cons (by decide)
  have htrimmed : Trimmed ('#' :: ([' '] ++ domain.title.toList)) :=
    trimmed_cons [' '] (by decide) h.trimmed hne
  calc Line.classify known domain.header
      = Line.classifyTrimmed known ('#' :: ' ' :: domain.title.toList) :=
        Line.classify_of_trimmed known htrimmed (List.cons_ne_nil _ _)
    _ = .domainHeader (String.ofList (trim (' ' :: domain.title.toList))) := rfl
    _ = .domainHeader domain.title := by rw [htitle, String.ofList_toList]

theorem Flow.classify_header {known : List String} {flow : Flow} (h : IsTitle flow.title) :
    Line.classify known flow.header = .flowHeader flow.title := by
  have hne : flow.title.toList ≠ [] := by simpa using h.ne
  have htitle : trim (' ' :: flow.title.toList) = flow.title.toList :=
    h.trimmed.trim_cons (by decide)
  have htrimmed : Trimmed ('#' :: (['#', ' '] ++ flow.title.toList)) :=
    trimmed_cons ['#', ' '] (by decide) h.trimmed hne
  calc Line.classify known flow.header
      = Line.classifyTrimmed known ('#' :: '#' :: ' ' :: flow.title.toList) :=
        Line.classify_of_trimmed known htrimmed (List.cons_ne_nil _ _)
    _ = .flowHeader (String.ofList (trim (' ' :: flow.title.toList))) := rfl
    _ = .flowHeader flow.title := by rw [htitle, String.ofList_toList]

/-! ## Notes -/

/-- A note is tagged as it is written. -/
theorem Note.tagged_written {note : Note} (h : note.WellFormed) :
    Note.Tagged ('[' :: note.kind.tag.toList ++ ']' :: ' ' :: note.content.toList) note.kind
      note.content.toList := by
  have hsmall : note.kind.tag.toList.map Char.toLower = note.kind.tag.toList := by
    cases note.kind <;> decide
  have hcontent : trim (' ' :: note.content.toList) = note.content.toList :=
    h.content_trimmed.trim_cons (by decide)
  exact ⟨_, _, rfl, hsmall, hcontent.symm, by simpa using h.content_ne⟩

/-- A note is read as it was written. -/
theorem Note.classify_line {known : List String} {note : Note} (h : note.WellFormed) :
    Line.classify known note.line = .note note := by
  have hne : note.content.toList ≠ [] := by simpa using h.content_ne
  have hline : note.line
      = '>' :: (' ' :: '[' :: note.kind.tag.toList ++ [']', ' '] ++ note.content.toList) := by
    simp [Note.line]
  have htrimmed : Trimmed note.line := by
    rw [hline]
    exact trimmed_cons _ (by decide) h.content_trimmed hne
  -- the body without the blank after the mark
  have hbody : trim (' ' :: '[' :: note.kind.tag.toList ++ [']', ' '] ++ note.content.toList)
      = '[' :: note.kind.tag.toList ++ ']' :: ' ' :: note.content.toList := by
    have htagged : Trimmed ('[' :: (note.kind.tag.toList ++ [']', ' '] ++ note.content.toList)) :=
      trimmed_cons _ (by decide) h.content_trimmed hne
    rw [List.cons_append, List.cons_append, trim_cons_blank (by decide)]
    simpa [Trimmed] using htagged
  have hnote :
      Note.ofBody? (' ' :: '[' :: note.kind.tag.toList ++ [']', ' '] ++ note.content.toList)
        = some note := by
    unfold Note.ofBody?
    rw [hbody]
    dsimp only
    rw [Note.tagged?_eq_some_iff.mpr (Note.tagged_written h)]
    simp
  rw [Line.classify_of_trimmed known htrimmed (by rw [hline]; exact List.cons_ne_nil _ _), hline]
  unfold Line.classifyTrimmed
  simp only [hnote]

/-! ## Actors -/

/-- An actor is read as it was written, if its name holds no quote. -/
theorem ActorDecl.classify_line {known : List String} {decl : ActorDecl} (h : decl.WellFormed)
    (hquote : '"' ∉ decl.name.toList) : Line.classify known decl.line = .actor decl := by
  have hname : decl.name.toList ≠ [] := by simpa using h.name_ne
  have hline : decl.line = '@' :: (decl.name.toList ++ enclosed '(' ')' (some decl.icon)
      ++ enclosed '"' '"' decl.remark) := rfl
  have htrimmed : Trimmed decl.line := by
    have hat : Trimmed ('@' :: ([] ++ decl.name.toList)) :=
      trimmed_cons [] (by decide) h.name_trimmed hname
    have hicon : Trimmed ('@' :: decl.name.toList ++ enclosed '(' ')' (some decl.icon)) :=
      hat.append_enclosed (by decide) (List.cons_ne_nil _ _) _
    exact hicon.append_enclosed (by decide) (List.cons_ne_nil _ _) _
  rw [Line.classify_of_trimmed known htrimmed (by rw [hline]; exact List.cons_ne_nil _ _), hline]
  unfold Line.classifyTrimmed
  simp only [ActorDecl.ofBody?_written h hquote]

/-! ## Separable names -/

namespace Separable

variable {names : List String} {name : String}

theorem caseless_ne (h : Separable names) (hname : name ∈ names) :
    ∀ other ∈ names, other ≠ name → caseless other.toList ≠ caseless name.toList := by
  intro other hother hne hsame
  exact hne (List.inj_on_of_nodup_map h.distinct hother hname hsame)

/-- A name and a blank start no name, which is too short if it is the same one. -/
theorem not_longer_start (h : Separable names) (hname : name ∈ names) :
    ∀ other ∈ names, ¬ caseless (name.toList ++ [' ']) <+: caseless other.toList := by
  intro other hother hlonger
  by_cases hsame : other = name
  · have hlength := hlonger.length_le
    rw [hsame, length_caseless, length_caseless, List.length_append, List.length_singleton]
      at hlength
    omega
  · exact h.no_longer_start name hname other hother hsame hlonger

theorem not_longer_end (h : Separable names) (hname : name ∈ names) :
    ∀ other ∈ names, ¬ caseless (' ' :: name.toList) <:+ caseless other.toList := by
  intro other hother hlonger
  by_cases hsame : other = name
  · have hlength := hlonger.length_le
    rw [hsame, length_caseless, length_caseless, List.length_cons] at hlength
    omega
  · exact h.no_longer_end name hname other hother hsame hlonger

end Separable

/-! ## Steps -/

namespace Step

variable {step : Step} {names : List String}

/-- How the line of a step is laid out. -/
def layout (step : Step) : StepLayout where
  source := step.source.toList
  gap := [' ']
  action := step.action.toList
  pause := if step.action.isEmpty then [] else [' ']
  target := step.target.toList
  rest := if step.workObject.isNone && step.remark.isNone then [] else [' ']
  object := step.workObject.map fun object =>
    (object.toList, if step.remark.isNone then [] else [' '])
  remark := step.remark.map String.toList

theorem line_eq (step : Step) :
    step.line = step.layout.path ++ enclosed '{' '}' step.workObject
      ++ enclosed '"' '"' step.remark := by
  unfold line StepLayout.path layout
  split
  · next hempty => simp [String.isEmpty_iff.mp hempty]
  · simp

theorem line_eq_text (step : Step) : step.line = step.layout.text := by
  rw [line_eq, StepLayout.text]
  cases hobject : step.workObject <;> cases hremark : step.remark <;>
    simp [layout, hobject, hremark, enclosed, StepLayout.braced, StepLayout.quoted]

/-- Its layout tells the step. -/
theorem told_layout (h : step.WellFormed names) :
    step.layout.told step.source step.target = step := by
  have hobject : (step.workObject.map String.toList).bind nonBlank = step.workObject := by
    cases hfound : step.workObject with
    | none => rfl
    | some object =>
      obtain ⟨hne, htrimmed, -⟩ := h.workObject object hfound
      have hne' : object.toList ≠ [] := by simpa using hne
      simp [nonBlank, show trim object.toList = object.toList from htrimmed, hne']
  have hremark : (step.remark.map String.toList).map String.ofList = step.remark := by
    simp [Function.comp_def]
  have htold : step.layout.told step.source step.target
      = ⟨step.source, String.ofList step.action.toList, step.target,
        (step.workObject.map String.toList).bind nonBlank,
        (step.remark.map String.toList).map String.ofList⟩ := by
    simp [StepLayout.told, layout, Option.bind_map, Function.comp_def]
  rw [htold, hobject, hremark, String.ofList_toList]

theorem trimmed_path (hsource : IsPlainName step.source) (htarget : IsPlainName step.target) :
    Trimmed step.layout.path :=
  StepLayout.trimmed_path hsource.trimmed htarget.trimmed (by simpa [layout] using hsource.ne)
    (by simpa [layout] using htarget.ne)

/-- A step that can be written is laid out so that it can be read. -/
theorem legible_layout (hnames : Separable names) (h : step.WellFormed names)
    (hstep : step.Writable) : step.layout.Legible names step.source step.target := by
  have hsource := hnames.plain _ h.source_mem
  have htarget := hnames.plain _ h.target_mem
  have hblank : Blanks [' '] := by decide
  have hnone : Blanks [] := by decide
  refine {
    gap := hblank
    action := h.action_trimmed
    pause := by unfold layout; dsimp only; split <;> assumption
    rest := by unfold layout; dsimp only; split <;> assumption
    object := ?_
    remark := ?_
    source_mem := h.source_mem
    target_mem := h.target_mem
    source_ne := by simpa [layout] using hsource.ne
    target_ne := by simpa [layout] using htarget.ne
    source_same := rfl
    target_same := rfl
    source_trimmed := hsource.trimmed
    target_trimmed := htarget.trimmed
    gap_ne := List.cons_ne_nil _ _
    pause_eq_nil_iff := by simp [layout]
    no_quote := by simp [layout, hsource.no_quote, hstep.action_no_quote, htarget.no_quote]
    no_open := by simp [layout, hsource.no_open, hstep.action_no_open, htarget.no_open]
    no_close := by simp [layout, hsource.no_close, hstep.action_no_close, htarget.no_close]
    source_alone := hnames.caseless_ne h.source_mem
    target_alone := hnames.caseless_ne h.target_mem
    no_longer_start := hnames.not_longer_start h.source_mem
    no_longer_end := ?_ }
  · rintro group hgroup
    obtain ⟨object, hobject, rfl⟩ := Option.map_eq_some_iff.mp hgroup
    obtain ⟨hne, -, hmem⟩ := h.workObject object hobject
    refine ⟨by simpa using hne, hmem, ?_⟩
    dsimp only
    split <;> assumption
  · rintro content hcontent
    obtain ⟨remark, hremark, rfl⟩ := Option.map_eq_some_iff.mp hcontent
    obtain ⟨hne, hmem⟩ := h.remark remark hremark
    exact ⟨by simpa using hne, hmem⟩
  · have hlast : (step.layout.gap ++ step.layout.pause).rtake 1 = [' '] := by
      unfold layout
      dsimp only
      split <;> rfl
    rw [hlast]
    exact hnames.not_longer_end h.target_mem

/-- A line that starts with a plain name has no mark of another kind of line. -/
theorem classifyTrimmed_of_plain {known : List String} {name : String} (h : IsPlainName name)
    (rest : List Char) :
    Line.classifyTrimmed known (name.toList ++ ' ' :: rest)
      = if mentionsAny known (name.toList ++ ' ' :: rest) then .stepCandidate else .prose := by
  have hmark := h.no_mark
  have hne : name.toList ≠ [] := by simpa using h.ne
  unfold Line.classifyTrimmed
  cases hname : name.toList with
  | nil => exact absurd hname hne
  | cons c cs =>
    have hfirst : c ≠ '#' ∧ c ≠ '>' ∧ c ≠ '@' := by
      refine ⟨fun hc => ?_, fun hc => ?_, fun hc => ?_⟩
      · exact hmark "#" (by decide) (by simp [hname, hc])
      · exact hmark ">" (by decide) (by simp [hname, hc])
      · exact hmark "@" (by decide) (by simp [hname, hc])
    -- two slashes would both belong to the name, for a blank follows it
    have hslashes : ∀ more, c :: (cs ++ ' ' :: rest) ≠ '/' :: '/' :: more := by
      intro more hline
      obtain ⟨rfl, hrest⟩ := List.cons.inj hline
      cases cs with
      | nil => exact absurd (List.cons.inj hrest).1 (by decide)
      | cons d cs =>
        obtain ⟨rfl, -⟩ := List.cons.inj hrest
        exact hmark "//" (by decide) (by simp [hname])
    rw [List.cons_append]
    split
    · next hline => exact absurd (List.cons.inj hline).1 hfirst.1
    · next hline => exact absurd (List.cons.inj hline).1 hfirst.1
    · next hline => exact absurd (List.cons.inj hline).1 hfirst.2.1
    · next hline => exact absurd (List.cons.inj hline).1 hfirst.2.2
    · next hline => exact absurd hline (hslashes _)
    · rfl

theorem trimmed_line (hnames : Separable names) (h : step.WellFormed names) :
    Trimmed step.line := by
  have hpath := trimmed_path (hnames.plain _ h.source_mem) (hnames.plain _ h.target_mem)
  have hpath_ne : step.layout.path ≠ [] := by simp [StepLayout.path, layout]
  have hobject : Trimmed (step.layout.path ++ enclosed '{' '}' step.workObject) :=
    hpath.append_enclosed (by decide) hpath_ne _
  rw [line_eq]
  exact hobject.append_enclosed (by decide) (by simp [hpath_ne]) _

/-- A step between names of its domain is taken for one. -/
theorem classify_line (hnames : Separable names) (h : step.WellFormed names) :
    Line.classify names step.line = .stepCandidate := by
  have hsource := hnames.plain step.source h.source_mem
  have hline : step.line = step.source.toList ++ ' ' :: (step.layout.action ++ step.layout.pause
      ++ step.layout.target ++ enclosed '{' '}' step.workObject
      ++ enclosed '"' '"' step.remark) := by
    simp [line_eq, StepLayout.path, layout]
  rw [Line.classify_of_trimmed names (trimmed_line hnames h) (by simp [hline]), hline,
    classifyTrimmed_of_plain hsource, if_pos (mentionsAny_of_first h.source_mem hsource.ne _)]

/-- A step is read as it was written. -/
theorem read_line (hnames : Separable names) (h : step.WellFormed names) (hstep : step.Writable) :
    Step.read names step.line = .ok step := by
  rw [line_eq_text, read_text (legible_layout hnames h hstep), told_layout h]

end Step

end DomainStory
