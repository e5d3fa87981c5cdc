import Mathlib.Data.List.DropRight
import DomainStory.Proofs.Story.StepLayout

/-!
# Steps that are read as they are laid out

A layout is `Legible` when its actors cannot be taken for others and none of its other parts looks
like a group: then the step that it tells is read off its text, whatever case the actors are in and
whatever white space there is (`Step.read_text`, `Step.readInto_text`).
-/

namespace DomainStory

open Text

namespace StepLayout

/-- A layout from which no other step can be read: white space sets the actors off, the path holds
no mark of a group, and of the names only the two that are meant equal the actors, while none is
longer and goes on with the character next to an actor. -/
@[mk_iff]
structure Legible (layout : StepLayout) (names : List String) (source target : String) : Prop
    extends layout.WellFormed, layout.Names names source target where
  source_trimmed : Trimmed layout.source
  target_trimmed : Trimmed layout.target
  gap_ne : layout.gap ≠ []
  pause_eq_nil_iff : layout.pause = [] ↔ layout.action = []
  no_quote : '"' ∉ layout.source ++ layout.action ++ layout.target
  no_open : '{' ∉ layout.source ++ layout.action ++ layout.target
  no_close : '}' ∉ layout.source ++ layout.action ++ layout.target
  source_alone : ∀ other ∈ names, other ≠ source →
    caseless other.toList ≠ caseless source.toList
  target_alone : ∀ other ∈ names, other ≠ target →
    caseless other.toList ≠ caseless target.toList
  no_longer_start : ∀ other ∈ names,
    ¬ caseless (layout.source ++ layout.gap.take 1) <+: caseless other.toList
  /-- Without an action, the target stands right after the gap. -/
  no_longer_end : ∀ other ∈ names,
    ¬ caseless ((layout.gap ++ layout.pause).rtake 1 ++ layout.target) <:+ caseless other.toList

instance (layout : StepLayout) (names : List String) (source target : String) :
    Decidable (layout.Legible names source target) :=
  decidable_of_iff' _ (layout.legible_iff names source target)

theorem trimmed_path {layout : StepLayout} (hsource : Trimmed layout.source)
    (htarget : Trimmed layout.target) (hsource_ne : layout.source ≠ [])
    (htarget_ne : layout.target ≠ []) : Trimmed layout.path := by
  have htrimmed := hsource.append htarget hsource_ne htarget_ne
    (layout.gap ++ layout.action ++ layout.pause)
  simpa [path] using htrimmed

/-! ## Groups after a text -/

theorem trim_append_braced_none {path gap : List Char} (hpath : Trimmed path) (hgap : Blanks gap) :
    trim (path ++ gap ++ braced none) = path := by
  rw [braced, List.append_nil, trim_append_right hgap]
  exact hpath

/-- A closing brace ends a trimmed text, and the white space after it is trimmed away. -/
theorem trim_append_braced_some {path gap content after : List Char} (hpath : Trimmed path)
    (hne : path ≠ []) (hafter : Blanks after) :
    trim (path ++ gap ++ braced (some (content, after)))
      = path ++ gap ++ '{' :: content ++ ['}'] := by
  have hclose : Trimmed ['}'] := by decide
  have htrimmed : Trimmed (path ++ (gap ++ '{' :: content) ++ ['}']) :=
    hpath.append hclose hne (List.cons_ne_nil _ _) _
  have hshape : path ++ gap ++ braced (some (content, after))
      = path ++ (gap ++ '{' :: content) ++ ['}'] ++ after := by simp [braced]
  rw [hshape, trim_append_right hafter, show trim _ = _ from htrimmed]
  simp

end StepLayout

namespace Step

open StepLayout

/-- A work object is split off a path in which no braces stand, with the white space around it. -/
theorem splitWorkObject_braced {path gap : List Char} {object : Option (List Char × List Char)}
    (hpath : Trimmed path) (hne : path ≠ []) (hgap : Blanks gap) (hopen : '{' ∉ path)
    (hclose : '}' ∉ path)
    (hobject : ∀ group ∈ object, group.1 ≠ [] ∧ '}' ∉ group.1 ∧ Blanks group.2) :
    splitWorkObject (trim (path ++ gap ++ braced object))
      = (object.bind fun (content, _) => nonBlank content, path) := by
  unfold splitWorkObject
  cases object with
  | none =>
    -- the path does not end with a brace
    obtain ⟨last, hlast⟩ : ∃ last, path.getLast? = some last :=
      ⟨_, List.getLast?_eq_some_getLast hne⟩
    have hbrace : last ≠ '}' := fun h => hclose (h ▸ List.mem_of_getLast? hlast)
    rw [trim_append_braced_none hpath hgap,
      trailingGroup_eq_none hlast ((trimmed_iff.mp hpath).2 last hlast) hbrace]
    rfl
  | some group =>
    obtain ⟨content, after⟩ := group
    obtain ⟨hcontent, hmem, hafter⟩ := hobject _ rfl
    -- white space holds no brace either
    have hopen' : '{' ∉ path ++ gap := by simp [hopen, hgap.notMem (c := '{') (by decide)]
    rw [trim_append_braced_some hpath hne hafter,
      trailingGroup_bracketed (by decide) hcontent hmem hopen', trim_append_right hgap,
      show trim path = path from hpath]
    rfl

/-- A remark is split off whatever stands before it and ends otherwise. -/
theorem splitRemark_quoted {body : List Char} {remark : Option (List Char)} {last : Char}
    (hstart : ∀ c ∈ body.head?, isBlank c = false) (hlast : (trim body).getLast? = some last)
    (hquote : last ≠ '"') (hremark : ∀ content ∈ remark, content ≠ [] ∧ '"' ∉ content) :
    splitRemark (trim (body ++ quoted remark)) = (remark.map String.ofList, trim body) := by
  unfold splitRemark
  cases remark with
  | none =>
    have hblank : isBlank last = false := (trimmed_iff.mp (trimmed_trim body)).2 last hlast
    rw [quoted, List.append_nil, trailingGroup_eq_none hlast hblank hquote]
    rfl
  | some content =>
    obtain ⟨hcontent, hmem⟩ := hremark content rfl
    have hne : body ≠ [] := by
      rintro rfl
      rw [show trim [] = [] from rfl] at hlast
      exact absurd hlast (by simp)
    have hshape : body ++ quoted (some content) = body ++ '"' :: content ++ ['"'] := by
      simp [quoted]
    have htrimmed : Trimmed (body ++ '"' :: content ++ ['"']) := by
      rw [trimmed_iff]
      refine ⟨fun c hc => hstart c ?_, fun c hc => ?_⟩
      · rwa [List.append_assoc, List.head?_append_of_ne_nil _ hne] at hc
      · rw [List.getLast?_concat] at hc
        obtain rfl := Option.some.inj hc
        decide
    rw [hshape, show trim _ = _ from htrimmed, trailingGroup_quoted (by decide) hcontent hmem]
    rfl

end Step

namespace StepLayout.Legible

variable {layout : StepLayout} {names : List String} {source target : String}

theorem path_ne (h : layout.Legible names source target) : layout.path ≠ [] := by
  simp [path, h.source_ne]

theorem trimmed_path (h : layout.Legible names source target) : Trimmed layout.path :=
  StepLayout.trimmed_path h.source_trimmed h.target_trimmed h.source_ne h.target_ne

theorem notMem_path (h : layout.Legible names source target) {mark : Char}
    (hmark : mark ∉ layout.source ++ layout.action ++ layout.target)
    (hblank : isBlank mark = false) : mark ∉ layout.path := by
  simp only [List.mem_append, not_or] at hmark
  obtain ⟨⟨hsource, haction⟩, htarget⟩ := hmark
  simp [path, hsource, haction, htarget, h.gap.notMem hblank, h.pause.notMem hblank]

/-- Before the remark, the line ends with a brace or as its path does, and not with a quote. -/
theorem getLast?_body (h : layout.Legible names source target) :
    ∃ last, (trim (layout.path ++ layout.rest ++ braced layout.object)).getLast? = some last ∧
      last ≠ '"' := by
  cases hobject : layout.object with
  | none =>
    have hquote : '"' ∉ layout.path := h.notMem_path h.no_quote (by decide)
    refine ⟨layout.path.getLast h.path_ne, ?_, fun hlast => hquote ?_⟩
    · rw [trim_append_braced_none h.trimmed_path h.rest]
      exact List.getLast?_eq_some_getLast h.path_ne
    · exact hlast ▸ List.getLast_mem h.path_ne
  | some group =>
    obtain ⟨content, after⟩ := group
    refine ⟨'}', ?_, by decide⟩
    rw [trim_append_braced_some h.trimmed_path h.path_ne (h.object _ hobject).2.2]
    exact List.getLast?_concat

/-- The source is found at the start of the path. -/
theorem first?_path (h : layout.Legible names source target) :
    NameMatch.first? names layout.path = some ⟨source, [], layout.source,
      layout.gap ++ (layout.action ++ layout.pause ++ layout.target)⟩ := by
  have hhead : (layout.gap ++ (layout.action ++ layout.pause ++ layout.target)).head?
      = layout.gap.head? := List.head?_append_of_ne_nil _ h.gap_ne
  have hpath : layout.path
      = layout.source ++ (layout.gap ++ (layout.action ++ layout.pause ++ layout.target)) := by
    simp [path]
  rw [hpath]
  refine NameMatch.first?_of_unrivalled h.source_mem h.source_ne h.source_same h.source_alone ?_ ?_
  · refine NameMatch.splitsWord_of_blank fun c hc => h.gap c ?_
    rw [hhead] at hc
    exact List.mem_of_head? hc
  · rw [hhead]
    intro c hc other hother
    have htake : layout.gap.take 1 = [c] := by rw [List.take_one, hc, Option.toList_some]
    rw [← htake]
    exact h.no_longer_start other hother

/-- What the source leaves has white space only before it. -/
theorem trim_after (h : layout.Legible names source target) :
    trim (layout.gap ++ (layout.action ++ layout.pause ++ layout.target))
      = layout.action ++ layout.pause ++ layout.target := by
  rw [trim_append_left h.gap]
  by_cases haction : layout.action = []
  · rw [haction, h.pause_eq_nil_iff.mpr haction]
    exact h.target_trimmed
  · exact h.action.append h.target_trimmed haction h.target_ne layout.pause

/-- The target is found at the end of that. -/
theorem last?_after (h : layout.Legible names source target) :
    NameMatch.last? names (layout.action ++ layout.pause ++ layout.target)
      = some ⟨target, layout.action ++ layout.pause, layout.target, []⟩ := by
  -- nothing precedes the target, or the pause does
  have hlast : (layout.action ++ layout.pause).getLast? = layout.pause.getLast? := by
    by_cases haction : layout.action = []
    · rw [haction, List.nil_append]
    · have hpause : layout.pause ≠ [] := fun hpause => haction (h.pause_eq_nil_iff.mp hpause)
      exact List.getLast?_append_of_ne_nil _ hpause
  refine NameMatch.last?_of_unrivalled h.target_mem h.target_ne h.target_same h.target_alone ?_ ?_
  · refine NameMatch.splitsWord_of_blank fun c hc => h.pause c ?_
    rw [hlast] at hc
    exact List.mem_of_getLast? hc
  · rw [hlast]
    intro c hc other hother
    obtain ⟨front, hpause⟩ := List.getLast?_eq_some_iff.mp hc
    have htake : (layout.gap ++ layout.pause).rtake 1 = [c] := by
      rw [hpause, ← List.append_assoc, List.rtake_concat_succ, List.rtake_zero, List.nil_append]
    rw [← List.singleton_append, ← htake]
    exact h.no_longer_end other hother

end StepLayout.Legible

namespace Step

variable {layout : StepLayout} {names : List String} {source target : String}

/-- The step that a legible layout tells is read off its text. -/
theorem read_text (h : layout.Legible names source target) :
    read names layout.text = .ok (layout.told source target) := by
  obtain ⟨last, hlast, hquote⟩ := h.getLast?_body
  -- the groups at the end are split off, the remark first
  have hremark : splitRemark (trim layout.text) = (layout.remark.map String.ofList,
      trim (layout.path ++ layout.rest ++ StepLayout.braced layout.object)) := by
    refine splitRemark_quoted (fun c hc => (trimmed_iff.mp h.trimmed_path).1 c ?_) hlast hquote
      h.remark
    rwa [List.append_assoc, List.head?_append_of_ne_nil _ h.path_ne] at hc
  have hobject : splitWorkObject
        (trim (layout.path ++ layout.rest ++ StepLayout.braced layout.object))
      = (layout.object.bind fun (content, _) => nonBlank content, layout.path) :=
    splitWorkObject_braced h.trimmed_path h.path_ne h.rest (h.notMem_path h.no_open (by decide))
      (h.notMem_path h.no_close (by decide)) h.object
  have haction : trim (layout.action ++ layout.pause) = layout.action := by
    rw [trim_append_right h.pause]
    exact h.action
  -- and the rest is cut at the two names
  have htarget : NameMatch.last? names
        (trim (layout.gap ++ (layout.action ++ layout.pause ++ layout.target)))
      = some ⟨target, layout.action ++ layout.pause, layout.target, []⟩ := by
    rw [h.trim_after]
    exact h.last?_after
  rw [read_of_parts hremark hobject h.first?_path htarget, haction]
  rfl

/-- White space around the text changes nothing, and no error is left. -/
theorem readInto_text (h : layout.Legible names source target) {before after : List Char}
    (hbefore : Blanks before) (hafter : Blanks after) (number : Nat) (errors : List LineError) :
    readInto names number (before ++ layout.text ++ after) errors
      = (some (layout.told source target), errors) := by
  have hread : read names (before ++ layout.text ++ after) = .ok (layout.told source target) := by
    rw [← read_trim, trim_append_right hafter, trim_append_left hbefore, read_trim]
    exact read_text h
  rw [readInto, hread]

/-- A request between actors whose names start with other names, in odd case and spacing. -/
def mapRequest : StepLayout where
  source := "anna MARIA".toList
  gap := ['\t', ' ']
  action := "asks Anna, and Bob,  for".toList
  pause := [' ']
  target := "BOB lee".toList
  rest := []
  object := some (" a \"map\" \x7b".toList, [' '])
  remark := some " urgent".toList

theorem readInto_mapRequest :
    mapRequest.Legible ["Anna", "Anna Maria", "Bob", "Bob Lee"] "Anna Maria" "Bob Lee" ∧
      Blanks ['\u3000'] ∧ Blanks ['\r'] ∧
      readInto ["Anna", "Anna Maria", "Bob", "Bob Lee"] 7
          (['\u3000'] ++ mapRequest.text ++ ['\r']) [LineFault.emptyStep.at 5]
        = (some ⟨"Anna Maria", "asks Anna, and Bob,  for", "Bob Lee", some "a \"map\" \x7b",
            some " urgent"⟩, [LineFault.emptyStep.at 5]) := by
  have hlegible : mapRequest.Legible ["Anna", "Anna Maria", "Bob", "Bob Lee"] "Anna Maria"
      "Bob Lee" := by decide
  have hbefore : Blanks ['\u3000'] := by decide
  have hafter : Blanks ['\r'] := by decide
  exact ⟨hlegible, hbefore, hafter, readInto_text hlegible hbefore hafter 7 _⟩

end Step

end DomainStory
