import Mathlib.Data.List.Basic
import DomainStory.Proofs.List
import DomainStory.Proofs.Story.LineKind
import DomainStory.Story.Reading

/-!
# The pass over the lines

The open flow and the number of the last flow need not be remembered: both follow from the domains
read so far, and `Draft.ofStory` is the draft with the state that they call for. Each operation of
the pass leads from such a draft to another one, so that what it does can be said of stories alone.

`Effect` says what a line does to a story that has a domain. The last domain decides it, and is all
that it touches (`Draft.addLine_ofStory_concat`). Where there is no domain, the kind of a line
decides whether it opens one first (`LineKind.needsDomain`, `Draft.addLine_ofStory_nil`).
-/

namespace DomainStory

open Text

/-! ## Drafts whose state follows from the story -/

namespace Draft

/-- The flow that is open at the end of some domains: the last flow of the last domain. -/
def lastFlow? (domains : List Domain) : Option Nat :=
  domains.getLast?.bind fun domain =>
    if domain.flows.isEmpty then none else some (domain.flows.length - 1)

def lastCount (domains : List Domain) : Nat :=
  (domains.getLast?.map fun domain => domain.flows.length).getD 0

/-- The draft of a pass that has read a story so far. -/
def ofStory (story : Story) : Draft where
  domains := story.domains
  errors := story.errors
  openFlow := lastFlow? story.domains
  flowCount := lastCount story.domains

@[simp] theorem domains_ofStory (story : Story) : (ofStory story).domains = story.domains := rfl

theorem empty_eq_ofStory : empty = ofStory .empty := rfl

theorem lastFlow?_concat (before : List Domain) (domain : Domain) :
    lastFlow? (before ++ [domain])
      = if domain.flows.isEmpty then none else some (domain.flows.length - 1) := by
  simp [lastFlow?]

theorem lastCount_concat (before : List Domain) (domain : Domain) :
    lastCount (before ++ [domain]) = domain.flows.length := by
  simp [lastCount]

/-- An open flow is the last one of the last domain. -/
theorem openFlow_ofStory {story : Story} {i : Nat} (h : (ofStory story).openFlow = some i) :
    ∃ domain, (ofStory story).current? = some domain ∧ i + 1 = domain.flows.length := by
  obtain ⟨domain, hlast, hflow⟩ := Option.bind_eq_some_iff.mp h
  refine ⟨domain, hlast, ?_⟩
  split at hflow
  · exact absurd hflow (by simp)
  · next hne =>
    rw [List.isEmpty_iff] at hne
    have hlength : 0 < domain.flows.length := List.length_pos_iff.mpr hne
    have hi : domain.flows.length - 1 = i := Option.some.inj hflow
    omega

/-- With a flow open, a line goes through the grammar: the step lands in the flow, and the error
that takes its place is the only one that is left. -/
theorem addStep_of_openFlow {draft : Draft} {flow : Nat} (h : draft.openFlow = some flow)
    (config : Config) (line : Nat) (text : List Char) :
    draft.addStep config line text =
      let ready := draft.ensureDomain config
      match Step.readInto ready.knownActors line text ready.errors with
      | (some step, errors) =>
        { ready with errors }.updateCurrent fun domain => domain.addStep flow step
      | (none, errors) => { ready with errors } := by
  unfold addStep Step.readInto
  rw [h]
  dsimp only
  cases Step.read (draft.ensureDomain config).knownActors text with
  | ok step => rfl
  | error fault => rfl

/-! ## Line after line -/

theorem addLines_append (config : Config) (draft : Draft) (line : Nat)
    (first rest : List (List Char)) :
    draft.addLines config line (first ++ rest)
      = (draft.addLines config line first).addLines config (line + first.length) rest := by
  induction first generalizing draft line with
  | nil => rfl
  | cons text first ih =>
    rw [List.cons_append, addLines, addLines, ih, List.length_cons,
      show line + 1 + first.length = line + (first.length + 1) by omega]

/-! ## Each operation on such a draft -/

variable {config : Config} {before : List Domain} {domain : Domain} {errors : List LineError}

theorem current?_ofStory_concat :
    (ofStory ⟨before ++ [domain], errors⟩).current? = some domain :=
  List.getLast?_concat

theorem knownActors_ofStory_concat :
    (ofStory ⟨before ++ [domain], errors⟩).knownActors = domain.actorNames := by
  unfold knownActors
  rw [current?_ofStory_concat]

theorem openDomain_ofStory (story : Story) (title : String) :
    (ofStory story).openDomain config title
      = ofStory ⟨story.domains ++ [Domain.new title (config.domainColor story.domains.length)],
          story.errors⟩ := by
  simp [openDomain, ofStory, lastFlow?, lastCount, Domain.new]

theorem addFault_ofStory (story : Story) (line : Nat) (fault : LineFault) :
    (ofStory story).addFault line fault
      = ofStory ⟨story.domains, story.errors ++ [fault.at line]⟩ :=
  rfl

/-- A change that keeps the number of flows keeps the open flow. -/
theorem updateCurrent_ofStory {change : Domain → Domain}
    (h : (change domain).flows.length = domain.flows.length) :
    (ofStory ⟨before ++ [domain], errors⟩).updateCurrent change
      = ofStory ⟨before ++ [change domain], errors⟩ := by
  -- the open flow and the count depend on the number of flows alone
  have hempty : (change domain).flows.isEmpty = domain.flows.isEmpty := by
    rw [Bool.eq_iff_iff, List.isEmpty_iff_length_eq_zero, List.isEmpty_iff_length_eq_zero, h]
  have hmodify := List.modify_length_concat change before domain
  simp only [updateCurrent, ofStory, lastFlow?_concat, lastCount_concat, h, hempty,
    List.length_append, List.length_singleton, Nat.add_sub_cancel, hmodify]

/-- The new flow is the open one, and its number is the number of flows. -/
theorem addFlow_ofStory (title : String) :
    (ofStory ⟨before ++ [domain], errors⟩).addFlow title
      = ofStory ⟨before ++ [domain.addFlow (domain.flows.length + 1) title], errors⟩ := by
  have hmodify := List.modify_length_concat
    (fun domain' => domain'.addFlow (domain.flows.length + 1) title) before domain
  simp only [addFlow, updateCurrent, current?, ofStory, lastFlow?_concat, lastCount_concat,
    List.length_append, List.length_singleton, Nat.add_sub_cancel, hmodify,
    List.getLast?_concat, Option.map_some]
  simp [Domain.addFlow]

/-- A draft with a domain needs no other. -/
theorem ensureDomain_ofStory_concat :
    (ofStory ⟨before ++ [domain], errors⟩).ensureDomain config
      = ofStory ⟨before ++ [domain], errors⟩ := by
  simp [ensureDomain]

/-- A step outside a flow is a fault, and any other one lands in the last flow. -/
theorem addStep_ofStory_concat (line : Nat) (text : List Char) :
    (ofStory ⟨before ++ [domain], errors⟩).addStep config line text
      = if domain.flows.isEmpty then
          ofStory ⟨before ++ [domain], errors ++ [LineFault.stepOutsideFlow.at line]⟩
        else
          match Step.read domain.actorNames text with
          | .ok step =>
            ofStory ⟨before ++ [domain.addStep (domain.flows.length - 1) step], errors⟩
          | .error fault => ofStory ⟨before ++ [domain], errors ++ [fault.at line]⟩ := by
  have hopen : (ofStory ⟨before ++ [domain], errors⟩).openFlow
      = if domain.flows.isEmpty then none else some (domain.flows.length - 1) :=
    lastFlow?_concat before domain
  by_cases hempty : domain.flows.isEmpty = true
  · rw [if_pos hempty] at hopen ⊢
    unfold addStep
    rw [hopen]
    exact addFault_ofStory _ _ _
  · rw [if_neg hempty] at hopen ⊢
    rw [addStep_of_openFlow hopen]
    -- an open flow needs no domain, for there is one that it belongs to
    dsimp only
    rw [ensureDomain_ofStory_concat, knownActors_ofStory_concat]
    unfold Step.readInto
    cases Step.read domain.actorNames text with
    | ok step => exact updateCurrent_ofStory (by simp [Domain.addStep])
    | error fault => exact addFault_ofStory _ _ _

end Draft

/-! ## What a line does -/

/-- What a line does to a story that has a domain. -/
inductive Effect where
  | keep
  /-- The last domain is replaced by one that has more in it. -/
  | grow (domain : Domain)
  | fault (fault : LineFault)
  | openDomain (title : String)

namespace Effect

/-- What a line does, given the last domain. -/
def of (domain : Domain) (text : List Char) : Effect :=
  match Line.classify domain.actorNames text with
  | .blank | .comment | .prose => keep
  | .domainHeader title => openDomain title
  | .note note => grow (domain.addNote note)
  | .actor decl =>
    match domain.actor? decl.name with
    | some _ => fault (.duplicateActor decl.name)
    | none => grow (domain.addActor decl)
  | .malformedActor => fault .invalidActor
  | .flowHeader title => grow (domain.addFlow (domain.flows.length + 1) title)
  | .stepCandidate =>
    if domain.flows.isEmpty then fault .stepOutsideFlow
    else
      match Step.read domain.actorNames text with
      | .ok step => grow (domain.addStep (domain.flows.length - 1) step)
      | .error reason => fault reason

/-- The story after an effect: the domains up to the last, the last one, and the errors. -/
def apply (config : Config) (line : Nat) (before : List Domain) (domain : Domain)
    (errors : List LineError) : Effect → Story
  | keep => ⟨before ++ [domain], errors⟩
  | grow domain' => ⟨before ++ [domain'], errors⟩
  | fault reason => ⟨before ++ [domain], errors ++ [reason.at line]⟩
  | openDomain title =>
    ⟨(before ++ [domain]) ++ [Domain.new title (config.domainColor (before.length + 1))], errors⟩

end Effect

/-- A line has its effect on the last domain. -/
theorem Draft.addLine_ofStory_concat (config : Config) (before : List Domain) (domain : Domain)
    (errors : List LineError) (line : Nat) (text : List Char) :
    (ofStory ⟨before ++ [domain], errors⟩).addLine config line text
      = ofStory ((Effect.of domain text).apply config line before domain errors) := by
  unfold addLine Effect.of
  rw [knownActors_ofStory_concat, ensureDomain_ofStory_concat]
  cases Line.classify domain.actorNames text with
  | blank => rfl
  | comment => rfl
  | prose => rfl
  | malformedActor => rfl
  | domainHeader title =>
    show (ofStory ⟨before ++ [domain], errors⟩).openDomain config title = _
    rw [openDomain_ofStory, List.length_append]
    rfl
  | note note => exact updateCurrent_ofStory rfl
  | actor decl =>
    show (ofStory _).addActor line decl = _
    unfold addActor
    rw [current?_ofStory_concat, Option.bind_some]
    dsimp only
    cases domain.actor? decl.name with
    | some taken => rfl
    | none => exact updateCurrent_ofStory rfl
  | flowHeader title => exact addFlow_ofStory title
  | stepCandidate =>
    show (ofStory _).addStep config line text = _
    rw [addStep_ofStory_concat]
    dsimp only
    split
    · rfl
    · cases Step.read domain.actorNames text with
      | ok step => rfl
      | error reason => rfl

/-- Where there is no domain, a line that needs one does to a new domain what it does to others. -/
theorem Draft.addLine_ofStory_nil {config : Config} {errors : List LineError} {line : Nat}
    {text : List Char}
    (h : (Line.classify (ofStory ⟨[], errors⟩).knownActors text).kind.needsDomain = true) :
    (ofStory ⟨[], errors⟩).addLine config line text
      = (ofStory ⟨[] ++ [Domain.new config.domainTitle (config.domainColor 0)], errors⟩).addLine
          config line text := by
  have hopened : (ofStory ⟨[], errors⟩).ensureDomain config
      = ofStory ⟨[] ++ [Domain.new config.domainTitle (config.domainColor 0)], errors⟩ :=
    openDomain_ofStory _ _
  -- nobody is known yet, in the new domain either
  have hknown : (Domain.new config.domainTitle (config.domainColor 0)).actorNames
      = (ofStory ⟨[], errors⟩).knownActors := rfl
  unfold addLine
  rw [knownActors_ofStory_concat, ensureDomain_ofStory_concat, hopened, hknown]
  cases hclass : Line.classify (ofStory ⟨[], errors⟩).knownActors text with
  | blank | comment | domainHeader title | stepCandidate =>
    rw [hclass] at h
    exact absurd h Bool.false_ne_true
  | _ => rfl

end DomainStory
