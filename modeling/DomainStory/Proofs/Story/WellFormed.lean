import Mathlib.Data.List.TakeWhile
import Mathlib.Tactic.MkIffOfInductiveProp
import DomainStory.Config
import DomainStory.Proofs.Story.NoteTag
import DomainStory.Proofs.Story.StepGrammar
import DomainStory.Story.Reading

/-!
# Well-formed stories

What may be relied on in whatever was read: names, icons and remarks have content, parts are
trimmed, flows are numbered from 1, steps lie between declared actors. The grammars of notes,
actors and steps only ever give well-formed parts: `Note.wellFormed_of_ofBody?`,
`ActorDecl.wellFormed_of_ofBody?` and `Step.wellFormed_of_read`.
-/

namespace DomainStory

open Text

/-! ## The parts of a story -/

@[mk_iff]
structure Note.WellFormed (note : Note) : Prop where
  content_ne : note.content ≠ ""
  content_trimmed : Trimmed note.content.toList

instance (note : Note) : Decidable note.WellFormed :=
  decidable_of_iff' _ (Note.wellFormed_iff note)

@[mk_iff]
structure ActorDecl.WellFormed (decl : ActorDecl) : Prop where
  name_ne : decl.name ≠ ""
  name_trimmed : Trimmed decl.name.toList
  icon_ne : decl.icon ≠ ""
  icon_word : ∀ c ∈ decl.icon.toList, isWord c = true
  remark_ne : decl.remark ≠ some ""

instance (decl : ActorDecl) : Decidable decl.WellFormed :=
  -- the icon is searched as a list, for there are too many characters to try them all
  decidable_of_iff (decl.name ≠ "" ∧ Trimmed decl.name.toList ∧ decl.icon ≠ "" ∧
      decl.icon.toList.all isWord = true ∧ decl.remark ≠ some "")
    (by rw [ActorDecl.wellFormed_iff, List.all_eq_true])

/-- A step leads from one of the given names to another. -/
@[mk_iff]
structure Step.WellFormed (names : List String) (step : Step) : Prop where
  source_mem : step.source ∈ names
  target_mem : step.target ∈ names
  action_trimmed : Trimmed step.action.toList
  workObject : ∀ object ∈ step.workObject,
    object ≠ "" ∧ Trimmed object.toList ∧ '}' ∉ object.toList
  remark : ∀ remark ∈ step.remark, remark ≠ "" ∧ '"' ∉ remark.toList

instance (names : List String) (step : Step) : Decidable (step.WellFormed names) :=
  decidable_of_iff' _ (Step.wellFormed_iff names step)

/-- The actors of a domain differ in more than case, and everything in it is well-formed. -/
@[mk_iff]
structure Domain.WellFormed (domain : Domain) : Prop where
  distinct : (domain.actorNames.map fun name => lowercase name.toList).Nodup
  actors : ∀ decl ∈ domain.participants, decl.WellFormed
  notes : ∀ note ∈ domain.notes, note.WellFormed
  numbered : domain.flows.map Flow.number = List.range' 1 domain.flows.length
  steps : ∀ flow ∈ domain.flows, ∀ step ∈ flow.steps, step.WellFormed domain.actorNames

instance (domain : Domain) : Decidable domain.WellFormed :=
  decidable_of_iff' _ (Domain.wellFormed_iff domain)

/-- Errors stand in the order of their lines, one for each line at most. -/
structure LineError.Ordered (lineCount : Nat) (errors : List LineError) : Prop where
  ascending : errors.Pairwise fun first second => first.line < second.line
  within : ∀ error ∈ errors, 1 ≤ error.line ∧ error.line ≤ lineCount

/-- A story as it may be read from a number of lines. -/
structure Story.WellFormed (config : Config) (lineCount : Nat) (story : Story) : Prop where
  domains : ∀ domain ∈ story.domains, domain.WellFormed
  colors : ∀ i domain, story.domains[i]? = some domain → domain.color = config.domainColor i
  errors : LineError.Ordered lineCount story.errors

/-! ## Notes -/

theorem Note.wellFormed_of_ofBody? {body : List Char} {note : Note}
    (h : Note.ofBody? body = some note) : note.WellFormed := by
  unfold Note.ofBody? at h
  dsimp only at h
  split at h
  · exact absurd h (by simp)
  · next hne =>
    split at h
    · next found htag =>
      obtain rfl := Option.some.inj h
      obtain ⟨tag, after, -, -, hcontent, hcontent_ne⟩ := Note.tagged?_eq_some_iff.mp htag
      refine ⟨by simpa using hcontent_ne, ?_⟩
      rw [hcontent]
      exact trimmed_trim after
    · obtain rfl := Option.some.inj h
      exact ⟨by simpa using hne, by simpa using trimmed_trim body⟩

/-! ## Actor declarations -/

/-- A remark that is there is not empty. -/
theorem ActorDecl.remark?_ne {tail : List Char} {remark : Option String}
    (h : ActorDecl.remark? tail = some remark) : remark ≠ some "" := by
  unfold ActorDecl.remark? at h
  split at h
  · obtain rfl := Option.some.inj h
    simp
  · split at h
    · next hcond =>
      obtain rfl := Option.some.inj h
      simp only [Bool.and_eq_true, Bool.not_eq_true'] at hcond
      simp only [ne_eq, Option.some.injEq, String.ofList_eq_empty_iff]
      intro hnil
      simp [hnil] at hcond
    · exact absurd h (by simp)
  · exact absurd h (by simp)

/-- A declaration found at a parenthesis is well-formed if the text before it is trimmed. -/
theorem ActorDecl.wellFormed_of_atParenthesis? {name rest : List Char} {decl : ActorDecl}
    (hname : Trimmed name) (h : ActorDecl.atParenthesis? name rest = some decl) :
    decl.WellFormed := by
  unfold ActorDecl.atParenthesis? at h
  dsimp only at h
  split at h
  · exact absurd h (by simp)
  · next hne =>
    simp only [Bool.or_eq_true, not_or, List.isEmpty_iff] at hne
    split at h
    · obtain ⟨remark, hremark, rfl⟩ := Option.map_eq_some_iff.mp h
      exact {
        name_ne := by simpa using hne.1
        name_trimmed := by simpa using hname
        icon_ne := by simpa using hne.2
        icon_word := by
          intro c hc
          rw [String.toList_ofList] at hc
          exact List.mem_takeWhile_imp hc
        remark_ne := ActorDecl.remark?_ne hremark }
    · exact absurd h (by simp)

/-- Every declaration that the scan finds is well-formed. -/
theorem ActorDecl.wellFormed_of_scan? {before cs : List Char} {decl : ActorDecl}
    (h : ActorDecl.scan? before cs = some decl) : decl.WellFormed := by
  induction cs generalizing before with
  | nil => exact absurd h (by simp [ActorDecl.scan?])
  | cons c cs ih =>
    simp only [ActorDecl.scan?, Option.or_eq_some_iff] at h
    -- a parenthesis is tried with what was passed so far as the name
    rcases h with hhere | ⟨-, hlater⟩
    · split at hhere
      · exact ActorDecl.wellFormed_of_atParenthesis? (trimmed_trim _) hhere
      · exact absurd hhere (by simp)
    · exact ih hlater

theorem ActorDecl.wellFormed_of_ofBody? {body : List Char} {decl : ActorDecl}
    (h : ActorDecl.ofBody? body = some decl) : decl.WellFormed :=
  ActorDecl.wellFormed_of_scan? h

/-! ## Steps -/

/-- Every step that is read is well-formed and lies between two of the names. -/
theorem Step.wellFormed_of_read {names : List String} {line : List Char} {step : Step}
    (h : Step.read names line = .ok step) : step.WellFormed names := by
  obtain ⟨remark, rest, workObject, path, source, target, hremark, hobject, hsource, htarget,
    rfl⟩ := Step.read_eq_ok h
  exact {
    source_mem := NameMatch.first?_mem hsource
    target_mem := NameMatch.last?_mem htarget
    action_trimmed := by simpa using trimmed_trim target.before
    workObject := by
      rintro object rfl
      exact Step.splitWorkObject_content hobject
    remark := by
      rintro text rfl
      exact Step.splitRemark_content hremark }

/-! ## Lines -/

/-- What a line declares is well-formed. -/
def Line.WellFormed : Line → Prop
  | .note found => found.WellFormed
  | .actor decl => decl.WellFormed
  | _ => True

theorem Line.wellFormed_classifyTrimmed (known : List String) (line : List Char) :
    (Line.classifyTrimmed known line).WellFormed := by
  unfold Line.classifyTrimmed
  split
  · exact trivial
  · exact trivial
  · split
    · next found hfound => exact Note.wellFormed_of_ofBody? hfound
    · exact trivial
  · split
    · next found hfound => exact ActorDecl.wellFormed_of_ofBody? hfound
    · exact trivial
  · exact trivial
  · split <;> exact trivial

theorem Line.wellFormed_classify (known : List String) (text : List Char) :
    (Line.classify known text).WellFormed := by
  unfold Line.classify
  split
  · exact trivial
  · exact Line.wellFormed_classifyTrimmed known _

/-! ## Growing a domain -/

namespace Domain.WellFormed

variable {domain : Domain}

theorem new (title color : String) : (Domain.new title color).WellFormed := by
  constructor <;> simp [Domain.new, Domain.actorNames]

theorem addNote {note : Note} (h : domain.WellFormed) (hnote : note.WellFormed) :
    (domain.addNote note).WellFormed where
  distinct := h.distinct
  actors := h.actors
  notes := by
    intro found hfound
    rcases List.mem_append.mp hfound with hold | hnew
    · exact h.notes found hold
    · rw [List.mem_singleton.mp hnew]
      exact hnote
  numbered := h.numbered
  steps := h.steps

theorem addFlow (title : String) (h : domain.WellFormed) :
    (domain.addFlow (domain.flows.length + 1) title).WellFormed where
  distinct := h.distinct
  actors := h.actors
  notes := h.notes
  numbered := by
    have hnumbered := h.numbered
    simp only [Domain.addFlow, List.map_append, List.map_cons, List.map_nil, List.length_append,
      List.length_singleton, List.range'_1_concat, hnumbered, Nat.add_comm 1]
  steps := by
    intro flow hflow
    rcases List.mem_append.mp hflow with hold | hnew
    · exact h.steps flow hold
    · rw [List.mem_singleton.mp hnew]
      intro step hstep
      exact absurd hstep (List.not_mem_nil)

/-- A new actor must differ from the others in more than case. Steps keep their actors. -/
theorem addActor {decl : ActorDecl} (h : domain.WellFormed) (hdecl : decl.WellFormed)
    (hnew : domain.actor? decl.name = none) : (domain.addActor decl).WellFormed where
  distinct := by
    -- looking the name up found nobody, in lower case
    have hfresh : ∀ other ∈ domain.participants,
        lowercase other.name.toList ≠ lowercase decl.name.toList := by
      simpa [Domain.actor?] using hnew
    have hdistinct := h.distinct
    rw [Domain.actorNames, List.map_map] at hdistinct
    rw [Domain.actorNames, Domain.addActor, List.map_map, List.map_append, List.nodup_append]
    refine ⟨hdistinct, List.nodup_cons.mpr ⟨List.not_mem_nil, List.nodup_nil⟩, ?_⟩
    intro lower hlower lower' hlower'
    obtain ⟨other, hother, rfl⟩ := List.mem_map.mp hlower
    rw [List.map_singleton, List.mem_singleton] at hlower'
    rw [hlower']
    exact hfresh other hother
  actors := by
    intro found hfound
    rcases List.mem_append.mp hfound with hold | hnew
    · exact h.actors found hold
    · rw [List.mem_singleton.mp hnew]
      exact hdecl
  notes := h.notes
  numbered := h.numbered
  steps := by
    intro flow hflow step hstep
    -- the actors of old steps are still declared
    have hgrow : domain.actorNames ⊆ (domain.addActor decl).actorNames := by
      simp [Domain.actorNames, Domain.addActor]
    have hold := h.steps flow hflow step hstep
    exact { hold with
      source_mem := hgrow hold.source_mem
      target_mem := hgrow hold.target_mem }

/-- Whatever is in a flow after a step came in was there before, or is that step. -/
theorem mem_steps_addStep {step found : Step} {i : Nat} {flow : Flow}
    (hflow : flow ∈ (domain.addStep i step).flows) (hfound : found ∈ flow.steps) :
    found = step ∨ ∃ old ∈ domain.flows, found ∈ old.steps := by
  obtain ⟨j, hj⟩ := List.mem_iff_getElem?.mp hflow
  rw [Domain.addStep, List.getElem?_modify] at hj
  obtain ⟨old, hold, hchange⟩ := Option.map_eq_some_iff.mp hj
  have hmem : old ∈ domain.flows := List.mem_of_getElem? hold
  split at hchange
  · rw [← hchange] at hfound
    rcases List.mem_append.mp hfound with hthere | hhere
    · exact .inr ⟨old, hmem, hthere⟩
    · exact .inl (List.mem_singleton.mp hhere)
  · rw [← hchange] at hfound
    exact .inr ⟨old, hmem, hfound⟩

theorem addStep {step : Step} (i : Nat) (h : domain.WellFormed)
    (hstep : step.WellFormed domain.actorNames) : (domain.addStep i step).WellFormed where
  distinct := h.distinct
  actors := h.actors
  notes := h.notes
  numbered := by
    -- a step changes no number
    have hnumbers : (domain.addStep i step).flows.map Flow.number
        = domain.flows.map Flow.number := by
      refine List.ext_getElem? fun j => ?_
      rw [List.getElem?_map, List.getElem?_map, Domain.addStep, List.getElem?_modify]
      cases domain.flows[j]? with
      | none => rfl
      | some flow =>
        by_cases hj : i = j <;> simp [hj]
    rw [hnumbers, h.numbered, Domain.addStep, List.length_modify]
  steps := by
    intro flow hflow found hfound
    rcases mem_steps_addStep hflow hfound with rfl | ⟨old, hold, hthere⟩
    · exact hstep
    · exact h.steps old hold found hthere

end Domain.WellFormed

end DomainStory
