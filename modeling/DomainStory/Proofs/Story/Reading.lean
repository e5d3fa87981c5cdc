import DomainStory.Proofs.Story.Pass
import DomainStory.Proofs.Story.WellFormed

/-!
# What is read is well-formed

`Change` lists the ways in which a line changes a story, guards included; `addLine_ofStory` says
that there are no others. Each of them keeps a story well-formed (`Change.wellFormed`), hence so
does every sequence of lines (`addLines_ofStory`), and every story that is read is well-formed
(`Story.read_wellFormed`).
-/

namespace DomainStory

open Text

/-! ## What a line does -/

/-- A change that the line with the given number may make to a story. -/
inductive Change (config : Config) (line : Nat) : Story → Story → Prop where
  | keep (story : Story) : Change config line story story
  | openDomain (story : Story) (title : String) :
      Change config line story
        ⟨story.domains ++ [Domain.new title (config.domainColor story.domains.length)],
          story.errors⟩
  | addFault (story : Story) (fault : LineFault) :
      Change config line story ⟨story.domains, story.errors ++ [fault.at line]⟩
  | addNote {before : List Domain} {domain : Domain} {errors : List LineError} {note : Note}
      (hnote : note.WellFormed) :
      Change config line ⟨before ++ [domain], errors⟩ ⟨before ++ [domain.addNote note], errors⟩
  | addActor {before : List Domain} {domain : Domain} {errors : List LineError}
      {decl : ActorDecl} (hdecl : decl.WellFormed) (hnew : domain.actor? decl.name = none) :
      Change config line ⟨before ++ [domain], errors⟩ ⟨before ++ [domain.addActor decl], errors⟩
  | addFlow {before : List Domain} {domain : Domain} {errors : List LineError} (title : String) :
      Change config line ⟨before ++ [domain], errors⟩
        ⟨before ++ [domain.addFlow (domain.flows.length + 1) title], errors⟩
  | addStep {before : List Domain} {domain : Domain} {errors : List LineError} {step : Step}
      (hstep : step.WellFormed domain.actorNames) :
      Change config line ⟨before ++ [domain], errors⟩
        ⟨before ++ [domain.addStep (domain.flows.length - 1) step], errors⟩

/-- The effect of a line on the last domain is one of these changes. -/
theorem Effect.change (config : Config) (line : Nat) (before : List Domain) (domain : Domain)
    (errors : List LineError) (text : List Char) :
    Change config line ⟨before ++ [domain], errors⟩
      ((Effect.of domain text).apply config line before domain errors) := by
  have hline := Line.wellFormed_classify domain.actorNames text
  unfold Effect.of
  cases hkind : Line.classify domain.actorNames text with
  | blank => exact .keep _
  | comment => exact .keep _
  | prose => exact .keep _
  | domainHeader title =>
    have hcount : before.length + 1 = (before ++ [domain]).length := by simp
    rw [Effect.apply, hcount]
    exact .openDomain _ title
  | note note =>
    rw [hkind] at hline
    exact .addNote hline
  | actor decl =>
    rw [hkind] at hline
    dsimp only
    cases hfound : domain.actor? decl.name with
    | some taken => exact .addFault _ _
    | none => exact .addActor hline hfound
  | malformedActor => exact .addFault _ .invalidActor
  | flowHeader title => exact .addFlow title
  | stepCandidate =>
    dsimp only
    split
    · exact .addFault _ .stepOutsideFlow
    · cases hread : Step.read domain.actorNames text with
      | ok step => exact .addStep (Step.wellFormed_of_read hread)
      | error reason => exact .addFault _ reason

namespace Draft

/-- A line first opens a domain if it needs one and has none, and then makes one change. -/
theorem addLine_ofStory (config : Config) (story : Story) (line : Nat) (text : List Char) :
    ∃ ready story', (ofStory story).addLine config line text = ofStory story' ∧
      ready.errors = story.errors ∧ Change config line story ready ∧
        Change config line ready story' := by
  obtain ⟨domains, errors⟩ := story
  rcases List.eq_nil_or_concat' domains with rfl | ⟨before, domain, rfl⟩
  · cases hclass : Line.classify (ofStory ⟨[], errors⟩).knownActors text with
    | blank | comment =>
      rw [addLine, hclass]
      exact ⟨_, _, rfl, rfl, .keep _, .keep _⟩
    | domainHeader title =>
      rw [addLine, hclass]
      exact ⟨_, _, openDomain_ofStory _ title, rfl, .keep _, .openDomain _ _⟩
    -- a step needs a flow before it needs a domain
    | stepCandidate =>
      rw [addLine, hclass]
      exact ⟨_, _, rfl, rfl, .keep _, .addFault _ .stepOutsideFlow⟩
    | _ =>
      rw [addLine_ofStory_nil (by rw [hclass]; rfl), addLine_ofStory_concat]
      exact ⟨⟨[] ++ [_], errors⟩, _, rfl, rfl, .openDomain _ _, Effect.change _ _ _ _ _ _⟩
  · rw [addLine_ofStory_concat]
    exact ⟨_, _, rfl, rfl, .keep _, Effect.change _ _ _ _ _ _⟩

end Draft

/-! ## What a line keeps -/

/-- Errors stay in order when a later line leaves one. -/
theorem LineError.Ordered.concat {n line : Nat} {errors : List LineError} {fault : LineFault}
    (h : LineError.Ordered n errors) (hline : n < line) :
    LineError.Ordered line (errors ++ [fault.at line]) where
  ascending := by
    rw [List.pairwise_append]
    refine ⟨h.ascending, List.pairwise_singleton _ _, ?_⟩
    intro old hold new hnew
    rw [List.mem_singleton.mp hnew]
    exact Nat.lt_of_le_of_lt (h.within old hold).2 hline
  within := by
    intro error herror
    rcases List.mem_append.mp herror with hold | hnew
    · have hwithin := h.within error hold
      exact ⟨hwithin.1, by omega⟩
    · rw [List.mem_singleton.mp hnew]
      show 1 ≤ line ∧ line ≤ line
      omega

theorem LineError.Ordered.mono {n line : Nat} {errors : List LineError}
    (h : LineError.Ordered n errors) (hline : n ≤ line) : LineError.Ordered line errors where
  ascending := h.ascending
  within := fun error herror =>
    ⟨(h.within error herror).1, Nat.le_trans (h.within error herror).2 hline⟩

namespace Story.WellFormed

variable {config : Config} {n line : Nat} {before : List Domain} {domain : Domain}
  {errors : List LineError}

/-- Another last domain of the same color may stand in for the one that is there. -/
theorem replaceLast {domain' : Domain}
    (h : Story.WellFormed config n ⟨before ++ [domain], errors⟩)
    (hdomain : domain.WellFormed → domain'.WellFormed) (hcolor : domain'.color = domain.color) :
    Story.WellFormed config n ⟨before ++ [domain'], errors⟩ where
  domains := by
    intro found hfound
    rcases List.mem_append.mp hfound with hold | hnew
    · exact h.domains found (List.mem_append_left _ hold)
    · rw [List.mem_singleton.mp hnew]
      exact hdomain (h.domains domain (List.mem_append_right _ (List.mem_singleton_self _)))
  colors := by
    intro i found hfound
    rcases Nat.lt_or_ge i before.length with hi | hi
    · refine h.colors i found ?_
      rw [List.getElem?_append_left hi] at hfound ⊢
      exact hfound
    -- the last domain has the color of the one that it replaces
    · rw [List.getElem?_append_right hi, List.getElem?_singleton] at hfound
      split at hfound
      · obtain rfl := Option.some.inj hfound
        rw [hcolor]
        refine h.colors i domain ?_
        rw [List.getElem?_append_right hi, List.getElem?_singleton]
        simp [*]
      · exact absurd hfound (by simp)
  errors := h.errors

theorem openDomain (title : String) {story : Story} (h : story.WellFormed config n) :
    Story.WellFormed config n
      ⟨story.domains ++ [Domain.new title (config.domainColor story.domains.length)],
        story.errors⟩ where
  domains := by
    intro found hfound
    rcases List.mem_append.mp hfound with hold | hnew
    · exact h.domains found hold
    · rw [List.mem_singleton.mp hnew]
      exact .new _ _
  colors := by
    intro i found hfound
    rcases Nat.lt_or_ge i story.domains.length with hi | hi
    · rw [List.getElem?_append_left hi] at hfound
      exact h.colors i found hfound
    -- the new domain is the last one, and has the color of that place
    · rw [List.getElem?_append_right hi, List.getElem?_singleton] at hfound
      split at hfound
      · next hlast =>
        obtain rfl := Option.some.inj hfound
        rw [show i = story.domains.length by omega]
        rfl
      · exact absurd hfound (by simp)
  errors := h.errors

theorem mono {story : Story} (h : story.WellFormed config n) (hline : n ≤ line) :
    story.WellFormed config line :=
  { h with errors := h.errors.mono hline }

end Story.WellFormed

/-- Whatever a line changes, the story stays well-formed, and its errors end with that line. -/
theorem Change.wellFormed {config : Config} {n line : Nat} {story story' : Story}
    (hchange : Change config line story story') (hline : n < line)
    (h : story.WellFormed config n) : story'.WellFormed config line := by
  have hgrown := h.mono (Nat.le_of_lt hline)
  cases hchange with
  | keep => exact hgrown
  | openDomain _ title => exact hgrown.openDomain title
  | addFault _ fault => exact { hgrown with errors := h.errors.concat hline }
  | addNote hnote => exact hgrown.replaceLast (fun hdomain => hdomain.addNote hnote) rfl
  | addActor hdecl hnew => exact hgrown.replaceLast (fun hdomain => hdomain.addActor hdecl hnew) rfl
  | addFlow title => exact hgrown.replaceLast (fun hdomain => hdomain.addFlow title) rfl
  | addStep hstep => exact hgrown.replaceLast (fun hdomain => hdomain.addStep _ hstep) rfl

/-! ## The whole pass -/

/-- From a well-formed story, lines lead to another one, and to the state that it calls for. -/
theorem Draft.addLines_ofStory {config : Config} (lines : List (List Char)) {n : Nat}
    {story : Story} (h : story.WellFormed config n) :
    ∃ story' : Story, (ofStory story).addLines config (n + 1) lines = ofStory story' ∧
      story'.WellFormed config (n + lines.length) := by
  -- induction on the lines, from whatever story the lines before them gave
  induction lines generalizing n story with
  | nil => exact ⟨story, rfl, h⟩
  | cons text rest ih =>
    obtain ⟨ready, next, hadd, herrors, hfirst, hsecond⟩ :=
      addLine_ofStory config story (n + 1) text
    -- the first change leaves no error, hence the second may still leave one on the same line
    have hready : ready.WellFormed config n :=
      { hfirst.wellFormed (Nat.lt_succ_self n) h with errors := herrors ▸ h.errors }
    have hnext := hsecond.wellFormed (Nat.lt_succ_self n) hready
    obtain ⟨story', hrest, hstory'⟩ := ih hnext
    refine ⟨story', ?_, ?_⟩
    · rw [addLines, hadd]
      exact hrest
    · rw [show n + (text :: rest).length = n + 1 + rest.length by
        rw [List.length_cons]; omega]
      exact hstory'

theorem Story.wellFormed_empty (config : Config) : Story.empty.WellFormed config 0 where
  domains := fun _ h => absurd h List.not_mem_nil
  colors := fun _ _ h => absurd h (by simp [Story.empty])
  errors := ⟨.nil, fun _ h => absurd h List.not_mem_nil⟩

/-- The draft of some lines holds a well-formed story and the state that it calls for. -/
theorem Draft.ofLines_eq_ofStory (config : Config) (lines : List (List Char)) :
    ∃ story : Story, ofLines config lines = ofStory story ∧
      story.WellFormed config lines.length := by
  obtain ⟨story, hlines, hstory⟩ := addLines_ofStory lines (Story.wellFormed_empty config)
  rw [Nat.zero_add] at hstory
  exact ⟨story, hlines, hstory⟩

/-- Every story that is read is well-formed, and at any time during the pass the open flow is the
last flow of the last domain. -/
theorem Story.read_wellFormed (config : Config) (text : String) :
    (Story.read config text).WellFormed config (Story.lines text).length ∧
      ∀ n i, (Draft.ofLines config ((Story.lines text).take n)).openFlow = some i →
        ∃ domain, (Draft.ofLines config ((Story.lines text).take n)).current? = some domain ∧
          i + 1 = domain.flows.length := by
  refine ⟨?_, ?_⟩
  · obtain ⟨story, hlines, hstory⟩ := Draft.ofLines_eq_ofStory config (Story.lines text)
    rw [Story.read, hlines]
    exact hstory
  · intro n i hopen
    -- the state after `n` lines is the one that the story read from these lines calls for
    obtain ⟨story, hlines, -⟩ := Draft.ofLines_eq_ofStory config ((Story.lines text).take n)
    rw [hlines] at hopen ⊢
    exact Draft.openFlow_ofStory hopen

end DomainStory
