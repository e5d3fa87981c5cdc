import DomainStory.Proofs.Story.Reading

/-!
# A header starts afresh

A domain header ends whatever was open before it. A text that goes on with one is therefore read as
if its two parts were read apart (`Story.read_append_header`), except that the domains of the second
part are colored, and its lines numbered, by their place in the whole.

`Story.followedBy` puts the two readings together. After the header every line has the same effect
on the last domain as it has in the second part alone, for effects do not look at colors
(`Effect.of_paint`). Hence both passes stay in step line by line (`Draft.addLine_followedBy`).
-/

namespace DomainStory

open Text

/-! ## One story after another -/

def Domain.paint (domain : Domain) (color : String) : Domain := { domain with color }

/-- The domains with the colors that they have after a number of other domains. -/
def Config.repaint (config : Config) (offset : Nat) (domains : List Domain) : List Domain :=
  domains.mapIdx fun i domain => domain.paint (config.domainColor (offset + i))

/-- The errors of lines that come after a number of other lines. -/
def LineError.shift (lineCount : Nat) (errors : List LineError) : List LineError :=
  errors.map fun error => { error with line := lineCount + error.line }

/-- A story read from so many lines, followed by another one. -/
def Story.followedBy (config : Config) (first : Story) (lineCount : Nat) (second : Story) :
    Story where
  domains := first.domains ++ config.repaint first.domains.length second.domains
  errors := first.errors ++ LineError.shift lineCount second.errors

/-- Whether the first line of a text is a domain header. -/
def Story.HeaderFirst (text : String) : Prop :=
  ∃ known title, ((Story.lines text).head?.map (Line.classify known)) = some (.domainHeader title)

theorem Config.repaint_concat (config : Config) (offset : Nat) (before : List Domain)
    (domain : Domain) :
    config.repaint offset (before ++ [domain])
      = config.repaint offset before
        ++ [domain.paint (config.domainColor (offset + before.length))] :=
  List.mapIdx_concat

theorem Config.length_repaint (config : Config) (offset : Nat) (domains : List Domain) :
    (config.repaint offset domains).length = domains.length :=
  List.length_mapIdx

/-! ## Effects do not look at colors -/

/-- The effect on a domain of another color. -/
def Effect.paint (color : String) : Effect → Effect
  | grow domain => grow (domain.paint color)
  | effect => effect

theorem Effect.of_paint (domain : Domain) (color : String) (text : List Char) :
    Effect.of (domain.paint color) text = (Effect.of domain text).paint color := by
  -- actors and flows are those of the domain itself
  have hnames : (domain.paint color).actorNames = domain.actorNames := rfl
  have hactor : (domain.paint color).actor? = domain.actor? := rfl
  have hflows : (domain.paint color).flows = domain.flows := rfl
  unfold Effect.of
  rw [hnames, hactor, hflows]
  cases Line.classify domain.actorNames text with
  | actor decl =>
    dsimp only
    cases domain.actor? decl.name <;> rfl
  | stepCandidate =>
    dsimp only
    split
    · rfl
    · cases Step.read domain.actorNames text <;> rfl
  | _ => rfl

/-! ## In step behind the header -/

/-- Where an effect puts its result, behind a number of domains and lines. -/
theorem Effect.apply_followedBy (config : Config) (first : Story) (lineCount line : Nat)
    (before : List Domain) (domain : Domain) (errors : List LineError) (effect : Effect) :
    first.followedBy config lineCount (effect.apply config line before domain errors)
      = (effect.paint (config.domainColor (first.domains.length + before.length))).apply config
          (lineCount + line) (first.domains ++ config.repaint first.domains.length before)
          (domain.paint (config.domainColor (first.domains.length + before.length)))
          (first.errors ++ LineError.shift lineCount errors) := by
  cases effect with
  | keep =>
    simp only [Story.followedBy, apply, paint, Config.repaint_concat, List.append_assoc]
  | grow domain' =>
    simp only [Story.followedBy, apply, paint, Config.repaint_concat, List.append_assoc]
  | fault reason =>
    simp only [Story.followedBy, apply, paint, Config.repaint_concat, List.append_assoc,
      LineError.shift, List.map_append]
    rfl
  | openDomain title =>
    -- the new domain is painted by its place among all domains
    simp only [Story.followedBy, apply, paint, Config.repaint_concat]
    simp only [List.append_assoc, List.length_append, Config.length_repaint, List.length_singleton,
      Nat.add_assoc]
    rfl

/-- An effect leaves a story that has a domain. -/
theorem Effect.apply_eq_concat (config : Config) (line : Nat) (before : List Domain)
    (domain : Domain) (errors : List LineError) (effect : Effect) :
    ∃ before' domain' errors',
      effect.apply config line before domain errors = ⟨before' ++ [domain'], errors'⟩ := by
  cases effect with
  | openDomain title => exact ⟨before ++ [domain], _, errors, rfl⟩
  | _ => exact ⟨before, _, _, rfl⟩

namespace Draft

/-- Behind other domains and lines, a line does to the last domain what it does without them. -/
theorem addLine_followedBy (config : Config) (first : Story) (lineCount line : Nat)
    (before : List Domain) (domain : Domain) (errors : List LineError) (text : List Char) :
    (ofStory (first.followedBy config lineCount ⟨before ++ [domain], errors⟩)).addLine config
        (lineCount + line) text
      = ofStory (first.followedBy config lineCount
          ((Effect.of domain text).apply config line before domain errors)) := by
  have hlast : first.followedBy config lineCount ⟨before ++ [domain], errors⟩
      = ⟨(first.domains ++ config.repaint first.domains.length before)
          ++ [domain.paint (config.domainColor (first.domains.length + before.length))],
        first.errors ++ LineError.shift lineCount errors⟩ :=
    Effect.apply_followedBy config first lineCount line before domain errors .keep
  rw [hlast, addLine_ofStory_concat, Effect.of_paint, Effect.apply_followedBy]

/-- From a story that has a domain, lines lead to the same story behind others as without them. -/
theorem addLines_followedBy (config : Config) (first : Story) (lineCount : Nat)
    (lines : List (List Char)) (line : Nat) (before : List Domain) (domain : Domain)
    (errors : List LineError) :
    ((ofStory (first.followedBy config lineCount ⟨before ++ [domain], errors⟩)).addLines config
        (lineCount + line) lines).story
      = first.followedBy config lineCount
          ((ofStory ⟨before ++ [domain], errors⟩).addLines config line lines).story := by
  -- induction on the lines, from whatever story the lines before them gave
  induction lines generalizing line before domain errors with
  | nil => rfl
  | cons text rest ih =>
    obtain ⟨before', domain', errors', hnext⟩ :=
      (Effect.of domain text).apply_eq_concat config line before domain errors
    rw [addLines, addLines, addLine_followedBy, addLine_ofStory_concat, hnext]
    exact ih (line + 1) before' domain' errors'

end Draft

/-! ## The header itself -/

/-- A header leaves a domain without anything in it, whatever was read before. -/
theorem Draft.addLine_header {config : Config} {known : List String} {text : List Char}
    {title : String} (h : Line.classify known text = .domainHeader title) (story : Story)
    (line : Nat) :
    (ofStory story).addLine config line text
      = ofStory ⟨story.domains ++ [Domain.new title (config.domainColor story.domains.length)],
          story.errors⟩ := by
  unfold addLine
  rw [Line.classify_header h]
  exact openDomain_ofStory story title

theorem Story.lines_append (first second : String) :
    Story.lines (first ++ "\n" ++ second) = Story.lines first ++ Story.lines second := by
  rw [Story.lines, String.toList_append, String.toList_append, List.append_assoc]
  exact pieces_append '\n' first.toList second.toList

/-- A text that goes on with a domain header is read in two parts. The second part is what it is
on its own, its domains colored and its errors numbered as those of the whole text. -/
theorem Story.read_append_header (config : Config) (first : String) {second : String}
    (h : Story.HeaderFirst second) :
    Story.read config (first ++ "\n" ++ second)
      = (Story.read config first).followedBy config (Story.lines first).length
          (Story.read config second) := by
  obtain ⟨known, title, hfirst⟩ := h
  obtain ⟨header, hheader, hclass⟩ := Option.map_eq_some_iff.mp hfirst
  obtain ⟨rest, hlines⟩ := List.head?_eq_some_iff.mp hheader
  -- the first part leaves the state that its story calls for, and the header opens a domain in it
  obtain ⟨story, hstory, -⟩ := Draft.ofLines_eq_ofStory config (Story.lines first)
  have hread : Story.read config first = story := by
    rw [Story.read, hstory]
    rfl
  have hopened : story.followedBy config (Story.lines first).length
        ⟨[] ++ [Domain.new title (config.domainColor 0)], []⟩
      = ⟨story.domains ++ [Domain.new title (config.domainColor story.domains.length)],
          story.errors⟩ := by
    simp [Story.followedBy, Config.repaint, Domain.paint, Domain.new, LineError.shift]
  have hwhole : Story.read config (first ++ "\n" ++ second)
      = ((Draft.ofStory (story.followedBy config (Story.lines first).length
          ⟨[] ++ [Domain.new title (config.domainColor 0)], []⟩)).addLines config
            ((Story.lines first).length + 2) rest).story := by
    rw [Story.read, Story.lines_append, Draft.ofLines, Draft.addLines_append, ← Draft.ofLines,
      hstory, hlines, Draft.addLines, Draft.addLine_header hclass, hopened,
      show 1 + (Story.lines first).length + 1 = (Story.lines first).length + 2 by omega]
  have hsecond : Story.read config second
      = ((Draft.ofStory ⟨[] ++ [Domain.new title (config.domainColor 0)], []⟩).addLines config 2
          rest).story := by
    rw [Story.read, hlines, Draft.ofLines, Draft.addLines, Draft.empty_eq_ofStory,
      Draft.addLine_header hclass]
    rfl
  rw [hwhole, hread, hsecond]
  exact Draft.addLines_followedBy config story _ rest 2 [] _ []

/-- A part that ends in an open flow, with an actor declared twice. -/
def openEnded : String := "@A (person)\n## Begin\nA asks A\n@a (person)"

/-- A part in which the actor may be declared again, and the step comes too early. -/
def afresh : String := "# Next\n@a (person)\nA waits\n## Begin\na asks A"

theorem Story.read_openEnded_afresh :
    Story.HeaderFirst afresh ∧
      Story.read .empty (openEnded ++ "\n" ++ afresh)
        = (Story.read .empty openEnded).followedBy .empty 4 (Story.read .empty afresh) ∧
      (Story.read .empty (openEnded ++ "\n" ++ afresh)).errors
        = [(LineFault.duplicateActor "a").at 4, LineFault.stepOutsideFlow.at 7] := by
  have hheader : Story.HeaderFirst afresh := ⟨[], "Next", by decide⟩
  have hread := Story.read_append_header .empty openEnded hheader
  have hcount : (Story.lines openEnded).length = 4 := by decide
  rw [hcount] at hread
  refine ⟨hheader, hread, ?_⟩
  rw [hread]
  decide

end DomainStory
