import Mathlib.Data.List.Induction
import Mathlib.Data.List.TakeDrop
import Mathlib.Data.Nat.Find
import DomainStory.Proofs.Story.Reading

/-!
# Every line is accounted for

The kind of a line depends on the actors that the lines before it declared. Counted that way, each
note, actor, flow and step of a story that was read, and each of its errors, comes from a line of
its kind, and every line of such a kind has left exactly one of them (`Story.read_accounted`).

`Effect.From` says what a line of each kind may do to the last domain, and `LineTally` what it adds
to the counts of a story, an implicit domain included. Every line of the pass adds just that
(`Draft.ofLines_tally`), hence so do all lines together (`Draft.given_ofLines`), and every error
first appears with a line of its own (`Draft.error_ofLines`).
-/

namespace DomainStory

open Text

/-! ## What lines leave -/

namespace LineKind

/-- Whether a line leaves a part of a domain or an error. -/
def leavesOne : LineKind → Bool
  | note | actor | malformedActor | flowHeader | stepCandidate => true
  | _ => false

/-- The messages of the errors that a line may leave. -/
def messages : LineKind → List String
  | actor => ["Duplicate actor"]
  | malformedActor => ["Invalid actor"]
  | stepCandidate =>
    ["Step outside flow", "Empty step", "Start actor not found", "End actor not found"]
  | _ => []

/-- The number of parts of a domain that lines of the kind leave. -/
def share (kind : LineKind) (domain : Domain) : Nat :=
  match kind with
  | note => domain.notes.length
  | actor => domain.participants.length
  | flowHeader => domain.flows.length
  | stepCandidate => total (domain.flows.map fun flow => flow.steps.length)
  | _ => 0

/-- What a line of one kind adds to the count of another one. -/
def adds (kind other : LineKind) : Nat := if kind.leavesOne ∧ kind = other then 1 else 0

/-- The number of domains that lines open: one for each header, and one before them if it is needed
there. -/
def domainCount (kinds : List LineKind) : Nat :=
  kinds.count domainHeader
    + if (kinds.takeWhile (· ≠ domainHeader)).any needsDomain then 1 else 0

end LineKind

/-- The kind of line that a fault is found in. -/
def LineFault.origin : LineFault → LineKind
  | duplicateActor _ => .actor
  | invalidActor => .malformedActor
  | stepOutsideFlow | emptyStep | unknownSource | unknownTarget _ => .stepCandidate

/-- The kinds of lines, each as it is classified in the pass. -/
def Draft.lineKinds (config : Config) (lines : List (List Char)) : List LineKind :=
  lines.mapIdx fun i text =>
    (Line.classify (ofLines config (lines.take i)).knownActors text).kind

namespace Story

def errorCount (story : Story) (message : String) : Nat :=
  story.errors.countP fun error => error.message = message

/-- The number of parts and errors of a story that lines of a kind leave. -/
def given (story : Story) (kind : LineKind) : Nat :=
  total (story.domains.map kind.share) + total (kind.messages.map story.errorCount)

/-- Lines of the given kinds are all that a story comes from, and each of them left its part. -/
structure Accounted (kinds : List LineKind) (story : Story) : Prop where
  notes : total (story.domains.map fun domain => domain.notes.length) = kinds.count .note
  actors : total (story.domains.map fun domain => domain.participants.length)
    + story.errorCount "Duplicate actor" = kinds.count .actor
  malformedActors : story.errorCount "Invalid actor" = kinds.count .malformedActor
  flows : total (story.domains.map fun domain => domain.flows.length) = kinds.count .flowHeader
  steps : story.stepCount + story.errorCount "Step outside flow" + story.errorCount "Empty step"
      + story.errorCount "Start actor not found" + story.errorCount "End actor not found"
    = kinds.count .stepCandidate
  domains : story.domains.length = LineKind.domainCount kinds

end Story

theorem LineKind.adds_of_leavesOne {other : LineKind} (h : other.leavesOne = true)
    (kind : LineKind) : kind.adds other = if kind == other then 1 else 0 := by
  by_cases hkind : kind = other <;> simp [adds, hkind, h]

/-! ## What the parts of a story count -/

theorem Text.total_append (first rest : List Nat) :
    total (first ++ rest) = total first + total rest := by
  induction first with
  | nil => exact (Nat.zero_add _).symm
  | cons n first ih =>
    show n + total (first ++ rest) = n + total first + total rest
    rw [ih, Nat.add_assoc]

/-- A malformed actor leaves no part of a domain. -/
theorem LineKind.share_malformedActor (domains : List Domain) :
    total (domains.map malformedActor.share) = 0 := by
  induction domains with
  | nil => rfl
  | cons domain domains ih =>
    rw [List.map_cons, total, List.foldr_cons, ← total, ih]
    rfl

namespace LineKind

variable (kind : LineKind) (domain : Domain)

theorem share_new (title color : String) : kind.share (Domain.new title color) = 0 := by
  cases kind <;> rfl

theorem share_addNote (found : Note) :
    kind.share (domain.addNote found) = kind.share domain + note.adds kind := by
  cases kind <;> simp [share, adds, leavesOne, Domain.addNote]

theorem share_addActor (decl : ActorDecl) :
    kind.share (domain.addActor decl) = kind.share domain + actor.adds kind := by
  cases kind <;> simp [share, adds, leavesOne, Domain.addActor]

/-- A new flow has no steps. -/
theorem share_addFlow (number : Nat) (title : String) :
    kind.share (domain.addFlow number title) = kind.share domain + flowHeader.adds kind := by
  cases kind <;> simp [share, adds, leavesOne, Domain.addFlow, total]

theorem share_addStep (step : Step) (h : domain.flows ≠ []) :
    kind.share (domain.addStep (domain.flows.length - 1) step)
      = kind.share domain + stepCandidate.adds kind := by
  obtain ⟨flows, last, hflows⟩ := (List.eq_nil_or_concat' domain.flows).resolve_left h
  have hgrown : (domain.addStep (domain.flows.length - 1) step).flows
      = flows ++ [{ last with steps := last.steps ++ [step] }] := by
    rw [Domain.addStep, hflows, List.length_append, List.length_singleton, Nat.add_sub_cancel,
      List.modify_length_concat]
  cases kind with
  | stepCandidate =>
    show total (((domain.addStep (domain.flows.length - 1) step).flows).map _)
      = total (domain.flows.map _) + 1
    rw [hgrown, hflows, List.map_append, List.map_append, total_append, total_append]
    simp [total, Nat.add_assoc]
  | flowHeader =>
    show (domain.addStep (domain.flows.length - 1) step).flows.length = domain.flows.length
    rw [hgrown, hflows, List.length_append, List.length_append]
    rfl
  | _ => rfl

/-- A fault is counted with the kind of line that it is found in. -/
theorem messages_fault (domains domains' : List Domain) (errors : List LineError)
    (fault : LineFault) (line : Nat) :
    total (kind.messages.map (Story.errorCount ⟨domains', errors ++ [fault.at line]⟩))
      = total (kind.messages.map (Story.errorCount ⟨domains, errors⟩))
        + fault.origin.adds kind := by
  cases kind <;> cases fault <;>
    simp [messages, total, Story.errorCount, LineFault.at, LineFault.message, LineFault.origin,
      adds, leavesOne, List.countP_append] <;> omega

end LineKind

/-! ## What a line of a kind does -/

/-- The effects that a line of a kind may have on the last domain. -/
inductive Effect.From (domain : Domain) : LineKind → Effect → Prop where
  | blank : From domain .blank .keep
  | comment : From domain .comment .keep
  | prose : From domain .prose .keep
  | domainHeader (title : String) : From domain .domainHeader (.openDomain title)
  | note (found : Note) : From domain .note (.grow (domain.addNote found))
  | actor (decl : ActorDecl) : From domain .actor (.grow (domain.addActor decl))
  | flowHeader (number : Nat) (title : String) :
      From domain .flowHeader (.grow (domain.addFlow number title))
  | step (step : Step) (hopen : domain.flows ≠ []) :
      From domain .stepCandidate (.grow (domain.addStep (domain.flows.length - 1) step))
  | fault (fault : LineFault) : From domain fault.origin (.fault fault)

/-- The grammar of a step finds faults of steps only. -/
theorem Step.origin_of_read {names : List String} {line : List Char} {fault : LineFault}
    (h : Step.read names line = .error fault) : fault.origin = .stepCandidate := by
  rcases Step.read_cases names line with ⟨reason, horigin, hread⟩ | ⟨step, hread, -⟩
  · rw [hread] at h
    obtain rfl := Except.error.inj h
    rcases horigin with rfl | rfl | ⟨source, rfl⟩ <;> rfl
  · rw [hread] at h
    exact absurd h (by simp)

theorem Effect.from_kind (domain : Domain) (text : List Char) :
    From domain (Line.classify domain.actorNames text).kind (of domain text) := by
  unfold of
  cases Line.classify domain.actorNames text with
  | blank => exact .blank
  | comment => exact .comment
  | prose => exact .prose
  | domainHeader title => exact .domainHeader title
  | note found => exact .note found
  | actor decl =>
    dsimp only
    cases domain.actor? decl.name with
    | some taken => exact .fault (.duplicateActor decl.name)
    | none => exact .actor decl
  | malformedActor => exact .fault .invalidActor
  | flowHeader title => exact .flowHeader _ title
  | stepCandidate =>
    dsimp only
    split
    · exact .fault .stepOutsideFlow
    · next hflows =>
      rw [List.isEmpty_iff] at hflows
      cases hread : Step.read domain.actorNames text with
      | ok step => exact .step step hflows
      | error fault =>
        have hfault : From domain fault.origin (.fault fault) := .fault fault
        rw [Step.origin_of_read hread] at hfault
        exact hfault

/-- What the line with the given number, of a given kind, adds to a story. -/
structure LineTally (line : Nat) (kind : LineKind) (story story' : Story) : Prop where
  given : ∀ other, story'.given other = story.given other + kind.adds other
  domains : story'.domains.length = story.domains.length
    + if kind = .domainHeader ∨ story.domains = [] ∧ kind.needsDomain then 1 else 0
  errors : story'.errors = story.errors ∨
    ∃ fault : LineFault, fault.origin = kind ∧ story'.errors = story.errors ++ [fault.at line]

theorem Story.given_concat (before : List Domain) (domain : Domain) (errors : List LineError)
    (kind : LineKind) :
    Story.given ⟨before ++ [domain], errors⟩ kind
      = total (before.map kind.share) + kind.share domain
        + total (kind.messages.map (Story.errorCount ⟨before ++ [domain], errors⟩)) := by
  rw [Story.given, List.map_append, total_append]
  rfl

namespace LineTally

variable {line : Nat} {kind : LineKind} {story : Story} {before : List Domain} {domain : Domain}
  {errors : List LineError}

/-- A line that leaves nothing, and needs no domain or finds one, changes nothing. -/
theorem keep (hkind : kind.leavesOne = false) (hheader : kind ≠ .domainHeader)
    (hready : story.domains = [] → kind.needsDomain = false) : LineTally line kind story story where
  given := by
    intro other
    simp [LineKind.adds, hkind]
  domains := by
    rw [if_neg]
    · rfl
    · rintro (hkind | ⟨hnil, hneeds⟩)
      · exact hheader hkind
      · simp [hready hnil] at hneeds
  errors := .inl rfl

theorem openDomain (title color : String) :
    LineTally line .domainHeader story
      ⟨story.domains ++ [Domain.new title color], story.errors⟩ where
  given := by
    intro other
    rw [Story.given_concat, LineKind.share_new]
    rfl
  domains := List.length_append
  errors := .inl rfl

theorem grow {domain' : Domain} (hheader : kind ≠ .domainHeader)
    (h : ∀ other : LineKind, other.share domain' = other.share domain + kind.adds other) :
    LineTally line kind ⟨before ++ [domain], errors⟩ ⟨before ++ [domain'], errors⟩ where
  given := by
    intro other
    have hcount : Story.errorCount ⟨before ++ [domain'], errors⟩
      = Story.errorCount ⟨before ++ [domain], errors⟩ := rfl
    rw [Story.given_concat, Story.given_concat, h, hcount]
    omega
  domains := by simp [hheader]
  errors := .inl rfl

theorem fault (fault : LineFault) :
    LineTally line fault.origin ⟨before ++ [domain], errors⟩
      ⟨before ++ [domain], errors ++ [fault.at line]⟩ where
  given := by
    intro other
    rw [Story.given, Story.given, LineKind.messages_fault]
    exact (Nat.add_assoc _ _ _).symm
  domains := by cases fault <;> simp [LineFault.origin]
  errors := .inr ⟨fault, rfl, rfl⟩

/-- An effect adds what a line of its kind does. -/
theorem of_from {effect : Effect} (config : Config) (h : effect.From domain kind) :
    LineTally line kind ⟨before ++ [domain], errors⟩
      (effect.apply config line before domain errors) := by
  cases h with
  | blank => exact keep rfl (by decide) (by simp)
  | comment => exact keep rfl (by decide) (by simp)
  | prose => exact keep rfl (by decide) (by simp)
  | domainHeader title => exact openDomain title _
  | note found => exact grow (by decide) fun other => other.share_addNote domain found
  | actor decl => exact grow (by decide) fun other => other.share_addActor domain decl
  | flowHeader number title =>
    exact grow (by decide) fun other => other.share_addFlow domain number title
  | step step hopen => exact grow (by decide) fun other => other.share_addStep domain step hopen
  | fault reason => exact fault reason

/-- The domain that a line opens for itself adds nothing else. -/
theorem of_opened {title color : String} {story' : Story} (hneeds : kind.needsDomain = true)
    (h : LineTally line kind ⟨[] ++ [Domain.new title color], errors⟩ story') :
    LineTally line kind ⟨[], errors⟩ story' where
  given := by
    intro other
    rw [h.given, Story.given_concat, LineKind.share_new]
    rfl
  domains := by
    have hheader : kind ≠ .domainHeader := by
      rintro rfl
      exact absurd hneeds (by decide)
    rw [h.domains, if_neg (by simp [hheader]), if_pos (.inr ⟨rfl, hneeds⟩)]
    rfl
  errors := h.errors

end LineTally

/-! ## The whole pass -/

namespace Draft

/-- Every line adds to the story what a line of its kind does. -/
theorem addLine_tally (config : Config) (story : Story) (line : Nat) (text : List Char) :
    LineTally line (Line.classify (ofStory story).knownActors text).kind story
      ((ofStory story).addLine config line text).story := by
  obtain ⟨domains, errors⟩ := story
  rcases List.eq_nil_or_concat' domains with rfl | ⟨before, domain, rfl⟩
  · cases hclass : Line.classify (ofStory ⟨[], errors⟩).knownActors text with
    | blank =>
      rw [addLine, hclass]
      exact .keep rfl (by decide) fun _ => rfl
    | comment =>
      rw [addLine, hclass]
      exact .keep rfl (by decide) fun _ => rfl
    | domainHeader title =>
      rw [addLine, hclass]
      dsimp only
      rw [openDomain_ofStory]
      exact .openDomain title _
    | stepCandidate => exact absurd hclass (Line.classify_nil_ne_stepCandidate text)
    | _ =>
      -- the line opens a domain for itself, in which nobody is known either
      rw [← hclass, addLine_ofStory_nil (by rw [hclass]; rfl), addLine_ofStory_concat]
      refine .of_opened (by rw [hclass]; rfl) (.of_from config ?_)
      exact Effect.from_kind (Domain.new config.domainTitle (config.domainColor 0)) text
  · rw [addLine_ofStory_concat, knownActors_ofStory_concat]
    exact .of_from config (Effect.from_kind domain text)

theorem ofLines_concat (config : Config) (lines : List (List Char)) (text : List Char) :
    ofLines config (lines ++ [text])
      = (ofLines config lines).addLine config (lines.length + 1) text := by
  rw [ofLines, addLines_append, Nat.add_comm 1]
  rfl

/-- Later lines do not matter for the kinds of those before them. -/
theorem lineKinds_concat (config : Config) (lines : List (List Char)) (text : List Char) :
    lineKinds config (lines ++ [text])
      = lineKinds config lines
        ++ [(Line.classify (ofLines config lines).knownActors text).kind] := by
  rw [lineKinds, List.mapIdx_concat, List.take_left]
  congr 1
  rw [lineKinds, List.mapIdx_eq_mapIdx_iff]
  intro i hi
  rw [List.take_append_of_le_length (Nat.le_of_lt hi)]

/-- One more line adds what a line of its kind does. -/
theorem ofLines_tally (config : Config) (lines : List (List Char)) (text : List Char) :
    LineTally (lines.length + 1) (Line.classify (ofLines config lines).knownActors text).kind
      (ofLines config lines).story (ofLines config (lines ++ [text])).story := by
  obtain ⟨story, hlines, -⟩ := ofLines_eq_ofStory config lines
  rw [ofLines_concat, hlines]
  exact addLine_tally config story _ text

end Draft

namespace LineKind

/-- After the first line that opens a domain, only headers open others. -/
theorem domainCount_cons (first : LineKind) (kinds : List LineKind) :
    domainCount (first :: kinds)
      = if first = domainHeader ∨ first.needsDomain then kinds.count domainHeader + 1
        else domainCount kinds := by
  cases first <;> simp [domainCount, needsDomain]

theorem domainCount_concat (kinds : List LineKind) (kind : LineKind) :
    domainCount (kinds ++ [kind]) = domainCount kinds
      + if kind = domainHeader ∨ domainCount kinds = 0 ∧ kind.needsDomain then 1 else 0 := by
  induction kinds with
  | nil => cases kind <;> decide
  | cons first kinds ih =>
    rw [List.cons_append, domainCount_cons, domainCount_cons]
    split
    · -- there is a domain already, so that only a header opens another one
      simp only [List.count_append, List.count_singleton, beq_iff_eq, Nat.succ_ne_zero, false_and,
        or_false]
      omega
    · exact ih

end LineKind

/-- The count of lines of every kind, and the number of domains, are as the lines leave them. -/
theorem Draft.given_ofLines (config : Config) (lines : List (List Char)) :
    (∀ kind : LineKind, kind.leavesOne = true →
        (ofLines config lines).story.given kind = (lineKinds config lines).count kind) ∧
      (ofLines config lines).story.domains.length
        = LineKind.domainCount (lineKinds config lines) := by
  -- induction from the end, for the kind of a line depends on the lines before it
  induction lines using List.reverseRecOn with
  | nil =>
    refine ⟨fun kind _ => ?_, rfl⟩
    cases kind <;> rfl
  | append_singleton lines text ih =>
    obtain ⟨hgiven, hdomains⟩ := ih
    have htally := ofLines_tally config lines text
    rw [lineKinds_concat]
    refine ⟨fun kind hkind => ?_, ?_⟩
    · rw [htally.given, hgiven kind hkind, List.count_append, List.count_singleton,
        LineKind.adds_of_leavesOne hkind]
    · rw [htally.domains, LineKind.domainCount_concat, ← hdomains]
      simp only [List.length_eq_zero_iff]

/-- An error that a story was left with is there from one line on, which has the number that the
error gives and is of a kind in which such a fault is found. -/
theorem Draft.error_ofLines {config : Config} {lines : List (List Char)} {error : LineError}
    (h : error ∈ (ofLines config lines).errors) :
    ∃ i fault, error = LineFault.at fault (i + 1) ∧
      (lineKinds config lines)[i]? = some fault.origin ∧
      error ∉ (ofLines config (lines.take i)).errors ∧
      error ∈ (ofLines config (lines.take (i + 1))).errors := by
  have hsome : ∃ n, error ∈ (ofLines config (lines.take n)).errors :=
    ⟨lines.length, by rwa [List.take_length]⟩
  -- the least number of lines after which the error is there
  cases hleast : Nat.find hsome with
  | zero =>
    have hnone := Nat.find_spec hsome
    rw [hleast] at hnone
    exact absurd hnone (List.not_mem_nil)
  | succ i =>
    have hafter : error ∈ (ofLines config (lines.take (i + 1))).story.errors :=
      hleast ▸ Nat.find_spec hsome
    have hbefore : error ∉ (ofLines config (lines.take i)).story.errors :=
      Nat.find_min hsome (by omega)
    have hi : i < lines.length := by
      by_contra hlong
      rw [List.take_of_length_le (by omega)] at hafter hbefore
      exact hbefore hafter
    have htally := ofLines_tally config (lines.take i) lines[i]
    rw [List.take_concat_get' lines i hi, List.length_take_of_le (Nat.le_of_lt hi)] at htally
    rcases htally.errors with hsame | ⟨fault, horigin, hnew⟩
    · exact absurd (hsame ▸ hafter) hbefore
    · refine ⟨i, fault, ?_, ?_, hbefore, hafter⟩
      · have hmem := hnew ▸ hafter
        exact List.mem_singleton.mp ((List.mem_append.mp hmem).resolve_left hbefore)
      · rw [horigin, lineKinds, List.getElem?_mapIdx, List.getElem?_eq_getElem hi]
        rfl

/-- Every line is accounted for exactly once. The parts of a story that was read and its errors come
from lines of their kinds, one from each, and an error has the number of the line that left it. -/
theorem Story.read_accounted (config : Config) (text : String) :
    (read config text).Accounted (Draft.lineKinds config (lines text)) ∧
      ∀ error ∈ (read config text).errors, ∃ i fault, error = LineFault.at fault (i + 1) ∧
        (Draft.lineKinds config (lines text))[i]? = some fault.origin ∧
        error ∉ (Draft.ofLines config ((lines text).take i)).errors ∧
        error ∈ (Draft.ofLines config ((lines text).take (i + 1))).errors := by
  obtain ⟨hgiven, hdomains⟩ := Draft.given_ofLines config (lines text)
  refine ⟨?_, fun error herror => Draft.error_ofLines herror⟩
  exact {
    notes := hgiven .note rfl
    actors := hgiven .actor rfl
    malformedActors := by
      have hcount := hgiven .malformedActor rfl
      rw [given, LineKind.share_malformedActor, Nat.zero_add] at hcount
      exact hcount
    flows := hgiven .flowHeader rfl
    steps := by
      rw [← hgiven .stepCandidate rfl]
      simp only [Nat.add_assoc]
      rfl
    domains := hdomains }

end DomainStory
