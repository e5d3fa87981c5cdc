import DomainStory.Proofs.Story.Pass
import DomainStory.Proofs.Story.WrittenLine

/-!
# Stories that are read as they were written

A list of domains is read back from the text that `Story.write` makes of it
(`Story.read_write`), provided that its parts fit on their lines and its names can be told apart.

The pass over the written lines is followed story by story: `Leads` says that lines take one story
to another without an error, whatever their numbers. Each kind of content grows the last domain by
what was written, one line after the other, and the pieces put together give the domain.
-/

namespace DomainStory

open Text

/-! ## What can be written -/

/-- A well-formed domain of which every part fits on a line, with names that can be told apart. -/
@[mk_iff]
structure Domain.Writable (domain : Domain) : Prop extends domain.WellFormed where
  title : IsTitle domain.title
  names : Separable domain.actorNames
  note_single_line : ∀ note ∈ domain.notes, '\n' ∉ note.content.toList
  remark_single_line : ∀ decl ∈ domain.participants, ∀ remark ∈ decl.remark, '\n' ∉ remark.toList
  flow_title : ∀ flow ∈ domain.flows, IsTitle flow.title
  step_writable : ∀ flow ∈ domain.flows, ∀ step ∈ flow.steps, step.Writable

instance (domain : Domain) : Decidable domain.Writable :=
  decidable_of_iff' _ (Domain.writable_iff domain)

/-- Domains that can be written, each in the color of its place. -/
structure Story.Writable (config : Config) (domains : List Domain) : Prop where
  domain : ∀ domain ∈ domains, domain.Writable
  color : ∀ i domain, domains[i]? = some domain → domain.color = config.domainColor i

/-! ## Lines that lead from one story to another -/

/-- Lines that take one story to another, whatever their numbers. -/
def Leads (config : Config) (story : Story) (lines : List (List Char)) (story' : Story) : Prop :=
  ∀ line, (Draft.ofStory story).addLines config line lines = Draft.ofStory story'

namespace Leads

variable {config : Config} {story story' story'' : Story} {before : List Domain} {domain : Domain}

theorem nil : Leads config story [] story := fun _ => rfl

theorem cons {text : List Char} {rest : List (List Char)}
    (hfirst : ∀ line, (Draft.ofStory story).addLine config line text = Draft.ofStory story')
    (hrest : Leads config story' rest story'') : Leads config story (text :: rest) story'' := by
  intro line
  rw [Draft.addLines, hfirst line]
  exact hrest (line + 1)

theorem append {first rest : List (List Char)} (hfirst : Leads config story first story')
    (hrest : Leads config story' rest story'') : Leads config story (first ++ rest) story'' := by
  intro line
  rw [Draft.addLines_append, hfirst line]
  exact hrest _

/-- The header opens the domain. -/
theorem header (done : List Domain) (hdomain : IsTitle domain.title)
    (hcolor : domain.color = config.domainColor done.length) :
    Leads config ⟨done, []⟩ [domain.header]
      ⟨done ++ [Domain.new domain.title domain.color], []⟩ := by
  refine cons (fun line => ?_) nil
  rw [Draft.addLine, Domain.classify_header hdomain]
  dsimp only
  rw [Draft.openDomain_ofStory, hcolor]

/-- Notes come after the notes that are there. -/
theorem notes (domain : Domain) {notes : List Note} (hnotes : ∀ note ∈ notes, note.WellFormed) :
    Leads config ⟨before ++ [domain], []⟩ (notes.map Note.line)
      ⟨before ++ [{ domain with notes := domain.notes ++ notes }], []⟩ := by
  induction notes generalizing domain with
  | nil =>
    rw [List.append_nil]
    exact nil
  | cons note notes ih =>
    -- the other notes follow once the domain has grown by this one
    have hrest := ih (domain.addNote note) fun other hother =>
      hnotes other (List.mem_cons_of_mem _ hother)
    rw [Domain.addNote, List.append_assoc] at hrest
    refine cons (fun line => ?_) hrest
    rw [Draft.addLine, Note.classify_line (hnotes note List.mem_cons_self)]
    dsimp only
    rw [Draft.ensureDomain_ofStory_concat]
    exact Draft.updateCurrent_ofStory rfl

theorem actors (domain : Domain) {decls : List ActorDecl}
    (hdecls : ∀ decl ∈ decls, decl.WellFormed ∧ '"' ∉ decl.name.toList)
    (hdistinct : ((domain.participants ++ decls).map fun decl =>
      lowercase decl.name.toList).Nodup) :
    Leads config ⟨before ++ [domain], []⟩ (decls.map ActorDecl.line)
      ⟨before ++ [{ domain with participants := domain.participants ++ decls }], []⟩ := by
  induction decls generalizing domain with
  | nil =>
    rw [List.append_nil]
    exact nil
  | cons decl decls ih =>
    obtain ⟨hdecl, hquote⟩ := hdecls decl List.mem_cons_self
    have hrest := ih (domain.addActor decl)
      (fun other hother => hdecls other (List.mem_cons_of_mem _ hother))
      (by
        rw [Domain.addActor, List.append_assoc]
        exact hdistinct)
    rw [Domain.addActor, List.append_assoc] at hrest
    -- the name is not taken by any actor before
    have hnew : domain.actor? decl.name = none := by
      rw [List.map_append, List.nodup_append] at hdistinct
      rw [Domain.actor?, List.find?_eq_none]
      intro other hother hsame
      rw [decide_eq_true_eq] at hsame
      exact hdistinct.2.2 _ (List.mem_map_of_mem hother) _ (List.mem_map_of_mem List.mem_cons_self)
        hsame
    refine cons (fun line => ?_) hrest
    rw [Draft.addLine, ActorDecl.classify_line hdecl hquote]
    dsimp only
    rw [Draft.ensureDomain_ofStory_concat, Draft.addActor, Draft.current?_ofStory_concat,
      Option.bind_some, hnew]
    exact Draft.updateCurrent_ofStory rfl

theorem addStep_concat (domain : Domain) (flows : List Flow) (flow : Flow) (step : Step) :
    ({ domain with flows := flows ++ [flow] } : Domain).addStep ((flows ++ [flow]).length - 1) step
      = { domain with flows := flows ++ [{ flow with steps := flow.steps ++ [step] }] } := by
  rw [Domain.addStep, List.length_append, List.length_singleton, Nat.add_sub_cancel,
    List.modify_length_concat]

theorem steps (domain : Domain) (flows : List Flow) (flow : Flow) {steps : List Step}
    (hnames : Separable domain.actorNames)
    (hsteps : ∀ step ∈ steps, step.WellFormed domain.actorNames ∧ step.Writable) :
    Leads config ⟨before ++ [{ domain with flows := flows ++ [flow] }], []⟩ (steps.map Step.line)
      ⟨before ++ [{ domain with
        flows := flows ++ [{ flow with steps := flow.steps ++ steps }] }], []⟩ := by
  induction steps generalizing flow with
  | nil =>
    rw [List.append_nil]
    exact nil
  | cons step steps ih =>
    obtain ⟨hstep, hwritable⟩ := hsteps step List.mem_cons_self
    have hrest := ih { flow with steps := flow.steps ++ [step] } fun other hother =>
      hsteps other (List.mem_cons_of_mem _ hother)
    rw [List.append_assoc] at hrest
    refine cons (fun line => ?_) hrest
    -- flows that came in leave the actors that a line may mention as they are
    have hknown : (Draft.ofStory ⟨before ++ [{ domain with flows := flows ++ [flow] }],
        []⟩).knownActors = domain.actorNames := Draft.knownActors_ofStory_concat
    rw [Draft.addLine, hknown, Step.classify_line hnames hstep]
    dsimp only
    rw [Draft.addStep_ofStory_concat, if_neg (by simp),
      show ({ domain with flows := flows ++ [flow] } : Domain).actorNames = domain.actorNames
        from rfl, Step.read_line hnames hstep hwritable]
    dsimp only
    rw [addStep_concat]

/-- A flow comes after the flows that are there, if its number does. -/
theorem flow (domain : Domain) {flow : Flow} (hnumber : flow.number = domain.flows.length + 1)
    (htitle : IsTitle flow.title) (hnames : Separable domain.actorNames)
    (hsteps : ∀ step ∈ flow.steps, step.WellFormed domain.actorNames ∧ step.Writable) :
    Leads config ⟨before ++ [domain], []⟩ flow.lines
      ⟨before ++ [{ domain with flows := domain.flows ++ [flow] }], []⟩ := by
  -- the header opens the flow without steps, which the other lines then fill
  have hopened : domain.addFlow (domain.flows.length + 1) flow.title
      = { domain with flows := domain.flows ++ [⟨flow.number, flow.title, []⟩] } := by
    have hne : flow.title.isEmpty = false := String.isEmpty_eq_false_iff.mpr htitle.ne
    simp only [Domain.addFlow, hne, hnumber, Bool.false_eq_true, if_false]
  have hrest : Leads config
      ⟨before ++ [{ domain with flows := domain.flows ++ [⟨flow.number, flow.title, []⟩] }], []⟩
      (flow.steps.map Step.line)
      ⟨before ++ [{ domain with flows := domain.flows ++ [flow] }], []⟩ :=
    steps domain domain.flows ⟨flow.number, flow.title, []⟩ hnames hsteps
  refine cons (fun line => ?_) hrest
  rw [Draft.addLine, Flow.classify_header htitle]
  dsimp only
  rw [Draft.ensureDomain_ofStory_concat, Draft.addFlow_ofStory, hopened]

theorem flows (domain : Domain) {flows : List Flow}
    (hnumbered : flows.map Flow.number = List.range' (domain.flows.length + 1) flows.length)
    (htitles : ∀ flow ∈ flows, IsTitle flow.title) (hnames : Separable domain.actorNames)
    (hsteps : ∀ flow ∈ flows, ∀ step ∈ flow.steps,
      step.WellFormed domain.actorNames ∧ step.Writable) :
    Leads config ⟨before ++ [domain], []⟩ (flows.flatMap Flow.lines)
      ⟨before ++ [{ domain with flows := domain.flows ++ flows }], []⟩ := by
  induction flows generalizing domain with
  | nil =>
    rw [List.append_nil]
    exact nil
  | cons first flows ih =>
    rw [List.map_cons, List.length_cons, List.range'_succ, List.cons.injEq] at hnumbered
    obtain ⟨hfirst, hothers⟩ := hnumbered
    have hrest := ih { domain with flows := domain.flows ++ [first] }
      (by
        rw [hothers, List.length_append, List.length_singleton])
      (fun other hother => htitles other (List.mem_cons_of_mem _ hother)) hnames
      (fun other hother => hsteps other (List.mem_cons_of_mem _ hother))
    rw [List.append_assoc] at hrest
    rw [List.flatMap_cons]
    exact append (flow domain hfirst (htitles first List.mem_cons_self) hnames
      (hsteps first List.mem_cons_self)) hrest

/-- The lines of a domain add that domain. -/
theorem oneDomain (done : List Domain) (h : domain.Writable)
    (hcolor : domain.color = config.domainColor done.length) :
    Leads config ⟨done, []⟩ domain.lines ⟨done ++ [domain], []⟩ := by
  -- header, notes, actors and flows, each on top of what the lines before gave
  have hheader : Leads config ⟨done, []⟩ [domain.header]
      ⟨done ++ [⟨domain.title, [], [], [], domain.color⟩], []⟩ := header done h.title hcolor
  have hnotes : Leads config ⟨done ++ [⟨domain.title, [], [], [], domain.color⟩], []⟩
      (domain.notes.map Note.line)
      ⟨done ++ [⟨domain.title, domain.notes, [], [], domain.color⟩], []⟩ := notes _ h.notes
  have hactors : Leads config ⟨done ++ [⟨domain.title, domain.notes, [], [], domain.color⟩], []⟩
      (domain.participants.map ActorDecl.line)
      ⟨done ++ [⟨domain.title, domain.notes, domain.participants, [], domain.color⟩], []⟩ := by
    refine actors _ (fun decl hdecl => ⟨h.actors decl hdecl, ?_⟩) ?_
    · exact (h.names.plain decl.name (List.mem_map_of_mem hdecl)).no_quote
    · have hdistinct := h.distinct
      rw [Domain.actorNames, List.map_map] at hdistinct
      exact hdistinct
  have hflows : Leads config
      ⟨done ++ [⟨domain.title, domain.notes, domain.participants, [], domain.color⟩], []⟩
      (domain.flows.flatMap Flow.lines) ⟨done ++ [domain], []⟩ :=
    flows ⟨domain.title, domain.notes, domain.participants, [], domain.color⟩ h.numbered
      h.flow_title h.names fun flow hflow step hstep =>
        ⟨h.steps flow hflow step hstep, h.step_writable flow hflow step hstep⟩
  exact ((hheader.append hnotes).append hactors).append hflows

/-- The lines of several domains add them one after the other. -/
theorem manyDomains (done domains : List Domain) (h : ∀ domain ∈ domains, domain.Writable)
    (hcolor : ∀ i domain, domains[i]? = some domain →
      domain.color = config.domainColor (done.length + i)) :
    Leads config ⟨done, []⟩ (domains.flatMap Domain.lines) ⟨done ++ domains, []⟩ := by
  induction domains generalizing done with
  | nil =>
    rw [List.append_nil]
    exact nil
  | cons first domains ih =>
    have hfirst : Leads config ⟨done, []⟩ first.lines ⟨done ++ [first], []⟩ :=
      oneDomain done (h first List.mem_cons_self) (hcolor 0 first rfl)
    have hrest := ih (done ++ [first]) (fun other hother => h other (List.mem_cons_of_mem _ hother))
      (by
        intro i other hother
        rw [List.length_append, List.length_singleton, Nat.add_assoc, Nat.add_comm 1]
        exact hcolor (i + 1) other hother)
    rw [List.append_assoc] at hrest
    rw [List.flatMap_cons]
    exact hfirst.append hrest

end Leads

/-! ## The text -/

/-- Lines that are joined by line ends are cut apart again. -/
theorem Text.pieces_intercalate {separator : Char} {lines : List (List Char)} (hne : lines ≠ [])
    (h : ∀ line ∈ lines, separator ∉ line) :
    pieces separator ([separator].intercalate lines) = lines := by
  induction lines with
  | nil => exact absurd rfl hne
  | cons first rest ih =>
    have hfirst : separator ∉ first := h first List.mem_cons_self
    cases rest with
    | nil =>
      rw [List.intercalate_singleton]
      exact pieces_of_notMem hfirst
    | cons second rest =>
      have hrest := ih (List.cons_ne_nil _ _) fun line hline =>
        h line (List.mem_cons_of_mem _ hline)
      rw [List.intercalate_cons_cons, List.append_assoc, List.singleton_append, pieces_append,
        pieces_of_notMem hfirst, hrest]
      rfl

theorem notMem_enclosed {c openMark closeMark : Char} {part : Option String} (hblank : c ≠ ' ')
    (hopen : c ≠ openMark) (hclose : c ≠ closeMark) (hpart : ∀ text ∈ part, c ∉ text.toList) :
    c ∉ enclosed openMark closeMark part := by
  cases part with
  | none => exact List.not_mem_nil
  | some text => simp [enclosed, hblank, hopen, hclose, hpart text rfl]

theorem Step.single_line {step : Step} {names : List String} (hnames : Separable names)
    (h : step.WellFormed names) (hstep : step.Writable) : '\n' ∉ step.line := by
  have hpath : '\n' ∉ step.layout.path := by
    have hsource := (hnames.plain _ h.source_mem).single_line
    have htarget := (hnames.plain _ h.target_mem).single_line
    unfold StepLayout.path layout
    split <;> simp [hsource, htarget, hstep.action_single_line]
  have hobject : '\n' ∉ enclosed '{' '}' step.workObject :=
    notMem_enclosed (by decide) (by decide) (by decide) hstep.workObject_single_line
  have hremark : '\n' ∉ enclosed '"' '"' step.remark :=
    notMem_enclosed (by decide) (by decide) (by decide) hstep.remark_single_line
  simp [Step.line_eq, hpath, hobject, hremark]

theorem ActorDecl.single_line {decl : ActorDecl} (h : decl.WellFormed)
    (hname : '\n' ∉ decl.name.toList) (hremark : ∀ remark ∈ decl.remark, '\n' ∉ remark.toList) :
    '\n' ∉ decl.line := by
  -- a line end is no word character
  have hword : '\n' ∉ decl.icon.toList := fun hmem => absurd (h.icon_word _ hmem) (by decide)
  have hicon : '\n' ∉ enclosed '(' ')' (some decl.icon) :=
    notMem_enclosed (by decide) (by decide) (by decide) fun icon hicon =>
      Option.some.inj hicon ▸ hword
  have hremark : '\n' ∉ enclosed '"' '"' decl.remark :=
    notMem_enclosed (by decide) (by decide) (by decide) hremark
  simp [ActorDecl.line, hname, hicon, hremark]

theorem Note.single_line {note : Note} (h : '\n' ∉ note.content.toList) : '\n' ∉ note.line := by
  have htag : '\n' ∉ note.kind.tag.toList := by
    cases note.kind <;> decide
  simp [Note.line, htag, h]

/-- No line of a domain that can be written holds a line end. -/
theorem Domain.Writable.single_lines {domain : Domain} (h : domain.Writable) :
    ∀ line ∈ domain.lines, '\n' ∉ line := by
  intro line hline
  simp only [Domain.lines, List.mem_append, List.mem_cons, List.mem_map, List.mem_flatMap] at hline
  rcases hline with ((rfl | ⟨note, hnote, rfl⟩) | ⟨decl, hdecl, rfl⟩) | ⟨flow, hflow, hline⟩
  · simp [Domain.header, h.title.single_line]
  · exact Note.single_line (h.note_single_line note hnote)
  · exact ActorDecl.single_line (h.actors decl hdecl)
      (h.names.plain decl.name (List.mem_map_of_mem hdecl)).single_line
      (h.remark_single_line decl hdecl)
  · rcases List.mem_cons.mp hline with rfl | hstep
    · simp [Flow.header, (h.flow_title flow hflow).single_line]
    · obtain ⟨step, hmem, rfl⟩ := List.mem_map.mp hstep
      exact Step.single_line h.names (h.steps flow hflow step hmem)
        (h.step_writable flow hflow step hmem)

/-- The lines of the written text are the written lines, and one empty line if there are none. -/
theorem Story.lines_write {domains : List Domain} (hne : domains ≠ [])
    (h : ∀ domain ∈ domains, domain.Writable) :
    Story.lines (Story.write domains) = domains.flatMap Domain.lines := by
  have hlines : domains.flatMap Domain.lines ≠ [] := by
    cases domains with
    | nil => exact absurd rfl hne
    | cons first domains => simp [Domain.lines]
  rw [Story.lines, Story.write, String.toList_ofList]
  refine Text.pieces_intercalate hlines fun line hline => ?_
  obtain ⟨domain, hdomain, hmem⟩ := List.mem_flatMap.mp hline
  exact (h domain hdomain).single_lines line hmem

/-- Domains that can be written are read as they were written, without an error. -/
theorem Story.read_write {config : Config} {domains : List Domain}
    (h : Story.Writable config domains) :
    Story.read config (Story.write domains) = ⟨domains, []⟩ := by
  by_cases hne : domains = []
  -- no domains give the empty text, which is a blank line
  · rw [hne]
    rfl
  · have hleads : Leads config ⟨[], []⟩ (domains.flatMap Domain.lines) ⟨[] ++ domains, []⟩ := by
      refine Leads.manyDomains [] domains h.domain fun i domain hdomain => ?_
      rw [List.length_nil, Nat.zero_add]
      exact h.color i domain hdomain
    rw [Story.read, Story.lines_write hne h.domain, Draft.ofLines, Draft.empty_eq_ofStory,
      Story.empty, hleads 1]
    rfl

/-- Two domains with names that hold parentheses and a final sigma, a step without an action, and
groups that hold the marks of others. -/
def twoDomains : List Domain :=
  [⟨"# Orders", [⟨.risk, "[note] a > b"⟩, ⟨.note, "@x (y)"⟩],
    [⟨"Bank (EU)", "person", some "says \"(dns)\" "⟩, ⟨"ΟΔΟΣ", "api", none⟩],
    [⟨1, "# First", [⟨"Bank (EU)", "", "ΟΔΟΣ", some "a \"b\" \x7bc", none⟩]⟩,
      ⟨2, "Second", [⟨"ΟΔΟΣ", "asks ΟΔΟΣ for", "Bank (EU)", none, some "{d}"⟩]⟩],
    "#6366f1"⟩,
  ⟨"Empty", [], [], [], "#10b981"⟩]

theorem Story.read_write_twoDomains :
    Story.Writable .empty twoDomains ∧
      Story.read .empty (Story.write twoDomains) = ⟨twoDomains, []⟩ := by
  have hwritable : Story.Writable .empty twoDomains := by
    refine ⟨by decide, fun i domain hdomain => ?_⟩
    match i, hdomain with
    | 0, hdomain => exact Option.some.inj hdomain ▸ by decide
    | 1, hdomain => exact Option.some.inj hdomain ▸ by decide
  exact ⟨hwritable, Story.read_write hwritable⟩

end DomainStory
