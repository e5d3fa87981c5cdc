import DomainStory.Command.Run
import DomainStory.Proofs.Layout.Refusal
import DomainStory.Proofs.Session.Refusal
import DomainStory.Proofs.Story.Blank

/-!
# The exit status

Once the story and the configuration are there, the status follows from the options, and the text
matters to a summary alone (`Command.status_respond`). The one thing that could go wrong later is
the layout, which is not refused for any diagram. A summary fails exactly if the story has errors:
it is not asked for those of a blank text, which has none (`Story.read_of_blank`).

`Command.status_run` compares two runs of the same words on different story texts.
-/

namespace DomainStory

/-- A summary fails exactly for a story with errors. -/
theorem Summary.isFailing_of_read {α : Type} (config : Config) (text : String)
    (diagram : Diagram α) :
    (Summary.of text (Story.read config text) diagram).isFailing
      = !(Story.read config text).errors.isEmpty := by
  unfold Summary.of
  split
  · next hblank =>
    rw [Story.read_of_blank (List.isEmpty_iff.mp hblank)]
    rfl
  · split
    · next herrors => rw [herrors]; rfl
    · next herrors => rw [herrors]; rfl

namespace Command

/-- Whether the layout that is asked for, if any, is one. -/
def Options.knowsLayout (options : Options) : Bool :=
  options.layout.all fun name => Algorithm.plainName name ∈ Algorithm.names

/-- The configuration that is asked for, if it can be read. -/
def Options.configured (options : Options) (read : Source → Except ReadFailure String) :
    Except String Config :=
  match options.config with
  | none => .ok .default
  | some path => configOf (read (.file path))

theorem status_respondLayout (options : Options) (config : Config) (text : String) :
    (respondLayout options config text).status = if options.knowsLayout then 0 else 1 := by
  unfold respondLayout Options.knowsLayout
  cases hlayout : options.layout with
  | none => rfl
  | some name =>
    by_cases hname : Algorithm.plainName name ∈ Algorithm.names
    · obtain ⟨algorithm, hread⟩ :=
        Algorithm.exists_read? (.ofConfig config : ForceOptions Float) hname
      simp only [hread, Except.map, Option.all_some, hname, decide_true, if_true]
      split
      · next refusal hrefused =>
        obtain ⟨laidOut, hlaidOut⟩ := Session.exists_layout _ algorithm
        rw [hlaidOut] at hrefused
        cases hrefused
      · rfl
    · have hread := Algorithm.read?_eq_error (.ofConfig config : ForceOptions Float) hname
      simp [hread, hname, Except.map, Outcome.failure]

/-- What the program answers is a success unless its layout is unknown or its summary fails. -/
theorem status_respond (options : Options) (config : Config) (text : String) :
    (respond options config text).status = match options.task with
      | .parse | .outline => 0
      | .layout => if options.knowsLayout then 0 else 1
      | .summary => if (Story.read config text).errors = [] then 0 else 1 := by
  unfold respond
  cases options.task with
  | parse => rfl
  | layout => exact status_respondLayout options config text
  | outline => rfl
  | summary =>
    have hsummary : ((openSession config).updateText text).summary
        = Summary.of text (Story.read config text)
            ((openSession config).updateText text).diagram := rfl
    dsimp only
    rw [hsummary, Summary.isFailing_of_read]
    cases (Story.read config text).errors with
    | nil => rfl
    | cons _ _ => rfl

/-- A run whose story can be read gets as far as the configuration lets it. -/
theorem run_eq {words : List String} {options : Options} (hwords : Options.read words = .ok options)
    {read : Source → Except ReadFailure String} {text : String}
    (hread : read options.source = .ok text) :
    run (m := Id) read words = match options.configured read with
      | .error message => .failure 1 message
      | .ok config => respond options config text := by
  unfold run Options.configured
  rw [hwords]
  dsimp only [bind, pure, Id.run]
  rw [hread]
  dsimp only
  cases options.config with
  | none => rfl
  | some path => rfl

/-- The words settle how a run ends: with another story text, beside the same configuration, it ends
with the same status. The exception is a summary, which looks for errors in the story. -/
theorem status_run {words : List String} {options : Options}
    (hwords : Options.read words = .ok options) :
    (options.task ≠ .summary →
      ∀ (read read' : Source → Except ReadFailure String) (text text' : String),
        read options.source = .ok text → read' options.source = .ok text' →
        (∀ path, options.config = some path → read' (.file path) = read (.file path)) →
        (run (m := Id) read' words).status = (run (m := Id) read words).status) ∧
    (options.task = .summary →
      ∀ (read : Source → Except ReadFailure String) (text : String) (config : Config),
        read options.source = .ok text → options.configured read = .ok config →
        (run (m := Id) read words).status
          = if (Story.read config text).errors = [] then 0 else 1) := by
  constructor
  · intro htask read read' text text' hread hread' hsame
    have hconfigured : options.configured read' = options.configured read := by
      unfold Options.configured
      split
      · rfl
      · next path hpath => rw [hsame path hpath]
    rw [run_eq hwords hread, run_eq hwords hread', hconfigured]
    cases options.configured read with
    | error message => rfl
    | ok config =>
      dsimp only
      rw [status_respond, status_respond]
      cases hasked : options.task with
      | summary => exact absurd hasked htask
      | _ => rfl
  · intro htask read text config hread hconfigured
    rw [run_eq hwords hread, hconfigured]
    dsimp only
    rw [status_respond, htask]

/-- A standard input with a text, beside files without settings. -/
def typed (text : String) : Source → Except ReadFailure String
  | .standardInput => .ok text
  | .file _ => .ok "{}"

/-- An actor without an icon does not keep a story from being laid out, but it fails the summary. -/
theorem status_run_typed :
    (run (m := Id) (typed "") ["layout", "--layout", "Grid", "--config", "a.json", "-"]).status
      = (run (m := Id) (typed "@Bob")
          ["layout", "--layout", "Grid", "--config", "a.json", "-"]).status ∧
    (run (m := Id) (typed "@Bob") ["summary", "--config", "a.json"]).status = 1 := by
  constructor
  · have hwords :
        Options.read ["layout", "--layout", "Grid", "--config", "a.json", "-"] = .ok _ := rfl
    exact (status_run hwords).1 (by decide) (typed "@Bob") (typed "") _ _ rfl rfl fun _ _ => rfl
  · have hwords : Options.read ["summary", "--config", "a.json"] = .ok _ := rfl
    refine ((status_run hwords).2 rfl (typed "@Bob") _ _ rfl rfl).trans (if_neg ?_)
    decide +kernel

end Command

end DomainStory
