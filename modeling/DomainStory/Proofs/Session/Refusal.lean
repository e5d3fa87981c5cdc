import DomainStory.Proofs.Layout.Refusal
import DomainStory.Session.Attempt

/-!
# Refused edits change nothing

An edit in place may be refused halfway, when a layout has seeded actors already. This never comes
to pass, since every diagram can be laid out: what is left behind is the session that the edit calls
for, or the one that was there before (`Session.attempt_eq`). Histories, which know of these two
alone, thus go through the states that edits in place leave behind (`Session.attempt_fst`).

`Session.refusesCleanly` lists for which names an edit is refused, and why.
-/

namespace DomainStory

variable {α : Type}

theorem Diagram.actor?_eq_none_iff {diagram : Diagram α} {key : String} :
    diagram.actor? key = none ↔ key ∉ diagram.actors.keys := by
  rw [Table.mem_keys_iff, Bool.not_eq_true, Option.isSome_eq_false_iff, Option.isNone_iff_eq_none]
  exact Iff.rfl

namespace Session

variable [Plane α]

/-- A layout is never refused. -/
theorem exists_layout (session : Session α) (algorithm : Algorithm α) :
    ∃ laidOut, session.layout algorithm = .ok laidOut := by
  obtain ⟨⟨diagram, controls⟩, harrange⟩ := session.diagram.exists_arrange session.controls
    algorithm session.canvas session.routing.defaultSize
  unfold layout
  rw [harrange]
  dsimp only
  cases session.screen with
  | none => exact ⟨_, rfl⟩
  | some screen => exact ⟨_, rfl⟩

theorem attemptLayout_eq {session laidOut : Session α} {algorithm : Algorithm α}
    (h : session.layout algorithm = .ok laidOut) :
    session.attemptLayout algorithm = (laidOut, none) := by
  rw [attemptLayout, h]

/-- An edit in place is performed, or else leaves everything as it was. -/
theorem attempt_eq (session : Session α) (edit : Edit α) :
    session.attempt edit = match session.perform edit with
      | .ok changed => (changed, none)
      | .error refusal => (session, some refusal) := by
  have hlayout : ∀ algorithm, session.attemptLayout algorithm
      = match session.layout algorithm with
        | .ok changed => (changed, none)
        | .error refusal => (session, some refusal) := by
    intro algorithm
    obtain ⟨laidOut, hlaidOut⟩ := session.exists_layout algorithm
    rw [attemptLayout_eq hlaidOut, hlaidOut]
  cases edit with
  | layout algorithm => exact hlayout algorithm
  | layoutNamed name =>
    unfold attempt perform layoutNamed
    dsimp only
    cases hread : Algorithm.read? (.ofConfig session.config : ForceOptions α) name with
    | error refusal => rfl
    | ok algorithm => exact hlayout algorithm
  | moveActor key spot =>
    unfold attempt
    dsimp only
    cases session.perform (.moveActor key spot) <;> rfl
  | measureActor key size =>
    unfold attempt
    dsimp only
    cases session.perform (.measureActor key size) <;> rfl
  | _ => rfl

/-- The states of a history are those that edits in place leave behind. -/
theorem attempt_fst (session : Session α) (edit : Edit α) :
    (session.attempt edit).1 = session.after edit := by
  rw [attempt_eq, after]
  cases session.perform edit <;> rfl

/-- An edit in place is refused for the reason that `perform` gives. -/
theorem attempt_snd_eq_some_iff {session : Session α} {edit : Edit α} {refusal : Refusal} :
    (session.attempt edit).2 = some refusal ↔ session.perform edit = .error refusal := by
  rw [attempt_eq]
  cases session.perform edit with
  | ok changed => simp
  | error cause => simp

omit [Plane α] in
theorem moveActor_eq_error_iff {session : Session α} {key : String} {spot : Point α}
    {refusal : Refusal} :
    session.moveActor key spot = .error refusal ↔
      key ∉ session.diagram.actors.keys ∧ refusal = .unknownActor key := by
  rw [← Diagram.actor?_eq_none_iff, moveActor, Diagram.move]
  cases session.diagram.actor? key with
  | none => simp [eq_comm]
  | some actor => simp

theorem measureActor_eq_error_iff {session : Session α} {key : String} {size : Size α}
    {refusal : Refusal} :
    session.measureActor key size = .error refusal ↔
      key ∉ session.diagram.actors.keys ∧ refusal = .unknownActor key := by
  rw [← Diagram.actor?_eq_none_iff, measureActor, Diagram.measure]
  cases session.diagram.actor? key with
  | none => simp [eq_comm]
  | some actor =>
    -- a size that is not recorded is no refusal
    by_cases hextent : (0.0 : α) < size.width && (0.0 : α) < size.height
    · simp [hextent]
    · simp [hextent]

theorem layoutNamed_eq_error_iff {session : Session α} {name : String} {refusal : Refusal} :
    session.layoutNamed name = .error refusal ↔
      Algorithm.plainName name ∉ Algorithm.names ∧ refusal = .unknownAlgorithm name := by
  unfold layoutNamed
  by_cases hname : Algorithm.plainName name ∈ Algorithm.names
  · obtain ⟨algorithm, hread⟩ :=
      Algorithm.exists_read? (.ofConfig session.config : ForceOptions α) hname
    obtain ⟨laidOut, hlaidOut⟩ := session.exists_layout algorithm
    rw [hread]
    simp [hlaidOut, hname]
  · rw [Algorithm.read?_eq_error _ hname]
    simp [hname, eq_comm]

/-- When edits in place are refused, and that nothing has happened then. -/
structure RefusesCleanly (session : Session α) : Prop where
  moveActor : ∀ key spot refusal, (session.attempt (.moveActor key spot)).2 = some refusal ↔
    key ∉ session.diagram.actors.keys ∧ refusal = .unknownActor key
  measureActor : ∀ key size refusal, (session.attempt (.measureActor key size)).2 = some refusal ↔
    key ∉ session.diagram.actors.keys ∧ refusal = .unknownActor key
  layoutNamed : ∀ name refusal, (session.attempt (.layoutNamed name)).2 = some refusal ↔
    Algorithm.plainName name ∉ Algorithm.names ∧ refusal = .unknownAlgorithm name
  layout : ∀ algorithm, (session.attempt (.layout algorithm)).2 = none
  unchanged : ∀ edit refusal, (session.attempt edit).2 = some refusal →
    (session.attempt edit).1 = session

/-- Edits are refused for unknown actors and algorithms alone, and leave the session as it was. -/
theorem refusesCleanly (session : Session α) : session.RefusesCleanly where
  moveActor key spot refusal := attempt_snd_eq_some_iff.trans moveActor_eq_error_iff
  measureActor key size refusal := by
    rw [attempt_snd_eq_some_iff, ← measureActor_eq_error_iff]
    show (session.measureActor key size).map Prod.fst = .error refusal ↔ _
    cases session.measureActor key size <;> simp [Except.map]
  layoutNamed name refusal := attempt_snd_eq_some_iff.trans layoutNamed_eq_error_iff
  layout algorithm := by
    obtain ⟨laidOut, hlaidOut⟩ := session.exists_layout algorithm
    rw [attempt, attemptLayout_eq hlaidOut]
  unchanged edit refusal h := by
    rw [attempt_fst, after, attempt_snd_eq_some_iff.mp h]

end Session

end DomainStory
