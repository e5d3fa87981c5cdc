import DomainStory.Proofs.Session.Consistency

/-!
# Actors keep their places and sizes

Every edit of the text or the view throws the actors away and composes them anew, and some edits are
refused. All the same an actor who is there before and after an edit stays in place, unless the edit
moves the actor or lays out the diagram (`Session.position?_after`), and keeps the size unless it
measures the actor (`Session.measured?_after`).

`Session.run_keeps_actor` says so of whole histories, whose edits are looked at one by one in the
states that they are made in (`Session.Along`).
-/

namespace DomainStory

variable {α : Type} [Plane α]

/-! ## Edits along a history -/

namespace Session

/-- Each edit of a history meets a condition in the state that it is made in. -/
def Along (condition : Session α → Edit α → Prop) : Session α → List (Edit α) → Prop
  | _, [] => True
  | session, edit :: edits => condition session edit ∧ Along condition (session.after edit) edits

instance Along.decidable {condition : Session α → Edit α → Prop}
    [∀ session edit, Decidable (condition session edit)] :
    (session : Session α) → (edits : List (Edit α)) → Decidable (Along condition session edits)
  | _, [] => .isTrue trivial
  | session, edit :: edits =>
    have : Decidable (Along condition (session.after edit) edits) :=
      Along.decidable (session.after edit) edits
    inferInstanceAs
      (Decidable (condition session edit ∧ Along condition (session.after edit) edits))

variable {config : Config} {session : Session α} {edit : Edit α} {edits : List (Edit α)}
  {condition condition' : Session α → Edit α → Prop}

theorem Along.and (h : Along condition session edits) (h' : Along condition' session edits) :
    Along (fun session edit => condition session edit ∧ condition' session edit) session edits := by
  induction edits generalizing session with
  | nil => trivial
  | cons edit edits ih => exact ⟨⟨h.1, h'.1⟩, ih h.2 h'.2⟩

theorem Along.imp (h : Along condition session edits)
    (himp : ∀ session edit, condition session edit → condition' session edit) :
    Along condition' session edits := by
  induction edits generalizing session with
  | nil => trivial
  | cons edit edits ih => exact ⟨himp session edit h.1, ih h.2⟩

/-- What each edit keeps under the condition holds at each edit, and in the end. -/
theorem Along.invariant (kept : Session α → Prop)
    (hstep : ∀ session edit, kept session → condition session edit → kept (session.after edit))
    (h : Along condition session edits) (hstart : kept session) :
    Along (fun session edit => kept session ∧ condition session edit) session edits ∧
      kept (session.run edits) := by
  induction edits generalizing session with
  | nil => exact ⟨trivial, hstart⟩
  | cons edit edits ih =>
    obtain ⟨halong, hend⟩ := ih h.2 (hstep session edit hstart h.1)
    exact ⟨⟨⟨hstart, h.1⟩, halong⟩, hend⟩

/-! ## One edit -/

/-- Whether an edit moves an actor, alone or with all others. -/
def displaces (key : String) (session : Session α) : Edit α → Bool
  | .moveActor other _ => other = key
  | edit => session.laysOut edit

end Session

/-- Whether an edit is a measurement of an actor. -/
def Edit.measures (key : String) : Edit α → Bool
  | .measureActor other _ => other = key
  | _ => false

namespace Session

variable {config : Config} {session : Session α} {edit : Edit α} {edits : List (Edit α)}
  {key : String}

theorem displaces_of_laysOut (h : session.laysOut edit = true) :
    session.displaces key edit = true := by
  cases edit with
  | moveActor other spot => exact absurd h (by simp [laysOut])
  | _ => exact h

/-- A diagram that is built anew leaves those in place who were there before. -/
theorem position?_recompose {view : View} (hplaced : session.diagram.AllPlaced)
    (hbefore : key ∈ session.diagram.actors.keys)
    (hafter : key ∈ (session.recompose view).diagram.actors.keys) :
    (session.recompose view).diagram.position? key = session.diagram.position? key := by
  rw [recompose, Diagram.keys_seed] at hafter
  exact Diagram.position?_seed_compose_of_mem hplaced hafter hbefore

theorem measured?_recompose {view : View}
    (hafter : key ∈ (session.recompose view).diagram.actors.keys) :
    (session.recompose view).diagram.measured? key = session.diagram.measured? key := by
  rw [recompose, Diagram.keys_seed] at hafter
  exact Diagram.measured?_seed.trans (Diagram.measured?_compose hafter)

theorem position?_after (hplaced : session.diagram.AllPlaced)
    (hbefore : key ∈ session.diagram.actors.keys)
    (hafter : key ∈ (session.after edit).diagram.actors.keys)
    (hedit : session.displaces key edit = false) :
    (session.after edit).diagram.position? key = session.diagram.position? key := by
  have hnext := next_after session edit
  generalize session.after edit = session' at hafter hnext ⊢
  cases hnext with
  | updateText | recompose => exact position?_recompose hplaced hbefore hafter
  | layout _ _ hlaysOut =>
    rw [displaces_of_laysOut hlaysOut] at hedit
    exact absurd hedit (by simp)
  | moveActor other spot =>
    have hne : other ≠ key := of_decide_eq_false hedit
    exact Diagram.position?_place_of_ne spot hne.symm
  | measureActor other size => exact Diagram.position?_measured other size
  | _ => rfl

theorem measured?_after (hafter : key ∈ (session.after edit).diagram.actors.keys)
    (hedit : edit.measures key = false) :
    (session.after edit).diagram.measured? key = session.diagram.measured? key := by
  have hnext := next_after session edit
  generalize session.after edit = session' at hafter hnext ⊢
  cases hnext with
  | updateText | recompose => exact measured?_recompose hafter
  | layout _ _ _ harrange => exact Diagram.measured?_arrange harrange
  | moveActor other spot => exact Diagram.measured?_place other spot
  | measureActor other size =>
    have hne : other ≠ key := of_decide_eq_false hedit
    exact Diagram.measured?_measured_of_ne size hne.symm
  | _ => rfl

/-! ## Whole histories -/

/-- As long as an actor is there, it stays in place until it is moved or laid out, and keeps its
size until it is measured. -/
theorem run_keeps_actor (h : session.Reachable config) (hkey : key ∈ session.diagram.actors.keys)
    (hstays : Along (fun session edit => key ∈ (session.after edit).diagram.actors.keys)
      session edits) :
    (Along (fun session edit => session.displaces key edit = false) session edits →
        (session.run edits).diagram.position? key = session.diagram.position? key) ∧
      (Along (fun _ edit => edit.measures key = false) session edits →
        (session.run edits).diagram.measured? key = session.diagram.measured? key) := by
  constructor
  · intro hundisplaced
    refine ((hstays.and hundisplaced).invariant
      (fun other => other.Reachable config ∧ key ∈ other.diagram.actors.keys ∧
        other.diagram.position? key = session.diagram.position? key) ?_ ⟨h, hkey, rfl⟩).2.2.2
    rintro other edit ⟨hreachable, hbefore, hsame⟩ ⟨hafter, hedit⟩
    have hplaced := Diagram.allPlaced_iff.mpr hreachable.consistent.placed
    exact ⟨hreachable.after edit, hafter,
      (position?_after hplaced hbefore hafter hedit).trans hsame⟩
  · intro hunmeasured
    refine ((hstays.and hunmeasured).invariant
      (fun other => other.diagram.measured? key = session.diagram.measured? key) ?_ rfl).2
    rintro other edit hsame ⟨hafter, hedit⟩
    exact (measured?_after hafter hedit).trans hsame

/-- Bob is in both domains of a story, and was moved. -/
def settled : Session Float :=
  (start .default).run [
    .updateText "# Shop\n@Ann (person)\n@Bob (person)\n## Order\nBob asks Ann",
    .moveActor "Bob" ⟨10.0, 20.0⟩, .route]

/-- The story is told anew and looked at, Ann is moved, and two edits are refused. -/
def visits : List (Edit Float) := [
  .updateText "# Bank\n@Bob (system)\n# Shop\n@Bob (person)\n@Ann (person)", .nextView,
  .moveActor "Cid" ⟨0.0, 0.0⟩, .layoutNamed "spiral", .nextView, .moveActor "Ann" ⟨30.0, 40.0⟩,
  .setView .all, .zoomTo 2.0]

/-- Bob stays where he was moved to, and not even a layout gives him a size. -/
theorem run_keeps_actor_bob :
    (settled.Reachable .default ∧ "Bob" ∈ settled.diagram.actors.keys ∧
        Along (fun session edit => "Bob" ∈ (session.after edit).diagram.actors.keys) settled
          visits ∧
        Along (fun session edit => session.displaces "Bob" edit = false) settled visits ∧
        (settled.run visits).diagram.position? "Bob" = some ⟨10.0, 20.0⟩) ∧
      (Along (fun session edit => "Bob" ∈ (session.after edit).diagram.actors.keys) settled
          (visits ++ [.layoutNamed "Grid"]) ∧
        Along (fun _ edit => edit.measures "Bob" = false) settled
          (visits ++ [.layoutNamed "Grid"]) ∧
        (settled.run (visits ++ [.layoutNamed "Grid"])).diagram.measured? "Bob" = none) := by
  have hreachable : settled.Reachable .default := Reachable.start.run _
  have hkey : "Bob" ∈ settled.diagram.actors.keys := by decide +kernel
  have hstays : Along (fun session edit => "Bob" ∈ (session.after edit).diagram.actors.keys)
      settled visits := by decide +kernel
  have hundisplaced : Along (fun session edit => session.displaces "Bob" edit = false)
      settled visits := by decide +kernel
  have hstays' : Along (fun session edit => "Bob" ∈ (session.after edit).diagram.actors.keys)
      settled (visits ++ [.layoutNamed "Grid"]) := by decide +kernel
  have hunmeasured : Along (fun _ edit => edit.measures "Bob" = false)
      settled (visits ++ [.layoutNamed "Grid"]) := by decide +kernel
  refine ⟨⟨hreachable, hkey, hstays, hundisplaced, ?_⟩, hstays', hunmeasured, ?_⟩
  · rw [(run_keeps_actor hreachable hkey hstays).1 hundisplaced]
    rfl
  · rw [(run_keeps_actor hreachable hkey hstays').2 hunmeasured]
    rfl

end Session

end DomainStory
