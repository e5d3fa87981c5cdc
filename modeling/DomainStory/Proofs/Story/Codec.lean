import DomainStory.Proofs.Json.Record
import DomainStory.Story.Codec

/-!
# Stories that are read back

Every part of a story is read back from its JSON form, from the notes and steps upwards. The names
of the fields of each record are different, and the names of the variants of each kind too.
-/

namespace DomainStory

open Json (record?_obj list?_ofList)

@[simp] theorem NoteKind.ofJson?_toJson (kind : NoteKind) :
    NoteKind.ofJson? kind.toJson = some kind := by
  cases kind <;> rfl

@[simp] theorem ActorKind.ofJson?_toJson (kind : ActorKind) :
    ActorKind.ofJson? kind.toJson = some kind := by
  cases kind <;> rfl

@[simp] theorem Note.ofJson?_toJson (note : Note) : Note.ofJson? note.toJson = some note := by
  unfold ofJson? toJson
  rw [record?_obj (by rfl) (by decide)]
  simp

@[simp] theorem ActorDecl.ofJson?_toJson (decl : ActorDecl) :
    ActorDecl.ofJson? decl.toJson = some decl := by
  unfold ofJson? toJson
  rw [record?_obj (by rfl) (by decide)]
  simp

@[simp] theorem Step.ofJson?_toJson (step : Step) : Step.ofJson? step.toJson = some step := by
  unfold ofJson? toJson
  rw [record?_obj (by rfl) (by decide)]
  simp

@[simp] theorem Flow.ofJson?_toJson (flow : Flow) : Flow.ofJson? flow.toJson = some flow := by
  have hsteps := list?_ofList fun step (_ : step ∈ flow.steps) => step.ofJson?_toJson
  unfold ofJson? toJson
  rw [record?_obj (by rfl) (by decide)]
  simp [hsteps]

@[simp] theorem Domain.ofJson?_toJson (domain : Domain) :
    Domain.ofJson? domain.toJson = some domain := by
  have hnotes := list?_ofList fun note (_ : note ∈ domain.notes) => note.ofJson?_toJson
  have hactors := list?_ofList fun decl (_ : decl ∈ domain.participants) => decl.ofJson?_toJson
  have hflows := list?_ofList fun flow (_ : flow ∈ domain.flows) => flow.ofJson?_toJson
  unfold ofJson? toJson
  rw [record?_obj (by rfl) (by decide)]
  simp [hnotes, hactors, hflows]

@[simp] theorem LineError.ofJson?_toJson (error : LineError) :
    LineError.ofJson? error.toJson = some error := by
  unfold ofJson? toJson
  rw [record?_obj (by rfl) (by decide)]
  simp

theorem Story.ofJson?_toJson (story : Story) : Story.ofJson? story.toJson = some story := by
  have hdomains := list?_ofList fun domain (_ : domain ∈ story.domains) => domain.ofJson?_toJson
  have herrors := list?_ofList fun error (_ : error ∈ story.errors) => error.ofJson?_toJson
  unfold ofJson? toJson
  rw [record?_obj (by rfl) (by decide)]
  simp [hdomains, herrors]

end DomainStory
