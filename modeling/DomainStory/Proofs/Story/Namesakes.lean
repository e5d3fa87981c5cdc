import Mathlib.Data.List.Nodup
import DomainStory.Proofs.Story.Reading

/-!
# Actors under their own names

Two actors of a domain have names whose lower cases differ. The search for names compares them in
another way, character by character, and an actor that is declared first hides those of whom it is a
namesake in that sense. A name is therefore resolved to the first of its namesakes
(`Domain.resolves_namesake`). In a story that was read this is the actor itself, unless a sigma has
different forms in the two names (`Story.resolves_read`); then it may be another one
(`Story.resolved_to_other`).
-/

namespace DomainStory

open Text NameMatch

/-- The first actor whose name equals the given one character by character, case ignored. -/
def Domain.namesake? (domain : Domain) (name : String) : Option ActorDecl :=
  domain.participants.find? fun decl => caseless decl.name.toList = caseless name.toList

/-- A name is resolved to an actor at either end of a text that is nothing but the name. -/
structure Domain.Resolves (domain : Domain) (name : String) (found : ActorDecl) : Prop where
  first : first? domain.actorNames name.toList = some (whole found.name name.toList)
  last : last? domain.actorNames name.toList = some (whole found.name name.toList)

theorem Domain.namesake?_eq_some {domain : Domain} {name : String} {found : ActorDecl}
    (h : domain.namesake? name = some found) :
    found ∈ domain.participants ∧ caseless found.name.toList = caseless name.toList :=
  ⟨List.mem_of_find?_eq_some h, by simpa using List.find?_some h⟩

/-- Every actor has a namesake, be it only itself. -/
theorem Domain.exists_namesake {domain : Domain} {decl : ActorDecl}
    (h : decl ∈ domain.participants) : ∃ found, domain.namesake? decl.name = some found := by
  rw [← Option.isSome_iff_exists, namesake?, List.find?_isSome]
  exact ⟨decl, h, decide_eq_true rfl⟩

/-- A name is resolved to the first of its namesakes. -/
theorem Domain.resolves_namesake {domain : Domain} {name : String} {found : ActorDecl}
    (hne : name ≠ "") (h : domain.namesake? name = some found) : domain.Resolves name found := by
  have htext : name.toList ≠ [] := by simpa using hne
  have hfound : domain.actorNames.find? (fun other => caseless other.toList = caseless name.toList)
      = some found.name := by
    rw [actorNames, List.find?_map]
    exact congrArg (Option.map ActorDecl.name) h
  exact ⟨first?_whole htext hfound, last?_whole htext hfound⟩

/-- In a well-formed domain a namesake is the actor itself, unless sigma makes a difference. -/
theorem Domain.WellFormed.namesake_eq_or_sigmaClash {domain : Domain} {decl found : ActorDecl}
    (h : domain.WellFormed) (hdecl : decl ∈ domain.participants)
    (hfound : domain.namesake? decl.name = some found) :
    found = decl ∨ SigmaClash decl.name.toList found.name.toList := by
  obtain ⟨hmem, hsame⟩ := namesake?_eq_some hfound
  by_cases hlower : lowercase found.name.toList = lowercase decl.name.toList
  · -- the lower case of the name belongs to one actor only
    left
    have hdistinct := h.distinct
    rw [actorNames, List.map_map] at hdistinct
    exact List.inj_on_of_nodup_map hdistinct hmem hdecl hlower
  · right
    refine ⟨[], found.name.toList, [], by simp, hsame, ?_⟩
    rw [List.reverse_nil, ← lowercase_eq_lowerWithin]
    exact hlower

/-- At either end of a text that is the name of an actor and nothing else, the first of its
namesakes in the domain is found, and covers the whole text. This is the actor itself, unless the
two names differ in the form of a sigma. -/
theorem Story.resolves_read (config : Config) (text : String) {domain : Domain}
    (hdomain : domain ∈ (Story.read config text).domains) {decl : ActorDecl}
    (hdecl : decl ∈ domain.participants) :
    ∃ found, domain.namesake? decl.name = some found ∧ domain.Resolves decl.name found ∧
      (found = decl ∨ SigmaClash decl.name.toList found.name.toList) := by
  have hwell := (Story.read_wellFormed config text).1.domains domain hdomain
  obtain ⟨found, hfound⟩ := Domain.exists_namesake hdecl
  exact ⟨found, hfound, Domain.resolves_namesake (hwell.actors decl hdecl).name_ne hfound,
    hwell.namesake_eq_or_sigmaClash hdecl hfound⟩

/-- A story with a name that begins with another one, and two that differ in the form of a sigma. -/
def relatives : String :=
  "@Bob (person)\n@Bob Li (person)\n@ΑΣ (person)\n@ασ (person)\n## Visit\nBob ασ"

def relativesRead : Domain where
  title := "Domain Story"
  notes := []
  participants := [⟨"Bob", "person", none⟩, ⟨"Bob Li", "person", none⟩, ⟨"ΑΣ", "person", none⟩,
    ⟨"ασ", "person", none⟩]
  flows := [⟨1, "Visit", [⟨"Bob", "", "ΑΣ", none, none⟩]⟩]
  color := "#6366f1"

theorem Story.read_relatives : Story.read .default relatives = ⟨[relativesRead], []⟩ := by decide

theorem Story.resolves_relatives :
    relativesRead ∈ (Story.read .default relatives).domains ∧
      ⟨"Bob", "person", none⟩ ∈ relativesRead.participants ∧
      relativesRead.Resolves "Bob" ⟨"Bob", "person", none⟩ := by
  have hdomain : relativesRead ∈ (Story.read .default relatives).domains := by
    rw [read_relatives]
    exact List.mem_singleton_self _
  have hdecl : ⟨"Bob", "person", none⟩ ∈ relativesRead.participants := List.mem_cons_self
  obtain ⟨found, -, hresolves, hfound⟩ := resolves_read .default relatives hdomain hdecl
  -- the name has no sigma
  obtain rfl := hfound.resolve_right fun hclash => absurd hclash.capital.1 (by decide)
  exact ⟨hdomain, hdecl, hresolves⟩

/-- An actor whom its own name does not reach: another one is found, and no error says so. -/
theorem Story.resolved_to_other :
    (Story.read .default relatives).errors = [] ∧
      relativesRead ∈ (Story.read .default relatives).domains ∧
      ⟨"ασ", "person", none⟩ ∈ relativesRead.participants ∧
      NameMatch.first? relativesRead.actorNames "ασ".toList = some ⟨"ΑΣ", [], "ασ".toList, []⟩ ∧
      NameMatch.last? relativesRead.actorNames "ασ".toList = some ⟨"ΑΣ", [], "ασ".toList, []⟩ := by
  rw [read_relatives]
  refine ⟨rfl, List.mem_singleton_self _, by decide, rfl, rfl⟩

end DomainStory
