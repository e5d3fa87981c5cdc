import Mathlib.Data.List.Forall2
import DomainStory.Proofs.Story.Blank
import DomainStory.Proofs.Story.Reading

/-!
# Changes of a text that do not matter

White space at the ends of lines does not matter, nor do lines that tell nothing
(`Story.read_inert`). The first holds because a line adds to a draft what its trimmed text adds
(`Draft.addLine_trim`). The second needs two passes side by side: behind a line that was put in they
differ in the numbers of the lines alone, and no line looks at the errors that were there before it
(`Draft.addLine_renumber`). Hence both passes stay in step up to the numbers of the errors, to the
end of the text (`Draft.addLines_renumber`).
-/

namespace DomainStory

open Text

/-! ## White space at the ends of lines -/

/-- Two lines that differ in the white space at their ends alone. -/
def Text.Respaced (cs ds : List Char) : Prop :=
  ∃ core before after before' after', Blanks before ∧ Blanks after ∧ Blanks before' ∧
    Blanks after' ∧ cs = before ++ core ++ after ∧ ds = before' ++ core ++ after'

theorem Text.respaced_iff {cs ds : List Char} : Respaced cs ds ↔ trim cs = trim ds := by
  constructor
  · rintro ⟨core, before, after, before', after', hbefore, hafter, hbefore', hafter', rfl, rfl⟩
    rw [trim_append_right hafter, trim_append_left hbefore, trim_append_right hafter',
      trim_append_left hbefore']
  · intro htrim
    obtain ⟨before, after, hbefore, hafter, hcs⟩ := exists_append_trim cs
    obtain ⟨before', after', hbefore', hafter', hds⟩ := exists_append_trim ds
    rw [← htrim] at hds
    exact ⟨trim cs, before, after, before', after', hbefore, hafter, hbefore', hafter', hcs, hds⟩

instance (cs ds : List Char) : Decidable (Respaced cs ds) := decidable_of_iff' _ respaced_iff

theorem Line.classify_trim (known : List String) (text : List Char) :
    Line.classify known (trim text) = Line.classify known text := by
  unfold Line.classify
  rw [show trim (trim text) = trim text from trimmed_trim text]

namespace Draft

variable {config : Config}

theorem addLine_trim (draft : Draft) (line : Nat) (text : List Char) :
    draft.addLine config line (trim text) = draft.addLine config line text := by
  have hstep : ∀ draft : Draft,
      draft.addStep config line (trim text) = draft.addStep config line text := by
    intro draft
    simp only [addStep, Step.read_trim]
  unfold addLine
  rw [Line.classify_trim, hstep]

/-- Lines that differ in the white space at their ends add the same. -/
theorem addLines_respaced {lines lines' : List (List Char)}
    (h : List.Forall₂ Respaced lines lines') (draft : Draft) (line : Nat) :
    draft.addLines config line lines = draft.addLines config line lines' := by
  induction h generalizing draft line with
  | nil => rfl
  | cons hfirst hrest ih =>
    rw [addLines, addLines, ← addLine_trim, respaced_iff.mp hfirst, addLine_trim]
    exact ih _ _

end Draft

/-- The characters with a carriage return before each line end. -/
def Text.returned : List Char → List Char
  | [] => []
  | c :: cs => if c = '\n' then '\r' :: '\n' :: returned cs else c :: returned cs

/-- Every line but the last is followed by a carriage return. -/
theorem Text.pieces_returned (cs : List Char) :
    List.Forall₂ (fun line line' => line' = line ∨ line' = line ++ ['\r']) (pieces '\n' cs)
      (pieces '\n' (returned cs)) := by
  induction cs with
  | nil => exact .cons (.inl rfl) .nil
  | cons c cs ih =>
    by_cases hc : c = '\n'
    · subst hc
      have hcut := pieces_append '\n' ['\r'] (returned cs)
      rw [pieces_of_notMem (show '\n' ∉ ['\r'] by decide)] at hcut
      rw [returned, if_pos rfl, pieces, if_pos rfl,
        show '\r' :: '\n' :: returned cs = ['\r'] ++ '\n' :: returned cs from rfl, hcut]
      exact .cons (.inr rfl) ih
    · rw [returned, if_neg hc, pieces, if_neg hc, pieces, if_neg hc]
      -- the character belongs to the first line on both sides
      generalize pieces '\n' cs = lines, pieces '\n' (returned cs) = lines' at ih
      cases ih with
      | nil => exact .cons (.inl rfl) .nil
      | cons hfirst hrest =>
        refine .cons ?_ hrest
        rcases hfirst with rfl | rfl
        · exact .inl rfl
        · exact .inr rfl

def Story.withReturns (text : String) : String := String.ofList (returned text.toList)

/-- A carriage return is white space at the end of its line. -/
theorem Story.respaced_withReturns (text : String) :
    List.Forall₂ Respaced (lines text) (lines (withReturns text)) := by
  rw [lines, lines, withReturns, String.toList_ofList]
  refine (pieces_returned text.toList).imp fun line line' h => ?_
  rw [respaced_iff]
  rcases h with rfl | rfl
  · rfl
  · exact (trim_concat_blank (by decide) line).symm

/-! ## Lines with other numbers -/

def LineError.renumber (number : Nat → Nat) (errors : List LineError) : List LineError :=
  errors.map fun error => { error with line := number error.line }

namespace Draft

variable {config : Config} {number : Nat → Nat}

def renumber (number : Nat → Nat) (draft : Draft) : Draft :=
  { draft with errors := LineError.renumber number draft.errors }

theorem ensureDomain_renumber (draft : Draft) :
    (draft.renumber number).ensureDomain config = (draft.ensureDomain config).renumber number := by
  unfold ensureDomain
  rw [show (draft.renumber number).domains = draft.domains from rfl]
  split <;> rfl

theorem addFault_renumber (draft : Draft) (line : Nat) (fault : LineFault) :
    (draft.renumber number).addFault (number line) fault
      = (draft.addFault line fault).renumber number := by
  simp [addFault, renumber, LineError.renumber, LineFault.at]

theorem addActor_renumber (draft : Draft) (line : Nat) (decl : ActorDecl) :
    (draft.renumber number).addActor (number line) decl
      = (draft.addActor line decl).renumber number := by
  unfold addActor
  rw [show (draft.renumber number).current? = draft.current? from rfl]
  split
  · exact addFault_renumber draft line _
  · rfl

theorem addStep_renumber (draft : Draft) (line : Nat) (text : List Char) :
    (draft.renumber number).addStep config (number line) text
      = (draft.addStep config line text).renumber number := by
  unfold addStep
  rw [show (draft.renumber number).openFlow = draft.openFlow from rfl]
  split
  · exact addFault_renumber draft line _
  · dsimp only
    rw [ensureDomain_renumber,
      show ((draft.ensureDomain config).renumber number).knownActors
        = (draft.ensureDomain config).knownActors from rfl]
    split
    · rfl
    · exact addFault_renumber _ line _

/-- A line does the same whatever the errors before it, and leaves its error under its own
number. -/
theorem addLine_renumber (draft : Draft) (line : Nat) (text : List Char) :
    (draft.renumber number).addLine config (number line) text
      = (draft.addLine config line text).renumber number := by
  unfold addLine
  rw [show (draft.renumber number).knownActors = draft.knownActors from rfl, ensureDomain_renumber]
  cases Line.classify draft.knownActors text with
  | actor decl => exact addActor_renumber _ line decl
  | malformedActor => exact addFault_renumber _ line _
  | stepCandidate => exact addStep_renumber draft line text
  | _ => rfl

/-- Two passes over the same lines stay in step, as long as the numbers of the lines do. -/
theorem addLines_renumber (lines : List (List Char)) (draft : Draft) (line : Nat)
    (hnumber : ∀ n, line ≤ n → number (n + 1) = number n + 1) :
    (draft.renumber number).addLines config (number line) lines
      = (draft.addLines config line lines).renumber number := by
  induction lines generalizing draft line with
  | nil => rfl
  | cons text rest ih =>
    rw [addLines, addLines, addLine_renumber, ← hnumber line (Nat.le_refl line)]
    exact ih _ (line + 1) fun n hn => hnumber n (by omega)

end Draft

/-! ## What does not matter -/

namespace Story

/-- The number of a line once another one stands after the first `k` lines. -/
def numberAfter (k n : Nat) : Nat := if k < n then n + 1 else n

/-- Errors of the lines before keep their numbers. -/
theorem renumber_of_within {k : Nat} {errors : List LineError}
    (h : ∀ error ∈ errors, error.line ≤ k) :
    LineError.renumber (numberAfter k) errors = errors := by
  refine (List.map_congr_left fun error herror => ?_).trans (List.map_id errors)
  rw [numberAfter, if_neg (Nat.not_lt.mpr (h error herror))]
  rfl

/-- A line that tells nothing moves the lines behind it, and that is all. -/
theorem ofLines_insert (config : Config) (front : List (List Char)) {silent : List Char}
    (h : Line.Silent silent) (back : List (List Char)) :
    Draft.ofLines config (front ++ silent :: back)
      = (Draft.ofLines config (front ++ back)).renumber (numberAfter front.length) := by
  obtain ⟨story, hfront, hstory⟩ := Draft.ofLines_eq_ofStory config front
  have hbefore : (Draft.ofLines config front).renumber (numberAfter front.length)
      = Draft.ofLines config front := by
    have herrors := renumber_of_within fun error herror => (hstory.errors.within error herror).2
    rw [hfront, Draft.renumber]
    exact congrArg (fun errors => { Draft.ofStory story with errors }) herrors
  have hnext : numberAfter front.length (1 + front.length) = 1 + front.length + 1 :=
    if_pos (by omega)
  calc Draft.ofLines config (front ++ silent :: back)
      = (Draft.ofLines config front).addLines config (1 + front.length + 1) back := by
        rw [Draft.ofLines, Draft.addLines_append, Draft.addLines, Draft.addLine_of_silent h]
        rfl
    _ = ((Draft.ofLines config front).renumber (numberAfter front.length)).addLines config
          (numberAfter front.length (1 + front.length)) back := by rw [hbefore, hnext]
    _ = ((Draft.ofLines config front).addLines config (1 + front.length) back).renumber
          (numberAfter front.length) := by
        refine Draft.addLines_renumber back _ _ fun n hn => ?_
        rw [numberAfter, numberAfter, if_pos (by omega), if_pos (by omega)]
    _ = (Draft.ofLines config (front ++ back)).renumber (numberAfter front.length) := by
        rw [Draft.ofLines, Draft.ofLines, Draft.addLines_append]

/-- A text is read alike whatever white space stands at the ends of its lines, be it a carriage
return before every line end. A line that tells nothing may be put in after any number of lines:
then the domains stay what they are, and so do the errors, but that those behind it are numbered by
one higher. -/
theorem read_inert (config : Config) (text : String) :
    (∀ respaced : String, List.Forall₂ Respaced (lines text) (lines respaced) →
        read config respaced = read config text) ∧
      read config (withReturns text) = read config text ∧
      ∀ (k : Nat) (silent : List Char) (longer : String), k ≤ (lines text).length →
        Line.Silent silent → lines longer = (lines text).take k ++ silent :: (lines text).drop k →
          (read config longer).domains = (read config text).domains ∧
            (read config longer).errors = (read config text).errors.map fun error =>
              { error with line := if k < error.line then error.line + 1 else error.line } := by
  have hrespaced : ∀ respaced : String, List.Forall₂ Respaced (lines text) (lines respaced) →
      read config respaced = read config text := by
    intro respaced h
    rw [read, read, Draft.ofLines, Draft.ofLines, Draft.addLines_respaced h]
  refine ⟨hrespaced, hrespaced _ (respaced_withReturns text), ?_⟩
  intro k silent longer hk hsilent hlonger
  have hread : Draft.ofLines config (lines longer)
      = (Draft.ofLines config (lines text)).renumber (numberAfter k) := by
    rw [hlonger, ofLines_insert config _ hsilent, List.length_take_of_le hk, List.take_append_drop]
  rw [read, hread]
  exact ⟨rfl, rfl⟩

/-- A text with an error on its last line. -/
def unspaced : String := "@A (person)\n## Start\nA asks A\nA asks"

theorem read_inert_commented :
    List.Forall₂ Respaced (lines unspaced)
        (lines "\t@A (person)\r\n## Start\r\n  A asks A \r\nA asks") ∧
      read .default "\t@A (person)\r\n## Start\r\n  A asks A \r\nA asks" = read .default unspaced ∧
      2 ≤ (lines unspaced).length ∧ Line.Silent " // who?".toList ∧
      lines "@A (person)\n## Start\n // who?\nA asks A\nA asks"
        = (lines unspaced).take 2 ++ " // who?".toList :: (lines unspaced).drop 2 ∧
      (read .default "@A (person)\n## Start\n // who?\nA asks A\nA asks").errors
        = [(LineFault.unknownTarget "A").at 5] := by
  obtain ⟨hrespaced, -, hinserted⟩ := read_inert .default unspaced
  have hspaces : List.Forall₂ Respaced (lines unspaced)
      (lines "\t@A (person)\r\n## Start\r\n  A asks A \r\nA asks") :=
    .cons (by decide) (.cons (by decide) (.cons (by decide) (.cons (by decide) .nil)))
  have hlength : 2 ≤ (lines unspaced).length := by decide
  have hsilent : Line.Silent " // who?".toList := by decide
  have hlines : lines "@A (person)\n## Start\n // who?\nA asks A\nA asks"
      = (lines unspaced).take 2 ++ " // who?".toList :: (lines unspaced).drop 2 := by decide
  refine ⟨hspaces, hrespaced _ hspaces, hlength, hsilent, hlines, ?_⟩
  rw [(hinserted 2 _ _ hlength hsilent hlines).2]
  decide

end Story

end DomainStory
