import Mathlib.Data.List.TakeWhile
import DomainStory.Proofs.Text.Lowercase
import DomainStory.Story.Line

/-!
# Tags of notes

A note may start with a tag in brackets, which is read as a word, or as two words with a dash
between them (`Note.IsTag`, `Note.splitTag_eq_some_iff`). Every tag that names a kind of note has
this form, in whatever case its letters are (`Note.isTag_tag`, `Note.IsTag.of_map_toLower`). So a
kind is found exactly where a text is `Note.Tagged`: the name of the kind between brackets, and text
behind them (`Note.tagged?_eq_some_iff`). Wherever the reader of tags stops halfway, the text is not
tagged, and the note has all of it (`Line.classify_of_noteMark`).
-/

namespace DomainStory

open Text

variable {text tag rest content cs : List Char} {kind : NoteKind} {note : Note}

/-! ## Kinds -/

theorem NoteKind.ofTag?_eq_some_iff :
    NoteKind.ofTag? tag = some kind ↔ tag.map Char.toLower = kind.tag.toList := by
  unfold NoteKind.ofTag?
  constructor
  · intro h
    have hfound := List.find?_some h
    rw [decide_eq_true_eq] at hfound
    exact hfound.symm
  · intro h
    rw [h]
    cases kind <;> decide

namespace Note

/-! ## The form of a tag -/

/-- What a tag is read as: a word, or two words with a dash between them. -/
inductive IsTag : List Char → Prop
  | word {first : List Char} (hne : first ≠ []) (hword : ∀ c ∈ first, isWord c = true) :
      IsTag first
  | dashed {first second : List Char} (hne : first ≠ []) (hword : ∀ c ∈ first, isWord c = true)
      (hne' : second ≠ []) (hword' : ∀ c ∈ second, isWord c = true) :
      IsTag (first ++ '-' :: second)

theorem forall_isWord_of_map_toLower (h : ∀ c ∈ cs.map Char.toLower, isWord c = true) :
    ∀ c ∈ cs, isWord c = true := by
  intro c hc
  exact isWord_of_toLower (h c.toLower (List.mem_map_of_mem hc))

/-- Making the letters of a tag small changes nothing about its form. -/
theorem IsTag.of_map_toLower (h : IsTag (tag.map Char.toLower)) : IsTag tag := by
  generalize hsmall : tag.map Char.toLower = small at h
  cases h with
  | word hne hword =>
    subst hsmall
    exact .word (by simpa using hne) (forall_isWord_of_map_toLower hword)
  | dashed hne hword hne' hword' =>
    obtain ⟨first, tail, rfl, rfl, htail⟩ := List.map_eq_append_iff.mp hsmall
    obtain ⟨dash, second, rfl, hdash, rfl⟩ := List.map_eq_cons_iff.mp htail
    -- no capital letter becomes a dash
    have hsame : dash = '-' := by
      rw [← Char.toNat_inj, toNat_toLower] at hdash
      rw [← Char.toNat_inj]
      have hcode : '-'.toNat = 45 := rfl
      split at hdash <;> omega
    rw [hsame]
    exact .dashed (by simpa using hne) (forall_isWord_of_map_toLower hword)
      (by simpa using hne') (forall_isWord_of_map_toLower hword')

theorem isTag_tag (kind : NoteKind) : IsTag kind.tag.toList := by
  -- the words are searched as lists, for there are too many characters to try them all
  have hall : ∀ {word : List Char}, word.all isWord = true → ∀ c ∈ word, isWord c = true :=
    List.all_eq_true.mp
  cases kind with
  | userStory =>
    show IsTag ("user".toList ++ '-' :: "story".toList)
    exact .dashed (by decide) (hall (by decide)) (by decide) (hall (by decide))
  | requirement => exact .word (by decide) (hall (by decide))
  | assumption => exact .word (by decide) (hall (by decide))
  | risk => exact .word (by decide) (hall (by decide))
  | note => exact .word (by decide) (hall (by decide))

/-! ## Reading a tag -/

/-- A word is taken up to a character that belongs to no word. -/
theorem span_word {first : List Char} {next : Char} (hword : ∀ c ∈ first, isWord c = true)
    (hnext : isWord next = false) (rest : List Char) :
    (first ++ next :: rest).takeWhile isWord = first ∧
      (first ++ next :: rest).dropWhile isWord = next :: rest := by
  have hstop : ¬ isWord next = true := by simp [hnext]
  rw [List.takeWhile_append_of_pos hword, List.dropWhile_append_of_pos hword,
    List.takeWhile_cons_of_neg hstop, List.dropWhile_cons_of_neg hstop, List.append_nil]
  exact ⟨rfl, rfl⟩

theorem takeTag?_append (h : IsTag tag) (rest : List Char) :
    takeTag? (tag ++ ']' :: rest) = some (tag, ']' :: rest) := by
  have hbracket : isWord ']' = false := by decide
  cases h with
  | word hne hword =>
    obtain ⟨htake, hdrop⟩ := span_word hword hbracket rest
    unfold takeTag?
    rw [htake, hdrop]
    simp [hne]
  | @dashed first second hne hword hne' hword' =>
    have hdash : isWord '-' = false := by decide
    obtain ⟨htake, hdrop⟩ := span_word hword hdash (second ++ ']' :: rest)
    obtain ⟨htake', hdrop'⟩ := span_word hword' hbracket rest
    rw [List.append_assoc, List.cons_append]
    unfold takeTag?
    rw [htake, hdrop]
    simp only [htake', hdrop']
    simp [hne, hne']

/-- What is read as a tag has the form of one, and is cut off the start of the text. -/
theorem isTag_of_takeTag? (h : takeTag? cs = some (tag, rest)) : IsTag tag ∧ cs = tag ++ rest := by
  have hword : ∀ {part : List Char}, ∀ c ∈ part.takeWhile isWord, isWord c = true :=
    fun _ hc => List.mem_takeWhile_imp hc
  have hcut := List.takeWhile_append_dropWhile (p := isWord) (l := cs)
  unfold takeTag? at h
  dsimp only at h
  split at h
  · exact absurd h (by simp)
  · next hne =>
    split at h
    · next behind hdash =>
      rw [hdash] at hcut
      split at h
      · exact absurd h (by simp)
      · next hne' =>
        simp only [Option.some.injEq, Prod.mk.injEq] at h
        obtain ⟨rfl, rfl⟩ := h
        refine ⟨.dashed (by simpa using hne) hword (by simpa using hne') hword, ?_⟩
        rw [List.append_assoc, List.cons_append, List.takeWhile_append_dropWhile, hcut]
    · simp only [Option.some.injEq, Prod.mk.injEq] at h
      obtain ⟨rfl, rfl⟩ := h
      exact ⟨.word (by simpa using hne) hword, hcut.symm⟩

theorem splitTag_eq_some_iff : splitTag text = some (tag, content) ↔
    IsTag tag ∧ ∃ after, text = '[' :: tag ++ ']' :: after ∧ content = trim after ∧
      content ≠ [] := by
  constructor
  · intro h
    unfold splitTag at h
    split at h
    · next inside =>
      split at h
      · next found after htake =>
        obtain ⟨htag, rfl⟩ := isTag_of_takeTag? htake
        dsimp only at h
        split at h
        · exact absurd h (by simp)
        · next hne =>
          simp only [Option.some.injEq, Prod.mk.injEq] at h
          obtain ⟨rfl, rfl⟩ := h
          exact ⟨htag, after, rfl, rfl, by simpa using hne⟩
      · exact absurd h (by simp)
    · exact absurd h (by simp)
  · rintro ⟨htag, after, rfl, rfl, hne⟩
    rw [List.cons_append]
    unfold splitTag
    simp only [takeTag?_append htag]
    rw [if_neg (by simpa using hne)]

/-! ## Tagged texts -/

/-- The text starts with the name of a kind in brackets, the case of ASCII letters ignored, and the
given content is what follows, but for white space around it. There is such content. -/
def Tagged (text : List Char) (kind : NoteKind) (content : List Char) : Prop :=
  ∃ tag after, text = '[' :: tag ++ ']' :: after ∧ tag.map Char.toLower = kind.tag.toList ∧
    content = trim after ∧ content ≠ []

/-- The kind and the content are found exactly where the text is tagged with them. -/
theorem tagged?_eq_some_iff :
    tagged? text = some note ↔ Tagged text note.kind note.content.toList := by
  unfold tagged?
  rw [Option.bind_eq_some_iff]
  constructor
  · rintro ⟨⟨tag, content⟩, hsplit, hkind⟩
    obtain ⟨kind, hfound, rfl⟩ := Option.map_eq_some_iff.mp hkind
    obtain ⟨-, after, htext, hcontent, hne⟩ := splitTag_eq_some_iff.mp hsplit
    rw [String.toList_ofList]
    exact ⟨tag, after, htext, NoteKind.ofTag?_eq_some_iff.mp hfound, hcontent, hne⟩
  · rintro ⟨tag, after, htext, hkind, hcontent, hne⟩
    -- the name of a kind has the form that is read as a tag
    have htag : IsTag tag := by
      apply IsTag.of_map_toLower
      rw [hkind]
      exact isTag_tag note.kind
    refine ⟨(tag, note.content.toList),
      splitTag_eq_some_iff.mpr ⟨htag, after, htext, hcontent, hne⟩, ?_⟩
    show (NoteKind.ofTag? tag).map _ = _
    rw [NoteKind.ofTag?_eq_some_iff.mpr hkind, Option.map_some, String.ofList_toList]

theorem tagged?_eq_none_iff : tagged? text = none ↔ ∀ kind content, ¬ Tagged text kind content := by
  rw [Option.eq_none_iff_forall_ne_some]
  constructor
  · intro h kind content htagged
    refine h ⟨kind, String.ofList content⟩ (tagged?_eq_some_iff.mpr ?_)
    rwa [String.toList_ofList]
  · intro h note hnote
    exact h _ _ (tagged?_eq_some_iff.mp hnote)

end Note

/-! ## Classification -/

namespace Line

variable {known : List String} {line body : List Char}

theorem classify_eq_ofBody? (known : List String) (hline : trim line = '>' :: body) :
    classify known line = match Note.ofBody? body with
      | some found => .note found
      | none => .blank := by
  unfold classify
  rw [hline]
  rfl

/-- A line with the mark of a note is blank if nothing follows the mark. If what follows is tagged
with a kind, the note is of this kind and has the content behind the tag. In all other cases the
note is of no particular kind and has all that follows. -/
theorem classify_of_noteMark (known : List String) (hline : trim line = '>' :: body) :
    (trim body = [] → classify known line = .blank) ∧
    (∀ kind content, Note.Tagged (trim body) kind content →
      classify known line = .note ⟨kind, String.ofList content⟩) ∧
    (trim body ≠ [] → (∀ kind content, ¬ Note.Tagged (trim body) kind content) →
      classify known line = .note ⟨.note, String.ofList (trim body)⟩) := by
  rw [classify_eq_ofBody? known hline]
  unfold Note.ofBody?
  refine ⟨fun hblank => ?_, fun kind content htagged => ?_, fun hne hplain => ?_⟩
  · simp only [hblank, List.isEmpty_nil, if_true]
  · have hne : trim body ≠ [] := by
      obtain ⟨tag, after, htext, -⟩ := htagged
      rw [htext]
      exact List.cons_ne_nil _ _
    have hfound : Note.tagged? (trim body) = some ⟨kind, String.ofList content⟩ := by
      rw [Note.tagged?_eq_some_iff, String.toList_ofList]
      exact htagged
    simp [hne, hfound]
  · simp [hne, Note.tagged?_eq_none_iff.mpr hplain]

/-- A tag in capitals is taken off, and one without text behind it is all the text there is. -/
theorem classify_of_noteMark_risk :
    trim " > [RISK]Late \r".toList = '>' :: " [RISK]Late".toList ∧
    classify [] " > [RISK]Late \r".toList = .note ⟨.risk, "Late"⟩ ∧
    trim "> [risk] ".toList = '>' :: " [risk]".toList ∧
    classify [] "> [risk] ".toList = .note ⟨.note, "[risk]"⟩ ∧
    trim ">".toList = ['>'] ∧ classify [] ">".toList = .blank := by
  have hlate : trim " > [RISK]Late \r".toList = '>' :: " [RISK]Late".toList := by decide
  have hbare : trim "> [risk] ".toList = '>' :: " [risk]".toList := by decide
  have hblank : trim ">".toList = ['>'] := by decide
  obtain ⟨-, htagged, -⟩ := classify_of_noteMark [] hlate
  obtain ⟨-, -, hplain⟩ := classify_of_noteMark [] hbare
  obtain ⟨hnothing, -, -⟩ := classify_of_noteMark [] hblank
  refine ⟨hlate, htagged .risk "Late".toList ?_, hbare, ?_, hblank, hnothing (by decide)⟩
  · exact ⟨"RISK".toList, "Late".toList, by decide, by decide, by decide, by decide⟩
  · exact hplain (by decide) (Note.tagged?_eq_none_iff.mp (by decide))

end Line

end DomainStory
