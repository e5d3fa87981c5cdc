import Mathlib.Data.List.DropRight
import Mathlib.Data.List.TakeWhile
import DomainStory.Proofs.Text.Trim
import DomainStory.Story.TrailingGroup

/-!
# The group at the end of a line

`EndsInGroup` says how a line may be cut into a text and a group at its end. Where there are several
such cuts, the one with the longest content is taken, and where there is none no group is found
(`trailingGroup_longest`).

The content of a group is never empty and never holds the closing mark
(`trailingGroup_content`). A group and the text before it are parts of the line
(`trailingGroup_eq_append`, `Trimmed.trailingGroup_eq`). A group that is put after a text is split
off again if its two marks are one character (`trailingGroup_quoted`), or if the text does not hold
the opening mark (`trailingGroup_bracketed`). A line with another end has no group
(`trailingGroup_eq_none`).
-/

namespace DomainStory

open Text

variable {openMark closeMark mark : Char} {line before content : List Char}

/-- What is left when a text is dropped up to a mark starts with that mark. -/
theorem eq_takeWhile_append_mark {first : Char} {cs rest : List Char}
    (h : cs.dropWhile (· ≠ mark) = first :: rest) :
    cs = cs.takeWhile (· ≠ mark) ++ mark :: rest := by
  have hfirst := List.head?_dropWhile_not (· ≠ mark) cs
  rw [h] at hfirst
  obtain rfl : first = mark := by simpa using hfirst
  rw [← h, List.takeWhile_append_dropWhile]

/-- What is left of the line without the white space at its end closes with a group: some text, and
then the content between the two marks. The content is not empty and does not hold the closing
mark. -/
structure EndsInGroup (openMark closeMark : Char) (line before content : List Char) : Prop where
  ne : content ≠ []
  notMem : closeMark ∉ content
  line_eq : trimEnd line = before ++ openMark :: content ++ [closeMark]

/-- What is split off a line is a group that the line ends in. -/
theorem endsInGroup_of_trailingGroup
    (h : trailingGroup openMark closeMark line = some (content, before)) :
    ∃ raw, before = trim raw ∧ EndsInGroup openMark closeMark line raw content := by
  unfold trailingGroup at h
  split at h
  · exact absurd h (by simp)
  · next c body hline =>
    have hsplit : trimEnd line = body.reverse ++ [c] := by
      rw [trimEnd, hline, List.reverse_cons]
    split at h
    · next hclose =>
      subst hclose
      dsimp only at h
      -- the region before the closing mark holds no other one
      have hmem : c ∉ (body.takeWhile (· ≠ c)).reverse := by
        intro hmem
        simpa using List.mem_takeWhile_imp (List.mem_reverse.mp hmem)
      split at h
      · next hmarks =>
        subst hmarks
        split at h
        · next first rest hhead =>
          split at h
          · exact absurd h (by simp)
          · next hne =>
            simp only [Option.some.injEq, Prod.mk.injEq] at h
            obtain ⟨rfl, rfl⟩ := h
            refine ⟨rest.reverse, rfl, by simpa using hne, hmem, ?_⟩
            rw [hsplit]
            conv_lhs => rw [eq_takeWhile_append_mark hhead]
            simp
        · exact absurd h (by simp)
      · split at h
        · next first inner hinner =>
          have hregion := eq_takeWhile_append_mark hinner
          split at h
          · exact absurd h (by simp)
          · next hne =>
            simp only [Option.some.injEq, Prod.mk.injEq] at h
            obtain ⟨rfl, rfl⟩ := h
            refine ⟨_, rfl, by simpa using hne, fun hinside => hmem ?_, ?_⟩
            · rw [hregion]
              exact List.mem_append_right _ (List.mem_cons_of_mem _ hinside)
            · rw [hsplit, ← List.takeWhile_append_dropWhile (p := (· ≠ c)) (l := body),
                List.reverse_append]
              conv_lhs => rw [hregion]
              simp
        · exact absurd h (by simp)
    · exact absurd h (by simp)

/-- A group is cut out of the line it ends: the text before it, its content between the marks, and
white space make up the line. There is content, and the closing mark ends it. -/
theorem trailingGroup_eq_append
    (h : trailingGroup openMark closeMark line = some (content, before)) :
    (content ≠ [] ∧ closeMark ∉ content) ∧ ∃ raw blanks, Blanks blanks ∧ before = trim raw ∧
      line = raw ++ openMark :: content ++ closeMark :: blanks := by
  obtain ⟨raw, hbefore, hends⟩ := endsInGroup_of_trailingGroup h
  obtain ⟨blanks, hblanks, hsplit⟩ := exists_trimEnd_append line
  refine ⟨⟨hends.ne, hends.notMem⟩, raw, blanks, hblanks, hbefore, ?_⟩
  rw [hsplit, hends.line_eq, List.append_assoc, List.singleton_append]

theorem trailingGroup_content (h : trailingGroup openMark closeMark line = some (content, before)) :
    content ≠ [] ∧ closeMark ∉ content :=
  (trailingGroup_eq_append h).1

theorem trailingGroup_before_isInfix
    (h : trailingGroup openMark closeMark line = some (content, before)) : before <:+: line := by
  obtain ⟨-, raw, blanks, -, rfl, rfl⟩ := trailingGroup_eq_append h
  rw [List.append_assoc]
  exact (trim_isInfix raw).trans (List.prefix_append _ _).isInfix

/-- A group that ends a trimmed line leaves a trimmed text, with white space before the group. -/
theorem Text.Trimmed.trailingGroup_eq (hline : Trimmed line)
    (h : trailingGroup openMark closeMark line = some (content, before)) :
    ∃ gap, Blanks gap ∧ Trimmed before ∧
      line = before ++ gap ++ openMark :: content ++ [closeMark] := by
  obtain ⟨-, raw, blanks, hblanks, rfl, hsplit⟩ := trailingGroup_eq_append h
  -- nothing follows the closing mark, for the line does not end with white space
  obtain rfl : blanks = [] := by
    rw [hsplit, List.append_cons] at hline
    exact hline.eq_nil_of_append_blanks hblanks
  rw [hsplit, List.append_assoc] at hline
  obtain ⟨gap, hgap, hraw⟩ := hline.left_eq
  refine ⟨gap, hgap, trimmed_trim raw, ?_⟩
  rw [hsplit, ← hraw]

/-- A group between two equal marks is split off the text before it. -/
theorem trailingGroup_quoted (hmark : isBlank mark = false) (hne : content ≠ [])
    (hmem : mark ∉ content) :
    trailingGroup mark mark (before ++ mark :: content ++ [mark])
      = some (content, trim before) := by
  have hcontent : ∀ c ∈ content.reverse, decide (c ≠ mark) = true := by
    intro c hc
    rw [decide_eq_true_eq]
    rintro rfl
    exact hmem (List.mem_reverse.mp hc)
  have hreverse : (before ++ mark :: content ++ [mark]).reverse
      = mark :: (content.reverse ++ mark :: before.reverse) := by simp
  unfold trailingGroup
  rw [hreverse, List.dropWhile_cons_of_neg (by simp [hmark])]
  simp only [if_true]
  rw [List.takeWhile_append_of_pos hcontent, List.dropWhile_append_of_pos hcontent,
    List.takeWhile_cons_of_neg (by simp), List.dropWhile_cons_of_neg (by simp)]
  simp [hne]

/-- A line that ends with something else than the closing mark has no group. -/
theorem trailingGroup_eq_none {last : Char} (hlast : line.getLast? = some last)
    (hblank : isBlank last = false) (hclose : last ≠ closeMark) :
    trailingGroup openMark closeMark line = none := by
  obtain ⟨front, rfl⟩ := List.getLast?_eq_some_iff.mp hlast
  unfold trailingGroup
  rw [List.reverse_append, List.reverse_singleton, List.singleton_append,
    List.dropWhile_cons_of_neg (by simp [hblank])]
  simp [hclose]

/-! ## The longest group -/

/-- White space at the end of the line makes no difference. -/
theorem trailingGroup_trimEnd (openMark closeMark : Char) (line : List Char) :
    trailingGroup openMark closeMark (trimEnd line) = trailingGroup openMark closeMark line := by
  have hline : (trimEnd line).reverse.dropWhile isBlank = line.reverse.dropWhile isBlank := by
    rw [trimEnd, List.reverse_reverse, List.dropWhile_idempotent]
  unfold trailingGroup
  rw [hline]

namespace EndsInGroup

theorem isBlank_closeMark (h : EndsInGroup openMark closeMark line before content) :
    isBlank closeMark = false := by
  have hlast : closeMark ∈ (trimEnd line).getLast? := by
    rw [h.line_eq, List.getLast?_concat]
    rfl
  exact getLast?_trimEnd hlast

/-- Of two groups of the same length there is only one. -/
theorem unique {before' content' : List Char}
    (h : EndsInGroup openMark closeMark line before content)
    (h' : EndsInGroup openMark closeMark line before' content')
    (hlength : content.length = content'.length) : before = before' ∧ content = content' := by
  have hline := h.line_eq.symm.trans h'.line_eq
  obtain ⟨hbefore, hgroup⟩ :=
    List.append_inj' (List.append_cancel_right hline) (by simp [hlength])
  exact ⟨hbefore, List.tail_eq_of_cons_eq hgroup⟩

end EndsInGroup

/-- The first mark of a text that holds one leaves at least what stands behind any other. -/
theorem exists_dropWhile_mark (mark : Char) (cs rest : List Char) :
    ∃ longest, (cs ++ mark :: rest).dropWhile (· ≠ mark) = mark :: longest ∧
      rest.length ≤ longest.length := by
  induction cs with
  | nil => exact ⟨rest, List.dropWhile_cons_of_neg (by simp), Nat.le_refl _⟩
  | cons c cs ih =>
    by_cases hc : c = mark
    · refine ⟨cs ++ mark :: rest, ?_, ?_⟩
      · rw [List.cons_append, List.dropWhile_cons_of_neg (by simp [hc]), hc]
      · rw [List.length_append, List.length_cons]
        omega
    · rw [List.cons_append, List.dropWhile_cons_of_pos (by simp [hc])]
      exact ih

/-- A line that ends in a group has one split off, and no shorter one. -/
theorem exists_trailingGroup (h : EndsInGroup openMark closeMark line before content) :
    ∃ longest text, trailingGroup openMark closeMark line = some (longest, text) ∧
      content.length ≤ longest.length := by
  rw [← trailingGroup_trimEnd, h.line_eq]
  by_cases hmarks : openMark = closeMark
  · subst hmarks
    exact ⟨content, trim before,
      trailingGroup_quoted h.isBlank_closeMark h.ne h.notMem, Nat.le_refl _⟩
  · have hgroup : ∀ c ∈ content.reverse ++ [openMark], decide (c ≠ closeMark) = true := by
      intro c hc
      rw [decide_eq_true_eq]
      rintro rfl
      rcases List.mem_append.mp hc with hinside | hopen
      · exact h.notMem (List.mem_reverse.mp hinside)
      · exact hmarks (List.mem_singleton.mp hopen).symm
    have hreverse : (before ++ openMark :: content ++ [closeMark]).reverse
        = closeMark :: (content.reverse ++ [openMark] ++ before.reverse) := by simp
    -- what stands between the last closing mark before the group and the group
    let between := (before.reverse.takeWhile (· ≠ closeMark)).reverse
    have hregion : ((content.reverse ++ [openMark] ++ before.reverse).takeWhile
        (· ≠ closeMark)).reverse = between ++ openMark :: content := by
      rw [List.takeWhile_append_of_pos hgroup]
      simp [between]
    obtain ⟨longest, hlongest, hlength⟩ := exists_dropWhile_mark openMark between content
    have hne : longest ≠ [] := by
      have hpos := List.length_pos_iff.mpr h.ne
      exact List.length_pos_iff.mp (by omega)
    unfold trailingGroup
    rw [hreverse, List.dropWhile_cons_of_neg (by simp [h.isBlank_closeMark])]
    simp only [if_true, if_neg hmarks]
    rw [hregion, hlongest]
    simp [hne, hlength]

/-- No group that the line ends in is longer than the one that is split off. -/
theorem EndsInGroup.length_le {text before' content' : List Char}
    (h : EndsInGroup openMark closeMark line before' content')
    (hfound : trailingGroup openMark closeMark line = some (content, text)) :
    content'.length ≤ content.length := by
  obtain ⟨longest, text', hlongest, hlength⟩ := exists_trailingGroup h
  rw [hfound] at hlongest
  simp only [Option.some.injEq, Prod.mk.injEq] at hlongest
  rwa [hlongest.1]

/-- The longest group that the line ends in is split off. -/
theorem EndsInGroup.trailingGroup_eq (h : EndsInGroup openMark closeMark line before content)
    (hmost : ∀ before' content', EndsInGroup openMark closeMark line before' content' →
      content'.length ≤ content.length) :
    trailingGroup openMark closeMark line = some (content, trim before) := by
  obtain ⟨longest, text, hfound, hlength⟩ := exists_trailingGroup h
  obtain ⟨before', rfl, hends⟩ := endsInGroup_of_trailingGroup hfound
  -- the group that is split off is as long as the given one, and hence the same
  obtain ⟨rfl, rfl⟩ := h.unique hends (Nat.le_antisymm hlength (hmost before' longest hends))
  exact hfound

/-- A group is split off the text before it, when that text does not hold the opening mark. -/
theorem trailingGroup_bracketed (hclose : isBlank closeMark = false) (hne : content ≠ [])
    (hmem : closeMark ∉ content) (hopen : openMark ∉ before) :
    trailingGroup openMark closeMark (before ++ openMark :: content ++ [closeMark])
      = some (content, trim before) := by
  have hends : EndsInGroup openMark closeMark (before ++ openMark :: content ++ [closeMark])
      before content := by
    refine ⟨hne, hmem, trimEnd_of_getLast fun c hc => ?_⟩
    rw [List.getLast?_concat] at hc
    rwa [← Option.some.inj hc]
  apply hends.trailingGroup_eq
  intro before' content' h'
  have hline : before ++ openMark :: content = before' ++ openMark :: content' :=
    List.append_cancel_right (hends.line_eq.symm.trans h'.line_eq)
  obtain ⟨between, -, hgroup⟩ | ⟨between, hbefore, hgroup⟩ := List.append_eq_append_iff.mp hline
  · have hlength := congrArg List.length hgroup
    simp only [List.length_append, List.length_cons] at hlength
    omega
  · cases between with
    | nil =>
      have hlength := congrArg List.length hgroup
      simp only [List.nil_append, List.length_cons] at hlength
      omega
    | cons first between =>
      -- a longer group would start with a mark in the text before
      obtain rfl := List.head_eq_of_cons_eq hgroup
      refine absurd ?_ hopen
      rw [hbefore]
      exact List.mem_append_right _ List.mem_cons_self

/-- A group is split off exactly the lines that end in one, and it is the longest that the line ends
in. The text before it is trimmed. -/
theorem trailingGroup_longest (openMark closeMark : Char) (line : List Char) :
    ((trailingGroup openMark closeMark line).isSome = true ↔
      ∃ before content, EndsInGroup openMark closeMark line before content) ∧
    ∀ content text, trailingGroup openMark closeMark line = some (content, text) ↔
      ∃ before, text = trim before ∧ EndsInGroup openMark closeMark line before content ∧
        ∀ before' content', EndsInGroup openMark closeMark line before' content' →
          content'.length ≤ content.length := by
  constructor
  · rw [Option.isSome_iff_exists]
    constructor
    · rintro ⟨⟨content, text⟩, h⟩
      obtain ⟨before, -, hends⟩ := endsInGroup_of_trailingGroup h
      exact ⟨before, content, hends⟩
    · rintro ⟨before, content, hends⟩
      obtain ⟨longest, text, h, -⟩ := exists_trailingGroup hends
      exact ⟨_, h⟩
  · intro content text
    constructor
    · intro h
      obtain ⟨before, htext, hends⟩ := endsInGroup_of_trailingGroup h
      exact ⟨before, htext, hends, fun _ _ hother => hother.length_le h⟩
    · rintro ⟨before, rfl, hends, hmost⟩
      exact hends.trailingGroup_eq hmost

end DomainStory
