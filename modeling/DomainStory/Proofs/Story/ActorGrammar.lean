import Mathlib.Order.Minimal
import DomainStory.Proofs.Story.WellFormed
import DomainStory.Story.Writing

/-!
# The grammar of actors

An actor lies in a text behind a front, from which it takes its name: a parenthesis follows, the
icon, another parenthesis, and then nothing or a remark in quotes (`ActorDecl.LiesBehind`). A text
may hold several actors in this sense, for a name may hold parentheses, and a remark anything. The
scan stops at the first parenthesis behind which an actor lies, and so it finds the one with the
shortest front, whenever there is one (`ActorDecl.ofBody?_shortest`).

An actor that was written is found again if its name holds no quote. A parenthesis in the name may
well open a word and be closed again, but what follows is neither empty nor a remark, since the icon
is still to come (`ActorDecl.not_follows_inside`).
-/

namespace DomainStory

open Text

namespace ActorDecl

variable {text front gap tail rest : List Char} {decl : ActorDecl} {remark : Option String}

/-! ## Remarks -/

/-- A remark between its quotes, or nothing. -/
def quoted : Option String → List Char
  | none => []
  | some remark => '"' :: (remark.toList ++ ['"'])

theorem head?_quoted {c : Char} (h : c ∈ (quoted remark).head?) : c = '"' := by
  cases remark with
  | none => simp [quoted] at h
  | some remark => simpa [quoted, eq_comm] using h

theorem remark?_eq_some_iff :
    remark? tail = some remark ↔ tail = quoted remark ∧ remark ≠ some "" := by
  constructor
  · intro h
    refine ⟨?_, remark?_ne h⟩
    unfold remark? at h
    split at h
    · obtain rfl := Option.some.inj h
      rfl
    · next rest =>
      split at h
      · next hquotes =>
        obtain rfl := Option.some.inj h
        simp only [Bool.and_eq_true, decide_eq_true_eq] at hquotes
        -- the last character is the closing quote
        have hlast : rest.dropLast ++ ['"'] = rest := List.dropLast_append_getLast? _ hquotes.1
        rw [quoted, String.toList_ofList, hlast]
      · exact absurd h (by simp)
    · exact absurd h (by simp)
  · rintro ⟨rfl, hne⟩
    cases remark with
    | none => rfl
    | some remark =>
      have hcontent : remark.toList ≠ [] := by simpa using hne
      simp [quoted, remark?, hcontent]

/-- White space may stand before a remark. -/
theorem trimStart_eq_quoted_iff :
    trimStart tail = quoted remark ↔ ∃ gap, Blanks gap ∧ tail = gap ++ quoted remark := by
  constructor
  · intro h
    refine ⟨tail.takeWhile isBlank, fun c hc => List.mem_takeWhile_imp hc, ?_⟩
    rw [← h, trimStart, List.takeWhile_append_dropWhile]
  · rintro ⟨gap, hgap, rfl⟩
    have hquoted : trimStart (quoted remark) = quoted remark :=
      trimStart_of_head fun c hc => by
        rw [head?_quoted hc]
        decide
    rw [trimStart, List.dropWhile_append_of_pos hgap]
    exact hquoted

/-! ## At a parenthesis -/

/-- What stands behind the parenthesis that opens the icon of an actor. -/
structure Follows (rest : List Char) (decl : ActorDecl) : Prop where
  parts : ∃ gap, Blanks gap ∧ rest = decl.icon.toList ++ ')' :: (gap ++ quoted decl.remark)
  icon_ne : decl.icon ≠ ""
  icon_word : ∀ c ∈ decl.icon.toList, isWord c = true
  remark_ne : decl.remark ≠ some ""

theorem atParenthesis?_eq_some_iff {name : List Char} : atParenthesis? name rest = some decl ↔
    name ≠ [] ∧ decl.name.toList = name ∧ decl.Follows rest := by
  constructor
  · intro h
    unfold atParenthesis? at h
    dsimp only at h
    split at h
    · exact absurd h (by simp)
    · next hne =>
      simp only [Bool.or_eq_true, List.isEmpty_iff, not_or] at hne
      split at h
      · next tail htail =>
        obtain ⟨remark, hremark, rfl⟩ := Option.map_eq_some_iff.mp h
        obtain ⟨hquoted, hremark_ne⟩ := remark?_eq_some_iff.mp hremark
        obtain ⟨gap, hgap, rfl⟩ := trimStart_eq_quoted_iff.mp hquoted
        refine ⟨hne.1, String.toList_ofList, ⟨gap, hgap, ?_⟩, by simpa using hne.2, ?_, hremark_ne⟩
        · rw [String.toList_ofList, ← htail, List.takeWhile_append_dropWhile]
        · intro c hc
          rw [String.toList_ofList] at hc
          exact List.mem_takeWhile_imp hc
      · exact absurd h (by simp)
  · rintro ⟨hname, rfl, ⟨gap, hgap, rfl⟩, hicon, hword, hremark_ne⟩
    have hclose : ¬ isWord ')' = true := by decide
    have hicon' : decl.icon.toList ≠ [] := by simpa using hicon
    have hremark : remark? (trimStart (gap ++ quoted decl.remark)) = some decl.remark :=
      remark?_eq_some_iff.mpr ⟨trimStart_eq_quoted_iff.mpr ⟨gap, hgap, rfl⟩, hremark_ne⟩
    unfold atParenthesis?
    rw [List.takeWhile_append_of_pos hword, List.dropWhile_append_of_pos hword,
      List.takeWhile_cons_of_neg hclose, List.dropWhile_cons_of_neg hclose, List.append_nil]
    simp [hname, hicon', hremark]

/-! ## Along a text -/

/-- An actor in a text whose name is what stands before a parenthesis, less the white space around
it. -/
structure LiesBehind (front text : List Char) (decl : ActorDecl) : Prop where
  name : decl.name.toList = trim front
  front_ne : ¬ Blanks front
  follows : ∃ rest, text = front ++ '(' :: rest ∧ decl.Follows rest

/-- What a scan that has passed some text finds behind a front. -/
def FoundBehind (before front text : List Char) (decl : ActorDecl) : Prop :=
  ∃ rest, text = front ++ '(' :: rest ∧
    atParenthesis? (trim (before.reverse ++ front)) rest = some decl

theorem foundBehind_nil_iff {before : List Char} {c : Char} :
    decl.FoundBehind before [] (c :: text) ↔
      (if c = '(' then atParenthesis? (trim before.reverse) text else none) = some decl := by
  unfold FoundBehind
  by_cases hc : c = '('
  · simp [hc]
  · simp [hc]

theorem foundBehind_cons_iff {before : List Char} {c d : Char} :
    decl.FoundBehind before (d :: front) (c :: text) ↔
      d = c ∧ decl.FoundBehind (c :: before) front text := by
  unfold FoundBehind
  constructor
  · rintro ⟨rest, htext, hfound⟩
    obtain ⟨rfl, rfl⟩ := List.cons.inj htext
    exact ⟨rfl, rest, rfl, by simpa using hfound⟩
  · rintro ⟨rfl, rest, rfl, hfound⟩
    exact ⟨rest, rfl, by simpa using hfound⟩

/-- The scan finds the actor with the shortest front. -/
theorem scan?_eq_some_iff {before : List Char} : scan? before text = some decl ↔
    ∃ front, decl.FoundBehind before front text ∧
      ∀ front' decl', FoundBehind before front' text decl' → front.length ≤ front'.length := by
  induction text generalizing before with
  | nil => simp [scan?, FoundBehind]
  | cons c text ih =>
    -- an actor lies behind the empty front, or behind one that starts with the next character
    simp only [scan?, Option.or_eq_some_iff, ← foundBehind_nil_iff]
    constructor
    · rintro (hhere | ⟨hnone, hlater⟩)
      · exact ⟨[], hhere, fun _ _ _ => Nat.zero_le _⟩
      · obtain ⟨front, hfront, hshortest⟩ := ih.mp hlater
        refine ⟨c :: front, foundBehind_cons_iff.mpr ⟨rfl, hfront⟩, fun front' decl' h => ?_⟩
        cases front' with
        | nil =>
          rw [foundBehind_nil_iff, hnone] at h
          exact absurd h (by simp)
        | cons d front' =>
          exact Nat.succ_le_succ (hshortest front' decl' (foundBehind_cons_iff.mp h).2)
    · rintro ⟨front, hfront, hshortest⟩
      cases front with
      | nil => exact .inl hfront
      | cons d front =>
        refine .inr ⟨Option.eq_none_iff_forall_ne_some.mpr fun decl' h => ?_, ih.mpr ?_⟩
        · exact absurd (hshortest [] decl' (foundBehind_nil_iff.mpr h)) (by simp)
        · refine ⟨front, (foundBehind_cons_iff.mp hfront).2, fun front' decl' h => ?_⟩
          exact Nat.le_of_succ_le_succ
            (hshortest (c :: front') decl' (foundBehind_cons_iff.mpr ⟨rfl, h⟩))

theorem liesBehind_iff_foundBehind :
    decl.LiesBehind front text ↔ decl.FoundBehind [] front text := by
  unfold FoundBehind
  simp only [List.reverse_nil, List.nil_append, atParenthesis?_eq_some_iff, ne_eq, trim_eq_nil_iff]
  constructor
  · rintro ⟨hname, hfront, rest, htext, hfollows⟩
    exact ⟨rest, htext, hfront, hname, hfollows⟩
  · rintro ⟨rest, htext, hfront, hname, hfollows⟩
    exact ⟨hname, hfront, rest, htext, hfollows⟩

theorem ofBody?_eq_some_iff : ofBody? text = some decl ↔
    ∃ front, decl.LiesBehind front text ∧
      ∀ front' decl', LiesBehind front' text decl' → front.length ≤ front'.length := by
  simp only [ofBody?, scan?_eq_some_iff, liesBehind_iff_foundBehind]

/-- Where there is an actor at all, there is one with a shortest front. -/
theorem exists_ofBody?_iff :
    (∃ decl, ofBody? text = some decl) ↔ ∃ front decl, LiesBehind front text decl := by
  constructor
  · rintro ⟨decl, h⟩
    obtain ⟨front, hfront, -⟩ := ofBody?_eq_some_iff.mp h
    exact ⟨front, decl, hfront⟩
  · rintro ⟨front, decl, h⟩
    obtain ⟨front, ⟨decl, hdecl⟩, hshortest⟩ := exists_minimalFor_of_wellFoundedLT
      (fun front => ∃ decl, LiesBehind front text decl) List.length ⟨front, decl, h⟩
    refine ⟨decl, ofBody?_eq_some_iff.mpr ⟨front, hdecl, fun front' decl' h' => ?_⟩⟩
    exact (Nat.le_total _ _).elim id (hshortest ⟨decl', h'⟩)

/-! ## Actors that were written -/

theorem exists_enclosed_eq (remark : Option String) :
    ∃ gap, Blanks gap ∧ enclosed '"' '"' remark = gap ++ quoted remark := by
  cases remark with
  | none => exact ⟨[], by decide, rfl⟩
  | some remark => exact ⟨[' '], by decide, rfl⟩

theorem liesBehind_written (h : decl.WellFormed) : decl.LiesBehind (decl.name.toList ++ [' '])
    (decl.name.toList ++ enclosed '(' ')' (some decl.icon) ++ enclosed '"' '"' decl.remark) := by
  have hname : trim (decl.name.toList ++ [' ']) = decl.name.toList :=
    h.name_trimmed.trim_concat (by decide)
  obtain ⟨gap, hgap, henclosed⟩ := exists_enclosed_eq decl.remark
  refine ⟨hname.symm, fun hblanks => h.name_ne ?_, ?_⟩
  · rw [trim_eq_nil_iff.mpr hblanks] at hname
    exact String.toList_eq_nil_iff.mp hname.symm
  · refine ⟨_, ?_, ⟨gap, hgap, rfl⟩, h.icon_ne, h.icon_word, h.remark_ne⟩
    rw [henclosed]
    simp [enclosed]

/-- A parenthesis in a name without quotes opens no icon: a word may end at another parenthesis, but
then what is left of the name, and the parenthesis that does open the icon, come before any
remark. -/
theorem not_follows_inside {inside : List Char} (hquote : '"' ∉ inside) :
    ¬ decl.Follows (inside ++ ' ' :: '(' :: rest) := by
  rintro ⟨⟨gap, hgap, htext⟩, -, hword, -⟩
  have hclosed : ∃ more, inside = decl.icon.toList ++ ')' :: more ∧
      more ++ ' ' :: '(' :: rest = gap ++ quoted decl.remark := by
    rcases List.append_eq_append_iff.mp htext with ⟨last, hicon, hlast⟩ | ⟨last, hinside, hlast⟩
    · -- an icon that goes on after the name would hold a blank
      cases last with
      | nil => exact absurd (List.cons.inj hlast).1 (by decide)
      | cons c last =>
        obtain ⟨rfl, -⟩ := List.cons.inj hlast
        exact absurd (hword ' ' (by simp [hicon])) (by decide)
    · cases last with
      | nil => exact absurd (List.cons.inj hlast).1 (by decide)
      | cons c more =>
        obtain ⟨rfl, hmore⟩ := List.cons.inj hlast
        exact ⟨more, hinside, hmore.symm⟩
  obtain ⟨more, rfl, hmore⟩ := hclosed
  have hremark : trimStart (more ++ ' ' :: '(' :: rest) = quoted decl.remark :=
    trimStart_eq_quoted_iff.mpr ⟨gap, hgap, hmore⟩
  -- the first character that is no white space belongs to the name, or is the parenthesis
  rw [trimStart, List.dropWhile_append] at hremark
  cases hleft : more.dropWhile isBlank with
  | nil =>
    rw [hleft] at hremark
    have hfirst : '(' ∈ (quoted decl.remark).head? := by
      rw [← hremark]
      rfl
    exact absurd (head?_quoted hfirst) (by decide)
  | cons c left =>
    rw [hleft] at hremark
    have hfirst : c ∈ (quoted decl.remark).head? := by
      rw [← hremark]
      simp
    have hmem : c ∈ more := (List.dropWhile_suffix isBlank).subset (hleft ▸ List.mem_cons_self)
    rw [head?_quoted hfirst] at hmem
    exact hquote (List.mem_append_right _ (List.mem_cons_of_mem _ hmem))

/-- An actor is read as it was written, if its name holds no quote. -/
theorem ofBody?_written (h : decl.WellFormed) (hquote : '"' ∉ decl.name.toList) :
    ofBody? (decl.name.toList ++ enclosed '(' ')' (some decl.icon) ++ enclosed '"' '"' decl.remark)
      = some decl := by
  refine ofBody?_eq_some_iff.mpr ⟨_, liesBehind_written h, fun front decl' h' => ?_⟩
  obtain ⟨rest, htext, hfollows⟩ := h'.follows
  by_contra hshorter
  rw [List.append_assoc, enclosed, List.cons_append, List.cons_append, List.cons_append,
    List.cons_append] at htext
  -- a shorter front ends inside the name
  rcases List.append_eq_append_iff.mp htext with ⟨more, rfl, hmore⟩ | ⟨inside, hname, hinside⟩
  · cases more with
    | nil => exact absurd (List.cons.inj hmore).1 (by decide)
    | cons c more => simp at hshorter
  · cases inside with
    | nil => exact absurd (List.cons.inj hinside).1 (by decide)
    | cons c inside =>
      obtain ⟨rfl, rfl⟩ := List.cons.inj hinside
      refine not_follows_inside (fun hmem => hquote ?_) hfollows
      rw [hname]
      exact List.mem_append_right _ (List.mem_cons_of_mem _ hmem)

/-- A text declares an actor exactly if one lies in it, and then the one with the shortest front.
This is the actor that was written, whatever parentheses its name holds. -/
theorem ofBody?_shortest :
    (∀ text, (∃ decl, ofBody? text = some decl) ↔ ∃ front decl, LiesBehind front text decl) ∧
      (∀ text decl, ofBody? text = some decl ↔ ∃ front, LiesBehind front text decl ∧
        ∀ front' decl', LiesBehind front' text decl' → front.length ≤ front'.length) ∧
      ∀ decl : ActorDecl, decl.WellFormed → '"' ∉ decl.name.toList →
        ofBody? (decl.name.toList ++ enclosed '(' ')' (some decl.icon)
          ++ enclosed '"' '"' decl.remark) = some decl :=
  ⟨fun _ => exists_ofBody?_iff, fun _ _ => ofBody?_eq_some_iff, fun _ => ofBody?_written⟩

/-- A name with parentheses, and a remark that looks like the end of another actor. -/
def regulatedBank : ActorDecl := ⟨"Bank (EU)", "dns", some "see \"Clerk (person)\""⟩

theorem ofBody?_shortest_regulatedBank :
    regulatedBank.WellFormed ∧ '"' ∉ regulatedBank.name.toList ∧
      ofBody? "Bank (EU) (dns) \"see \"Clerk (person)\"\"".toList = some regulatedBank := by
  have hwellFormed : regulatedBank.WellFormed := by decide
  have hquote : '"' ∉ regulatedBank.name.toList := by decide
  obtain ⟨-, -, hwritten⟩ := ofBody?_shortest
  exact ⟨hwellFormed, hquote, hwritten regulatedBank hwellFormed hquote⟩

end ActorDecl

end DomainStory
