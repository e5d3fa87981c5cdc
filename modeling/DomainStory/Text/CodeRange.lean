/-!
# Sets of code points as sorted ranges

A property of characters is a table: closed ranges of code points, ascending and disjoint. The
scan stops at the first range that lies past the code point, so low code points are cheap.
`CodeRanges.contains_iff` says that on such a table the scan decides membership.
-/

namespace DomainStory.Text

/-- Closed ranges of code points, ascending and disjoint. -/
abbrev CodeRanges := List (Nat × Nat)

namespace CodeRanges

def contains : CodeRanges → Nat → Bool
  | [], _ => false
  | (low, high) :: rest, code =>
    if code < low then false else if code ≤ high then true else contains rest code

/-- Whether the ranges are non-empty, ascending and disjoint, the first not below `bound`. -/
def ascendingFrom (bound : Nat) : CodeRanges → Bool
  | [] => true
  | (low, high) :: rest =>
    decide (bound ≤ low) && decide (low ≤ high) && ascendingFrom (high + 1) rest

theorem le_of_mem_ascendingFrom {table : CodeRanges} :
    ∀ {bound : Nat}, table.ascendingFrom bound = true → ∀ r ∈ table, bound ≤ r.1 := by
  induction table with
  | nil => simp
  | cons r rest ih =>
    intro bound h r' hr'
    simp only [ascendingFrom, Bool.and_eq_true, decide_eq_true_eq] at h
    rcases List.mem_cons.mp hr' with rfl | hr'
    · exact h.1.1
    · have := ih h.2 r' hr'; omega

/-- On an ascending table the scan answers membership in one of the ranges. -/
theorem contains_iff {table : CodeRanges} {bound : Nat}
    (h : table.ascendingFrom bound = true) (code : Nat) :
    table.contains code = true ↔ ∃ r ∈ table, r.1 ≤ code ∧ code ≤ r.2 := by
  induction table generalizing bound with
  | nil => simp [contains]
  | cons r rest ih =>
    obtain ⟨low, high⟩ := r
    simp only [ascendingFrom, Bool.and_eq_true, decide_eq_true_eq] at h
    have hpast := le_of_mem_ascendingFrom h.2
    simp only [contains, List.mem_cons, exists_eq_or_imp]
    split
    · -- the code point lies below the first range, hence below all of them
      simp only [Bool.false_eq_true, false_iff, not_or, not_exists, not_and]
      exact ⟨by omega, fun r hr _ => by have := hpast r hr; omega⟩
    · split
      · simp only [true_iff]; left; omega
      · rw [ih h.2]
        constructor
        · exact Or.inr
        · rintro (h' | h')
          · omega
          · exact h'

end CodeRanges

end DomainStory.Text
