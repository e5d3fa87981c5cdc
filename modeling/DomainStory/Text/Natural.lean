/-!
# Natural numbers as text

`naturalDigits` writes a number in decimal, without leading zeros, and `natural?` reads one,
leading zeros allowed. `natural?_naturalDigits` says that reading takes writing back.
-/

namespace DomainStory.Text

def digitChar (d : Nat) : Char := Char.ofNat (0x30 + d)

def digitValue (c : Char) : Nat := c.toNat - 0x30

/-- The decimal digits of a number, the leading one first. -/
def naturalDigits (n : Nat) : List Char :=
  if n < 10 then [digitChar n] else naturalDigits (n / 10) ++ [digitChar (n % 10)]
termination_by n

def natural (n : Nat) : String := String.ofList (naturalDigits n)

/-- The number that a text of ASCII digits denotes; nothing for other texts. -/
def natural? (cs : List Char) : Option Nat :=
  if cs.isEmpty || !cs.all Char.isDigit then none
  else some (cs.foldl (fun n c => n * 10 + digitValue c) 0)

def total (numbers : List Nat) : Nat := numbers.foldr (· + ·) 0

theorem isDigit_digitChar {d : Nat} (h : d < 10) : (digitChar d).isDigit = true := by
  have : ∀ d : Fin 10, (digitChar d.val).isDigit = true := by decide
  exact this ⟨d, h⟩

theorem digitValue_digitChar {d : Nat} (h : d < 10) : digitValue (digitChar d) = d := by
  have : ∀ d : Fin 10, digitValue (digitChar d.val) = d.val := by decide
  exact this ⟨d, h⟩

/-- The digits of a number are digits, there is at least one, and together they spell it. -/
theorem naturalDigits_spell (n : Nat) :
    naturalDigits n ≠ [] ∧ (∀ c ∈ naturalDigits n, c.isDigit = true) ∧
      (naturalDigits n).foldl (fun n c => n * 10 + digitValue c) 0 = n := by
  induction n using naturalDigits.induct with
  | case1 n h =>
    rw [naturalDigits, if_pos h]
    simp [isDigit_digitChar h, digitValue_digitChar h]
  | case2 n h ih =>
    rw [naturalDigits, if_neg h]
    have hd : n % 10 < 10 := Nat.mod_lt _ (by decide)
    refine ⟨by simp, ?_, ?_⟩
    · intro c hc
      rcases List.mem_append.mp hc with hc | hc
      · exact ih.2.1 c hc
      · rw [List.mem_singleton.mp hc]; exact isDigit_digitChar hd
    · rw [List.foldl_append, ih.2.2]
      simp only [List.foldl_cons, List.foldl_nil, digitValue_digitChar hd]
      omega

theorem natural?_naturalDigits (n : Nat) : natural? (naturalDigits n) = some n := by
  obtain ⟨hne, hdigit, hvalue⟩ := naturalDigits_spell n
  have hall : (naturalDigits n).all Char.isDigit = true := List.all_eq_true.mpr hdigit
  simp [natural?, hne, hall, hvalue]

end DomainStory.Text
