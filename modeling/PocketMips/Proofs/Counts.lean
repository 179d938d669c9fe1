import PocketMips.Proofs.Digits

/-!
# Counts

A count is a number of 64 bits, as it is given on the command line or to the shell: decimal digits, after a plus
sign or not. A minus sign is no sign here, but a digit that is none. `Counts` says which texts are counts and of
what, and `Miscounts` what is wrong with the others; every text is one or the other (`counts_or_miscounts`), and is
read as what it is.
-/

namespace PocketMips.Text

/-- The text is the count of a number. -/
def Counts (text : List Char) (n : Nat) : Prop :=
  n < UInt64.size ∧
    ∃ digits, (text = digits ∨ text = '+' :: digits) ∧ digits ≠ [] ∧ Denotes 10 digits n

/-- What follows the sign of a count. -/
inductive AfterPlus : List Char → List Char → Prop where
  | plus {digits} :
    AfterPlus ('+' :: digits) digits
  | none {digits} :
    digits.head? ≠ some '+' →
    AfterPlus digits digits

/-- The text is no count, and this is wrong with it. -/
inductive Miscounts : List Char → NumeralError → Prop where
  | empty : Miscounts [] .empty
  | loneSign : Miscounts ['+'] .loneSign
  | digits {text digits e} :
    AfterPlus text digits →
    ReadsDigits .unsigned64 10 false digits (.error e) →
    Miscounts text e

variable {text digits : List Char}

/-- Each text has what follows its plus sign, which is all of it if there is no such sign. -/
lemma exists_afterPlus (text : List Char) : ∃ digits, AfterPlus text digits := by
  by_cases plus : text.head? = some '+'
  · obtain ⟨digits, rfl⟩ := List.head?_eq_some_iff.mp plus
    exact ⟨digits, .plus⟩
  · exact ⟨text, .none plus⟩

/-- No digit is a plus sign. -/
lemma afterPlus_of_denotes {n : Nat} (written : text = digits ∨ text = '+' :: digits)
    (h : Denotes 10 digits n) : AfterPlus text digits := by
  obtain rfl | rfl := written
  · apply AfterPlus.none
    intro plus
    obtain ⟨rest, rfl⟩ := List.head?_eq_some_iff.mp plus
    obtain ⟨all, -⟩ := denotes_ten_iff.mp h
    cases all
  · exact .plus

/-- A text is read as the digits that follow its plus sign. -/
lemma AfterPlus.readNumeral (h : AfterPlus text digits) (ne : digits ≠ []) :
    readNumeral .unsigned64 10 text = readDigits .unsigned64 10 false digits := by
  obtain ⟨c, cs, rfl⟩ := List.exists_cons_of_ne_nil ne
  cases h with
  | plus => rfl
  | none other =>
    have notPlus : c ≠ '+' := fun same => other (congrArg some same)
    exact readNumeral_of_noSign notPlus fun minus => absurd minus.2 (by decide)

/-- A count is within its range if it fits 64 bits. -/
lemma holds_iff {n : Nat} : Range.unsigned64.Holds (signed false n) ↔ n < UInt64.size := by
  simp only [Range.Holds, Range.unsigned64, signed, Bool.false_eq_true, if_false, UInt64.size]
  omega

/-- A text that counts is read as its number. -/
lemma Counts.readNumeral {n : Nat} (h : Counts text n) : readNumeral .unsigned64 10 text = .ok (n : Int) := by
  obtain ⟨small, digits, written, ne, denotes⟩ := h
  rw [(afterPlus_of_denotes written denotes).readNumeral ne]
  exact readDigits_of_denotes (by decide) (by decide) (by decide) denotes (holds_iff.mpr small)

/-- A text that does not count is refused with the error that says why. -/
lemma Miscounts.readNumeral {e : NumeralError} (h : Miscounts text e) :
    readNumeral .unsigned64 10 text = .error e := by
  cases h with
  | empty => rfl
  | loneSign => rfl
  | @digits text digits e after reads =>
    have read := reads.eq (by decide) (by decide) (by decide)
    have ne : digits ≠ [] := by
      rintro rfl
      cases read
    rw [after.readNumeral ne]
    exact read

/-- A text is a count, or something is wrong with it. -/
lemma counts_or_miscounts (text : List Char) : (∃ n, Counts text n) ∨ ∃ e, Miscounts text e := by
  obtain ⟨digits, after⟩ := exists_afterPlus text
  by_cases none : digits = []
  · subst none
    cases after with
    | plus => exact .inr ⟨_, .loneSign⟩
    | none => exact .inr ⟨_, .empty⟩
  · obtain ⟨outcome, reads⟩ : ∃ outcome, ReadsDigits .unsigned64 10 false digits outcome :=
      exists_readsDigits 10 false (by decide) (by decide) digits
    cases outcome with
    | error e => exact .inr ⟨e, .digits after reads⟩
    | ok v =>
      cases reads with
      | @exact _ n denotes holds =>
        refine .inl ⟨n, holds_iff.mp holds, digits, ?_, none, denotes⟩
        cases after with
        | plus => exact .inr rfl
        | none => exact .inl rfl

-- A sign does not make a number larger, and a number that is one too large is not cut short.
example : readNumeral .unsigned64 10 "+018446744073709551615".toList = .ok 18446744073709551615 ∧
    readNumeral .unsigned64 10 "18446744073709551616".toList = .error .tooLarge := by
  decide +kernel

end PocketMips.Text
