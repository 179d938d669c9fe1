import PocketMips.Proofs.Digits
import PocketMips.Proofs.Literals

/-!
# Written numerals

The decimal numeral of a number is read back as the number. A numeral is written from its last digit, so
the induction is on the number: the digits but the last one are those of its tenth part.

The main statement is `Imm.numberLiteral_text`: every immediate is written as a literal of its value.
-/

namespace PocketMips
open Text Token

namespace Text

/-- A written number denotes itself. -/
lemma denotes_showNat (n : Nat) : Denotes 10 (showNat n) n := by
  have digit : ∀ d < 10, IsDigit 10 d.digitChar d := by
    unfold IsDigit
    decide
  induction n using Nat.strong_induction_on with
  | _ n ih =>
    unfold showNat at *
    by_cases small : n < 10
    · rw [Nat.toDigits_of_lt_base small, ← List.nil_append [_]]
      exact denotes_concat_iff.mpr ⟨0, n, denotes_nil 10, digit n small, (Nat.zero_add n).symm⟩
    · rw [Nat.toDigits_of_base_le (by decide) (by omega)]
      apply denotes_concat_iff.mpr
      exact ⟨n / 10, n % 10, ih (n / 10) (by omega), digit _ (Nat.mod_lt n (by decide)),
        (Nat.div_add_mod n 10).symm⟩

/-- Numbers are written with digits only. -/
lemma isDigit_of_mem_showNat {n : Nat} {c : Char} (h : c ∈ showNat n) : c.isDigit = true :=
  Nat.isDigit_of_mem_toDigits (by decide) (by decide) h

/-- Each number is written with a digit at least. -/
lemma showNat_ne_nil (n : Nat) : showNat n ≠ [] :=
  Nat.toDigits_ne_nil

/-- A digit is neither a sign nor the letter that marks the other radix. -/
lemma ne_of_isDigit {c : Char} (h : c.isDigit = true) : c ≠ '+' ∧ c ≠ '-' ∧ c ≠ 'x' := by
  refine ⟨?_, ?_, ?_⟩
  · rintro rfl
    cases h
  · rintro rfl
    cases h
  · rintro rfl
    cases h

/-- The numeral of a number inside a range around zero is read as the number. -/
lemma readNumeral_showInt {range : Range} (low : range.low ≤ 0) (high : 0 ≤ range.high) {v : Int}
    (inRange : range.Holds v) : readNumeral range 10 (showInt v) = .ok v := by
  cases v with
  | ofNat n =>
    obtain ⟨c, cs, e⟩ := List.exists_cons_of_ne_nil (showNat_ne_nil n)
    have digit : c.isDigit = true := isDigit_of_mem_showNat (by rw [e]; exact .head _)
    obtain ⟨notPlus, notMinus, -⟩ := ne_of_isDigit digit
    have read : readDigits range 10 false (showNat n) = .ok (signed false n) :=
      readDigits_of_denotes (by decide) low high (denotes_showNat n) inRange
    simp only [showInt]
    rw [e] at read ⊢
    simp only [readNumeral, notPlus, notMinus, if_false, false_and]
    exact read
  | negSucc n =>
    -- Only a range with negative numbers reads the sign, and this range has one.
    have below : range.low < 0 := inRange.1.trans_lt (Int.negSucc_lt_zero n)
    have read : readDigits range 10 true (showNat (n + 1)) = .ok (signed true (n + 1)) :=
      readDigits_of_denotes (by decide) low high (denotes_showNat (n + 1)) inRange
    simp only [showInt, readNumeral, below, and_self, if_true]
    rw [if_neg (by decide), readSigned, if_neg (by simp [showNat_ne_nil])]
    exact read

end Text

/-- A written immediate consists of digits, after a minus sign at most. -/
lemma Imm.mem_text {v : Imm} {c : Char} (h : c ∈ v.text) : c.isDigit = true ∨ c = '-' := by
  unfold Imm.text at h
  cases e : v.toInt with
  | ofNat n =>
    rw [e] at h
    exact .inl (isDigit_of_mem_showNat h)
  | negSucc n =>
    rw [e] at h
    cases h with
    | head => exact .inr rfl
    | tail _ h => exact .inl (isDigit_of_mem_showNat h)

/-- Every immediate is written as a literal of its value. -/
lemma Imm.numberLiteral_text (v : Imm) : NumberLiteral v.text v where
  nonempty := by
    unfold Imm.text
    cases v.toInt with
    | ofNat n => exact showNat_ne_nil n
    | negSucc n => exact List.cons_ne_nil _ _
  chars := by
    intro c hc
    obtain digit | rfl := Imm.mem_text hc
    · have word := isWordChar_of_isAlphanum (c := c) (by simp [Char.isAlphanum, digit])
      simp [inNumber, word]
    · decide
  reads := by
    have noMark : ∀ c ∈ v.text, (c != 'x') = true := by
      intro c hc
      obtain digit | rfl := Imm.mem_text hc
      · exact bne_iff_ne.2 (ne_of_isDigit digit).2.2
      · decide
    have decimal : splitRadix v.text = (.decimal, v.text) := by
      unfold splitRadix
      rw [List.dropWhile_eq_nil_iff.2 noMark]
    have low := v.le_toInt
    have high := v.toInt_lt
    have inRange : Range.signed16.Holds v.toInt := by
      simp only [Range.Holds, Range.signed16]
      omega
    have read := readNumeral_showInt (by decide) (by decide) inRange
    unfold readNumber
    rw [decimal]
    simp only [Radix.base, Imm.text, read, Int16.ofInt_toInt]

end PocketMips
