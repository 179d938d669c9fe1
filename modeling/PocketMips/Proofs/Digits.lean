import Mathlib.Data.List.Induction
import Mathlib.Data.Nat.Digits.Defs
import Mathlib.Tactic.Lemma
import Mathlib.Tactic.SplitIfs
import PocketMips.Text.Numeral

/-!
# Digits

What a text of digits denotes, and how far such a text is read. The value of digits is that of mathematics,
without any bound. Reading them is bounded by a range, and `ReadsDigits` says what comes of it: either the
value, or what is wrong with the first digit that is none or that leaves the range. A digit more moves the
value away from zero, so the digits before that one are all inside the range.

The main statement is `readDigits_eq_iff`.
-/

namespace PocketMips.Text

/-- The character is the digit of a value, in either letter case. -/
def IsDigit (radix : Nat) (c : Char) (d : Nat) : Prop :=
  d < radix ∧ c.toLower = d.digitChar

/-- The digits, the most significant one first, denote a number. -/
def Denotes (radix : Nat) (cs : List Char) (n : Nat) : Prop :=
  ∃ ds, List.Forall₂ (IsDigit radix) cs.reverse ds ∧ n = Nat.ofDigits radix ds

/-- The value of a run of decimal digits. -/
def decimalValue (digits : List Char) : Nat :=
  digits.foldl (fun n c => 10 * n + (c.toNat - '0'.toNat)) 0

/-- A number on one side of zero. -/
def signed (negative : Bool) (n : Nat) : Int :=
  if negative then -n else n

/-- A number is one of a range. -/
def Range.Holds (range : Range) (v : Int) : Prop :=
  range.low ≤ v ∧ v ≤ range.high

/-- What comes of reading digits on one side of zero. -/
inductive ReadsDigits (range : Range) (radix : Nat) (negative : Bool) :
    List Char → Except NumeralError Int → Prop where
  | exact {cs n} :
    Denotes radix cs n →
    range.Holds (signed negative n) →
    ReadsDigits range radix negative cs (.ok (signed negative n))
  | badDigit {good c rest n} :
    Denotes radix good n →
    range.Holds (signed negative n) →
    (∀ d, ¬IsDigit radix c d) →
    ReadsDigits range radix negative (good ++ c :: rest) (.error .badDigit)
  | leaves {good c rest n d} :
    Denotes radix good n →
    range.Holds (signed negative n) →
    IsDigit radix c d →
    ¬range.Holds (signed negative (radix * n + d)) →
    ReadsDigits range radix negative (good ++ c :: rest)
      (.error (if negative then .tooSmall else .tooLarge))

/-! ### Values -/

/-- In ASCII there are few enough characters to look at each of them. -/
lemma digit?_ascii : ∀ n < 128, ∀ d < 16,
    (digit? 16 (Char.ofNat n) = some d ↔ (Char.ofNat n).toLower = d.digitChar) := by
  decide +kernel

/-- What is a digit in some case is a character of ASCII. -/
lemma ascii_of_isDigit {c : Char} {d : Nat} (small : d < 16) (h : c.toLower = d.digitChar) :
    c.toNat < 128 := by
  have ascii : ∀ d < 16, d.digitChar.toNat < 128 := by decide
  unfold Char.toLower at h
  split at h
  case isTrue upper =>
    have high : c.toNat ≤ 90 := upper.2
    omega
  case isFalse =>
    rw [h]
    exact ascii d small

/-- Only characters of ASCII are read as digits. -/
lemma ascii_of_digit? {radix d : Nat} {c : Char} (h : digit? radix c = some d) : c.toNat < 128 := by
  simp only [digit?, Option.filter_eq_some_iff] at h
  obtain ⟨h, -⟩ := h
  split_ifs at h with number small capital
  · have high : c.toNat ≤ 57 := number.2
    omega
  · have high : c.toNat ≤ 122 := small.2
    omega
  · have high : c.toNat ≤ 90 := capital.2
    omega

/-- A character is read as a digit exactly if it is one. -/
lemma digit?_eq_some_iff {radix d : Nat} (le : radix ≤ 16) {c : Char} :
    digit? radix c = some d ↔ IsDigit radix c d := by
  have bounded : digit? radix c = some d ↔ d < radix ∧ digit? 16 c = some d := by
    simp only [digit?, Option.filter_eq_some_iff, decide_eq_true_eq]
    constructor
    · rintro ⟨value, lt⟩
      exact ⟨lt, value, by omega⟩
    · rintro ⟨lt, value, -⟩
      exact ⟨value, lt⟩
  rw [bounded]
  apply and_congr_right
  intro lt
  have small : d < 16 := by omega
  constructor
  · intro h
    have ascii := digit?_ascii c.toNat (ascii_of_digit? h) d small
    rw [Char.ofNat_toNat] at ascii
    exact ascii.mp h
  · intro h
    have ascii := digit?_ascii c.toNat (ascii_of_isDigit small h) d small
    rw [Char.ofNat_toNat] at ascii
    exact ascii.mpr h

/-- No digits denote zero. -/
lemma denotes_nil (radix : Nat) : Denotes radix [] 0 :=
  ⟨[], .nil, rfl⟩

/-- One more digit. -/
lemma denotes_concat_iff {radix : Nat} {cs : List Char} {c : Char} {n : Nat} :
    Denotes radix (cs ++ [c]) n ↔
      ∃ m d, Denotes radix cs m ∧ IsDigit radix c d ∧ n = radix * m + d := by
  unfold Denotes
  rw [List.reverse_concat]
  constructor
  · rintro ⟨ds, all, rfl⟩
    cases all with
    | cons digit all =>
      refine ⟨_, _, ⟨_, all, rfl⟩, digit, ?_⟩
      rw [Nat.ofDigits_cons, Nat.add_comm]
  · rintro ⟨_, d, ⟨ds, all, rfl⟩, digit, rfl⟩
    refine ⟨d :: ds, .cons digit all, ?_⟩
    rw [Nat.ofDigits_cons, Nat.add_comm]

/-- The decimal digits. -/
lemma isDigit_ten_iff {c : Char} {d : Nat} : IsDigit 10 c d ↔ c.isDigit = true ∧ c.toNat - '0'.toNat = d := by
  have isDigit : c.isDigit = true ↔ '0' ≤ c ∧ c ≤ '9' := by
    simp only [Char.isDigit, Bool.and_eq_true, decide_eq_true_eq]
    exact .rfl
  rw [← digit?_eq_some_iff (by decide), isDigit]
  simp only [digit?, Option.filter_eq_some_iff, decide_eq_true_eq]
  split_ifs with number small capital
  · have high : c.toNat ≤ 57 := number.2
    have zero : '0'.toNat = 48 := rfl
    simp only [Option.some.injEq, number, and_self, true_and]
    omega
  · simp only [Option.some.injEq, number, false_and, iff_false]
    omega
  · simp only [Option.some.injEq, number, false_and, iff_false]
    omega
  · simp [number]

/-- Decimal digits denote their value. -/
lemma denotes_ten_iff {digits : List Char} {n : Nat} :
    Denotes 10 digits n ↔ digits.all Char.isDigit = true ∧ decimalValue digits = n := by
  induction digits using List.reverseRecOn generalizing n with
  | nil =>
    constructor
    · rintro ⟨_, ⟨⟩, rfl⟩
      exact ⟨rfl, rfl⟩
    · rintro ⟨-, rfl⟩
      exact denotes_nil 10
  | append_singleton digits c ih =>
    rw [denotes_concat_iff]
    simp only [ih, isDigit_ten_iff, List.all_append, List.all_cons, List.all_nil, Bool.and_true,
      Bool.and_eq_true, decimalValue, List.foldl_append, List.foldl_cons, List.foldl_nil]
    constructor
    · rintro ⟨_, _, ⟨all, rfl⟩, ⟨digit, rfl⟩, rfl⟩
      exact ⟨⟨all, digit⟩, rfl⟩
    · rintro ⟨⟨all, digit⟩, rfl⟩
      exact ⟨_, _, ⟨all, rfl⟩, ⟨digit, rfl⟩, rfl⟩

/-! ### Reading -/

section Reading
variable {range : Range} {radix : Nat} {negative : Bool} {cs : List Char}
variable {outcome : Except NumeralError Int}

/-- What is wrong with a text is wrong with all that starts with it. -/
lemma ReadsDigits.append {e : NumeralError} (h : ReadsDigits range radix negative cs (.error e))
    (more : List Char) : ReadsDigits range radix negative (cs ++ more) (.error e) := by
  cases h with
  | badDigit denotes holds none =>
    rw [List.append_assoc]
    exact .badDigit denotes holds none
  | leaves denotes holds digit outside =>
    rw [List.append_assoc]
    exact .leaves denotes holds digit outside

/-- Whatever the text is, something comes of reading it. -/
lemma exists_readsDigits (radix : Nat) (negative : Bool) (low : range.low ≤ 0) (high : 0 ≤ range.high)
    (cs : List Char) : ∃ outcome, ReadsDigits range radix negative cs outcome := by
  induction cs using List.reverseRecOn with
  | nil =>
    have zero : signed negative 0 = 0 := by cases negative <;> rfl
    have holds : range.Holds (signed negative 0) := zero ▸ ⟨low, high⟩
    exact ⟨_, .exact (denotes_nil radix) holds⟩
  | append_singleton cs c ih =>
    obtain ⟨outcome, h⟩ := ih
    cases outcome with
    | error e => exact ⟨_, h.append [c]⟩
    | ok v =>
      cases h with
      | @exact _ n denotes holds =>
        by_cases isDigit : ∃ d, IsDigit radix c d
        · obtain ⟨d, digit⟩ := isDigit
          by_cases inside : range.Holds (signed negative (radix * n + d))
          · exact ⟨_, .exact (denotes_concat_iff.mpr ⟨n, d, denotes, digit, rfl⟩) inside⟩
          · exact ⟨_, .leaves denotes holds digit inside⟩
        · exact ⟨_, .badDigit denotes holds (not_exists.mp isDigit)⟩

/-- A range around zero holds what is between zero and a number that it holds. -/
lemma Range.Holds.between (low : range.low ≤ 0) (high : 0 ≤ range.high) {m n : Nat} (le : m ≤ n)
    (h : range.Holds (signed negative n)) : range.Holds (signed negative m) := by
  unfold Range.Holds signed at *
  cases negative with
  | false => simp only [Bool.false_eq_true, if_false] at *; omega
  | true => simp only [if_true] at *; omega

/-- One more digit moves a value away from zero. -/
lemma signed_next (radix m d : Nat) (negative : Bool) :
    (if negative then signed negative m * radix - d else signed negative m * radix + d) =
      signed negative (radix * m + d) := by
  unfold signed
  cases negative with
  | false =>
    simp only [Bool.false_eq_true, if_false]
    rw [Nat.cast_add, Nat.cast_mul, Int.mul_comm]
  | true =>
    simp only [if_true]
    rw [Nat.cast_add, Nat.cast_mul, Int.neg_mul, Int.mul_comm, Int.neg_add, Int.sub_eq_add_neg]

section
variable (le : radix ≤ 16)
include le

/-- A digit is appended to a number if the result is within the range. -/
lemma appendDigit_eq_ok {c : Char} {m d : Nat} (digit : IsDigit radix c d)
    (inside : range.Holds (signed negative (radix * m + d))) :
    appendDigit range radix negative (signed negative m) c = .ok (signed negative (radix * m + d)) := by
  unfold appendDigit
  rw [(digit?_eq_some_iff le).mpr digit]
  simp only [signed_next]
  rw [if_neg (not_lt.mpr inside.1), if_neg (not_lt.mpr inside.2)]

variable (low : range.low ≤ 0) (high : 0 ≤ range.high)
include low high

/-- A value leaves a range around zero on its own side of zero. -/
lemma appendDigit_eq_error {c : Char} {m d : Nat} (digit : IsDigit radix c d)
    (outside : ¬range.Holds (signed negative (radix * m + d))) :
    appendDigit range radix negative (signed negative m) c =
      .error (if negative then .tooSmall else .tooLarge) := by
  unfold appendDigit
  rw [(digit?_eq_some_iff le).mpr digit]
  simp only [signed_next]
  unfold Range.Holds signed at *
  cases negative with
  | false =>
    simp only [Bool.false_eq_true, if_false] at *
    rw [if_neg (by omega), if_pos (by omega)]
  | true =>
    simp only [if_true] at *
    rw [if_pos (by omega)]

/-- Digits that denote a number of the range are read as it. -/
lemma readDigits_of_denotes {n : Nat} (h : Denotes radix cs n)
    (holds : range.Holds (signed negative n)) :
    readDigits range radix negative cs = .ok (signed negative n) := by
  unfold readDigits
  induction cs using List.reverseRecOn generalizing n with
  | nil =>
    obtain ⟨_, ⟨⟩, rfl⟩ := h
    cases negative <;> rfl
  | append_singleton cs c ih =>
    obtain ⟨m, d, before, digit, rfl⟩ := denotes_concat_iff.mp h
    have grows : m ≤ radix * m + d :=
      (Nat.le_mul_of_pos_left m (Nat.zero_lt_of_lt digit.1)).trans (Nat.le_add_right _ d)
    rw [List.foldlM_append, ih before (holds.between low high grows)]
    simp [bind, Except.bind, appendDigit_eq_ok le digit holds, pure, Except.pure]

/-- A digit that cannot be appended ends the reading. -/
lemma readDigits_of_error {good rest : List Char} {c : Char} {n : Nat} {e : NumeralError}
    (h : Denotes radix good n) (holds : range.Holds (signed negative n))
    (bad : appendDigit range radix negative (signed negative n) c = .error e) :
    readDigits range radix negative (good ++ c :: rest) = .error e := by
  have before := readDigits_of_denotes le low high h holds
  unfold readDigits at before ⊢
  rw [List.foldlM_append, before]
  simp [bind, Except.bind, bad]

/-- What digits are read as is computed. -/
lemma ReadsDigits.eq (h : ReadsDigits range radix negative cs outcome) :
    readDigits range radix negative cs = outcome := by
  cases h with
  | exact denotes holds => exact readDigits_of_denotes le low high denotes holds
  | @badDigit good c rest n denotes holds none =>
    apply readDigits_of_error le low high denotes holds
    have noDigit : digit? radix c = .none := by
      rw [Option.eq_none_iff_forall_ne_some]
      intro d digit
      exact none d ((digit?_eq_some_iff le).mp digit)
    simp only [appendDigit, noDigit]
  | leaves denotes holds digit outside =>
    apply readDigits_of_error le low high denotes holds
    exact appendDigit_eq_error le low high digit outside

/-- Reading digits has the outcome that it should have. -/
theorem readDigits_eq_iff :
    readDigits range radix negative cs = outcome ↔ ReadsDigits range radix negative cs outcome := by
  constructor
  · rintro rfl
    obtain ⟨outcome, reads⟩ := exists_readsDigits radix negative low high cs
    rw [reads.eq le low high]
    exact reads
  · exact fun h => h.eq le low high

end

/-- Without a sign, a numeral is read from its first digit on. -/
lemma readNumeral_of_noSign {c : Char} (notPlus : c ≠ '+') (notMinus : ¬(c = '-' ∧ range.low < 0)) :
    readNumeral range radix (c :: cs) = readDigits range radix false (c :: cs) := by
  simp only [readNumeral, notPlus, notMinus, if_false]

/-- Decimal digits start with no sign. -/
lemma readNumeral_of_denotes {n : Nat} (ne : cs ≠ []) (h : Denotes 10 cs n) :
    readNumeral range 10 cs = readDigits range 10 false cs := by
  obtain ⟨c, cs, rfl⟩ := List.exists_cons_of_ne_nil ne
  have digit : c.isDigit = true := List.all_eq_true.mp (denotes_ten_iff.mp h).1 c (.head _)
  apply readNumeral_of_noSign
  · rintro rfl
    cases digit
  · rintro ⟨rfl, -⟩
    cases digit

/-- Decimal digits that denote no number of the range are too many. -/
lemma readDigits_of_outside {n : Nat} (low : range.low ≤ 0) (high : 0 ≤ range.high) (h : Denotes 10 cs n)
    (outside : ¬range.Holds n) : readDigits range 10 false cs = .error .tooLarge := by
  obtain ⟨all, value⟩ := denotes_ten_iff.mp h
  have reads : ReadsDigits range 10 false cs (readDigits range 10 false cs) :=
    (readDigits_eq_iff (by decide) low high).mp rfl
  generalize readDigits range 10 false cs = outcome at reads ⊢
  cases reads with
  | exact denotes holds =>
    obtain ⟨-, rfl⟩ := denotes_ten_iff.mp denotes
    exact absurd (value ▸ holds) outside
  | @badDigit good c rest _ _ _ none =>
    have digit : c.isDigit = true := List.all_eq_true.mp all c (List.mem_append_right good (.head rest))
    exact absurd (isDigit_ten_iff.mpr ⟨digit, rfl⟩) (none _)
  | leaves => rfl

end Reading

end PocketMips.Text
