import PocketMips.Proofs.Digits
import PocketMips.Proofs.Lexemes

/-!
# What a number means

A number of an operand is taken apart from the left: the radix, then a sign, then the digits. What it means
is its exact value, which has to fit 16 bits; what is wrong with it is said of the first digit that is none
or that is one too many. `Reading` says all this of the text, and the main statement is that a number is
read in this way (`readNumber_eq_iff`).
-/

namespace PocketMips.Token
open Text

/-- The radix of a number, how many digits it has, and the text that counts. With a small `x` in it this is
what follows the first one, in hex. -/
inductive InRadix : List Char → Radix → Nat → List Char → Prop where
  | decimal {text} :
    'x' ∉ text →
    InRadix text .decimal 10 text
  | hex {front digits} :
    'x' ∉ front →
    InRadix (front ++ 'x' :: digits) .hex 16 digits

/-- The side of zero that a sign asks for, and what follows it. -/
inductive Signs : List Char → Bool → List Char → Prop where
  | plus {body} :
    Signs ('+' :: body) false body
  | minus {body} :
    Signs ('-' :: body) true body
  | none {body} :
    (∀ c ∈ body.head?, c ≠ '+' ∧ c ≠ '-') →
    Signs body false body

/-- A number has 16 bits, of which one is the sign. -/
def Fits (v : Int) : Prop :=
  -32768 ≤ v ∧ v ≤ 32767

/-- What a number means, or what is wrong with it. -/
inductive Reading (text : List Char) : Except TokenError Imm → Prop where
  | value {radix base digits negative body n v} :
    InRadix text radix base digits →
    Signs digits negative body →
    body ≠ [] →
    Denotes base body n →
    v.toInt = signed negative n →
    Reading text (.ok v)
  | noDigits {radix base digits negative} :
    InRadix text radix base digits →
    Signs digits negative [] →
    Reading text (.error (.noDigits radix))
  | badDigits {radix base digits negative good c rest n} :
    InRadix text radix base digits →
    Signs digits negative (good ++ c :: rest) →
    Denotes base good n →
    Fits (signed negative n) →
    (∀ d, ¬IsDigit base c d) →
    Reading text (.error (.badDigits radix))
  | tooWide {radix base digits negative good c rest n d} :
    InRadix text radix base digits →
    Signs digits negative (good ++ c :: rest) →
    Denotes base good n →
    Fits (signed negative n) →
    IsDigit base c d →
    ¬Fits (signed negative (base * n + d)) →
    Reading text (.error .tooWide)

variable {text digits body : List Char} {radix : Radix} {base : Nat} {negative : Bool}
variable {outcome : Except TokenError Imm}

/-- Every text has a radix. -/
lemma exists_inRadix (text : List Char) : ∃ radix base digits, InRadix text radix base digits := by
  by_cases mark : 'x' ∈ text
  · obtain ⟨front, digits, rfl, notMem⟩ := List.eq_append_cons_of_mem mark
    exact ⟨_, _, _, .hex notMem⟩
  · exact ⟨_, _, _, .decimal mark⟩

/-- Every text has a sign or none. -/
lemma exists_signs (digits : List Char) : ∃ negative body, Signs digits negative body := by
  by_cases plus : digits.head? = some '+'
  · obtain ⟨body, rfl⟩ := List.head?_eq_some_iff.mp plus
    exact ⟨_, _, .plus⟩
  by_cases minus : digits.head? = some '-'
  · obtain ⟨body, rfl⟩ := List.head?_eq_some_iff.mp minus
    exact ⟨_, _, .minus⟩
  refine ⟨_, _, .none ?_⟩
  intro c hc
  exact ⟨fun e => plus (e ▸ hc), fun e => minus (e ▸ hc)⟩

/-- The text is split where its radix is told. -/
lemma InRadix.splitRadix (h : InRadix text radix base digits) : splitRadix text = (radix, digits) := by
  have unmarked {cs : List Char} (notMem : 'x' ∉ cs) : AllIn (· != 'x') cs :=
    fun c hc => bne_iff_ne.mpr (ne_of_mem_of_not_mem hc notMem)
  unfold Token.splitRadix
  cases h with
  | decimal notMem =>
    have nothing := dropWhile_run (unmarked notMem) (stopsAt_nil _)
    rw [List.append_nil] at nothing
    rw [nothing]
  | hex notMem => rw [dropWhile_run (unmarked notMem) (stopsAt_cons rfl _)]

/-- There are as many digits as the radix has. -/
lemma InRadix.base_eq (h : InRadix text radix base digits) : radix.base = base := by
  cases h <;> rfl

/-- No radix has more digits than there are in hex. -/
lemma InRadix.base_le (h : InRadix text radix base digits) : base ≤ 16 := by
  cases h <;> decide

/-- What follows the sign is read on its side of zero, if there is something. -/
lemma Signs.readNumeral_eq (h : Signs digits negative body) (ne : body ≠ []) (base : Nat) :
    readNumeral .signed16 base digits = readDigits .signed16 base negative body := by
  obtain ⟨c, cs, rfl⟩ := List.exists_cons_of_ne_nil ne
  cases h with
  | plus => rfl
  | minus => rfl
  | none unsigned =>
    obtain ⟨notPlus, notMinus⟩ := unsigned c rfl
    exact readNumeral_of_noSign notPlus fun minus => notMinus minus.1

/-- A sign alone is no number, and neither is nothing. -/
lemma Signs.readNumeral_nil (h : Signs digits negative []) (base : Nat) :
    readNumeral .signed16 base digits = .error .empty ∨
      readNumeral .signed16 base digits = .error .loneSign := by
  cases h with
  | plus => exact .inr rfl
  | minus => exact .inr rfl
  | none => exact .inl rfl

/-- Every text means a number, or something is wrong with it. -/
lemma exists_reading (text : List Char) : ∃ outcome, Reading text outcome := by
  obtain ⟨radix, base, digits, inRadix⟩ := exists_inRadix text
  obtain ⟨negative, body, signs⟩ := exists_signs digits
  by_cases empty : body = []
  · subst empty
    exact ⟨_, .noDigits inRadix signs⟩
  have low : Range.signed16.low ≤ 0 := by decide
  have high : 0 ≤ Range.signed16.high := by decide
  obtain ⟨_, reads⟩ := exists_readsDigits base negative low high body
  cases reads with
  | @exact _ n denotes holds =>
    have e : (Int16.ofInt (signed negative n)).toInt = signed negative n :=
      Int16.toInt_ofInt_of_le holds.1 (Int.lt_add_one_iff.mpr holds.2)
    exact ⟨_, .value inRadix signs empty denotes e⟩
  | badDigit denotes holds none => exact ⟨_, .badDigits inRadix signs denotes holds none⟩
  | leaves denotes holds digit outside => exact ⟨_, .tooWide inRadix signs denotes holds digit outside⟩

/-- A number is read as what it means. -/
lemma Reading.eq (h : Reading text outcome) : readNumber text = outcome := by
  unfold readNumber
  cases h with
  | @value _ base _ _ _ _ v inRadix signs ne denotes e =>
    have holds : Range.signed16.Holds v.toInt := ⟨v.le_toInt, Int.lt_add_one_iff.mp v.toInt_lt⟩
    have reads := (signs.readNumeral_eq ne base).trans
      (readDigits_of_denotes inRadix.base_le (by decide) (by decide) denotes (e ▸ holds))
    simp only [inRadix.splitRadix, inRadix.base_eq, reads, ← e, Int16.ofInt_toInt]
  | @noDigits _ base _ _ inRadix signs =>
    obtain empty | lone := signs.readNumeral_nil base
    · simp only [inRadix.splitRadix, inRadix.base_eq, empty]
    · simp only [inRadix.splitRadix, inRadix.base_eq, lone]
  | @badDigits _ base _ negative good c rest _ inRadix signs denotes holds none =>
    have bad : ReadsDigits .signed16 base negative (good ++ c :: rest) _ := .badDigit denotes holds none
    have reads := (signs.readNumeral_eq (by simp) base).trans
      (bad.eq inRadix.base_le (by decide) (by decide))
    simp only [inRadix.splitRadix, inRadix.base_eq, reads]
  | @tooWide _ base _ negative good c rest _ _ inRadix signs denotes holds digit outside =>
    have wide : ReadsDigits .signed16 base negative (good ++ c :: rest) _ :=
      .leaves denotes holds digit outside
    have reads := (signs.readNumeral_eq (by simp) base).trans
      (wide.eq inRadix.base_le (by decide) (by decide))
    simp only [inRadix.splitRadix, inRadix.base_eq, reads]
    cases negative <;> rfl

/-- A number is read as what it means, and rejected for what is wrong with it. -/
theorem readNumber_eq_iff (text : List Char) (outcome : Except TokenError Imm) :
    readNumber text = outcome ↔ Reading text outcome := by
  constructor
  · rintro rfl
    obtain ⟨outcome, reading⟩ := exists_reading text
    rw [reading.eq]
    exact reading
  · exact Reading.eq

-- The sign before the `x` does not count, and the digit that is one too many comes before the bad one.
example : readNumber "-0x8000g".toList = .error .tooWide := by decide

end PocketMips.Token
