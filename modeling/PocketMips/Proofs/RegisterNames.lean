import PocketMips.Instr
import PocketMips.Proofs.Digits

/-!
# Names of registers

Which register a text names, and why it names none. A plain name is written in any letter case. The other
names are the small letter of a family and a number without a bound, written in digits; the number stands
for a slot of the family, and there is a register if this is one of the 32 slots. No text is a name in both
ways, since the second letter of a plain name is no digit.

The main statement is `Reg.resolves`.
-/

namespace PocketMips.Reg
open Text

/-- The text is a plain name, up to the case of its letters. -/
def PlainName (body : List Char) (r : Reg) : Prop :=
  ∃ name : String, (name, r) ∈ plainNames ∧ smallLetters body = name.toList

/-- The slot of a number in a family. The family `r` leaves out the slots from 16 to 23. -/
inductive FamilySlot : Char → Nat → Nat → Prop where
  | v {n} : FamilySlot 'v' n (2 + n)
  | a {n} : FamilySlot 'a' n (4 + n)
  | s {n} : FamilySlot 's' n (16 + n)
  | low {n} :
    n < 8 →
    FamilySlot 'r' n (8 + n)
  | high {n} :
    8 ≤ n →
    FamilySlot 'r' n (16 + n)

/-- The letters of the families. -/
def families : List Char :=
  ['v', 'a', 'r', 's']

/-- The letters of the families, each with its last number that stands for a register. -/
def lastNumbers : List (Char × Nat) :=
  [('v', 29), ('a', 27), ('r', 15), ('s', 15)]

/-- What a text names, or why it names nothing. -/
inductive Naming : List Char → Except RegError Reg → Prop where
  | plain {body r} :
    PlainName body r →
    Naming ('$' :: body) (.ok r)
  | numbered {c digits n} {r : Reg} :
    FamilySlot c n r →
    digits ≠ [] →
    Denotes 10 digits n →
    Naming ('$' :: c :: digits) (.ok r)
  | missingSigil {text} :
    (∀ c ∈ text.head?, c ≠ '$') →
    Naming text (.error .missingSigil)
  | missingName :
    Naming ['$'] (.error .missingName)
  | unknownFamily {c rest} :
    (∀ r, ¬PlainName (c :: rest) r) →
    c ∉ families →
    Naming ('$' :: c :: rest) (.error (.unknownFamily c))
  | badNumber {c rest} :
    (∀ r, ¬PlainName (c :: rest) r) →
    c ∈ families →
    (rest = [] ∨ ∃ x ∈ rest, ∀ d, ¬IsDigit 10 x d) →
    Naming ('$' :: c :: rest) (.error .badNumber)
  | outOfRange {c digits n slot} :
    FamilySlot c n slot →
    digits ≠ [] →
    Denotes 10 digits n →
    32 ≤ slot →
    Naming ('$' :: c :: digits) (.error .outOfRange)

/-- What names of registers come to. -/
structure Resolves (text : List Char) : Prop where
  naming : ∀ outcome, ofName text = outcome ↔ Naming text outcome
  /-- The numbers that are accepted. -/
  accepted : ∀ c digits n, text = '$' :: c :: digits → digits ≠ [] → Denotes 10 digits n →
    ∀ last, (c, last) ∈ lastNumbers → ((∃ r, ofName text = .ok r) ↔ n ≤ last)
  /-- The registers that the family `r` leaves out. -/
  gap : ∀ digits r, text = '$' :: 'r' :: digits → ofName text = .ok r → r.val < 16 ∨ 24 ≤ r.val
  /-- The canonical name of the register is a name of it. -/
  canonical : ∀ r, ofName text = .ok r → ofName r.name.toList = .ok r

/-! ### Plain names -/

variable {text body digits rest : List Char} {c : Char} {n slot : Nat} {r : Reg}

/-- The plain names are found in their table, in letters of any case. -/
lemma ofPlainName?_eq_some_iff : ofPlainName? body = some r ↔ PlainName body r := by
  have small : ∀ entry ∈ plainNames, smallLetters entry.1.toList = entry.1.toList := by decide
  constructor
  · intro h
    obtain ⟨entry, found, rfl⟩ := Option.map_eq_some_iff.mp h
    have mem := List.mem_of_find?_eq_some found
    have same := List.find?_some found
    refine ⟨entry.1, mem, ?_⟩
    rw [← sameLetters_iff.mp same, small entry mem]
  · rintro ⟨name, mem, same⟩
    have each : ∀ entry ∈ plainNames, ofPlainName? entry.1.toList = some entry.2 := by decide
    have letters : ofPlainName? body = ofPlainName? name.toList := by
      simp only [ofPlainName?, sameLetters, same, small _ mem]
    rw [letters, each _ mem]

/-- What is no plain name is not found. -/
lemma ofPlainName?_eq_none (h : ∀ r, ¬PlainName body r) : ofPlainName? body = none := by
  rw [Option.eq_none_iff_forall_ne_some]
  intro r plain
  exact h r (ofPlainName?_eq_some_iff.mp plain)

/-- The second letter of a plain name is no digit. -/
lemma not_plainName_of_denotes (ne : digits ≠ []) (h : Denotes 10 digits n) (r : Reg) :
    ¬PlainName (c :: digits) r := by
  have letters : ∀ entry ∈ plainNames, ∀ d < 10, entry.1.toList[1]? ≠ some d.digitChar := by decide
  rintro ⟨name, mem, same⟩
  obtain ⟨x, digits, rfl⟩ := List.exists_cons_of_ne_nil ne
  have digit := List.all_eq_true.mp (denotes_ten_iff.mp h).1 x (.head _)
  obtain ⟨lt, e⟩ := isDigit_ten_iff.mpr ⟨digit, rfl⟩
  apply letters _ mem _ lt
  rw [← same, ← e]
  rfl

/-! ### Families -/

/-- Only the letters of the families have slots. -/
lemma familySlot?_eq_none_iff : familySlot? c = none ↔ c ∉ families := by
  unfold familySlot?
  split <;> simp_all [families]

/-- In a family, each number has a slot. -/
lemma exists_familySlot (h : c ∈ families) (n : Nat) : ∃ slot, FamilySlot c n slot := by
  obtain rfl | rfl | rfl | rfl : c = 'v' ∨ c = 'a' ∨ c = 'r' ∨ c = 's' := by simpa [families] using h
  · exact ⟨_, .v⟩
  · exact ⟨_, .a⟩
  · obtain small | large := lt_or_ge n 8
    · exact ⟨_, .low small⟩
    · exact ⟨_, .high large⟩
  · exact ⟨_, .s⟩

/-- The slot of a number in a family is computed. -/
lemma FamilySlot.familySlot? (h : FamilySlot c n slot) :
    ∃ f, familySlot? c = some f ∧ f n = slot := by
  cases h with
  | low small => exact ⟨_, rfl, if_pos small⟩
  | high large => exact ⟨_, rfl, if_neg (not_lt.mpr large)⟩
  | v => exact ⟨_, rfl, rfl⟩
  | a => exact ⟨_, rfl, rfl⟩
  | s => exact ⟨_, rfl, rfl⟩

/-- There are 32 slots with registers. -/
lemma exists_ofSlot_iff : (∃ r, ofSlot slot = .ok r) ↔ slot < 32 := by
  unfold ofSlot
  split_ifs with lt
  · simp [lt]
  · simp [lt]

/-- No slot of a family comes before its number. -/
lemma FamilySlot.le (h : FamilySlot c n slot) : n ≤ slot := by
  cases h <;> omega

/-- A slot that does not fit 8 bits is past the last one. -/
lemma ofWideSlot_eq (slot : Nat) : ofWideSlot slot = ofSlot slot := by
  unfold ofWideSlot ofSlot
  split
  case isTrue => rfl
  case isFalse wide => rw [dif_neg (by omega)]

/-- A number in a family names the register in its slot, whether the number fits 8 bits or not. -/
lemma ofName_numbered (family : FamilySlot c n slot) (ne : digits ≠ []) (h : Denotes 10 digits n) :
    ofName ('$' :: c :: digits) = ofSlot slot := by
  obtain ⟨f, found, slot_eq⟩ := family.familySlot?
  have notPlain := ofPlainName?_eq_none (not_plainName_of_denotes (c := c) ne h)
  have read : readNumeral .unsigned8 10 digits = readDigits .unsigned8 10 false digits :=
    readNumeral_of_denotes ne h
  simp only [ofName, notPlain, found, read]
  rw [if_neg (by simp [ne, (denotes_ten_iff.mp h).1])]
  by_cases fits : Range.unsigned8.Holds n
  case pos =>
    rw [readDigits_of_denotes (by decide) (by decide) (by decide) h fits, ← slot_eq, ← ofWideSlot_eq]
    rfl
  case neg =>
    have past : ¬slot < 32 := by
      have le := family.le
      simp only [Range.Holds, Range.unsigned8] at fits
      omega
    rw [readDigits_of_outside (by decide) (by decide) h fits, ofSlot, dif_neg past]

/-! ### Names -/

/-- Whatever the text is, it names something or there is a reason why it does not. -/
lemma exists_naming (text : List Char) : ∃ outcome, Naming text outcome := by
  by_cases sigil : text.head? = some '$'
  case neg =>
    refine ⟨_, .missingSigil ?_⟩
    intro c hc e
    exact sigil (e ▸ hc)
  obtain ⟨body, rfl⟩ := List.head?_eq_some_iff.mp sigil
  -- In the order of the reader, where each case rules out those before it.
  by_cases plain : ∃ r, PlainName body r
  case pos =>
    obtain ⟨r, plain⟩ := plain
    exact ⟨_, .plain plain⟩
  cases body with
  | nil => exact ⟨_, .missingName⟩
  | cons c number =>
    have notPlain := not_exists.mp plain
    by_cases family : c ∈ families
    case neg => exact ⟨_, .unknownFamily notPlain family⟩
    by_cases empty : number = []
    case pos => exact ⟨_, .badNumber notPlain family (.inl empty)⟩
    by_cases all : ∀ x ∈ number, x.isDigit = true
    case pos =>
      have denotes := denotes_ten_iff.mpr ⟨List.all_eq_true.mpr all, rfl⟩
      obtain ⟨slot, familySlot⟩ := exists_familySlot family (decimalValue number)
      obtain lt | le := lt_or_ge slot 32
      · exact ⟨_, .numbered (r := ⟨slot, lt⟩) familySlot empty denotes⟩
      · exact ⟨_, .outOfRange familySlot empty denotes le⟩
    case neg =>
      obtain ⟨x, mem, other⟩ : ∃ x ∈ number, ¬x.isDigit = true := by simpa using all
      refine ⟨_, .badNumber notPlain family (.inr ⟨x, mem, ?_⟩)⟩
      intro d digit
      exact other (isDigit_ten_iff.mp digit).1

/-- What a text names is what is read. -/
lemma Naming.eq {outcome : Except RegError Reg} (h : Naming text outcome) : ofName text = outcome := by
  cases h with
  | plain plain => simp only [ofName, ofPlainName?_eq_some_iff.mpr plain]
  | @numbered _ _ _ r family ne denotes =>
    rw [ofName_numbered family ne denotes]
    exact dif_pos r.isLt
  | missingSigil noSigil =>
    unfold ofName
    split
    · exact absurd rfl (noSigil '$' rfl)
    · rfl
  | missingName => rfl
  | unknownFamily plain unknown =>
    simp only [ofName, ofPlainName?_eq_none plain, familySlot?_eq_none_iff.mpr unknown]
  | @badNumber c rest plain family bad =>
    obtain ⟨slot, familySlot⟩ := exists_familySlot family 0
    obtain ⟨f, found, -⟩ := familySlot.familySlot?
    have refused : (rest.isEmpty || !rest.all Char.isDigit) = true := by
      obtain rfl | ⟨x, mem, other⟩ := bad
      · rfl
      · have some : rest.all Char.isDigit = false :=
          List.all_eq_false.mpr ⟨x, mem, fun digit => other _ (isDigit_ten_iff.mpr ⟨digit, rfl⟩)⟩
        rw [some, Bool.not_false, Bool.or_true]
    simp only [ofName, ofPlainName?_eq_none plain, found]
    rw [if_pos refused]
  | outOfRange family ne denotes le =>
    rw [ofName_numbered family ne denotes]
    exact dif_neg (not_lt.mpr le)

/-- The slots that a family has. -/
lemma FamilySlot.lt_iff {last : Nat} (h : FamilySlot c n slot)
    (mem : (c, last) ∈ lastNumbers) : slot < 32 ↔ n ≤ last := by
  cases h <;> simp [lastNumbers] at mem <;> omega

/-- The text of a register is read as this register. -/
lemma ofName_text (r : Reg) : ofName r.text = .ok r := by
  have all : ∀ r : Reg, ofName r.text = .ok r := by decide
  exact all r

/-- What is read from a text is what it names, or why it names nothing. -/
lemma ofName_eq_iff {outcome : Except RegError Reg} : ofName text = outcome ↔ Naming text outcome := by
  constructor
  · rintro rfl
    obtain ⟨outcome, naming⟩ := exists_naming text
    rw [naming.eq]
    exact naming
  · exact Naming.eq

/-- A text is resolved to the register that it names. -/
theorem resolves (text : List Char) : Resolves text where
  naming outcome := ofName_eq_iff
  accepted := by
    rintro c digits n rfl ne denotes last mem
    have family : c ∈ families := List.mem_map_of_mem (f := Prod.fst) mem
    obtain ⟨slot, familySlot⟩ := exists_familySlot family n
    rw [ofName_numbered familySlot ne denotes, exists_ofSlot_iff, familySlot.lt_iff mem]
  gap := by
    have last : ∀ entry ∈ plainNames, entry.1.toList.head? = some 'r' → 24 ≤ entry.2.val := by decide
    rintro digits r rfl names
    cases ofName_eq_iff.mp names with
    | plain plain =>
      obtain ⟨name, mem, same⟩ := plain
      right
      apply last _ mem
      rw [← same]
      rfl
    | numbered family ne denotes =>
      generalize r.val = slot at family ⊢
      cases family with
      | low small => left; omega
      | high large => right; omega
  canonical r _ := r.ofName_text

end PocketMips.Reg
