import PocketMips.Proofs.Lexemes

/-!
# Literals

The texts that stand for a register, a number or a place in memory, and the proof that a text without
white space is read as the tokens of one of these exactly if it is such a literal. A register or a
number is one lexeme; a place in memory with an offset is four.
-/

namespace PocketMips
open Text Token

/-- The text is a name of a register. -/
def RegLiteral (text : List Char) (r : Reg) : Prop :=
  Reg.ofName text = .ok r

/-- The text is a numeral of 16 bits. -/
structure NumberLiteral (text : List Char) (value : Imm) : Prop where
  nonempty : text ≠ []
  chars : AllIn inNumber text
  reads : readNumber text = .ok value

/-- The text is a place in memory: a register in parentheses after its offset, or a register alone. -/
inductive PlaceLiteral : List Char → Reg → Imm → Prop where
  | indexed {number reg base offset} :
    NumberLiteral number offset →
    RegLiteral reg base →
    PlaceLiteral (number ++ '(' :: reg ++ [')']) base offset
  | bare {reg base} :
    RegLiteral reg base →
    PlaceLiteral reg base 0

/-! ### Names of registers -/

/-- The characters between the parentheses and the end of the small letters can be in a name. -/
lemma inReg_of_between {c : Char} (low : 42 ≤ c.toNat) (high : c.toNat ≤ 122) : inReg c = true := by
  have notParen : c ≠ '(' ∧ c ≠ ')' := by
    constructor
    · rintro rfl
      exact absurd low (by decide)
    · rintro rfl
      exact absurd low (by decide)
  have notBlank : isBlank c = false := by
    simp [isBlank]
    omega
  simp [inReg, notParen, notBlank]

/-- A character is outside parentheses and white space if its small form is. -/
lemma inReg_of_toLower {c : Char} (h : inReg c.toLower = true) : inReg c = true := by
  unfold Char.toLower at h
  split at h
  case isTrue upper =>
    have low : 65 ≤ c.toNat := upper.1
    have high : c.toNat ≤ 90 := upper.2
    exact inReg_of_between (by omega) (by omega)
  case isFalse => exact h

/-- A digit stands outside parentheses and white space. -/
lemma inReg_of_isDigit {c : Char} (h : c.isDigit = true) : inReg c = true := by
  simp only [Char.isDigit, Bool.and_eq_true, decide_eq_true_eq, ge_iff_le,
    UInt32.le_iff_toNat_le] at h
  have low : 48 ≤ c.toNat := h.1
  have high : c.toNat ≤ 57 := h.2
  exact inReg_of_between (by omega) (by omega)

namespace Reg

/-- A plain name has no parentheses and no white space. -/
lemma allIn_of_ofPlainName? {body : List Char} {r : Reg} (h : ofPlainName? body = some r) :
    AllIn inReg body := by
  have names : (plainNames.all fun entry => (smallLetters entry.1.toList).all inReg) = true := by
    decide
  obtain ⟨entry, found, -⟩ := Option.map_eq_some_iff.1 h
  have same := List.find?_some found
  intro c hc
  -- The table has small letters, and the name need not be written in them.
  apply inReg_of_toLower
  have chars := List.all_eq_true.1 names entry (List.mem_of_find?_eq_some found)
  apply List.all_eq_true.1 chars
  rw [sameLetters_iff.1 same]
  exact List.mem_map_of_mem hc

/-- A name that is accepted starts with a dollar sign and has no parentheses and no white space. -/
lemma ofName_eq_ok {text : List Char} {r : Reg} (h : ofName text = .ok r) :
    ∃ body, text = '$' :: body ∧ AllIn inReg body := by
  unfold ofName at h
  split at h
  case h_1 body =>
    refine ⟨body, rfl, ?_⟩
    split at h
    case h_1 r' plain => exact allIn_of_ofPlainName? plain
    case h_2 =>
      split at h
      case h_1 => cases h
      case h_2 c number =>
        split at h
        case h_1 => cases h
        case h_2 slot family =>
          split at h
          case isTrue => cases h
          case isFalse digits =>
            -- What is left starts with one of the letters of the families and goes on with digits.
            simp only [Bool.or_eq_true, Bool.not_eq_true', not_or, Bool.not_eq_false] at digits
            intro x hx
            cases hx with
            | head =>
              unfold familySlot? at family
              split at family
              · decide
              · decide
              · decide
              · decide
              · cases family
            | tail _ hx => exact inReg_of_isDigit (List.all_eq_true.1 digits.2 x hx)
  case h_2 => cases h

end Reg

/-! ### Literals as lexemes -/

namespace Token

/-- A literal of a register is cut off as a whole, where no more of it could follow. -/
lemma cut?_regLiteral {text rest : List Char} {r : Reg} (h : RegLiteral text r)
    (stop : StopsAt inReg rest) : cut? (text ++ rest) = some (text, rest) := by
  obtain ⟨body, rfl, hbody⟩ := Reg.ofName_eq_ok h
  exact cut?_reg hbody stop

/-- A literal of a number is cut off as a whole, where no more of it could follow. -/
lemma cut?_numberLiteral {text rest : List Char} {v : Imm} (h : NumberLiteral text v)
    (stop : StopsAt inNumber rest) : cut? (text ++ rest) = some (text, rest) :=
  cut?_number h.nonempty h.chars stop

/-- A lexeme that is read as a number is a numeral. -/
lemma numberLiteral_of_cut? {cs lexeme rest : List Char} {v : Imm}
    (hcut : cut? cs = some (lexeme, rest)) (h : ofLexeme lexeme = .ok (.number v)) :
    NumberLiteral lexeme v where
  nonempty := ne_nil_of_cut? hcut
  chars := inNumber_of_cut? hcut h
  reads := readNumber_of_ofLexeme h

/-- What is not blank does not stand between tokens. -/
lemma isGap_of_noBlank {c : Char} (h : isBlank c = false) : isGap c = false := by
  unfold isGap
  rw [Bool.or_eq_false_iff, beq_eq_false_iff_ne, beq_eq_false_iff_ne]
  constructor
  · rintro rfl
    exact absurd h (by decide)
  · rintro rfl
    exact absurd h (by decide)

/-- A text without white space that has no tokens is empty. -/
lemma Reads.eq_nil {cs : List Char} (blankFree : ∀ c ∈ cs, isBlank c = false)
    (h : Reads cs []) : cs = [] := by
  cases h with
  | nil => rfl
  | gap hc =>
    rw [isGap_of_noBlank (blankFree _ (.head _))] at hc
    cases hc

/-- The first token of a text without white space is its first lexeme. -/
lemma Reads.inv {cs : List Char} {t : Token} {ts : List Token}
    (blankFree : ∀ c ∈ cs, isBlank c = false) (h : Reads cs (t :: ts)) :
    ∃ lexeme rest, cs = lexeme ++ rest ∧ cut? cs = some (lexeme, rest) ∧
      ofLexeme lexeme = .ok t ∧ (∀ c ∈ rest, isBlank c = false) ∧ Reads rest ts := by
  cases h with
  | gap hc =>
    rw [isGap_of_noBlank (blankFree _ (.head _))] at hc
    cases hc
  | @cons c cs lexeme rest t ts _ hcut hok hrest =>
    have e := append_of_cut? hcut
    refine ⟨lexeme, rest, e, hcut, hok, ?_, hrest⟩
    intro x hx
    apply blankFree
    rw [e]
    exact List.mem_append_right _ hx

/-- A lexeme in front of a text that is read is read first. -/
lemma Reads.lexeme {lexeme rest : List Char} {t : Token} {ts : List Token} (ne : lexeme ≠ [])
    (blankFree : ∀ c ∈ lexeme, isBlank c = false)
    (hcut : cut? (lexeme ++ rest) = some (lexeme, rest)) (hok : ofLexeme lexeme = .ok t)
    (h : Reads rest ts) : Reads (lexeme ++ rest) (t :: ts) := by
  obtain ⟨c, cs, rfl⟩ := List.exists_cons_of_ne_nil ne
  exact .cons (isGap_of_noBlank (blankFree c (.head _))) hcut hok h

end Token

/-! ### Reading literals -/

section Reading
variable {text : List Char} (blankFree : ∀ c ∈ text, isBlank c = false)
include blankFree

/-- A text without white space is read as one register exactly if it names it. -/
lemma reads_reg_iff {r : Reg} : Reads text [.reg r] ↔ RegLiteral text r := by
  constructor
  · intro h
    obtain ⟨lexeme, rest, rfl, -, hok, restFree, hrest⟩ := h.inv blankFree
    rw [hrest.eq_nil restFree, List.append_nil]
    exact ofLexeme_eq_reg_iff.1 hok
  · intro h
    obtain ⟨body, e, -⟩ := Reg.ofName_eq_ok h
    have cut : cut? (text ++ []) = some (text, []) := cut?_regLiteral h (stopsAt_nil _)
    have whole := Reads.lexeme (by simp [e]) blankFree cut (ofLexeme_eq_reg_iff.2 h) .nil
    rwa [List.append_nil] at whole

/-- A text without white space is read as one number exactly if it is a numeral of it. -/
lemma reads_number_iff {v : Imm} : Reads text [.number v] ↔ NumberLiteral text v := by
  constructor
  · intro h
    obtain ⟨lexeme, rest, rfl, hcut, hok, restFree, hrest⟩ := h.inv blankFree
    rw [hrest.eq_nil restFree, List.append_nil]
    exact numberLiteral_of_cut? hcut hok
  · intro h
    have cut : cut? (text ++ []) = some (text, []) := cut?_numberLiteral h (stopsAt_nil _)
    have whole := Reads.lexeme h.nonempty blankFree cut (ofLexeme_number h.chars h.reads) .nil
    rwa [List.append_nil] at whole

/-- A text without white space is read as a register in parentheses exactly if it is written so. -/
lemma reads_bracketed_iff {r : Reg} :
    Reads text [.leftParen, .reg r, .rightParen] ↔
      ∃ reg, text = '(' :: reg ++ [')'] ∧ RegLiteral reg r := by
  constructor
  · intro h
    obtain ⟨left, rest, rfl, -, hleft, restFree, h⟩ := h.inv blankFree
    obtain ⟨reg, rest, rfl, -, hreg, restFree, h⟩ := h.inv restFree
    obtain ⟨right, rest, rfl, -, hright, restFree, h⟩ := h.inv restFree
    rw [h.eq_nil restFree, ofLexeme_eq_leftParen hleft, ofLexeme_eq_rightParen hright]
    exact ⟨reg, by simp, ofLexeme_eq_reg_iff.1 hreg⟩
  · rintro ⟨reg, rfl, hreg⟩
    obtain ⟨body, e, -⟩ := Reg.ofName_eq_ok hreg
    have regFree : ∀ c ∈ reg, isBlank c = false := fun c hc => blankFree c (by simp [hc])
    -- What is read after a lexeme comes first, so the derivation is put together from the right.
    have right : Reads [')'] [.rightParen] := .cons rfl rfl rfl .nil
    have register : Reads (reg ++ [')']) [.reg r, .rightParen] :=
      Reads.lexeme (by simp [e]) regFree (cut?_regLiteral hreg (stopsAt_cons rfl _))
        (ofLexeme_eq_reg_iff.2 hreg) right
    exact .cons rfl rfl rfl register

/-- A text without white space is read as an offset and a register in parentheses exactly if it is
written so. -/
lemma reads_place_iff {v : Imm} {r : Reg} :
    Reads text [.number v, .leftParen, .reg r, .rightParen] ↔
      ∃ number reg, text = number ++ '(' :: reg ++ [')'] ∧ NumberLiteral number v ∧
        RegLiteral reg r := by
  constructor
  · intro h
    obtain ⟨number, rest, rfl, hcut, hnumber, restFree, h⟩ := h.inv blankFree
    obtain ⟨reg, rfl, hreg⟩ := (reads_bracketed_iff restFree).1 h
    exact ⟨number, reg, by simp, numberLiteral_of_cut? hcut hnumber, hreg⟩
  · rintro ⟨number, reg, rfl, hnumber, hreg⟩
    have numberFree : ∀ c ∈ number, isBlank c = false := fun c hc => blankFree c (by simp [hc])
    have bracketed : Reads ('(' :: reg ++ [')']) [.leftParen, .reg r, .rightParen] :=
      (reads_bracketed_iff fun c hc => blankFree c (by simp_all)).2 ⟨reg, rfl, hreg⟩
    have whole := Reads.lexeme hnumber.nonempty numberFree
      (cut?_numberLiteral hnumber (stopsAt_cons (by decide) _))
      (ofLexeme_number hnumber.chars hnumber.reads) bracketed
    simpa using whole

end Reading

end PocketMips
