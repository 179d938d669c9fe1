import Mathlib.Data.List.TakeWhile
import Mathlib.Tactic.Lemma
import PocketMips.Token

/-!
# Lexemes

Scanning a text without an error is a derivation of the relation `Reads`: gaps are skipped, and one
lexeme after the other is cut off and read. The places of the tokens do not matter for it.

The rest of the module says which texts are one lexeme. The character after a number or a register is
what ends it, so each statement allows any rest that such a character starts.
-/

namespace PocketMips.Token
open Text

/-- Every character of a text is in a class. -/
abbrev AllIn (p : Char → Bool) (cs : List Char) : Prop :=
  ∀ c ∈ cs, p c = true

/-- A text is empty, or starts with a character outside a class. -/
abbrev StopsAt (p : Char → Bool) (cs : List Char) : Prop :=
  ∀ c ∈ cs.head?, p c = false

/-- Any run stops at the end of the text. -/
lemma stopsAt_nil (p : Char → Bool) : StopsAt p [] := by
  intro c hc
  cases hc

/-- A run stops at a character that does not belong to it. -/
lemma stopsAt_cons {p : Char → Bool} {c : Char} (hc : p c = false) (cs : List Char) :
    StopsAt p (c :: cs) := by
  intro x hx
  cases hx
  exact hc

/-- The tokens of a text, lexeme by lexeme. -/
inductive Reads : List Char → List Token → Prop where
  | nil : Reads [] []
  | gap {c cs ts} :
    isGap c = true →
    Reads cs ts →
    Reads (c :: cs) ts
  | cons {c cs lexeme rest t ts} :
    isGap c = false →
    cut? (c :: cs) = some (lexeme, rest) →
    ofLexeme lexeme = .ok t →
    Reads rest ts →
    Reads (c :: cs) (t :: ts)

/-- A character between tokens is passed by. -/
lemma scanFrom_gap {pos : Nat} {c : Char} {cs : List Char} (hc : isGap c = true) :
    scanFrom pos (c :: cs) = scanFrom (pos + c.utf8Size) cs := by
  rw [scanFrom, if_pos hc]

/-- Where nothing can be cut off, the scan ends with a bad symbol. -/
lemma scanFrom_of_cut?_none {pos : Nat} {c : Char} {cs : List Char} (hc : isGap c = false)
    (hcut : cut? (c :: cs) = none) : scanFrom pos (c :: cs) = ⟨[], some .badSymbol⟩ := by
  rw [scanFrom, if_neg (by simp [hc])]
  split
  · rfl
  · rename_i h
    rw [hcut] at h
    cases h

/-- Where a lexeme cannot be read, the scan ends with what is wrong with it. -/
lemma scanFrom_of_bad {pos : Nat} {c : Char} {cs lexeme rest : List Char} {why : TokenError}
    (hc : isGap c = false) (hcut : cut? (c :: cs) = some (lexeme, rest))
    (hbad : ofLexeme lexeme = .error why) : scanFrom pos (c :: cs) = ⟨[], some why⟩ := by
  rw [scanFrom, if_neg (by simp [hc])]
  split
  · rename_i h
    rw [hcut] at h
    cases h
  · rename_i h
    rw [hcut] at h
    cases h
    simp only [hbad]

/-- A lexeme that is read comes before what is found after it. -/
lemma scanFrom_of_ok {pos : Nat} {c : Char} {cs lexeme rest : List Char} {t : Token}
    (hc : isGap c = false) (hcut : cut? (c :: cs) = some (lexeme, rest))
    (hok : ofLexeme lexeme = .ok t) :
    scanFrom pos (c :: cs) =
      (scanFrom (pos + byteLength lexeme) rest).cons ⟨t, ⟨pos, pos + byteLength lexeme⟩⟩ := by
  rw [scanFrom, if_neg (by simp [hc])]
  split
  · rename_i h
    rw [hcut] at h
    cases h
  · rename_i h
    rw [hcut] at h
    cases h
    simp only [hok]

/-- A token in front of a scan is a token in front of its tokens. -/
lemma tokens_cons_eq_ok_iff {l : Lexeme} {s : Scan} {ts : List Token} :
    (s.cons l).tokens = .ok ts ↔ ∃ ts', s.tokens = .ok ts' ∧ ts = l.token :: ts' := by
  obtain ⟨lexemes, error?⟩ := s
  cases error? <;> simp [Scan.cons, Scan.tokens, eq_comm]

/-- A scan finds the tokens that the text has. -/
lemma tokens_scanFrom_iff (pos : Nat) (cs : List Char) (ts : List Token) :
    (scanFrom pos cs).tokens = .ok ts ↔ Reads cs ts := by
  -- One case for each way in which a scan goes on; a derivation has to go on in the same way.
  induction pos, cs using scanFrom.induct generalizing ts with
  | case1 pos =>
    rw [scanFrom]
    constructor
    · intro h
      cases h
      exact .nil
    · intro h
      cases h
      rfl
  | case2 pos c rest hgap ih =>
    rw [scanFrom_gap hgap, ih]
    constructor
    · exact .gap hgap
    · intro h
      cases h with
      | gap _ h => exact h
      | cons no => rw [hgap] at no; cases no
  | case3 pos c rest hgap hcut =>
    rw [scanFrom_of_cut?_none (by simpa using hgap) hcut]
    constructor
    · intro h
      cases h
    · intro h
      cases h with
      | gap yes => exact absurd yes hgap
      | cons _ h => rw [hcut] at h; cases h
  | case4 pos c rest hgap lexeme rest' hcut why hbad =>
    rw [scanFrom_of_bad (by simpa using hgap) hcut hbad]
    constructor
    · intro h
      cases h
    · intro h
      cases h with
      | gap yes => exact absurd yes hgap
      | cons _ h hok =>
        rw [hcut] at h
        cases h
        rw [hbad] at hok
        cases hok
  | case5 pos c rest hgap lexeme rest' hcut t hok stop ih =>
    rw [scanFrom_of_ok (by simpa using hgap) hcut hok, tokens_cons_eq_ok_iff]
    constructor
    · rintro ⟨ts', hts, rfl⟩
      exact .cons (by simpa using hgap) hcut hok ((ih ts').1 hts)
    · intro h
      cases h with
      | gap yes => exact absurd yes hgap
      | cons _ h hok' hrest =>
        rw [hcut] at h
        cases h
        rw [hok] at hok'
        cases hok'
        exact ⟨_, (ih _).2 hrest, rfl⟩

/-- A scan is fine exactly if the whole text can be read, and gives the tokens that are read. -/
lemma tokens_scan_iff {cs : List Char} {ts : List Token} :
    (scan cs).tokens = .ok ts ↔ Reads cs ts :=
  tokens_scanFrom_iff 0 cs ts

/-! ### Cutting -/

/-- A run that something outside the class ends is what a class takes from the front. -/
lemma takeWhile_run {p : Char → Bool} {run rest : List Char} (h : AllIn p run)
    (stop : StopsAt p rest) : (run ++ rest).takeWhile p = run := by
  rw [List.takeWhile_append_of_pos h]
  cases rest with
  | nil => simp
  | cons c rest => simp [stop c rfl]

/-- What is left after a run is what follows it. -/
lemma dropWhile_run {p : Char → Bool} {run rest : List Char} (h : AllIn p run)
    (stop : StopsAt p rest) : (run ++ rest).dropWhile p = rest := by
  rw [List.dropWhile_append_of_pos h]
  cases rest with
  | nil => rfl
  | cons c rest => simp [stop c rfl]

/-- No number has a parenthesis or a dollar sign in it. -/
lemma inNumber_ne {c : Char} (h : inNumber c = true) : c ≠ '(' ∧ c ≠ ')' ∧ c ≠ '$' := by
  refine ⟨?_, ?_, ?_⟩
  · rintro rfl
    exact absurd h (by decide)
  · rintro rfl
    exact absurd h (by decide)
  · rintro rfl
    exact absurd h (by decide)

/-- A run of characters of numbers is cut off as a whole. -/
lemma cut?_number {run rest : List Char} (ne : run ≠ []) (h : AllIn inNumber run)
    (stop : StopsAt inNumber rest) : cut? (run ++ rest) = some (run, rest) := by
  obtain ⟨c, cs, rfl⟩ := List.exists_cons_of_ne_nil ne
  have hc := h c (.head _)
  obtain ⟨notLeft, notRight, notDollar⟩ := inNumber_ne hc
  have hcs : AllIn inNumber cs := fun x hx => h x (.tail _ hx)
  simp only [List.cons_append, cut?, notLeft, notRight, notDollar, or_self, if_false, hc, if_true,
    takeWhile_run hcs stop, dropWhile_run hcs stop]

/-- A dollar sign and the characters of a name after it are cut off together. -/
lemma cut?_reg {body rest : List Char} (h : AllIn inReg body) (stop : StopsAt inReg rest) :
    cut? ('$' :: body ++ rest) = some ('$' :: body, rest) := by
  have notParen : ¬('$' = '(' ∨ '$' = ')') := by decide
  simp only [List.cons_append, cut?, notParen, if_false, if_true, takeWhile_run h stop,
    dropWhile_run h stop]

/-- What is cut off and what is left make up the text. -/
lemma append_of_cut? {cs lexeme rest : List Char} (h : cut? cs = some (lexeme, rest)) :
    cs = lexeme ++ rest := by
  cases cs with
  | nil => cases h
  | cons c cs =>
    simp only [cut?] at h
    split at h
    · cases h
      rfl
    · split at h
      · cases h
        rw [List.cons_append, List.takeWhile_append_dropWhile]
      · split at h
        · cases h
          rw [List.cons_append, List.takeWhile_append_dropWhile]
        · cases h

/-- What is cut off is not empty. -/
lemma ne_nil_of_cut? {cs lexeme rest : List Char} (h : cut? cs = some (lexeme, rest)) :
    lexeme ≠ [] := by
  rintro rfl
  have shorter := length_rest_lt h
  rw [append_of_cut? h] at shorter
  exact absurd shorter (Nat.lt_irrefl _)

/-! ### Reading -/

/-- What is read as a register starts with a dollar sign and names it. -/
lemma ofLexeme_eq_reg_iff {lexeme : List Char} {r : Reg} :
    ofLexeme lexeme = .ok (.reg r) ↔ Reg.ofName lexeme = .ok r := by
  constructor
  · intro h
    unfold ofLexeme at h
    split at h
    · cases h
    · cases h
    · split at h
      · rename_i hname
        cases h
        exact hname
      · cases h
    · split at h <;> cases h
  · intro h
    cases lexeme with
    | nil => cases h
    | cons c body =>
      by_cases hc : c = '$'
      · subst hc
        simp only [ofLexeme, h]
      · unfold Reg.ofName at h
        split at h
        · rename_i e
          cases e
          exact absurd rfl hc
        · cases h

/-- What is read as a number is a lexeme of characters of numbers that has this value. -/
lemma readNumber_of_ofLexeme {lexeme : List Char} {v : Imm} (h : ofLexeme lexeme = .ok (.number v)) :
    readNumber lexeme = .ok v := by
  unfold ofLexeme at h
  split at h
  · cases h
  · cases h
  · split at h <;> cases h
  · split at h
    · rename_i hread
      cases h
      exact hread
    · cases h

/-- Characters of numbers are read as a number. -/
lemma ofLexeme_eq_readNumber {lexeme : List Char} (h : AllIn inNumber lexeme) :
    ofLexeme lexeme = (readNumber lexeme).map .number := by
  unfold ofLexeme
  split
  · exact absurd (h '(' (.head _)) (by decide)
  · exact absurd (h ')' (.head _)) (by decide)
  · exact absurd (h '$' (.head _)) (by decide)
  · cases readNumber lexeme <;> rfl

/-- A number is read by its value. -/
lemma ofLexeme_number {lexeme : List Char} {v : Imm} (h : AllIn inNumber lexeme)
    (hread : readNumber lexeme = .ok v) : ofLexeme lexeme = .ok (.number v) := by
  rw [ofLexeme_eq_readNumber h, hread]
  rfl

/-- Only one lexeme is an opening parenthesis. -/
lemma ofLexeme_eq_leftParen {lexeme : List Char} (h : ofLexeme lexeme = .ok .leftParen) :
    lexeme = ['('] := by
  unfold ofLexeme at h
  split at h
  · rfl
  · cases h
  · split at h <;> cases h
  · split at h <;> cases h

/-- Only one lexeme is a closing parenthesis. -/
lemma ofLexeme_eq_rightParen {lexeme : List Char} (h : ofLexeme lexeme = .ok .rightParen) :
    lexeme = [')'] := by
  unfold ofLexeme at h
  split at h
  · cases h
  · rfl
  · split at h <;> cases h
  · split at h <;> cases h

/-- A lexeme that is read as a number consists of characters of numbers. -/
lemma inNumber_of_cut? {cs lexeme rest : List Char} {v : Imm} (hcut : cut? cs = some (lexeme, rest))
    (h : ofLexeme lexeme = .ok (.number v)) : AllIn inNumber lexeme := by
  cases cs with
  | nil => cases hcut
  | cons c cs =>
    simp only [cut?] at hcut
    split at hcut
    case isTrue paren =>
      cases hcut
      rcases paren with rfl | rfl
      · cases h
      · cases h
    case isFalse =>
      split at hcut
      case isTrue dollar =>
        cases hcut
        subst dollar
        simp only [ofLexeme] at h
        split at h <;> cases h
      case isFalse =>
        split at hcut
        case isTrue hc =>
          cases hcut
          intro x hx
          cases hx with
          | head => exact hc
          | tail _ hx => exact List.mem_takeWhile_imp hx
        case isFalse => cases hcut

end PocketMips.Token
