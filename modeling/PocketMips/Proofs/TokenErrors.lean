import PocketMips.Proofs.Literals

/-!
# The first error among the tokens

A text without white space is lexeme after lexeme: a parenthesis, or a run of the characters of a number,
or a dollar sign and a run of the characters of a name. `Lexes` says what the lexeme at the front of a
text is and what comes of it, and `FirstError` that the lexemes before some place are tokens and that the
one there is not. Scanning such a text fails exactly with its first error (`tokens_scan_eq_error_iff`).
-/

namespace PocketMips.Token
open Text

/-- The lexeme in front of a rest, and the token that it stands for or the reason why it stands for none.
A number and a name go on for as long as there are characters for them. -/
inductive Lexes : List Char → List Char → Except TokenError Token → Prop where
  | leftParen {rest} :
    Lexes ['('] rest (.ok .leftParen)
  | rightParen {rest} :
    Lexes [')'] rest (.ok .rightParen)
  | number {text rest v} :
    NumberLiteral text v →
    StopsAt inNumber rest →
    Lexes text rest (.ok (.number v))
  | reg {text rest r} :
    RegLiteral text r →
    StopsAt inReg rest →
    Lexes text rest (.ok (.reg r))
  | badNumber {text rest why} :
    text ≠ [] →
    AllIn inNumber text →
    StopsAt inNumber rest →
    readNumber text = .error why →
    Lexes text rest (.error why)
  | badReg {body rest why} :
    AllIn inReg body →
    StopsAt inReg rest →
    Reg.ofName ('$' :: body) = .error why →
    Lexes ('$' :: body) rest (.error (.badReg why))
  | badSymbol {c rest} :
    c ≠ '(' →
    c ≠ ')' →
    c ≠ '$' →
    inNumber c = false →
    Lexes [c] rest (.error .badSymbol)

/-- The first lexeme of a text that is no token is one for the given reason. -/
inductive FirstError : List Char → TokenError → Prop where
  | here {lexeme rest why} :
    Lexes lexeme rest (.error why) →
    FirstError (lexeme ++ rest) why
  | later {lexeme rest t why} :
    Lexes lexeme rest (.ok t) →
    FirstError rest why →
    FirstError (lexeme ++ rest) why

/-! ### Lexemes -/

/-- What is left after a longest run does not go on with it. -/
lemma stopsAt_dropWhile (p : Char → Bool) (cs : List Char) : StopsAt p (cs.dropWhile p) := by
  intro c hc
  have stop := List.head?_dropWhile_not p cs
  rw [Option.mem_def.1 hc] at stop
  exact stop

/-- A text that is not empty starts with a lexeme. -/
lemma exists_lexes {cs : List Char} (ne : cs ≠ []) :
    ∃ lexeme rest outcome, cs = lexeme ++ rest ∧ Lexes lexeme rest outcome := by
  obtain ⟨c, cs, rfl⟩ := List.exists_cons_of_ne_nil ne
  by_cases left : c = '('
  · subst left
    exact ⟨['('], cs, _, rfl, .leftParen⟩
  by_cases right : c = ')'
  · subst right
    exact ⟨[')'], cs, _, rfl, .rightParen⟩
  by_cases dollar : c = '$'
  · subst dollar
    -- The lexeme is the longest run of characters of a name, whether it names a register or not.
    have name : AllIn inReg (cs.takeWhile inReg) := fun x hx => List.mem_takeWhile_imp hx
    have cut : '$' :: cs = '$' :: cs.takeWhile inReg ++ cs.dropWhile inReg := by
      rw [List.cons_append, List.takeWhile_append_dropWhile]
    refine ⟨'$' :: cs.takeWhile inReg, cs.dropWhile inReg, ?_⟩
    cases e : Reg.ofName ('$' :: cs.takeWhile inReg) with
    | ok r => exact ⟨_, cut, .reg e (stopsAt_dropWhile inReg cs)⟩
    | error why => exact ⟨_, cut, .badReg name (stopsAt_dropWhile inReg cs) e⟩
  by_cases number : inNumber c = true
  · have chars : AllIn inNumber (c :: cs.takeWhile inNumber) := by
      intro x hx
      cases hx with
      | head => exact number
      | tail _ hx => exact List.mem_takeWhile_imp hx
    have cut : c :: cs = c :: cs.takeWhile inNumber ++ cs.dropWhile inNumber := by
      rw [List.cons_append, List.takeWhile_append_dropWhile]
    refine ⟨c :: cs.takeWhile inNumber, cs.dropWhile inNumber, ?_⟩
    cases e : readNumber (c :: cs.takeWhile inNumber) with
    | ok v => exact ⟨_, cut, .number ⟨List.cons_ne_nil _ _, chars, e⟩ (stopsAt_dropWhile inNumber cs)⟩
    | error why =>
      exact ⟨_, cut, .badNumber (List.cons_ne_nil _ _) chars (stopsAt_dropWhile inNumber cs) e⟩
  · exact ⟨[c], cs, _, rfl, .badSymbol left right dollar (by simpa using number)⟩

namespace Lexes
variable {lexeme rest : List Char} {outcome : Except TokenError Token}

/-- Cutting and reading find the lexeme that is there. Only a character that starts no token is not cut
off. -/
lemma cut (h : Lexes lexeme rest outcome) :
    (cut? (lexeme ++ rest) = some (lexeme, rest) ∧ ofLexeme lexeme = outcome) ∨
      (cut? (lexeme ++ rest) = none ∧ lexeme.length = 1 ∧ outcome = .error .badSymbol) := by
  cases h with
  | leftParen => exact .inl ⟨rfl, rfl⟩
  | rightParen => exact .inl ⟨rfl, rfl⟩
  | number literal stop =>
    exact .inl ⟨cut?_numberLiteral literal stop, ofLexeme_number literal.chars literal.reads⟩
  | reg literal stop => exact .inl ⟨cut?_regLiteral literal stop, ofLexeme_eq_reg_iff.2 literal⟩
  | badNumber ne chars stop bad =>
    refine .inl ⟨cut?_number ne chars stop, ?_⟩
    rw [ofLexeme_eq_readNumber chars, bad]
    rfl
  | badReg name stop bad =>
    refine .inl ⟨cut?_reg name stop, ?_⟩
    simp only [ofLexeme, bad]
  | badSymbol left right dollar number =>
    exact .inr ⟨by simp [cut?, left, right, dollar, number], rfl, rfl⟩

/-- A lexeme is not empty. -/
lemma ne_nil (h : Lexes lexeme rest outcome) : lexeme ≠ [] := by
  cases h with
  | leftParen => exact List.cons_ne_nil _ _
  | rightParen => exact List.cons_ne_nil _ _
  | number literal _ => exact literal.nonempty
  | reg literal _ =>
    obtain ⟨body, rfl, -⟩ := Reg.ofName_eq_ok literal
    exact List.cons_ne_nil _ _
  | badNumber ne _ _ _ => exact ne
  | badReg _ _ _ => exact List.cons_ne_nil _ _
  | badSymbol _ _ _ _ => exact List.cons_ne_nil _ _

section
variable (noGap : ∀ c ∈ lexeme.head?, isGap c = false)
include noGap

/-- A lexeme that is no token ends the scan. -/
lemma scanFrom_error {why : TokenError} (h : Lexes lexeme rest (.error why)) (pos : Nat) :
    scanFrom pos (lexeme ++ rest) = ⟨[], some why⟩ := by
  have split := h.cut
  obtain ⟨c, cs, rfl⟩ := List.exists_cons_of_ne_nil h.ne_nil
  obtain ⟨hcut, bad⟩ | ⟨hcut, -, e⟩ := split
  · exact scanFrom_of_bad (noGap c rfl) hcut bad
  · cases e
    exact scanFrom_of_cut?_none (noGap c rfl) hcut

/-- After a token the scan goes on with the rest. -/
lemma scanFrom_ok {t : Token} (h : Lexes lexeme rest (.ok t)) (pos : Nat) :
    scanFrom pos (lexeme ++ rest) =
      (scanFrom (pos + byteLength lexeme) rest).cons ⟨t, ⟨pos, pos + byteLength lexeme⟩⟩ := by
  have split := h.cut
  obtain ⟨c, cs, rfl⟩ := List.exists_cons_of_ne_nil h.ne_nil
  obtain ⟨hcut, good⟩ | ⟨_, -, e⟩ := split
  · exact scanFrom_of_ok (noGap c rfl) hcut good
  · cases e

end

end Lexes

/-- A text is empty, or a lexeme and another text. -/
theorem lexes_induction {P : List Char → Prop} (nil : P [])
    (cons : ∀ lexeme rest outcome, Lexes lexeme rest outcome → P rest → P (lexeme ++ rest))
    (cs : List Char) : P cs := by
  induction h : cs.length using Nat.strong_induction_on generalizing cs with
  | _ n ih =>
    by_cases empty : cs = []
    · subst empty
      exact nil
    · obtain ⟨lexeme, rest, outcome, rfl, lexes⟩ := exists_lexes empty
      have shorter := List.length_pos_iff.2 lexes.ne_nil
      rw [List.length_append] at h
      exact cons lexeme rest outcome lexes (ih rest.length (by omega) rest rfl)

/-! ### Scanning -/

/-- A text without white space has no gap at its front. -/
lemma noGap_of_noBlank {lexeme rest : List Char} (blankFree : ∀ c ∈ lexeme ++ rest, isBlank c = false) :
    ∀ c ∈ lexeme.head?, isGap c = false :=
  fun c hc => isGap_of_noBlank (blankFree c (List.mem_append_left _ (List.mem_of_mem_head? hc)))

/-- The first error of a text is the error of its scan. -/
lemma FirstError.error? {text : List Char} {why : TokenError} (h : FirstError text why)
    (blankFree : ∀ c ∈ text, isBlank c = false) (pos : Nat) :
    (scanFrom pos text).error? = some why := by
  induction h generalizing pos with
  | here lexes => rw [lexes.scanFrom_error (noGap_of_noBlank blankFree)]
  | later lexes _ ih =>
    rw [lexes.scanFrom_ok (noGap_of_noBlank blankFree)]
    exact ih (fun c hc => blankFree c (List.mem_append_right _ hc)) _

/-- The error of a scan is the first error of the text. -/
lemma firstError_of_scanFrom {text : List Char} {why : TokenError} {pos : Nat}
    (blankFree : ∀ c ∈ text, isBlank c = false) (h : (scanFrom pos text).error? = some why) :
    FirstError text why := by
  induction text using lexes_induction generalizing pos with
  | nil =>
    rw [scanFrom] at h
    cases h
  | cons lexeme rest outcome lexes ih =>
    have noGap := noGap_of_noBlank blankFree
    cases outcome with
    | error why' =>
      rw [lexes.scanFrom_error noGap] at h
      cases h
      exact .here lexes
    | ok t =>
      rw [lexes.scanFrom_ok noGap] at h
      exact .later lexes (ih (fun c hc => blankFree c (List.mem_append_right _ hc)) h)

/-- Scanning a text without white space fails exactly with the first error of the text. -/
lemma tokens_scan_eq_error_iff {text : List Char} {why : TokenError}
    (blankFree : ∀ c ∈ text, isBlank c = false) :
    (scan text).tokens = .error why ↔ FirstError text why := by
  have error : (scan text).tokens = .error why ↔ (scan text).error? = some why := by
    unfold Scan.tokens
    cases (scan text).error? <;> simp
  rw [error]
  constructor
  · exact firstError_of_scanFrom blankFree
  · exact fun h => h.error? blankFree 0

end PocketMips.Token
