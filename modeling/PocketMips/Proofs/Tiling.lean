import PocketMips.Proofs.Runs
import PocketMips.Proofs.TokenErrors

/-!
# Tokens tile a text

A text with white space is gaps and pieces. Where a piece is can be said without going through the text
from the left: a number and a name of a register go on for as long as there are characters for them, and
no piece starts inside one that has started before. A name of a register takes characters of all kinds,
so for this `InName` looks back for its dollar sign.

A scan is a derivation of `Tiles`: gaps and tokens up to the end of the text, or up to the first piece
that is no token. What is said of a scan is said by induction on the derivation. The main statement is
`scan_tiling`.
-/

namespace PocketMips.Token
open Text

/-- A run of characters of a class between characters outside the class. -/
structure Maximal (p : Char → Bool) (before run after : List Char) : Prop where
  nonempty : run ≠ []
  chars : AllIn p run
  left : ∀ c ∈ before.getLast?, p c = false
  right : StopsAt p after

/-- A text ends inside the name of a register: nothing after its dollar sign has ended it yet. -/
def InName (before : List Char) : Prop :=
  ∃ front name, before = front ++ '$' :: name ∧ AllIn inReg name

/-- A piece of the text `before ++ piece ++ after`, and the token that it stands for or the reason why it
stands for none. -/
inductive Piece (before : List Char) :
    (piece after : List Char) → Except TokenError Token → Prop where
  | leftParen {after} :
    Piece before ['('] after (.ok .leftParen)
  | rightParen {after} :
    Piece before [')'] after (.ok .rightParen)
  | number {run after v} :
    ¬InName before →
    Maximal inNumber before run after →
    readNumber run = .ok v →
    Piece before run after (.ok (.number v))
  | badNumber {run after why} :
    ¬InName before →
    Maximal inNumber before run after →
    readNumber run = .error why →
    Piece before run after (.error why)
  | reg {name after r} :
    ¬InName before →
    AllIn inReg name →
    StopsAt inReg after →
    Reg.ofName ('$' :: name) = .ok r →
    Piece before ('$' :: name) after (.ok (.reg r))
  | badReg {name after why} :
    ¬InName before →
    AllIn inReg name →
    StopsAt inReg after →
    Reg.ofName ('$' :: name) = .error why →
    Piece before ('$' :: name) after (.error (.badReg why))
  /-- A character that is neither a gap nor part of any token. -/
  | badSymbol {c after} :
    (InName before → inReg c = false) →
    isGap c = false →
    c ≠ '(' →
    c ≠ ')' →
    c ≠ '$' →
    inNumber c = false →
    Piece before [c] after (.error .badSymbol)

/-- The text between `before` and `rest` has a token for the lexeme, at its place. -/
def HasToken (before text rest : List Char) (l : Lexeme) : Prop :=
  ∃ front piece back, text = front ++ piece ++ back ∧
    Piece (before ++ front) piece (back ++ rest) (.ok l.token) ∧
    l.span = ⟨byteLength (before ++ front), byteLength (before ++ front ++ piece)⟩

/-- The scan of a text from a place in it on: gaps and tokens up to the end, or up to the first piece that
is no token. -/
inductive Tiles : (before good rest : List Char) → Scan → Prop where
  | done {before} :
    Tiles before [] [] ⟨[], none⟩
  | stuck {before bad after why} :
    Piece before bad after (.error why) →
    Tiles before [] (bad ++ after) ⟨[], some why⟩
  | gap {before c good rest s} :
    isGap c = true →
    Tiles (before ++ [c]) good rest s →
    Tiles before (c :: good) rest s
  | token {before piece good rest t s} :
    Piece before piece (good ++ rest) (.ok t) →
    Tiles (before ++ piece) good rest s →
    Tiles before (piece ++ good) rest (s.cons ⟨t, ⟨byteLength before, byteLength (before ++ piece)⟩⟩)

/-- What a scan has found in a text: the tokens of its front `good`, and the error with which `rest`
starts. -/
structure Tiling (text : List Char) (s : Scan) (good rest : List Char) : Prop where
  whole : text = good ++ rest
  tokens : ∀ l, l ∈ s.lexemes ↔ HasToken [] good rest l
  nonempty : ∀ l ∈ s.lexemes, l.span.start < l.span.stop
  ordered : s.lexemes.Pairwise fun l l' => l.span.stop ≤ l'.span.start
  /-- Only gaps are left between the tokens. -/
  covered : ∀ front c back, good = front ++ c :: back →
    isGap c = true ∨ ∃ l ∈ s.lexemes, l.span.start ≤ byteLength front ∧ byteLength front < l.span.stop
  /-- The bytes of a token are whole characters, and these are scanned as this token. -/
  alone : ∀ l ∈ s.lexemes, ∃ piece, l.span.Covers text piece ∧
    scan piece = ⟨[⟨l.token, ⟨0, byteLength piece⟩⟩], none⟩
  /-- Without an error the tokens are those of the whole text. -/
  clean : s.error? = none → rest = []
  error : ∀ why, s.error? = some why → ∃ bad after, rest = bad ++ after ∧
    Piece good bad after (.error why)
  /-- There is no other error before. -/
  first : ∀ before bad after why, text = before ++ bad ++ after →
    Piece before bad after (.error why) → good <+: before

/-! ### Classes of characters -/

/-- No word has white space in it. -/
lemma not_isWordChar_of_isBlank {c : Char} (h : isBlank c = true) : isWordChar c = false := by
  have all : ∀ n ∈ List.range' 9 5 ++ [0x20, 0x85, 0xA0, 0x1680] ++ List.range' 0x2000 11 ++
      [0x2028, 0x2029, 0x202F, 0x205F, 0x3000], isWordChar (Char.ofNat n) = false := by
    decide +kernel
  rw [← Char.ofNat_toNat c]
  apply all
  simp only [isBlank, Bool.or_eq_true, Bool.and_eq_true, decide_eq_true_eq, beq_iff_eq] at h
  simp only [List.mem_append, List.mem_range'_1, List.mem_cons, List.not_mem_nil, or_false]
  omega

/-- The characters of a number do not end a name. -/
lemma inReg_of_inNumber {c : Char} (h : inNumber c = true) : inReg c = true := by
  obtain ⟨left, right, -⟩ := inNumber_ne h
  have solid : isBlank c = false := by
    by_contra blank
    have blank : isBlank c = true := by simpa using blank
    simp only [inNumber, not_isWordChar_of_isBlank blank, Bool.false_or, Bool.or_eq_true,
      beq_iff_eq] at h
    obtain rfl | rfl := h
    · cases blank
    · cases blank
  simp [inReg, left, right, solid]

/-- A character between tokens belongs neither to a number nor to a name. -/
lemma of_isGap {c : Char} (h : isGap c = true) : inNumber c = false ∧ inReg c = false := by
  simp only [isGap, Bool.or_eq_true, beq_iff_eq] at h
  obtain rfl | rfl := h
  · decide
  · decide

/-- A character of a number is no gap. -/
lemma not_isGap_of_inNumber {c : Char} (h : inNumber c = true) : isGap c = false := by
  by_contra gap
  rw [(of_isGap (by simpa using gap)).1] at h
  cases h

/-- A name that ends in a run without a dollar sign has started before the run. -/
lemma inName_of_append {before run : List Char} (h : InName (before ++ run)) (no : '$' ∉ run) :
    InName before ∧ AllIn inReg run := by
  obtain ⟨front, name, e, inside⟩ := h
  obtain ⟨mid, -, rfl⟩ | ⟨mid, rfl, e'⟩ := List.append_eq_append_iff.mp e
  · exact absurd (by simp) no
  · cases mid with
    | nil =>
      cases e'
      exact absurd (.head _) no
    | cons c mid =>
      cases e'
      exact ⟨⟨front, mid, rfl, fun x hx => inside x (List.mem_append_left _ hx)⟩,
        fun x hx => inside x (List.mem_append_right _ hx)⟩

/-- A character that belongs to no name ends the one before it. -/
lemma not_inName_concat {c : Char} (h : inReg c = false) (before : List Char) :
    ¬InName (before ++ [c]) := by
  intro inName
  have no : '$' ∉ [c] := by
    rw [List.mem_singleton]
    rintro rfl
    cases h
  rw [(inName_of_append inName no).2 c (.head _)] at h
  cases h

/-! ### Places between pieces -/

/-- No number and no name goes on from one text to the next. -/
structure Apart (before after : List Char) : Prop where
  number : ∀ c ∈ before.getLast?, inNumber c = true → StopsAt inNumber after
  name : InName before → StopsAt inReg after

variable {before piece after : List Char} {outcome : Except TokenError Token}

/-- Before a text there is nothing that could go on in it. -/
lemma apart_nil (after : List Char) : Apart [] after where
  number := nofun
  name := by
    rintro ⟨front, name, e, -⟩
    cases front <;> cases e

namespace Apart

/-- Nothing goes on behind a character that belongs neither to numbers nor to names. -/
lemma concat {c : Char} (number : inNumber c = false) (reg : inReg c = false)
    (before after : List Char) : Apart (before ++ [c]) after where
  number x hx inside := by
    rw [List.getLast?_concat] at hx
    cases hx
    rw [number] at inside
    cases inside
  name inName := absurd inName (not_inName_concat reg before)

/-- Where a name could go on and does not, there is none. -/
lemma outside {c : Char} (h : Apart before (c :: after)) (reg : inReg c = true) : ¬InName before := by
  intro inName
  rw [h.name inName c rfl] at reg
  cases reg

/-- What is there of a number at a place between pieces is all of it. -/
lemma maximal {run : List Char} (h : Apart before (run ++ after)) (ne : run ≠ [])
    (chars : AllIn inNumber run) (stop : StopsAt inNumber after) :
    ¬InName before ∧ Maximal inNumber before run after := by
  obtain ⟨c, run, rfl⟩ := List.exists_cons_of_ne_nil ne
  have number := chars c (.head _)
  refine ⟨h.outside (inReg_of_inNumber number), ne, chars, fun x hx => ?_, stop⟩
  by_contra inside
  rw [h.number x hx (by simpa using inside) c rfl] at number
  cases number

section
variable {front back : List Char} (h : Apart (before ++ front) (back ++ after)) (neFront : front ≠ [])
  (neBack : back ≠ [])
include h neFront neBack

/-- A text over a place between pieces is no number. -/
lemma not_in_number : ¬AllIn inNumber (front ++ back) := by
  intro chars
  obtain ⟨init, a, rfl⟩ := (List.eq_nil_or_concat front).resolve_left neFront
  obtain ⟨b, back, rfl⟩ := List.exists_cons_of_ne_nil neBack
  have goesOn := h.number a (by simp) (chars a (by simp)) b rfl
  rw [chars b (by simp)] at goesOn
  cases goesOn

/-- A text over a place between pieces is no name. -/
lemma not_in_name {name : List Char} (chars : AllIn inReg name) : front ++ back ≠ '$' :: name := by
  intro e
  obtain ⟨a, front, rfl⟩ := List.exists_cons_of_ne_nil neFront
  obtain ⟨b, back, rfl⟩ := List.exists_cons_of_ne_nil neBack
  cases e
  have inName : InName (before ++ '$' :: front) :=
    ⟨before, front, rfl, fun x hx => chars x (List.mem_append_left _ hx)⟩
  have goesOn := h.name inName b rfl
  rw [chars b (by simp)] at goesOn
  cases goesOn

end

end Apart

/-- A lexeme at a place between pieces is a piece. -/
lemma Piece.of_lexes (h : Lexes piece after outcome) (apart : Apart before (piece ++ after))
    (noGap : ∀ c ∈ piece.head?, isGap c = false) : Piece before piece after outcome := by
  cases h with
  | leftParen => exact .leftParen
  | rightParen => exact .rightParen
  | number literal stop =>
    obtain ⟨outside, long⟩ := apart.maximal literal.nonempty literal.chars stop
    exact .number outside long literal.reads
  | reg literal stop =>
    obtain ⟨name, rfl, chars⟩ := Reg.ofName_eq_ok literal
    exact .reg (apart.outside rfl) chars stop literal
  | badNumber ne chars stop bad =>
    obtain ⟨outside, long⟩ := apart.maximal ne chars stop
    exact .badNumber outside long bad
  | badReg chars stop bad => exact .badReg (apart.outside rfl) chars stop bad
  | badSymbol left right dollar number =>
    exact .badSymbol (fun inName => apart.name inName _ rfl) (noGap _ rfl) left right dollar number

/-- Of the characters between tokens each is a lexeme. -/
lemma Lexes.eq_of_isGap (h : Lexes piece after outcome) {c : Char} (hc : c ∈ piece.head?)
    (gap : isGap c = true) : piece = [c] := by
  have noNumber : ¬AllIn inNumber piece := by
    intro chars
    rw [not_isGap_of_inNumber (chars c (List.mem_of_mem_head? hc))] at gap
    cases gap
  cases h with
  | leftParen => cases hc; rfl
  | rightParen => cases hc; rfl
  | number literal => exact absurd literal.chars noNumber
  | reg literal =>
    obtain ⟨name, rfl, -⟩ := Reg.ofName_eq_ok literal
    cases hc
    cases gap
  | badNumber _ chars => exact absurd chars noNumber
  | badReg =>
    cases hc
    cases gap
  | badSymbol => cases hc; rfl

/-- A lexeme at the front of a text is the only one there. -/
lemma Lexes.unique {piece' after' : List Char} {outcome' : Except TokenError Token}
    (h : Lexes piece after outcome) (h' : Lexes piece' after' outcome')
    (e : piece ++ after = piece' ++ after') : piece = piece' ∧ after = after' ∧ outcome = outcome' := by
  obtain ⟨cut, reads⟩ | ⟨cut, one, bad⟩ := h.cut
  · obtain ⟨cut', reads'⟩ | ⟨cut', -, -⟩ := h'.cut
    · rw [e, cut'] at cut
      cases cut
      exact ⟨rfl, rfl, reads.symm.trans reads'⟩
    · rw [e, cut'] at cut
      cases cut
  · obtain ⟨cut', -⟩ | ⟨-, one', bad'⟩ := h'.cut
    · rw [e, cut'] at cut
      cases cut
    · obtain ⟨rfl, rfl⟩ := List.append_inj e (one.trans one'.symm)
      exact ⟨rfl, rfl, bad.trans bad'.symm⟩

/-- The text of a token is a lexeme without what comes after it, too. -/
lemma Lexes.alone {t : Token} (h : Lexes piece after (.ok t)) : Lexes piece [] (.ok t) := by
  cases h with
  | leftParen => exact .leftParen
  | rightParen => exact .rightParen
  | number literal => exact .number literal (stopsAt_nil _)
  | reg literal => exact .reg literal (stopsAt_nil _)

namespace Piece

/-- A piece is cut off as it is. -/
lemma lexes (h : Piece before piece after outcome) : Lexes piece after outcome := by
  cases h with
  | leftParen => exact .leftParen
  | rightParen => exact .rightParen
  | number _ long reads => exact .number ⟨long.nonempty, long.chars, reads⟩ long.right
  | badNumber _ long bad => exact .badNumber long.nonempty long.chars long.right bad
  | reg _ _ stop names => exact .reg names stop
  | badReg _ chars stop bad => exact .badReg chars stop bad
  | badSymbol _ _ left right dollar number => exact .badSymbol left right dollar number

/-- A piece is not empty. -/
lemma ne_nil (h : Piece before piece after outcome) : piece ≠ [] :=
  h.lexes.ne_nil

/-- Nothing goes on into a piece. -/
lemma apart (h : Piece before piece after outcome) : Apart before (piece ++ after) := by
  have number {run : List Char} (outside : ¬InName before) (long : Maximal inNumber before run after) :
      Apart before (run ++ after) := by
    refine ⟨fun c hc inside => ?_, fun inName => absurd inName outside⟩
    rw [long.left c hc] at inside
    cases inside
  cases h with
  | leftParen => exact ⟨fun _ _ _ => stopsAt_cons rfl _, fun _ => stopsAt_cons rfl _⟩
  | rightParen => exact ⟨fun _ _ _ => stopsAt_cons rfl _, fun _ => stopsAt_cons rfl _⟩
  | number outside long => exact number outside long
  | badNumber outside long => exact number outside long
  | reg outside => exact ⟨fun _ _ _ => stopsAt_cons rfl _, fun inName => absurd inName outside⟩
  | badReg outside => exact ⟨fun _ _ _ => stopsAt_cons rfl _, fun inName => absurd inName outside⟩
  | badSymbol outside _ _ _ _ number =>
    exact ⟨fun _ _ _ => stopsAt_cons number _, fun inName => stopsAt_cons (outside inName) _⟩

/-- A piece does not start with a gap. -/
lemma noGap (h : Piece before piece after outcome) : ∀ c ∈ piece.head?, isGap c = false := by
  intro c hc
  cases h with
  | leftParen => cases hc; rfl
  | rightParen => cases hc; rfl
  | number _ long => exact not_isGap_of_inNumber (long.chars c (List.mem_of_mem_head? hc))
  | badNumber _ long => exact not_isGap_of_inNumber (long.chars c (List.mem_of_mem_head? hc))
  | reg => cases hc; rfl
  | badReg => cases hc; rfl
  | badSymbol _ noGap => cases hc; exact noGap

/-- A text that starts with a piece does not start with a gap. -/
lemma front {c : Char} {rest more : List Char} (h : Piece before piece after outcome)
    (e : c :: rest = piece ++ more) : isGap c = false := by
  obtain ⟨d, piece, rfl⟩ := List.exists_cons_of_ne_nil h.ne_nil
  cases e
  exact h.noGap c rfl

/-- Nothing goes on after a token. -/
lemma next {t : Token} (h : Piece before piece after (.ok t)) : Apart (before ++ piece) after := by
  cases h with
  | leftParen => exact Apart.concat rfl rfl before after
  | rightParen => exact Apart.concat rfl rfl before after
  | number outside long =>
    refine ⟨fun _ _ _ => long.right, fun inName => absurd (inName_of_append inName ?_).1 outside⟩
    intro dollar
    exact (inNumber_ne (long.chars _ dollar)).2.2 rfl
  | reg _ chars stop =>
    refine ⟨fun _ _ _ c hc => ?_, fun _ => stop⟩
    by_contra inside
    have reg : inReg c = true := inReg_of_inNumber (by simpa using inside)
    rw [stop c hc] at reg
    cases reg

/-- Inside a piece there is no place between pieces. -/
lemma not_apart {front back : List Char} (h : Piece before piece after outcome)
    (e : piece = front ++ back) (neFront : front ≠ []) (neBack : back ≠ []) :
    ¬Apart (before ++ front) (back ++ after) := by
  intro apart
  have long : piece.length ≠ 1 := by
    have := List.length_pos_iff.2 neFront
    have := List.length_pos_iff.2 neBack
    rw [e, List.length_append]
    omega
  cases h with
  | leftParen => exact long rfl
  | rightParen => exact long rfl
  | number _ run => exact apart.not_in_number neFront neBack (e ▸ run.chars)
  | badNumber _ run => exact apart.not_in_number neFront neBack (e ▸ run.chars)
  | reg _ chars => exact apart.not_in_name neFront neBack chars e.symm
  | badReg _ chars => exact apart.not_in_name neFront neBack chars e.symm
  | badSymbol => exact long rfl

/-- Of two pieces of a text the second one starts where the first one does and is the same, or it starts
after the first one. -/
lemma same_or_after {front piece' after' : List Char} {outcome' : Except TokenError Token}
    (h : Piece before piece after outcome) (h' : Piece (before ++ front) piece' after' outcome')
    (e : piece ++ after = front ++ (piece' ++ after')) :
    (front = [] ∧ piece = piece' ∧ after = after' ∧ outcome = outcome') ∨
      ∃ mid, front = piece ++ mid ∧ after = mid ++ (piece' ++ after') := by
  by_cases start : front = []
  · subst start
    exact .inl ⟨rfl, h.lexes.unique h'.lexes e⟩
  · right
    obtain ⟨mid, rfl, rest⟩ | ⟨mid, inside, rest⟩ := List.append_eq_append_iff.mp e
    · exact ⟨mid, rfl, rest⟩
    · by_cases stop : mid = []
      · subst stop
        exact ⟨[], by simpa using inside.symm, by simpa using rest.symm⟩
      · exact absurd (rest ▸ h'.apart) (h.not_apart inside start stop)

end Piece

/-! ### Scanning -/

/-- A scan from a place between pieces finds gaps and tokens, up to the end or to the first error. -/
lemma tiles_scanFrom {cs : List Char} (apart : Apart before cs) :
    ∃ good rest, cs = good ++ rest ∧ Tiles before good rest (scanFrom (byteLength before) cs) := by
  induction cs using lexes_induction generalizing before with
  | nil =>
    refine ⟨[], [], rfl, ?_⟩
    rw [scanFrom]
    exact .done
  | cons lexeme after outcome lexes ih =>
    by_cases noGap : ∀ c ∈ lexeme.head?, isGap c = false
    · have piece := Piece.of_lexes lexes apart noGap
      cases outcome with
      | error why =>
        rw [lexes.scanFrom_error noGap]
        exact ⟨[], _, rfl, .stuck piece⟩
      | ok t =>
        obtain ⟨good, rest, rfl, tiles⟩ := ih piece.next
        refine ⟨lexeme ++ good, rest, (List.append_assoc ..).symm, ?_⟩
        rw [lexes.scanFrom_ok noGap, ← byteLength_append]
        exact .token piece tiles
    · push Not at noGap
      obtain ⟨c, hc, gap⟩ := noGap
      have gap : isGap c = true := by simpa using gap
      cases lexes.eq_of_isGap hc gap
      obtain ⟨good, rest, rfl, tiles⟩ := ih (Apart.concat (of_isGap gap).1 (of_isGap gap).2 before _)
      refine ⟨c :: good, rest, rfl, ?_⟩
      rw [List.singleton_append, scanFrom_gap gap]
      simpa using Tiles.gap gap tiles

/-! ### Tokens of a text -/

/-- There is no token in an empty text. -/
lemma not_hasToken_nil {rest : List Char} {l : Lexeme} : ¬HasToken before [] rest l := by
  rintro ⟨front, piece, back, e, isPiece, -⟩
  rw [eq_comm, List.append_assoc, List.append_eq_nil_iff, List.append_eq_nil_iff] at e
  exact isPiece.ne_nil e.2.1

/-- A gap at the front of a text is in no token of it. -/
lemma hasToken_cons_of_isGap {c : Char} (gap : isGap c = true) {good rest : List Char} {l : Lexeme} :
    HasToken before (c :: good) rest l ↔ HasToken (before ++ [c]) good rest l := by
  constructor
  · rintro ⟨front, piece, back, e, isPiece, span⟩
    cases front with
    | nil =>
      rw [isPiece.front e] at gap
      cases gap
    | cons d front =>
      cases e
      exact ⟨front, piece, back, rfl, by simpa using isPiece, by simpa using span⟩
  · rintro ⟨front, piece, back, rfl, isPiece, span⟩
    exact ⟨c :: front, piece, back, rfl, by simpa using isPiece, by simpa using span⟩

/-- The tokens of a text that starts with a token are this one and those of the rest. -/
lemma Piece.hasToken_append {good rest : List Char} {t : Token} {l : Lexeme}
    (h : Piece before piece (good ++ rest) (.ok t)) :
    HasToken before (piece ++ good) rest l ↔
      l = ⟨t, ⟨byteLength before, byteLength (before ++ piece)⟩⟩ ∨
        HasToken (before ++ piece) good rest l := by
  constructor
  · rintro ⟨front, piece', back, e, isPiece, span⟩
    have whole : piece ++ (good ++ rest) = front ++ (piece' ++ (back ++ rest)) := by
      rw [← List.append_assoc, e]
      simp
    obtain ⟨rfl, rfl, -, same⟩ | ⟨mid, rfl, -⟩ := h.same_or_after isPiece whole
    · left
      obtain ⟨token, place⟩ := l
      cases same
      cases span
      simp
    · right
      rw [List.append_assoc, List.append_assoc, List.append_cancel_left_eq, ← List.append_assoc] at e
      exact ⟨mid, piece', back, e, by simpa using isPiece, by simpa using span⟩
  · rintro (rfl | ⟨front, piece', back, rfl, isPiece, span⟩)
    · exact ⟨[], piece, good, rfl, by simpa using h, by simp⟩
    · exact ⟨piece ++ front, piece', back, by simp, by simpa using isPiece, by simpa using span⟩

namespace HasToken
variable {text rest : List Char} {l : Lexeme}

/-- A token has a byte at least. -/
lemma nonempty (h : HasToken before text rest l) : l.span.start < l.span.stop := by
  obtain ⟨front, piece, back, -, isPiece, span⟩ := h
  simp only [span, byteLength_append _ piece]
  exact Nat.lt_add_of_pos_right (byteLength_pos isPiece.ne_nil)

/-- A token does not start before its text. -/
lemma start_ge (h : HasToken before text rest l) : byteLength before ≤ l.span.start := by
  obtain ⟨front, piece, back, -, -, span⟩ := h
  rw [span, byteLength_append]
  exact Nat.le_add_right _ _

/-- A token is scanned as it is when it is the whole text. -/
lemma alone (h : HasToken [] text rest l) : ∃ piece, l.span.Covers (text ++ rest) piece ∧
    scan piece = ⟨[⟨l.token, ⟨0, byteLength piece⟩⟩], none⟩ := by
  obtain ⟨front, piece, back, rfl, isPiece, span⟩ := h
  refine ⟨piece, ⟨front, back ++ rest, by simp, span⟩, ?_⟩
  have scanned := isPiece.lexes.alone.scanFrom_ok isPiece.noGap 0
  rw [List.append_nil, scanFrom, Nat.zero_add] at scanned
  exact scanned

end HasToken

namespace Tiles
variable {good rest : List Char} {s : Scan}

/-- The lexemes of a scan are the tokens of the text. -/
lemma mem_lexemes_iff (h : Tiles before good rest s) {l : Lexeme} :
    l ∈ s.lexemes ↔ HasToken before good rest l := by
  induction h with
  | done => exact iff_of_false List.not_mem_nil not_hasToken_nil
  | stuck => exact iff_of_false List.not_mem_nil not_hasToken_nil
  | gap gap _ ih => rw [ih, hasToken_cons_of_isGap gap]
  | token isPiece _ ih => rw [Scan.cons, List.mem_cons, ih, isPiece.hasToken_append]

/-- The lexemes of a scan come from left to right. -/
lemma ordered (h : Tiles before good rest s) :
    s.lexemes.Pairwise fun l l' => l.span.stop ≤ l'.span.start := by
  induction h with
  | done => exact .nil
  | stuck => exact .nil
  | gap _ _ ih => exact ih
  | token _ tiles ih => exact .cons (fun l later => (tiles.mem_lexemes_iff.1 later).start_ge) ih

/-- Every character of a text is a gap or in a token. -/
lemma covered (h : Tiles before good rest s) {front : List Char} {c : Char} {back : List Char}
    (e : good = front ++ c :: back) :
    isGap c = true ∨ ∃ l ∈ s.lexemes, l.span.start ≤ byteLength (before ++ front) ∧
      byteLength (before ++ front) < l.span.stop := by
  induction h generalizing front with
  | done => simp at e
  | stuck => simp at e
  | gap gap _ ih =>
    cases front with
    | nil =>
      cases e
      exact .inl gap
    | cons d front =>
      cases e
      simpa using ih rfl
  | @token before piece good rest t s isPiece _ ih =>
    have later (mid : List Char) (e : good = mid ++ c :: back) (past : front = piece ++ mid) :
        isGap c = true ∨ ∃ l ∈ (s.cons ⟨t, ⟨byteLength before, byteLength (before ++ piece)⟩⟩).lexemes,
          l.span.start ≤ byteLength (before ++ front) ∧ byteLength (before ++ front) < l.span.stop := by
      obtain gap | ⟨l, mem, span⟩ := ih e
      · exact .inl gap
      · exact .inr ⟨l, .tail _ mem, by simpa [past] using span⟩
    obtain ⟨mid, past, e⟩ | ⟨mid, inside, e⟩ := List.append_eq_append_iff.mp e
    · exact later mid e past
    · by_cases stop : mid = []
      · subst stop
        exact later [] e.symm (by simpa using inside.symm)
      · refine .inr ⟨_, .head _, by simp, ?_⟩
        simpa [inside] using byteLength_pos stop

/-- A scan without an error goes up to the end of the text. -/
lemma clean (h : Tiles before good rest s) (ok : s.error? = none) : rest = [] := by
  induction h with
  | done => rfl
  | stuck => cases ok
  | gap _ _ ih => exact ih ok
  | token _ _ ih => exact ih ok

/-- A scan with an error stops at a piece that is no token, for this error. -/
lemma error (h : Tiles before good rest s) {why : TokenError} (e : s.error? = some why) :
    ∃ bad after, rest = bad ++ after ∧ Piece (before ++ good) bad after (.error why) := by
  induction h with
  | done => cases e
  | stuck bad =>
    cases e
    rw [List.append_nil]
    exact ⟨_, _, rfl, bad⟩
  | gap _ _ ih =>
    rw [List.append_cons]
    exact ih e
  | token _ _ ih =>
    rw [← List.append_assoc]
    exact ih e

/-- No piece before the rest is an error. -/
lemma first (h : Tiles before good rest s) {front bad after : List Char} {why : TokenError}
    (e : good ++ rest = front ++ (bad ++ after))
    (isPiece : Piece (before ++ front) bad after (.error why)) : good <+: front := by
  induction h generalizing front with
  | done => exact List.nil_prefix
  | stuck => exact List.nil_prefix
  | gap gap _ ih =>
    cases front with
    | nil =>
      rw [isPiece.front e] at gap
      cases gap
    | cons d front =>
      obtain ⟨rfl, e'⟩ := List.cons.inj e
      rw [List.cons_prefix_cons]
      exact ⟨rfl, ih e' (by simpa using isPiece)⟩
  | token isToken _ ih =>
    rw [List.append_assoc] at e
    obtain ⟨-, -, -, no⟩ | ⟨mid, rfl, rest⟩ := isToken.same_or_after isPiece e
    · cases no
    · rw [List.prefix_append_right_inj]
      exact ih rest (by simpa using isPiece)

end Tiles

/-- The tokens that a scan finds and the gaps between them make up the text, up to the first piece of it
that is no token. -/
theorem scan_tiling (text : List Char) : ∃ good rest, Tiling text (scan text) good rest := by
  obtain ⟨good, rest, rfl, tiles⟩ := tiles_scanFrom (apart_nil text)
  have tiles : Tiles [] good rest (scan (good ++ rest)) := tiles
  refine ⟨good, rest, ?_⟩
  constructor
  case whole => rfl
  case tokens => exact fun _ => tiles.mem_lexemes_iff
  case nonempty => exact fun _ mem => (tiles.mem_lexemes_iff.1 mem).nonempty
  case ordered => exact tiles.ordered
  case covered => exact fun _ _ _ e => tiles.covered e
  case alone => exact fun _ mem => (tiles.mem_lexemes_iff.1 mem).alone
  case clean => exact tiles.clean
  case error => exact fun _ e => tiles.error e
  case first =>
    intro before bad after why e isPiece
    rw [List.append_assoc] at e
    exact tiles.first e isPiece

end PocketMips.Token
