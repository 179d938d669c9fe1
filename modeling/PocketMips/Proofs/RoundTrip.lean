import PocketMips.Proofs.Grammar
import PocketMips.Proofs.Lines
import PocketMips.Proofs.Numerals
import PocketMips.Proofs.RegisterNames

/-!
# Written instructions are read back

The written form of an instruction is a sentence of the grammar for the same instruction. Its words are
solid texts, so deleting the commas of the written form and splitting it at its blanks gives back the
mnemonic and the operands as they were written.

The main statement is `ofSource_written`: the written forms of any instructions, one on each line, are
assembled into these instructions.
-/

namespace PocketMips
open Text Token

/-! ### Solid texts -/

/-- A text that neither white space nor commas can break. -/
structure Solid (text : List Char) : Prop where
  nonempty : text ≠ []
  blankFree : ∀ c ∈ text, isBlank c = false
  commaFree : ∀ c ∈ text, (c != ',') = true

/-- Tests whether a text is solid. -/
def isSolid (text : List Char) : Bool :=
  !text.isEmpty && text.all fun c => !isBlank c && c != ','

namespace Solid

/-- A text that passes the test is solid. -/
lemma of_isSolid {text : List Char} (h : isSolid text = true) : Solid text := by
  simp only [isSolid, Bool.and_eq_true, Bool.not_eq_true', List.all_eq_true] at h
  obtain ⟨ne, chars⟩ := h
  exact ⟨List.isEmpty_eq_false_iff.1 ne, fun c hc => (chars c hc).1, fun c hc => (chars c hc).2⟩

/-- The names of the mnemonics are solid. -/
lemma mnemonic (m : Mnemonic) : Solid m.name.toList := by
  have all : Mnemonic.all.all (fun m => isSolid m.name.toList) = true := by decide
  exact of_isSolid (List.all_eq_true.1 all m m.mem_all)

/-- The texts of the registers are solid. -/
lemma reg (r : Reg) : Solid r.text := by
  have all : ∀ r : Reg, isSolid r.text = true := by decide
  exact of_isSolid (all r)

/-- The texts of the constants are solid. -/
lemma imm (v : Imm) : Solid v.text where
  nonempty := v.numberLiteral_text.nonempty
  blankFree := by
    intro c hc
    obtain digit | rfl := Imm.mem_text hc
    · have outside := inReg_of_isDigit digit
      simp only [inReg, Bool.not_eq_true', Bool.or_eq_false_iff] at outside
      exact outside.2
    · decide
  commaFree := by
    intro c hc
    rw [bne_iff_ne]
    rintro rfl
    obtain digit | no := Imm.mem_text hc
    · cases digit
    · cases no

/-- There is no white space in a solid text. -/
lemma notMem_of_blank {t : List Char} (h : Solid t) {c : Char} (blank : isBlank c = true) : c ∉ t := by
  intro here
  rw [h.blankFree c here] at blank
  cases blank

/-- Solid texts make up a solid text. -/
lemma append {s t : List Char} (hs : Solid s) (ht : Solid t) : Solid (s ++ t) where
  nonempty := List.append_ne_nil_of_left_ne_nil hs.nonempty t
  blankFree := by
    intro c hc
    cases List.mem_append.1 hc with
    | inl hc => exact hs.blankFree c hc
    | inr hc => exact ht.blankFree c hc
  commaFree := by
    intro c hc
    cases List.mem_append.1 hc with
    | inl hc => exact hs.commaFree c hc
    | inr hc => exact ht.commaFree c hc

/-- Deleting commas leaves a solid text as it is. -/
lemma filter_eq {t : List Char} (h : Solid t) : t.filter (· != ',') = t :=
  List.filter_eq_self.2 h.commaFree

/-- A solid text in front of a blank is a piece of its own. -/
lemma pieces_blank {t : List Char} (h : Solid t) (rest : List Char) :
    pieces ((t ++ ' ' :: rest).filter (· != ',')) = t :: pieces (rest.filter (· != ',')) := by
  rw [List.filter_append, h.filter_eq, List.filter_cons_of_pos (by decide)]
  exact pieces_append_blank h.nonempty h.blankFree (by decide) _

/-- A solid text is the only piece of itself. -/
lemma pieces_self {t : List Char} (h : Solid t) : pieces (t.filter (· != ',')) = [t] := by
  rw [h.filter_eq]
  exact pieces_of_noBlank h.nonempty h.blankFree

/-- Solid texts with commas and blanks between them are the pieces without the commas. -/
lemma pieces_intercalate {ts : List (List Char)} (h : ∀ t ∈ ts, Solid t) :
    pieces (([',', ' '].intercalate ts).filter (· != ',')) = ts := by
  induction ts with
  | nil => simp
  | cons t ts ih =>
    have ht := h t (.head _)
    cases ts with
    | nil => rw [List.intercalate_singleton, ht.pieces_self]
    | cons u ts =>
      have split : [',', ' '].intercalate (t :: u :: ts) =
          t ++ ',' :: ' ' :: [',', ' '].intercalate (u :: ts) := by
        rw [List.intercalate_cons_cons, List.append_assoc]
        rfl
      -- The comma is deleted, and the blank behind it ends the piece.
      rw [split, List.filter_append, List.filter_cons_of_neg (by decide), ← List.filter_append,
        ht.pieces_blank, ih fun x hx => h x (.tail _ hx)]

/-- A solid text at the front keeps all white space behind it. -/
lemma trimStart_append {t : List Char} (h : Solid t) (rest : List Char) :
    trimStart (t ++ rest) = t ++ rest := by
  obtain ⟨c, cs, rfl⟩ := List.exists_cons_of_ne_nil h.nonempty
  rw [List.cons_append, trimStart_cons, if_neg (by simp [h.blankFree c (.head _)])]

/-- A solid text is solid from its end, too. -/
lemma reverse {t : List Char} (h : Solid t) : Solid t.reverse where
  nonempty := by simpa using h.nonempty
  blankFree := fun c hc => h.blankFree c (List.mem_reverse.1 hc)
  commaFree := fun c hc => h.commaFree c (List.mem_reverse.1 hc)

/-- A text with solid texts at its two ends has nothing to trim. -/
lemma trim_eq_self {cs t u front back : List Char} (ht : Solid t) (hu : Solid u)
    (start : cs = t ++ back) (stop : cs = front ++ u) : trim cs = cs := by
  have noStart : trimStart cs = cs := by
    rw [start]
    exact ht.trimStart_append back
  have noEnd : trimStart cs.reverse = cs.reverse := by
    rw [stop, List.reverse_append]
    exact hu.reverse.trimStart_append front.reverse
  rw [trim, noStart, trimEnd, noEnd, List.reverse_reverse]

/-- A row of solid texts ends with a solid text. -/
lemma exists_last {ts : List (List Char)} (ne : ts ≠ []) (h : ∀ t ∈ ts, Solid t) (sep : List Char) :
    ∃ front u, Solid u ∧ sep.intercalate ts = front ++ u := by
  induction ts with
  | nil => exact absurd rfl ne
  | cons t ts ih =>
    cases ts with
    | nil => exact ⟨[], t, h t (.head _), by simp⟩
    | cons u ts =>
      obtain ⟨front, last, solid, e⟩ := ih (List.cons_ne_nil _ _) fun x hx => h x (.tail _ hx)
      exact ⟨t ++ sep ++ front, last, solid, by rw [List.intercalate_cons_cons, e]; simp⟩

/-- The only white space in a row of solid texts is that between them. -/
lemma blank_of_mem_intercalate {ts : List (List Char)} (h : ∀ t ∈ ts, Solid t) {sep : List Char}
    {c : Char} (hc : c ∈ sep.intercalate ts) (blank : isBlank c = true) : c ∈ sep := by
  induction ts with
  | nil => cases hc
  | cons t ts ih =>
    have notHere : c ∉ t := (h t (.head _)).notMem_of_blank blank
    cases ts with
    | nil =>
      rw [List.intercalate_singleton] at hc
      exact absurd hc notHere
    | cons u ts =>
      rw [List.intercalate_cons_cons, List.mem_append, List.mem_append] at hc
      obtain (here | between) | later := hc
      · exact absurd here notHere
      · exact between
      · exact ih (fun x hx => h x (.tail _ hx)) later

end Solid

/-! ### Written instructions -/

/-- The text of a register is a literal of it. -/
lemma Reg.regLiteral_text (r : Reg) : RegLiteral r.text r :=
  r.ofName_text

namespace Instr

/-- The operands of an instruction are written as solid texts. -/
lemma solid_operandTexts (i : Instr) : ∀ t ∈ i.operandTexts, Solid t := by
  have left : Solid ['('] := .of_isSolid rfl
  have right : Solid [')'] := .of_isSolid rfl
  cases i with
  | reg op rd rs rt =>
    simp only [operandTexts, List.forall_mem_cons]
    exact ⟨.reg rd, .reg rs, .reg rt, nofun⟩
  | imm op dest src value =>
    simp only [operandTexts, List.forall_mem_cons]
    exact ⟨.reg dest, .reg src, .imm value, nofun⟩
  | mem op rt base offset =>
    simp only [operandTexts, List.forall_mem_cons]
    exact ⟨.reg rt, ((Solid.imm offset).append (left.append (.reg base))).append right, nofun⟩
  | jump target =>
    simp only [operandTexts, List.forall_mem_cons]
    exact ⟨.imm target, nofun⟩
  | branch rs rt target =>
    simp only [operandTexts, List.forall_mem_cons]
    exact ⟨.reg rs, .reg rt, .imm target, nofun⟩
  | nop => exact nofun
  | exit => exact nofun

/-- The words of a written instruction are its mnemonic and its operands. -/
lemma pieces_text (i : Instr) :
    pieces (i.text.filter (· != ',')) = i.mnemonic.name.toList :: i.operandTexts := by
  have solid := i.solid_operandTexts
  have name := Solid.mnemonic i.mnemonic
  unfold text
  cases e : i.operandTexts with
  | nil => exact name.pieces_self
  | cons t ts =>
    rw [e] at solid
    simp only
    rw [name.pieces_blank, Solid.pieces_intercalate solid]

/-- A written instruction is a sentence for the instruction. -/
lemma sentence_text (i : Instr) : Sentence (pieces (i.text.filter (· != ','))) i := by
  rw [pieces_text]
  have spells : Spells i.mnemonic.name.toList i.mnemonic := i.mnemonic.name_small
  cases i with
  | reg op rd rs rt =>
    exact .reg spells rd.regLiteral_text rs.regLiteral_text rt.regLiteral_text
  | imm op dest src value =>
    exact .imm spells dest.regLiteral_text src.regLiteral_text value.numberLiteral_text
  | mem op rt base offset =>
    exact .mem spells rt.regLiteral_text (.indexed offset.numberLiteral_text base.regLiteral_text)
  | jump target => exact .jump spells target.numberLiteral_text
  | branch rs rt target =>
    exact .branch spells rs.regLiteral_text rt.regLiteral_text target.numberLiteral_text
  | nop => exact .nop spells
  | exit => exact .exit spells

/-- A written instruction starts with its mnemonic. -/
lemma text_eq_append (i : Instr) : ∃ back, i.text = i.mnemonic.name.toList ++ back := by
  unfold text
  cases i.operandTexts with
  | nil => exact ⟨[], by simp⟩
  | cons t ts => exact ⟨_, rfl⟩

/-- There is nothing to trim from a written instruction. -/
lemma trim_text (i : Instr) : trim i.text = i.text := by
  have solid := i.solid_operandTexts
  have name := Solid.mnemonic i.mnemonic
  obtain ⟨back, start⟩ := i.text_eq_append
  -- Without operands the mnemonic is both ends of the text.
  cases e : i.operandTexts with
  | nil =>
    have stop : i.text = [] ++ i.mnemonic.name.toList := by simp [text, e]
    exact Solid.trim_eq_self name name start stop
  | cons t ts =>
    rw [e] at solid
    obtain ⟨front, last, hlast, row⟩ := Solid.exists_last (List.cons_ne_nil _ _) solid [',', ' ']
    have stop : i.text = (i.mnemonic.name.toList ++ ' ' :: front) ++ last := by
      simp only [text, e, row, List.append_assoc, List.cons_append]
    exact Solid.trim_eq_self name hlast start stop

/-- The only white space in a written instruction are blanks. -/
lemma blank_of_mem_text {i : Instr} {c : Char} (hc : c ∈ i.text) (blank : isBlank c = true) :
    c = ' ' := by
  have solid := i.solid_operandTexts
  have notName : c ∉ i.mnemonic.name.toList := (Solid.mnemonic i.mnemonic).notMem_of_blank blank
  unfold text at hc
  cases e : i.operandTexts with
  | nil =>
    rw [e] at hc
    exact absurd hc notName
  | cons t ts =>
    rw [e] at hc solid
    -- The mnemonic has none; a blank follows it, and the operands have only the blanks between them.
    obtain here | later := List.mem_append.1 hc
    · exact absurd here notName
    · cases later with
      | head => rfl
      | tail _ row =>
        have between := Solid.blank_of_mem_intercalate solid row blank
        cases between with
        | head => cases blank
        | tail _ h => exact List.mem_singleton.1 h

/-- A written instruction fits on a line. -/
lemma text_is_line (i : Instr) :
    i.text ≠ [] ∧ '\n' ∉ i.text ∧ i.text.getLast? ≠ some '\r' := by
  refine ⟨?_, ?_, ?_⟩
  · obtain ⟨back, e⟩ := i.text_eq_append
    rw [e]
    exact List.append_ne_nil_of_left_ne_nil (Solid.mnemonic i.mnemonic).nonempty back
  · intro h
    exact absurd (blank_of_mem_text h (by decide)) (by decide)
  · intro h
    exact absurd (blank_of_mem_text (List.mem_of_getLast? h) (by decide)) (by decide)

/-- A written instruction is accepted as a line, with itself as its source. -/
lemma accepts_text (i : Instr) : Assembly.Accepts i.text ⟨i.text, i⟩ := by
  constructor
  · obtain ⟨back, e⟩ := i.text_eq_append
    obtain ⟨c, cs, name⟩ := List.exists_cons_of_ne_nil (Solid.mnemonic i.mnemonic).nonempty
    have solid := (Solid.mnemonic i.mnemonic).blankFree c (by rw [name]; exact .head _)
    rw [e, name, allBlank, List.cons_append, List.all_cons, solid, Bool.false_and]
  · unfold SourceLine.parse
    rw [SourceLine.decode_eq_ok_iff.2 i.sentence_text, i.trim_text]
    rfl

end Instr

/-- The written forms of instructions, one on each line, are assembled into these instructions with
these sources, and no line is set aside. -/
theorem ofSource_written (is : List Instr) :
    Assembly.ofSource (['\n'].intercalate (is.map Instr.text)) =
      ⟨.ofList (is.map fun i => ⟨i.text, i⟩), []⟩ := by
  have lines : Text.lines (['\n'].intercalate (is.map Instr.text)) = is.map Instr.text := by
    apply lines_intercalate
    intro t ht
    obtain ⟨i, -, rfl⟩ := List.mem_map.1 ht
    exact i.text_is_line
  apply Assembly.ofSource_of_accepts
  rw [lines, List.forall₂_map_left_iff, List.forall₂_map_right_iff, List.forall₂_same]
  exact fun i _ => i.accepts_text

end PocketMips
