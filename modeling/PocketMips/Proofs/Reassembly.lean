import PocketMips.Proofs.Grammar
import PocketMips.Proofs.Lines
import PocketMips.Proofs.Numerals

/-!
# Programs are assembled again

An assembled program keeps the line of each instruction, without the white space at its ends. Such a
line is read like the line it came from, since the words of a text do not depend on the white space
around it; so the kept lines are assembled into the same program (`ofSource_sources`). The listing puts
columns after the kept lines. They are fields that nothing asks for, and what the operands are is
settled before them; so the listing is assembled into the same instructions (`ofSource_listing`).

`Instruction.Sourced` is what the two have in common: that an instruction is read from its own source,
and that its source is a line with nothing to trim.
-/

namespace PocketMips
open Text

/-! ### Trimmed texts -/

namespace Text

/-- A text that neither starts nor ends with white space. -/
structure Trimmed (cs : List Char) : Prop where
  head : ∀ c, cs.head? = some c → isBlank c = false
  last : ∀ c, cs.getLast? = some c → isBlank c = false

/-- A text that is trimmed at its start does not start with white space. -/
lemma head?_trimStart {cs : List Char} {c : Char} (h : (trimStart cs).head? = some c) :
    isBlank c = false := by
  have stop := List.head?_dropWhile_not isBlank cs
  unfold trimStart at h
  rw [h] at stop
  simpa using stop

/-- A text that does not start with white space has nothing to trim there. -/
lemma trimStart_eq_self {cs : List Char} (h : ∀ c, cs.head? = some c → isBlank c = false) :
    trimStart cs = cs := by
  cases cs with
  | nil => rfl
  | cons c cs => rw [trimStart_cons, if_neg (by simp [h c rfl])]

/-- White space is taken off the start of a text. -/
lemma exists_trimStart (cs : List Char) :
    ∃ front, allBlank front = true ∧ cs = front ++ trimStart cs := by
  refine ⟨cs.takeWhile isBlank, List.all_takeWhile, ?_⟩
  exact (List.takeWhile_append_dropWhile).symm

/-- White space is taken off the end of a text. -/
lemma exists_trimEnd (cs : List Char) :
    ∃ back, allBlank back = true ∧ cs = trimEnd cs ++ back := by
  obtain ⟨front, blank, e⟩ := exists_trimStart cs.reverse
  refine ⟨front.reverse, by simpa [allBlank] using blank, ?_⟩
  rw [trimEnd, ← List.reverse_append, ← e, List.reverse_reverse]

/-- White space is taken off the two ends of a text, and nothing else. -/
lemma exists_trim (cs : List Char) :
    ∃ front back, allBlank front = true ∧ allBlank back = true ∧ cs = front ++ trim cs ++ back := by
  obtain ⟨front, hfront, start⟩ := exists_trimStart cs
  obtain ⟨back, hback, stop⟩ := exists_trimEnd (trimStart cs)
  refine ⟨front, back, hfront, hback, ?_⟩
  rw [List.append_assoc, trim, ← stop]
  exact start

/-- To trim a text makes it trimmed. -/
lemma trimmed_trim (cs : List Char) : Trimmed (trim cs) where
  head := by
    intro c h
    obtain ⟨back, -, e⟩ := exists_trimEnd (trimStart cs)
    have start : (trimStart cs).head? = some c → isBlank c = false := head?_trimStart
    apply start
    -- What the end is taken off starts with the same character.
    rw [e, List.head?_append, show (trimEnd (trimStart cs)).head? = some c from h]
    rfl
  last := by
    intro c h
    rw [trim, trimEnd, List.getLast?_reverse] at h
    exact head?_trimStart h

/-- A trimmed text has nothing to trim. -/
lemma Trimmed.trim_eq {cs : List Char} (h : Trimmed cs) : trim cs = cs := by
  have stop : trimStart cs.reverse = cs.reverse := by
    apply trimStart_eq_self
    intro c last
    rw [List.head?_reverse] at last
    exact h.last c last
  rw [trim, trimStart_eq_self h.head, trimEnd, stop, List.reverse_reverse]

/-- There is no comma in white space to be deleted. -/
lemma filter_comma_of_allBlank {cs : List Char} (h : allBlank cs = true) :
    cs.filter (· != ',') = cs := by
  rw [List.filter_eq_self]
  intro c hc
  have blank : isBlank c = true := List.all_eq_true.1 h c hc
  rw [bne_iff_ne]
  rintro rfl
  cases blank

/-- Trimming a line does not change its words. -/
lemma pieces_trim (line : List Char) :
    pieces ((trim line).filter (· != ',')) = pieces (line.filter (· != ',')) := by
  obtain ⟨front, back, hfront, hback, e⟩ := exists_trim line
  have whole : line.filter (· != ',') = front ++ (trim line).filter (· != ',') ++ back := by
    conv_lhs => rw [e]
    rw [List.filter_append, List.filter_append, filter_comma_of_allBlank hfront,
      filter_comma_of_allBlank hback]
  rw [whole, pieces_between hfront hback]

end Text

/-! ### Kept lines -/

/-- Words after a sentence do not change what it says. -/
lemma Sentence.append {ws : List (List Char)} {i : Instr} (h : Sentence ws i)
    (more : List (List Char)) : Sentence (ws ++ more) i := by
  cases h with
  | reg spells ha hb hc => exact .reg spells ha hb hc
  | imm spells ha hb hc => exact .imm spells ha hb hc
  | mem spells ha hb => exact .mem spells ha hb
  | jump spells ha => exact .jump spells ha
  | branch spells ha hb hc => exact .branch spells ha hb hc
  | nop spells => exact .nop spells
  | exit spells => exact .exit spells

/-- A line with an instruction is not blank. -/
lemma SourceLine.notBlank_of_decode {line : List Char} {i : Instr} (h : decode line = .ok i) :
    allBlank line = false := by
  have sentence := decode_eq_ok_iff.1 h
  by_contra blank
  rw [Bool.not_eq_false] at blank
  rw [filter_comma_of_allBlank blank, pieces_of_allBlank blank] at sentence
  cases sentence

/-- An instruction whose source is a trimmed line from which it is read. -/
structure Instruction.Sourced (i : Instruction) : Prop where
  decodes : SourceLine.decode i.source = .ok i.instr
  trimmed : Trimmed i.source
  noFeed : '\n' ∉ i.source

namespace Instruction
variable {i : Instruction}

/-- An instruction that is read from a line has a source in one line. -/
lemma sourced_of_parse {line : List Char} (noFeed : '\n' ∉ line)
    (h : SourceLine.parse line = .ok i) : i.Sourced := by
  obtain ⟨instr, decodes, rfl⟩ := map_eq_ok_iff.1 h
  refine ⟨?decodes, trimmed_trim line, ?noFeed⟩
  case decodes =>
    show SourceLine.decode (trim line) = .ok instr
    rw [SourceLine.decode_eq_ok_iff] at decodes ⊢
    rwa [pieces_trim]
  case noFeed =>
    intro mem
    obtain ⟨front, back, -, -, e⟩ := exists_trim line
    apply noFeed
    rw [e]
    exact List.mem_append_left _ (List.mem_append_right _ mem)

namespace Sourced

/-- The source of an instruction does not end in a carriage return. -/
lemma noReturn (h : i.Sourced) : i.source.getLast? ≠ some '\r' := by
  intro last
  cases h.trimmed.last _ last

/-- The source is accepted as a line, with the instruction itself. -/
lemma accepts (h : i.Sourced) : Assembly.Accepts i.source i := by
  refine ⟨SourceLine.notBlank_of_decode h.decodes, ?_⟩
  rw [SourceLine.parse, h.decodes, h.trimmed.trim_eq]
  rfl

/-- The source of an instruction is not empty. -/
lemma source_ne_nil (h : i.Sourced) : i.source ≠ [] := by
  intro e
  have notBlank := h.accepts.1
  rw [e] at notBlank
  cases notBlank

end Sourced

end Instruction

/-- Each instruction of an assembled program has its source. -/
lemma Assembly.sourced_of_mem {source : List Char} {i : Instruction}
    (h : i ∈ (ofSource source).program.toList) : i.Sourced := by
  obtain ⟨line, mem, parses⟩ := exists_line h
  exact Instruction.sourced_of_parse (noFeed_of_mem_lines mem) parses

/-- The sources of all instructions, one on each line. -/
def Program.sources (p : Program) : List Char :=
  ['\n'].intercalate (p.toList.map Instruction.source)

/-- The kept sources of an assembled program are assembled into the same program with the same sources,
and no line is set aside. -/
theorem ofSource_sources (source : List Char) :
    Assembly.ofSource (Assembly.ofSource source).program.sources =
      ⟨(Assembly.ofSource source).program, []⟩ := by
  have sourced : ∀ i ∈ (Assembly.ofSource source).program.toList, i.Sourced :=
    fun _ => Assembly.sourced_of_mem
  generalize (Assembly.ofSource source).program = program at sourced ⊢
  have lines : Text.lines program.sources = program.toList.map Instruction.source := by
    apply lines_intercalate
    intro t ht
    obtain ⟨i, mem, rfl⟩ := List.mem_map.1 ht
    have h := sourced i mem
    exact ⟨h.source_ne_nil, h.noFeed, h.noReturn⟩
  have accepts : List.Forall₂ Assembly.Accepts (Text.lines program.sources) program.toList := by
    rw [lines, List.forall₂_map_left_iff, List.forall₂_same]
    exact fun i mem => (sourced i mem).accepts
  exact Assembly.ofSource_of_accepts accepts

/-! ### Listings -/

/-- Blanks in front of a text that is empty or starts with a blank. -/
lemma Text.blanks_append (k : Nat) {cs : List Char} (h : cs = [] ∨ ∃ rest, cs = ' ' :: rest) :
    List.replicate k ' ' ++ cs = [] ∨ ∃ rest, List.replicate k ' ' ++ cs = ' ' :: rest := by
  cases k with
  | zero => exact h
  | succ k => exact .inr ⟨_, rfl⟩

/-- A written immediate ends no line. -/
lemma Imm.noBreak_text (v : Imm) : ∀ c ∈ v.text, c ≠ '\n' ∧ c ≠ '\r' := by
  intro c hc
  obtain digit | rfl := Imm.mem_text hc
  · constructor
    · rintro rfl
      cases digit
    · rintro rfl
      cases digit
  · decide

namespace Instruction
variable {i : Instruction}

/-- A row is the source and columns, which start with a blank if there are any and end no line. -/
lemma exists_columns (i : Instruction) : ∃ columns, i.row = i.source ++ columns ∧
    (columns = [] ∨ ∃ rest, columns = ' ' :: rest) ∧ ∀ c ∈ columns, c ≠ '\n' ∧ c ≠ '\r' := by
  have filled : ∀ c ∈ List.replicate (25 - i.source.length) ' ', c ≠ '\n' ∧ c ≠ '\r' := by
    intro c hc
    rw [(List.mem_replicate.1 hc).2]
    decide
  unfold row padEnd
  split
  case h_1 =>
    refine ⟨_, rfl, ?_, filled⟩
    rw [← List.append_nil (List.replicate _ _)]
    exact blanks_append _ (.inl rfl)
  case h_2 =>
    have title : ∀ c ∈ " (imm: ".toList, c ≠ '\n' ∧ c ≠ '\r' := by simp
    refine ⟨List.replicate (25 - i.source.length) ' ' ++
      (" (imm: ".toList ++ (i.instr.immediate.text ++ [')'])), ?_, ?_, ?_⟩
    · simp only [List.append_assoc]
    · exact blanks_append _ (.inr ⟨_, rfl⟩)
    · simp only [List.mem_append, List.mem_singleton]
      rintro c (hc | hc | hc | rfl)
      · exact filled c hc
      · exact title c hc
      · exact i.instr.immediate.noBreak_text c hc
      · decide

namespace Sourced

/-- A row is read like the source that it starts with. -/
lemma decode_row (h : i.Sourced) : SourceLine.decode i.row = .ok i.instr := by
  have sentence := SourceLine.decode_eq_ok_iff.1 h.decodes
  rw [SourceLine.decode_eq_ok_iff]
  obtain ⟨columns, e, rfl | ⟨rest, rfl⟩, -⟩ := i.exists_columns
  · rwa [e, List.append_nil]
  · have blank : isBlank ' ' = true := by decide
    rw [e, List.filter_append, List.filter_cons_of_pos (by decide), pieces_append_cons blank]
    exact sentence.append _

/-- The row of an instruction is a line of a listing as it stands. -/
lemma row_is_line (h : i.Sourced) : '\n' ∉ i.row ∧ i.row.getLast? ≠ some '\r' := by
  obtain ⟨columns, e, -, noBreak⟩ := i.exists_columns
  rw [e]
  constructor
  · rw [List.mem_append]
    rintro (mem | mem)
    · exact h.noFeed mem
    · exact (noBreak _ mem).1 rfl
  · intro last
    rw [List.getLast?_append] at last
    cases stop : columns.getLast? with
    | none =>
      rw [stop] at last
      exact h.noReturn last
    | some c =>
      rw [stop] at last
      cases last
      exact (noBreak _ (List.mem_of_getLast? stop)).2 rfl

/-- A row is accepted as a line, with the same decoded instruction. -/
lemma accepts_row (h : i.Sourced) : Assembly.Accepts i.row ⟨trim i.row, i.instr⟩ := by
  refine ⟨SourceLine.notBlank_of_decode h.decode_row, ?_⟩
  rw [SourceLine.parse, h.decode_row]
  rfl

end Sourced

end Instruction

/-- The listing of an assembled program is assembled into as many instructions, each decoded like the one
that its row shows, and no line is set aside. -/
theorem ofSource_listing (source : List Char) :
    ∃ again : Program,
      Assembly.ofSource (Assembly.ofSource source).program.listing = ⟨again, []⟩ ∧
      again.size = (Assembly.ofSource source).program.size ∧
      ∀ index, (again.get? index).map Instruction.instr =
        ((Assembly.ofSource source).program.get? index).map Instruction.instr := by
  have sourced : ∀ i ∈ (Assembly.ofSource source).program.toList, i.Sourced :=
    fun _ => Assembly.sourced_of_mem
  generalize (Assembly.ofSource source).program = program at sourced ⊢
  have lines : Text.lines program.listing = program.toList.map Instruction.row := by
    have rows : program.listing = (program.toList.map Instruction.row).flatMap (· ++ ['\n']) := by
      rw [Program.listing, List.flatMap_map]
    rw [rows]
    apply lines_flatMap
    intro t ht
    obtain ⟨i, mem, rfl⟩ := List.mem_map.1 ht
    exact (sourced i mem).row_is_line
  have accepts : List.Forall₂ Assembly.Accepts (Text.lines program.listing)
      (program.toList.map fun i => ⟨trim i.row, i.instr⟩) := by
    rw [lines, List.forall₂_map_left_iff, List.forall₂_map_right_iff, List.forall₂_same]
    exact fun i mem => (sourced i mem).accepts_row
  refine ⟨_, Assembly.ofSource_of_accepts accepts, ?size, ?instrs⟩
  case size => simp [Program.size, Program.ofList, Program.toList]
  case instrs =>
    intro index
    simp [Program.get?, Program.ofList, Program.toList, Function.comp_def]

end PocketMips
