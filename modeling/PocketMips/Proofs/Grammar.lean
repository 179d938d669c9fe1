import PocketMips.Proofs.Literals
import PocketMips.Proofs.Words

/-!
# The grammar of the dialect

A line is a sentence of the dialect if its words, taken after all commas are deleted, are a mnemonic
and the literals that it wants; further words may follow. `Sentence` gives one rule to each category of
mnemonics and says nothing of tokens or of places in the line.

The main statement is `parse_eq_ok_iff`: a line is accepted exactly if it is a sentence, and what it
gives is the instruction of the sentence. Its proof climbs from literals to operands, to layouts, and
to lines.
-/

namespace PocketMips
open Text Token

/-- The text is the spelling of a mnemonic, up to the case of the letters A to Z. -/
def Spells (text : List Char) (m : Mnemonic) : Prop :=
  text.map Char.toLower = m.name.toList

/-- The words are a mnemonic, its operands and anything after them. -/
inductive Sentence : List (List Char) → Instr → Prop where
  | reg {word op a b c rd rs rt rest} :
    Spells word (.reg op) →
    RegLiteral a rd →
    RegLiteral b rs →
    RegLiteral c rt →
    Sentence (word :: a :: b :: c :: rest) (.reg op rd rs rt)
  | imm {word op a b c dest src value rest} :
    Spells word (.imm op) →
    RegLiteral a dest →
    RegLiteral b src →
    NumberLiteral c value →
    Sentence (word :: a :: b :: c :: rest) (.imm op dest src value)
  | mem {word op a b rt base offset rest} :
    Spells word (.mem op) →
    RegLiteral a rt →
    PlaceLiteral b base offset →
    Sentence (word :: a :: b :: rest) (.mem op rt base offset)
  | jump {word a target rest} :
    Spells word .jump →
    NumberLiteral a target →
    Sentence (word :: a :: rest) (.jump target)
  | branch {word a b c rs rt target rest} :
    Spells word .branch →
    RegLiteral a rs →
    RegLiteral b rt →
    NumberLiteral c target →
    Sentence (word :: a :: b :: c :: rest) (.branch rs rt target)
  | nop {word rest} :
    Spells word .nop →
    Sentence (word :: rest) .nop
  | exit {word rest} :
    Spells word .exit →
    Sentence (word :: rest) .exit

/-! ### Spellings -/

namespace Mnemonic

/-- The names of the mnemonics are in lower case. -/
lemma name_small (m : Mnemonic) : m.name.toList.map Char.toLower = m.name.toList := by
  have all : ∀ m ∈ all, m.name.toList.map Char.toLower = m.name.toList := by decide
  exact all m (mem_all m)

/-- Mnemonics are told apart by their names. -/
lemma name_injective {m n : Mnemonic} (h : m.name.toList = n.name.toList) : m = n := by
  have all : ∀ m ∈ all, ∀ n ∈ all, m.name.toList = n.name.toList → m = n := by decide
  exact all m (mem_all m) n (mem_all n) h

/-- A mnemonic is found by its spellings and by nothing else. -/
lemma ofName?_eq_some_iff {text : List Char} {m : Mnemonic} :
    ofName? text = some m ↔ Spells text m := by
  have same (n : Mnemonic) : sameLetters n.name.toList text = true ↔ Spells text n := by
    rw [sameLetters_iff, smallLetters, smallLetters, name_small, eq_comm]
    rfl
  unfold ofName?
  constructor
  · intro h
    have found := List.find?_some h
    exact (same m).1 found
  · intro h
    cases e : all.find? fun n => sameLetters n.name.toList text with
    | none =>
      have no := List.find?_eq_none.1 e m (mem_all m)
      exact absurd ((same m).2 h) no
    | some n =>
      have found := List.find?_some e
      rw [name_injective (((same n).1 found).symm.trans h)]

end Mnemonic

/-! ### Operands -/

namespace Operand

/-- The tokens that form an operand. -/
def tokens : Operand → List Token
  | .reg r => [.reg r]
  | .imm value => [.number value]
  | .mem offset base => [.number offset, .leftParen, .reg base, .rightParen]

/-- An operand is formed by its tokens and by no others. -/
lemma ofTokens_eq_ok_iff {ts : List Token} {o : Operand} : ofTokens ts = .ok o ↔ ts = o.tokens := by
  constructor
  · intro h
    unfold ofTokens at h
    split at h
    · cases h
      rfl
    · cases h
      rfl
    · cases h
      rfl
    · cases h
    · cases h
  · rintro rfl
    cases o <;> rfl

/-- An operand is written in a text that has its tokens. -/
lemma ofText_eq_ok_iff {text : List Char} {o : Operand} :
    ofText text = .ok o ↔ Reads text o.tokens := by
  rw [← tokens_scan_iff]
  unfold ofText
  cases (scan text).tokens with
  | error why => simp
  | ok ts => simp [ofTokens_eq_ok_iff]

end Operand

/-- The text is a literal of the wanted kind. -/
def Want.Fits : (w : Want) → List Char → w.Value → Prop
  | .reg, text, r => RegLiteral text r
  | .imm, text, value => NumberLiteral text value
  | .mem, text, (base, offset) => PlaceLiteral text base offset

/-- The texts start with literals for a layout. -/
def FitsAll : (layout : List Want) → List (List Char) → Values layout → Prop
  | [], _, _ => True
  | _ :: _, [], _ => False
  | w :: ws, text :: texts, (value, values) => w.Fits text value ∧ FitsAll ws texts values

/-- The value that an operand has for a want. -/
lemma Want.value?_eq_some_iff {w : Want} {o : Operand} {v : w.Value} :
    w.value? o = some v ↔
      match w, v with
      | .reg, r => o = .reg r
      | .imm, value => o = .imm value
      | .mem, (base, offset) => o = .mem offset base ∨ (o = .reg base ∧ offset = 0) := by
  cases w with
  | reg => cases o <;> simp [Want.value?]
  | imm => cases o <;> simp [Want.value?]
  | mem =>
    obtain ⟨base, offset⟩ := v
    cases o with
    | reg r => simp [Want.value?, eq_comm]
    | imm value => simp [Want.value?]
    | mem offset' base' => simp [Want.value?, and_comm]

/-- A result is mapped only if there is one. -/
lemma map_eq_ok_iff {ε α β : Type} {f : α → β} {e : Except ε α} {b : β} :
    e.map f = .ok b ↔ ∃ a, e = .ok a ∧ f a = b := by
  cases e <;> simp [Except.map]

/-- What is done with a result does not change an error. -/
lemma map_eq_error_iff {ε α β : Type} {f : α → β} {e : Except ε α} {why : ε} :
    e.map f = .error why ↔ e = .error why := by
  cases e <;> simp [Except.map]

/-- A text without white space is a literal of the wanted kind if the operand written in it has a value
for the want. -/
lemma Want.fits_iff {w : Want} {text : List Char} {v : w.Value}
    (blankFree : ∀ c ∈ text, isBlank c = false) :
    w.Fits text v ↔ ∃ o, Operand.ofText text = .ok o ∧ w.value? o = some v := by
  simp only [Operand.ofText_eq_ok_iff, Want.value?_eq_some_iff]
  cases w with
  | reg => simpa [Want.Fits, Operand.tokens] using (reads_reg_iff blankFree).symm
  | imm => simpa [Want.Fits, Operand.tokens] using (reads_number_iff blankFree).symm
  | mem =>
    obtain ⟨base, offset⟩ := v
    constructor
    · intro h
      simp only [Want.Fits] at h
      cases h with
      | @indexed number reg _ _ hnumber hreg =>
        exact ⟨.mem offset base, (reads_place_iff blankFree).2 ⟨number, reg, rfl, hnumber, hreg⟩,
          .inl rfl⟩
      | bare hreg => exact ⟨.reg base, (reads_reg_iff blankFree).2 hreg, .inr ⟨rfl, rfl⟩⟩
    · rintro ⟨o, hreads, rfl | ⟨rfl, rfl⟩⟩
      · obtain ⟨number, reg, rfl, hnumber, hreg⟩ := (reads_place_iff blankFree).1 hreads
        exact .indexed hnumber hreg
      · exact .bare ((reads_reg_iff blankFree).1 hreads)

namespace SourceLine

/-- A field gives the value of the literal that it is. -/
lemma readField_eq_ok_iff {w : Want} {f : Field} {v : w.Value}
    (blankFree : ∀ c ∈ f.text, isBlank c = false) :
    readField w f = .ok v ↔ w.Fits f.text v := by
  rw [Want.fits_iff blankFree]
  unfold readField
  cases Operand.ofText f.text with
  | error problem => simp
  | ok o => cases h : w.value? o <;> simp [h]

/-- The first fields give the values of the literals that they are; the others do not count. -/
lemma readFields_eq_ok_iff {stop : Nat} {layout : List Want} {fs : List Field}
    {values : Values layout} (blankFree : ∀ f ∈ fs, ∀ c ∈ f.text, isBlank c = false) :
    readFields stop layout fs = .ok values ↔ FitsAll layout (fs.map Field.text) values := by
  induction layout generalizing fs with
  | nil => simp [readFields, FitsAll]
  | cons w ws ih =>
    cases fs with
    | nil => simp [readFields, FitsAll]
    | cons f fs =>
      obtain ⟨value, values⟩ := values
      have head : readField w f = .ok value ↔ w.Fits f.text value :=
        readField_eq_ok_iff (blankFree f (.head _))
      have tail : readFields stop ws fs = .ok values ↔ FitsAll ws (fs.map Field.text) values :=
        ih fun g hg => blankFree g (.tail _ hg)
      simp only [List.map_cons, FitsAll]
      rw [← head, ← tail]
      -- What is left says that a sequence of results is a result if each of them is.
      cases h : readField w f with
      | error e => simp [readFields, h, bind, Except.bind]
      | ok v =>
        cases h' : readFields stop ws fs with
        | error e => simp [readFields, h, h', bind, Except.bind]
        | ok vs => simp [readFields, h, h', bind, Except.bind, pure, Except.pure]

end SourceLine

/-- A sentence is a mnemonic and literals for its layout, built into an instruction. -/
lemma sentence_iff {word : List Char} {texts : List (List Char)} {i : Instr} :
    Sentence (word :: texts) i ↔
      ∃ m values, Spells word m ∧ FitsAll m.layout texts values ∧ m.build values = i := by
  constructor
  · intro h
    cases h with
    | @reg _ op _ _ _ rd rs rt _ spells ha hb hc =>
      exact ⟨.reg op, (rd, rs, rt, ()), spells, ⟨ha, hb, hc, trivial⟩, rfl⟩
    | @imm _ op _ _ _ dest src value _ spells ha hb hc =>
      exact ⟨.imm op, (dest, src, value, ()), spells, ⟨ha, hb, hc, trivial⟩, rfl⟩
    | @mem _ op _ _ rt base offset _ spells ha hb =>
      exact ⟨.mem op, (rt, (base, offset), ()), spells, ⟨ha, hb, trivial⟩, rfl⟩
    | @jump _ _ target _ spells ha => exact ⟨.jump, (target, ()), spells, ⟨ha, trivial⟩, rfl⟩
    | @branch _ _ _ _ rs rt target _ spells ha hb hc =>
      exact ⟨.branch, (rs, rt, target, ()), spells, ⟨ha, hb, hc, trivial⟩, rfl⟩
    | nop spells => exact ⟨.nop, (), spells, trivial, rfl⟩
    | exit spells => exact ⟨.exit, (), spells, trivial, rfl⟩
  · rintro ⟨m, values, spells, fits, rfl⟩
    cases m with
    | reg op =>
      obtain _ | ⟨a, _ | ⟨b, _ | ⟨c, rest⟩⟩⟩ := texts
      · exact fits.elim
      · exact fits.2.elim
      · exact fits.2.2.elim
      · exact .reg spells fits.1 fits.2.1 fits.2.2.1
    | imm op =>
      obtain _ | ⟨a, _ | ⟨b, _ | ⟨c, rest⟩⟩⟩ := texts
      · exact fits.elim
      · exact fits.2.elim
      · exact fits.2.2.elim
      · exact .imm spells fits.1 fits.2.1 fits.2.2.1
    | mem op =>
      obtain _ | ⟨a, _ | ⟨b, rest⟩⟩ := texts
      · exact fits.elim
      · exact fits.2.elim
      · exact .mem spells fits.1 fits.2.1
    | jump =>
      obtain _ | ⟨a, rest⟩ := texts
      · exact fits.elim
      · exact .jump spells fits.1
    | branch =>
      obtain _ | ⟨a, _ | ⟨b, _ | ⟨c, rest⟩⟩⟩ := texts
      · exact fits.elim
      · exact fits.2.elim
      · exact fits.2.2.elim
      · exact .branch spells fits.1 fits.2.1 fits.2.2.1
    | nop => exact .nop spells
    | exit => exact .exit spells

namespace SourceLine

/-- The text of a field has no white space. -/
lemma fields_blankFree {line : List Char} {f : Field} (h : f ∈ fields line) :
    ∀ c ∈ f.text, isBlank c = false := by
  have mem : f.text ∈ pieces (line.filter (· != ',')) := by
    rw [← text_fields]
    exact List.mem_map_of_mem h
  exact (pieces_noBlank mem).2

/-- A line decodes to the instruction of the sentence that it is. -/
lemma decode_eq_ok_iff {line : List Char} {i : Instr} :
    decode line = .ok i ↔ Sentence (pieces (line.filter (· != ','))) i := by
  rw [← text_fields]
  have blankFree : ∀ f ∈ fields line, ∀ c ∈ f.text, isBlank c = false := fun _ => fields_blankFree
  unfold decode
  cases h : fields line with
  | nil =>
    constructor
    · intro no
      cases no
    · intro no
      cases no
  | cons f operands =>
    rw [h] at blankFree
    have operandsFree : ∀ g ∈ operands, ∀ c ∈ g.text, isBlank c = false :=
      fun g hg => blankFree g (.tail _ hg)
    rw [List.map_cons, sentence_iff]
    cases hm : Mnemonic.ofName? f.text with
    | none =>
      simp only [hm]
      constructor
      · intro no
        cases no
      · rintro ⟨m, -, spells, -⟩
        rw [Mnemonic.ofName?_eq_some_iff.2 spells] at hm
        cases hm
    | some m =>
      simp only [hm, map_eq_ok_iff, readFields_eq_ok_iff operandsFree]
      have spells := Mnemonic.ofName?_eq_some_iff.1 hm
      constructor
      · rintro ⟨values, fits, build⟩
        exact ⟨m, values, spells, fits, build⟩
      · rintro ⟨m', values, spells', fits, build⟩
        -- The sentence may name another mnemonic, but one word spells one only.
        cases Mnemonic.name_injective (spells.symm.trans spells')
        exact ⟨values, fits, build⟩

/-- A line is accepted exactly if it is a sentence once its commas are deleted, and it gives the
instruction of the sentence with the trimmed line as its source. -/
theorem parse_eq_ok_iff (line : List Char) (i : Instruction) :
    parse line = .ok i ↔
      Sentence (pieces (line.filter (· != ','))) i.instr ∧ i.source = trim line := by
  obtain ⟨source, instr⟩ := i
  rw [← decode_eq_ok_iff, parse, map_eq_ok_iff]
  constructor
  · rintro ⟨j, hdecode, e⟩
    cases e
    exact ⟨hdecode, rfl⟩
  · rintro ⟨hdecode, rfl⟩
    exact ⟨instr, hdecode, rfl⟩

end SourceLine

end PocketMips
