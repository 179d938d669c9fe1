import PocketMips.Proofs.Grammar
import PocketMips.Proofs.Runs
import PocketMips.Proofs.TokenErrors

/-!
# The diagnosis of a line

A line that is no sentence is rejected, with a problem and a place. Which problem it is, is said here
from the text alone. Fields are judged from the left, and the first one that is not as it is wanted is
the one that is named. What is wrong with it is said of its tokens before its shape, and of its shape
before its kind.

The main statement is `parse_eq_error_iff`: a line is rejected with a problem and a place exactly if
they are its diagnosis. One lemma for each function leads to it, as in the grammar: operands, fields,
layouts, lines.
-/

namespace PocketMips
open Text Token

/-- What is wrong with a text that is no operand. -/
inductive Malformed (text : List Char) : Problem → Prop where
  | badToken {why} :
    FirstError text why →
    Malformed text (.badToken why)
  | missingOffset {reg r} :
    RegLiteral reg r →
    text = '(' :: reg ++ [')'] →
    Malformed text .missingOffset
  | badOperand :
    (∀ why, ¬FirstError text why) →
    (∀ reg r, RegLiteral reg r → text ≠ '(' :: reg ++ [')']) →
    (∀ w v, ¬Want.Fits w text v) →
    Malformed text .badOperand

/-- What is wrong with a text where something else is wanted. -/
inductive Fault (w : Want) (text : List Char) : Problem → Prop where
  | malformed {problem} :
    Malformed text problem →
    Fault w text problem
  | expected {w' v} :
    Want.Fits w' text v →
    (∀ v, ¬w.Fits text v) →
    Fault w text (.expected w)

/-- What is said of the field that has to satisfy a want, or of its absence from a line of `stop` bytes. -/
inductive Blamed (stop : Nat) (w : Want) : Option Field → ParseError → Prop where
  | missing :
    Blamed stop w none ⟨.missingOperand, ⟨stop, stop⟩⟩
  | fault {f problem} :
    Fault w f.text problem →
    Blamed stop w (some f) ⟨problem, f.span⟩

/-- The first `k` fields satisfy the wants of a layout, and the next one is to blame. -/
structure LeftmostFault (stop : Nat) (layout : List Want) (fs : List Field) (k : Nat)
    (e : ParseError) : Prop where
  before : ∀ j < k, ∃ w f v, layout[j]? = some w ∧ fs[j]? = some f ∧ w.Fits f.text v
  here : ∃ w, layout[k]? = some w ∧ Blamed stop w fs[k]? e

/-- What is wrong with a line that has the given fields, and where. -/
inductive Diagnosis (line : List Char) : List Field → ParseError → Prop where
  | emptyLine :
    Diagnosis line [] ⟨.emptyLine, ⟨0, byteLength line⟩⟩
  | unknownMnemonic {f fs} :
    (∀ m, ¬Spells f.text m) →
    Diagnosis line (f :: fs) ⟨.unknownMnemonic, f.span⟩
  | operand {f fs m k e} :
    Spells f.text m →
    LeftmostFault (byteLength line) m.layout fs k e →
    Diagnosis line (f :: fs) e

/-- The raw fields of a line from left to right: its runs, less those of commas alone. -/
structure RawFields (line : List Char) (raw : List Run) : Prop where
  mem : ∀ r, r ∈ raw ↔ IsRun line r ∧ ∃ c ∈ r.text, c ≠ ','
  ordered : raw.Pairwise fun r r' => r.start < r'.start

/-- A line with the given raw fields is rejected with a problem and a place. -/
structure Rejected (line : List Char) (raw : List Run) (e : ParseError) : Prop where
  rawFields : RawFields line raw
  diagnosis : Diagnosis line (raw.map Field.ofRun) e
  within : e.span.Within line
  covers : ∀ f ∈ raw.map Field.ofRun, ∃ piece, f.span.Covers line piece ∧
    f.text = piece.filter (· != ',')

/-! ### Operands -/

namespace Operand

/-- Tokens that form no operand are a register in parentheses, or anything else. -/
lemma ofTokens_error_cases {ts : List Token} {problem : Problem} (h : ofTokens ts = .error problem) :
    (problem = .missingOffset ∧ ∃ r, ts = [.leftParen, .reg r, .rightParen]) ∨
      problem = .badOperand := by
  unfold ofTokens at h
  split at h
  · cases h
  · cases h
  · cases h
  · cases h
    exact .inl ⟨rfl, _, rfl⟩
  · cases h
    exact .inr rfl

/-- The offset is missing exactly where nothing but a register in parentheses is written. -/
lemma ofTokens_eq_missingOffset_iff {ts : List Token} :
    ofTokens ts = .error .missingOffset ↔ ∃ r, ts = [.leftParen, .reg r, .rightParen] := by
  constructor
  · intro h
    obtain ⟨-, bracketed⟩ | no := ofTokens_error_cases h
    · exact bracketed
    · cases no
  · rintro ⟨r, rfl⟩
    rfl

/-- A text that is no operand is called so for its tokens or for their shape. -/
lemma problem_of_ofText {text : List Char} {problem : Problem} (h : ofText text = .error problem) :
    (∃ why, problem = .badToken why) ∨ problem = .missingOffset ∨ problem = .badOperand := by
  unfold ofText at h
  split at h
  · exact .inr ((ofTokens_error_cases h).imp_left And.left)
  · cases h
    exact .inl ⟨_, rfl⟩

variable {text : List Char} (blankFree : ∀ c ∈ text, isBlank c = false)
include blankFree

/-- A text is an operand exactly if it fits some want. -/
lemma exists_ofText_eq_ok_iff : (∃ o, ofText text = .ok o) ↔ ∃ w v, Want.Fits w text v := by
  simp only [Want.fits_iff blankFree]
  constructor
  · rintro ⟨o, h⟩
    cases o with
    | reg r => exact ⟨.reg, r, _, h, rfl⟩
    | imm value => exact ⟨.imm, value, _, h, rfl⟩
    | mem offset base => exact ⟨.mem, (base, offset), _, h, rfl⟩
  · rintro ⟨_, _, o, h, -⟩
    exact ⟨o, h⟩

/-- In the words of the text, the offset is missing where a register stands in parentheses. -/
lemma ofText_bracketed_iff :
    ofText text = .error .missingOffset ↔ ∃ reg r, RegLiteral reg r ∧ text = '(' :: reg ++ [')'] := by
  have reads : ofText text = .error .missingOffset ↔
      ∃ r, Reads text [.leftParen, .reg r, .rightParen] := by
    simp only [← tokens_scan_iff]
    unfold ofText
    cases (scan text).tokens with
    | error why => simp
    | ok ts => simp [ofTokens_eq_missingOffset_iff]
  rw [reads]
  simp only [reads_bracketed_iff blankFree]
  constructor
  · rintro ⟨r, reg, e, literal⟩
    exact ⟨reg, r, literal, e⟩
  · rintro ⟨reg, r, literal, e⟩
    exact ⟨r, reg, e, literal⟩

/-- A text has a bad token exactly if reading it from the front comes to an error. -/
lemma ofText_badToken_iff {why : TokenError} :
    ofText text = .error (.badToken why) ↔ FirstError text why := by
  rw [← tokens_scan_eq_error_iff blankFree]
  unfold ofText
  cases (scan text).tokens with
  | error why' => simp
  | ok ts =>
    refine ⟨fun h => ?_, nofun⟩
    obtain ⟨no, -⟩ | no := ofTokens_error_cases h
    · cases no
    · cases no

/-- A text that is no operand is rejected for what is wrong with it. -/
lemma ofText_eq_error_iff {problem : Problem} :
    ofText text = .error problem ↔ Malformed text problem := by
  constructor
  · intro h
    obtain ⟨why, rfl⟩ | rfl | rfl := problem_of_ofText h
    · exact .badToken ((ofText_badToken_iff blankFree).1 h)
    · obtain ⟨reg, r, literal, e⟩ := (ofText_bracketed_iff blankFree).1 h
      exact .missingOffset literal e
    · -- Each of the other outcomes would have been the result.
      refine .badOperand ?_ ?_ ?_
      · intro why error
        rw [(ofText_badToken_iff blankFree).2 error] at h
        cases h
      · intro reg r literal e
        rw [(ofText_bracketed_iff blankFree).2 ⟨reg, r, literal, e⟩] at h
        cases h
      · intro w v fits
        obtain ⟨o, ok⟩ := (exists_ofText_eq_ok_iff blankFree).2 ⟨w, v, fits⟩
        rw [ok] at h
        cases h
  · intro h
    cases h with
    | badToken error => exact (ofText_badToken_iff blankFree).2 error
    | missingOffset literal e => exact (ofText_bracketed_iff blankFree).2 ⟨_, _, literal, e⟩
    | badOperand noError noBrackets noLiteral =>
      cases result : ofText text with
      | ok o =>
        obtain ⟨w, v, fits⟩ := (exists_ofText_eq_ok_iff blankFree).1 ⟨o, result⟩
        exact absurd fits (noLiteral w v)
      | error problem =>
        obtain ⟨why, rfl⟩ | rfl | rfl := problem_of_ofText result
        · exact absurd ((ofText_badToken_iff blankFree).1 result) (noError why)
        · obtain ⟨reg, r, literal, e⟩ := (ofText_bracketed_iff blankFree).1 result
          exact absurd e (noBrackets reg r literal)
        · rfl

end Operand

/-! ### Fields -/

namespace SourceLine

/-- A field is rejected for what is wrong with it where something else is wanted. -/
lemma readField_eq_error_iff {stop : Nat} {w : Want} {f : Field} {e : ParseError}
    (blankFree : ∀ c ∈ f.text, isBlank c = false) :
    readField w f = .error e ↔ Blamed stop w (some f) e := by
  unfold readField
  constructor
  · intro h
    cases result : Operand.ofText f.text with
    | error problem =>
      simp only [result] at h
      cases h
      exact .fault (.malformed ((Operand.ofText_eq_error_iff blankFree).1 result))
    | ok o =>
      simp only [result] at h
      cases value : w.value? o with
      | some v =>
        simp only [value] at h
        cases h
      | none =>
        simp only [value] at h
        cases h
        obtain ⟨w', v', fits⟩ := (Operand.exists_ofText_eq_ok_iff blankFree).1 ⟨o, result⟩
        refine .fault (.expected fits fun v fits' => ?_)
        obtain ⟨o', result', value'⟩ := (Want.fits_iff blankFree).1 fits'
        rw [result] at result'
        cases result'
        rw [value] at value'
        cases value'
  · intro h
    cases h with
    | fault fault =>
      cases fault with
      | malformed malformed => rw [(Operand.ofText_eq_error_iff blankFree).2 malformed]
      | expected fits unfit =>
        obtain ⟨o, result⟩ := (Operand.exists_ofText_eq_ok_iff blankFree).2 ⟨_, _, fits⟩
        rw [result]
        cases value : w.value? o with
        | some v => exact absurd ((Want.fits_iff blankFree).2 ⟨o, result, value⟩) (unfit v)
        | none => simp only [value]

/-- The fault is in the first field if the first want blames it. -/
lemma leftmostFault_zero {stop : Nat} {w : Want} {ws : List Want} {fs : List Field}
    {e : ParseError} : LeftmostFault stop (w :: ws) fs 0 e ↔ Blamed stop w fs[0]? e := by
  constructor
  · rintro ⟨-, w, hw, blamed⟩
    cases hw
    exact blamed
  · intro blamed
    exact ⟨nofun, w, rfl, blamed⟩

/-- The fault is further on if the first field is as it is wanted and the rest has the fault. -/
lemma leftmostFault_succ {stop : Nat} {w : Want} {ws : List Want} {f : Field} {fs : List Field}
    {k : Nat} {e : ParseError} :
    LeftmostFault stop (w :: ws) (f :: fs) (k + 1) e ↔
      (∃ v, w.Fits f.text v) ∧ LeftmostFault stop ws fs k e := by
  constructor
  · rintro ⟨before, here⟩
    rw [Nat.forall_lt_succ_left] at before
    obtain ⟨⟨w, f, v, hw, hf, fits⟩, before⟩ := before
    cases hw
    cases hf
    exact ⟨⟨v, fits⟩, before, here⟩
  · rintro ⟨⟨v, fits⟩, before, here⟩
    refine ⟨?_, here⟩
    rw [Nat.forall_lt_succ_left]
    exact ⟨⟨w, f, v, rfl, rfl, fits⟩, before⟩

/-- Reading stops at the first field that is rejected. -/
lemma readFields_cons_eq_error_iff {stop : Nat} {w : Want} {ws : List Want} {f : Field}
    {fs : List Field} {e : ParseError} :
    readFields stop (w :: ws) (f :: fs) = .error e ↔
      readField w f = .error e ∨
        (∃ v, readField w f = .ok v) ∧ readFields stop ws fs = .error e := by
  cases head : readField w f with
  | error e' => simp [readFields, head, bind, Except.bind]
  | ok v =>
    cases tail : readFields stop ws fs with
    | error e' => simp [readFields, head, tail, bind, Except.bind]
    | ok vs => simp [readFields, head, tail, bind, Except.bind, pure, Except.pure]

/-- Reading fields for a layout fails exactly for their leftmost fault. -/
lemma readFields_eq_error_iff {stop : Nat} {layout : List Want} {fs : List Field} {e : ParseError}
    (blankFree : ∀ f ∈ fs, ∀ c ∈ f.text, isBlank c = false) :
    readFields stop layout fs = .error e ↔ ∃ k, LeftmostFault stop layout fs k e := by
  -- The first field is at fault, or it fits and the fault is the leftmost one of the fields behind it.
  induction layout generalizing fs with
  | nil =>
    constructor
    · nofun
    · rintro ⟨k, -, w, hw, -⟩
      cases hw
  | cons w ws ih =>
    cases fs with
    | nil =>
      constructor
      · intro h
        cases h
        exact ⟨0, leftmostFault_zero.2 .missing⟩
      · rintro ⟨k, fault⟩
        cases k with
        | zero =>
          cases leftmostFault_zero.1 fault
          rfl
        | succ k =>
          obtain ⟨_, f, _, -, hf, -⟩ := fault.before 0 k.succ_pos
          cases hf
    | cons f fs =>
      have head := blankFree f (.head _)
      rw [readFields_cons_eq_error_iff, readField_eq_error_iff head,
        ih fun g hg => blankFree g (.tail _ hg)]
      simp only [readField_eq_ok_iff head]
      constructor
      · rintro (blamed | ⟨fits, k, fault⟩)
        · exact ⟨0, leftmostFault_zero.2 blamed⟩
        · exact ⟨k + 1, leftmostFault_succ.2 ⟨fits, fault⟩⟩
      · rintro ⟨k, fault⟩
        cases k with
        | zero => exact .inl (leftmostFault_zero.1 fault)
        | succ k =>
          obtain ⟨fits, fault⟩ := leftmostFault_succ.1 fault
          exact .inr ⟨fits, k, fault⟩

/-! ### Lines -/

/-- To decode a line fails exactly with the diagnosis of its fields. -/
lemma decode_eq_error_iff {line : List Char} {e : ParseError} :
    decode line = .error e ↔ Diagnosis line (fields line) e := by
  have blankFree : ∀ f ∈ fields line, ∀ c ∈ f.text, isBlank c = false := fun _ => fields_blankFree
  unfold decode
  cases hfields : fields line with
  | nil =>
    constructor
    · intro h
      cases h
      exact .emptyLine
    · intro h
      cases h
      rfl
  | cons f fs =>
    rw [hfields] at blankFree
    have operandsFree : ∀ g ∈ fs, ∀ c ∈ g.text, isBlank c = false :=
      fun g hg => blankFree g (.tail _ hg)
    cases hm : Mnemonic.ofName? f.text with
    | none =>
      have unknown (m : Mnemonic) : ¬Spells f.text m := by
        rw [← Mnemonic.ofName?_eq_some_iff, hm]
        nofun
      simp only [hm]
      constructor
      · intro h
        cases h
        exact .unknownMnemonic unknown
      · intro h
        cases h with
        | unknownMnemonic => rfl
        | operand spells => exact absurd spells (unknown _)
    | some m =>
      have spells := Mnemonic.ofName?_eq_some_iff.1 hm
      simp only [hm, map_eq_error_iff, readFields_eq_error_iff operandsFree]
      constructor
      · rintro ⟨k, fault⟩
        exact .operand spells fault
      · intro h
        cases h with
        | unknownMnemonic unknown => exact absurd spells (unknown m)
        | operand spells' fault =>
          -- Both spell the first field, and a name is the name of one mnemonic only.
          cases Mnemonic.name_injective (spells.symm.trans spells')
          exact ⟨_, fault⟩

/-- The runs of a line with something besides commas. -/
def rawFields (line : List Char) : List Run :=
  (runs line).filter (·.text.any (· != ','))

/-- The raw fields of a line are determined, and these are they. -/
lemma rawFields_iff {line : List Char} {raw : List Run} :
    RawFields line raw ↔ raw = rawFields line := by
  have mem (r : Run) : r ∈ rawFields line ↔ IsRun line r ∧ ∃ c ∈ r.text, c ≠ ',' := by
    simp [rawFields, List.mem_filter, mem_runs_iff]
  have ordered : (rawFields line).Pairwise fun r r' => r.start < r'.start := by
    refine ((runs_ordered line).filter _).imp fun {r r'} later => ?_
    simp only [Run.span] at later
    omega
  constructor
  · rintro ⟨mem', ordered'⟩
    have irrefl : Std.Irrefl fun r r' : Run => r.start < r'.start := ⟨fun r => Nat.lt_irrefl _⟩
    have antisymm : Std.Antisymm fun r r' : Run => r.start < r'.start :=
      ⟨fun r r' h h' => absurd h (Nat.lt_asymm h')⟩
    exact ordered'.eq_of_mem_iff ordered fun r => (mem' r).trans (mem r).symm
  · rintro rfl
    exact ⟨mem, ordered⟩

/-- The fields are the raw fields without their commas. -/
lemma fields_eq (line : List Char) : fields line = (rawFields line).map Field.ofRun := by
  unfold fields rawFields
  rw [List.filter_map]
  congr 2
  funext r
  rw [Bool.eq_iff_iff]
  simp [Field.ofRun]

/-- The place of an error is in the line, if the places of the fields are. -/
lemma within_of_diagnosis {line : List Char} {fs : List Field} {e : ParseError}
    (places : ∀ f ∈ fs, f.span.Within line) (h : Diagnosis line fs e) : e.span.Within line := by
  cases h with
  | emptyLine => exact Span.Covers.within ⟨[], [], (List.append_nil line).symm, rfl⟩
  | unknownMnemonic => exact places _ (.head _)
  | @operand _ operands _ k _ _ fault =>
    obtain ⟨w, -, blamed⟩ := fault.here
    cases hf : operands[k]? with
    | none =>
      rw [hf] at blamed
      cases blamed
      have stop : Span.Covers ⟨byteLength line, byteLength line⟩ line [] :=
        ⟨line, [], by simp, by simp⟩
      exact stop.within
    | some f =>
      rw [hf] at blamed
      cases blamed
      exact places f (.tail _ (List.mem_of_getElem? hf))

/-- A line is rejected with a problem and a place exactly if they are the diagnosis of its raw fields.
The place is a range of the line's bytes that cuts no character, and where it is that of a field the
field is what is there without its commas. -/
theorem parse_eq_error_iff (line : List Char) (e : ParseError) :
    parse line = .error e ↔ ∃ raw, Rejected line raw e := by
  rw [parse, map_eq_error_iff, decode_eq_error_iff, fields_eq]
  constructor
  · intro diagnosis
    have raw : RawFields line (rawFields line) := rawFields_iff.2 rfl
    have covers : ∀ f ∈ (rawFields line).map Field.ofRun,
        ∃ piece, f.span.Covers line piece ∧ f.text = piece.filter (· != ',') := by
      intro f hf
      obtain ⟨r, hr, rfl⟩ := List.mem_map.1 hf
      exact ⟨r.text, ((raw.mem r).1 hr).1.covers, rfl⟩
    have within : e.span.Within line := by
      refine within_of_diagnosis (fun f hf => ?_) diagnosis
      obtain ⟨piece, here, -⟩ := covers f hf
      exact here.within
    exact ⟨rawFields line, raw, diagnosis, within, covers⟩
  · rintro ⟨raw, rejected⟩
    rw [← rawFields_iff.1 rejected.rawFields]
    exact rejected.diagnosis

-- The letter takes two bytes of the place, and the comma one. Without it the number goes on to the `2`.
example : parse " add é,2($r1) ,, $zero".toList =
    .error ⟨.badToken (.badDigits .decimal), ⟨5, 14⟩⟩ := by
  decide +kernel

end SourceLine

end PocketMips
