import PocketMips.Operand
import PocketMips.Text.Run

/-!
# Source lines

A line is cut at white space into fields, which lose their commas, and a field of commas alone is no
field. The first field is the mnemonic, the next ones are its operands, and what follows does not
count. A line is read from the left and rejected at the first place that does not fit.
-/

namespace PocketMips

/-- A piece of a line without its commas, and the place of the piece with them. -/
structure Field where
  text : List Char
  span : Text.Span
  deriving DecidableEq, Repr

/-- The field of a run. -/
def Field.ofRun (r : Text.Run) : Field :=
  ⟨r.text.filter (· != ','), r.span⟩

/-- What is wrong with a line, and where. -/
structure ParseError where
  problem : Problem
  span : Text.Span
  deriving DecidableEq, Repr

namespace SourceLine

/-- The fields of a line. -/
def fields (line : List Char) : List Field :=
  ((Text.runs line).map Field.ofRun).filter (!·.text.isEmpty)

/-- The value of a field for a want. -/
def readField (w : Want) (f : Field) : Except ParseError w.Value :=
  match Operand.ofText f.text with
  | .error problem => .error ⟨problem, f.span⟩
  | .ok operand =>
    match w.value? operand with
    | some value => .ok value
    | none => .error ⟨.expected w, f.span⟩

/-- The values of the first fields for a layout. A missing field is missing at the byte `stop`. -/
def readFields (stop : Nat) : (layout : List Want) → List Field → Except ParseError (Values layout)
  | [], _ => .ok ()
  | _ :: _, [] => .error ⟨.missingOperand, ⟨stop, stop⟩⟩
  | w :: ws, f :: fs => do
    let value ← readField w f
    let values ← readFields stop ws fs
    return (value, values)

/-- The decoded instruction of a line. -/
def decode (line : List Char) : Except ParseError Instr :=
  match fields line with
  | [] => .error ⟨.emptyLine, ⟨0, Text.byteLength line⟩⟩
  | f :: operands =>
    match Mnemonic.ofName? f.text with
    | none => .error ⟨.unknownMnemonic, f.span⟩
    | some m => (readFields (Text.byteLength line) m.layout operands).map m.build

/-- The instruction of a line, with the line as its source but for the white space at its ends. -/
def parse (line : List Char) : Except ParseError Instruction :=
  (decode line).map (⟨Text.trim line, ·⟩)

end SourceLine

end PocketMips
