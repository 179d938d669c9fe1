import PocketMips.SourceLine

/-!
# Programs

A program is a list of instructions. It is assembled from a text line by line: blank lines do not
count, and a line that cannot be read is set aside with its number, so that the instructions after it
move up.
-/

namespace PocketMips

/-- Instructions in the order of their indices. -/
structure Program where
  instrs : Array Instruction
  deriving DecidableEq, Repr

namespace Program

/-- The program without instructions. -/
def empty : Program :=
  ⟨#[]⟩

instance : Inhabited Program := ⟨empty⟩

/-- The number of instructions. -/
def size (p : Program) : Nat :=
  p.instrs.size

/-- The instruction at an index. -/
def get? (p : Program) (index : Nat) : Option Instruction :=
  p.instrs[index]?

/-- The program with the given instructions. -/
def ofList (is : List Instruction) : Program :=
  ⟨is.toArray⟩

/-- The instructions in order. -/
def toList (p : Program) : List Instruction :=
  p.instrs.toList

/-- The rows of all instructions, each ended by a line feed. -/
def listing (p : Program) : List Char :=
  p.toList.flatMap fun i => i.row ++ ['\n']

end Program

/-- A line that could not be read. -/
structure Rejection where
  /-- The number of the line among all lines, from one. -/
  number : Nat
  /-- The line as it stands in the text. -/
  line : List Char
  /-- What is wrong with it. -/
  error : ParseError
  deriving DecidableEq, Repr

/-- The wording of a rejection. -/
def Rejection.message (r : Rejection) : String :=
  "Invalid instruction '" ++ String.ofList r.line ++ "' on line " ++ toString r.number

/-- A program and the lines that were set aside on the way to it. -/
structure Assembly where
  program : Program
  rejections : List Rejection
  deriving DecidableEq, Repr

namespace Assembly

/-- What becomes of a numbered line, unless it is blank. -/
def judge : List Char × Nat → Option (Except Rejection Instruction)
  | (line, number) =>
    if Text.allBlank line then none
    else
      match SourceLine.parse line with
      | .ok i => some (.ok i)
      | .error e => some (.error ⟨number, line, e⟩)

/-- The accepted instructions among the verdicts. -/
def accepted (verdicts : List (Except Rejection Instruction)) : List Instruction :=
  verdicts.filterMap fun
    | .ok i => some i
    | .error _ => none

/-- The rejected lines among the verdicts. -/
def rejected (verdicts : List (Except Rejection Instruction)) : List Rejection :=
  verdicts.filterMap fun
    | .ok _ => none
    | .error r => some r

/-- Assembles a text. -/
def ofSource (source : List Char) : Assembly :=
  let verdicts := ((Text.lines source).zipIdx 1).filterMap judge
  ⟨.ofList (accepted verdicts), rejected verdicts⟩

end Assembly

end PocketMips
