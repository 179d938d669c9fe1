import PocketMips.Mnemonic
import PocketMips.Reg

/-!
# Instructions

A decoded instruction holds the operands of its category and no others. Targets of jumps and branches
are indices of instructions. The written form of an instruction is a line that decodes to it again.
-/

namespace PocketMips

/-- A signed immediate, offset or target of 16 bits. -/
abbrev Imm := Int16

/-- The decimal numeral of an immediate. -/
def Imm.text (i : Imm) : List Char :=
  Text.showInt i.toInt

/-- The canonical name of a register, as text. -/
def Reg.text (r : Reg) : List Char :=
  r.name.toList

/-- A decoded instruction. -/
inductive Instr where
  /-- Combines two registers into `rd`. -/
  | reg (op : RegOp) (rd rs rt : Reg)
  /-- Combines the register `src` with an immediate into `dest`. -/
  | imm (op : ImmOp) (dest src : Reg) (value : Imm)
  /-- Moves a word between `rt` and the memory at the register `base` plus an offset. -/
  | mem (op : MemOp) (rt base : Reg) (offset : Imm)
  /-- Goes to an instruction. -/
  | jump (target : Imm)
  /-- Goes to an instruction if two registers are equal. -/
  | branch (rs rt : Reg) (target : Imm)
  /-- Does nothing. -/
  | nop
  /-- Ends the program. -/
  | exit
  deriving DecidableEq, Repr

namespace Instr

/-- The mnemonic of an instruction. -/
def mnemonic : Instr → Mnemonic
  | .reg op .. => .reg op
  | .imm op .. => .imm op
  | .mem op .. => .mem op
  | .jump _ => .jump
  | .branch .. => .branch
  | .nop => .nop
  | .exit => .exit

/-- The category of an instruction. -/
def category (i : Instr) : Category :=
  i.mnemonic.category

/-- The immediate, offset or target, and zero where there is none. -/
def immediate : Instr → Imm
  | .imm _ _ _ value => value
  | .mem _ _ _ offset => offset
  | .jump target => target
  | .branch _ _ target => target
  | .reg .. | .nop | .exit => 0

/-- The operands as they are written after the mnemonic. -/
def operandTexts : Instr → List (List Char)
  | .reg _ rd rs rt => [rd.text, rs.text, rt.text]
  | .imm _ dest src value => [dest.text, src.text, value.text]
  | .mem _ rt base offset => [rt.text, offset.text ++ '(' :: base.text ++ [')']]
  | .jump target => [target.text]
  | .branch rs rt target => [rs.text, rt.text, target.text]
  | .nop | .exit => []

/-- The written form: the mnemonic, a blank, and the operands with commas between them. -/
def text (i : Instr) : List Char :=
  match i.operandTexts with
  | [] => i.mnemonic.name.toList
  | operands => i.mnemonic.name.toList ++ ' ' :: [',', ' '].intercalate operands

end Instr

/-- A decoded instruction and the source text it came from. -/
structure Instruction where
  source : List Char
  instr : Instr
  deriving DecidableEq, Repr

/-- The row of a listing: the source in 25 columns, and the immediate unless all operands are registers. -/
def Instruction.row (i : Instruction) : List Char :=
  let source := Text.padEnd 25 i.source
  match i.instr.category with
  | .register => source
  | _ => source ++ " (imm: ".toList ++ i.instr.immediate.text ++ [')']

end PocketMips
