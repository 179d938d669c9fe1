import PocketMips.Text.Basic

/-!
# Mnemonics

The eighteen operations of the machine, by category, with their spellings.
-/

namespace PocketMips

/-- An operation on two registers. -/
inductive RegOp where
  | add | sub | mult | div | and | or | nor | slt
  deriving DecidableEq, Repr

/-- An operation on a register and an immediate. -/
inductive ImmOp where
  | addi | subi | andi | xori
  deriving DecidableEq, Repr

/-- An access to the data memory. -/
inductive MemOp where
  | lw | sw
  deriving DecidableEq, Repr

/-- What a line asks the machine to do, without the operands. -/
inductive Mnemonic where
  | reg (op : RegOp)
  | imm (op : ImmOp)
  | mem (op : MemOp)
  | jump
  | branch
  | nop
  | exit
  deriving DecidableEq, Repr

/-- The kinds of instructions. -/
inductive Category where
  | register | immediate | loadStore | jump | branch | nop | exit
  deriving DecidableEq, Repr

/-- The spelling of the operation. -/
def RegOp.name : RegOp → String
  | .add => "add"
  | .sub => "sub"
  | .mult => "mult"
  | .div => "div"
  | .and => "and"
  | .or => "or"
  | .nor => "nor"
  | .slt => "slt"

/-- The spelling of the operation. -/
def ImmOp.name : ImmOp → String
  | .addi => "addi"
  | .subi => "subi"
  | .andi => "andi"
  | .xori => "xori"

/-- The spelling of the operation. -/
def MemOp.name : MemOp → String
  | .lw => "lw"
  | .sw => "sw"

namespace Mnemonic

/-- All mnemonics. -/
def all : List Mnemonic := [
  .reg .add, .reg .sub, .reg .mult, .reg .div, .reg .and, .reg .or, .reg .nor, .reg .slt,
  .imm .addi, .imm .subi, .imm .andi, .imm .xori, .mem .lw, .mem .sw,
  .jump, .branch, .nop, .exit]

/-- The spelling in small letters. -/
def name : Mnemonic → String
  | .reg op => op.name
  | .imm op => op.name
  | .mem op => op.name
  | .jump => "j"
  | .branch => "beq"
  | .nop => "nop"
  | .exit => "exit"

/-- The kind of instruction that the mnemonic starts. -/
def category : Mnemonic → Category
  | .reg _ => .register
  | .imm _ => .immediate
  | .mem _ => .loadStore
  | .jump => .jump
  | .branch => .branch
  | .nop => .nop
  | .exit => .exit

/-- The mnemonic with a spelling, in any letter case. -/
def ofName? (text : List Char) : Option Mnemonic :=
  all.find? fun m => Text.sameLetters m.name.toList text

/-- No mnemonic is missing in the list of all. -/
theorem mem_all (m : Mnemonic) : m ∈ all := by
  rcases m with (_ | _ | _ | _ | _ | _ | _ | _) | (_ | _ | _ | _) | (_ | _) | _ | _ | _ | _ <;> decide

end Mnemonic

end PocketMips
