import PocketMips.Token

/-!
# Operands

A field of a line holds a register, a number, or a place in memory written `offset(register)`. Each
mnemonic has a layout, the list of what it wants, and turns values of that layout into an instruction.
-/

namespace PocketMips

/-- What a field of a line can hold. -/
inductive Operand where
  | reg (r : Reg)
  | imm (value : Imm)
  | mem (offset : Imm) (base : Reg)
  deriving DecidableEq, Repr

/-- What a mnemonic wants at one place of its layout. -/
inductive Want where
  | reg | imm | mem
  deriving DecidableEq, Repr

/-- What is wrong with a line. -/
inductive Problem where
  /-- The line has no fields. -/
  | emptyLine
  /-- The first field is no mnemonic. -/
  | unknownMnemonic
  /-- A field has a piece that is no token. -/
  | badToken (why : TokenError)
  /-- The mnemonic wants more operands than there are fields. -/
  | missingOperand
  /-- The operand is not of the wanted kind. -/
  | expected (want : Want)
  /-- A register stands in parentheses with no offset before them. -/
  | missingOffset
  /-- The tokens of a field form no operand. -/
  | badOperand
  deriving DecidableEq, Repr

namespace Problem

/-- The wording of the problem. -/
def message : Problem → String
  | .emptyLine => "empty line"
  | .unknownMnemonic => "unknown instruction"
  | .badToken why => why.message
  | .missingOperand => "missing operand"
  | .expected .reg => "expected register"
  | .expected .imm => "expected immediate"
  | .expected .mem => "expected memory operand"
  | .missingOffset => "memory operand is missing its offset"
  | .badOperand => "invalid operand"

/-- How to mend the line, where there is something to say. -/
def help? : Problem → Option String
  | .emptyLine | .missingOperand => none
  | .unknownMnemonic => some <|
    "supported instructions are add, sub, mult, div, and, or, nor, slt, " ++
    "addi, subi, andi, xori, lw, sw, j, beq, nop, exit"
  | .badToken why => why.help?
  | .expected .reg => some "registers are written like $r0 or $sp"
  | .expected .imm => some "immediates are decimal (15) or hex (0xF)"
  | .expected .mem => some "memory operands are written like 4($sp) or $sp"
  | .missingOffset => some "add an offset before the parenthesis, e.g. 0($sp)"
  | .badOperand => some "operands are registers, numbers, or offset(register)"

/-- The wordings of the errors behind this one. -/
def causes : Problem → List String
  | .badToken why => why.message :: why.causes
  | _ => []

end Problem

/-- The operand that a list of tokens forms. -/
def Operand.ofTokens : List Token → Except Problem Operand
  | [.reg r] => .ok (.reg r)
  | [.number value] => .ok (.imm value)
  | [.number offset, .leftParen, .reg base, .rightParen] => .ok (.mem offset base)
  | [.leftParen, .reg _, .rightParen] => .error .missingOffset
  | _ => .error .badOperand

/-- The operand written in a text. -/
def Operand.ofText (text : List Char) : Except Problem Operand :=
  match (Token.scan text).tokens with
  | .ok tokens => Operand.ofTokens tokens
  | .error why => .error (.badToken why)

/-- The values that satisfy a want. A place in memory is a register and an offset from it. -/
abbrev Want.Value : Want → Type
  | .reg => Reg
  | .imm => Imm
  | .mem => Reg × Imm

/-- The value of an operand of the wanted kind. A register alone is also a place in memory. -/
def Want.value? : (w : Want) → Operand → Option w.Value
  | .reg, .reg r => some r
  | .imm, .imm value => some value
  | .mem, .mem offset base => some (base, offset)
  | .mem, .reg r => some (r, 0)
  | _, _ => none

/-- One value for each want of a layout. -/
abbrev Values : List Want → Type
  | [] => Unit
  | w :: ws => w.Value × Values ws

namespace Mnemonic

/-- What the mnemonic wants, in the order of writing. -/
abbrev layout : Mnemonic → List Want
  | .reg _ => [.reg, .reg, .reg]
  | .imm _ => [.reg, .reg, .imm]
  | .mem _ => [.reg, .mem]
  | .jump => [.imm]
  | .branch => [.reg, .reg, .imm]
  | .nop | .exit => []

/-- The instruction with the given operands. -/
def build : (m : Mnemonic) → Values m.layout → Instr
  | .reg op, (rd, rs, rt, ()) => .reg op rd rs rt
  | .imm op, (dest, src, value, ()) => .imm op dest src value
  | .mem op, (rt, (base, offset), ()) => .mem op rt base offset
  | .jump, (target, ()) => .jump target
  | .branch, (rs, rt, target, ()) => .branch rs rt target
  | .nop, () => .nop
  | .exit, () => .exit

end Mnemonic

end PocketMips
