import PocketMips.Text.Basic
import PocketMips.Text.Numeral

/-!
# Registers

The machine has 32 registers, each with one canonical name. Four families of numbered names cover the
slots in blocks, and a number beyond the end of its block goes on into the slots after it, so that a
slot may have several names. The family `r` leaves out the block of the family `s`.
-/

namespace PocketMips

/-- The slot of a register. -/
abbrev Reg := Fin 32

namespace Reg

/-- The canonical names in the order of the slots. -/
def names : Vector String 32 := #v[
  "$zero", "$one", "$v0", "$v1", "$a0", "$a1", "$a2", "$a3",
  "$r0", "$r1", "$r2", "$r3", "$r4", "$r5", "$r6", "$r7",
  "$s0", "$s1", "$s2", "$s3", "$s4", "$s5", "$s6", "$s7",
  "$r8", "$r9", "$r10", "$r11", "$gp", "$sp", "$fp", "$ra"]

/-- The canonical name of a register. -/
def name (r : Reg) : String :=
  names[r]

/-- All registers in the order of their slots. -/
def all : List Reg :=
  List.finRange 32

end Reg

/-- Why a text names no register. -/
inductive RegError where
  /-- The text does not start with a dollar sign. -/
  | missingSigil
  /-- Nothing follows the dollar sign. -/
  | missingName
  /-- No family of names starts with this character. -/
  | unknownFamily (c : Char)
  /-- What follows the letter of the family is no number. -/
  | badNumber
  /-- The slot would be past the last one. -/
  | outOfRange
  deriving DecidableEq, Repr

namespace RegError

/-- The wording of the error. -/
def message : RegError → String
  | .missingSigil => "register must start with '$'"
  | .missingName => "missing register name"
  | .unknownFamily c => s!"unknown register prefix '{c}'"
  | .badNumber => "invalid register number"
  | .outOfRange => "register number out of range"

/-- How to mend the text. -/
def help : RegError → String
  | .missingSigil | .missingName => "registers are written like $r0 or $sp"
  | .unknownFamily _ =>
    "valid registers are $zero, $one, $v0-$v1, $a0-$a3, $r0-$r11, $s0-$s7, $gp, $sp, $fp, $ra"
  | .badNumber => "the register number only consists of digits 0-9"
  | .outOfRange => "the highest registers are $v29, $a27, $r15 and $s15"

end RegError

namespace Reg

/-- The register in a slot. -/
def ofSlot (n : Nat) : Except RegError Reg :=
  if h : n < 32 then .ok ⟨n, h⟩ else .error .outOfRange

/-- The names without a number, less their dollar signs. -/
def plainNames : List (String × Reg) :=
  [("zero", 0), ("one", 1), ("gp", 28), ("sp", 29), ("fp", 30), ("ra", 31)]

/-- The register with a plain name, in any letter case. -/
def ofPlainName? (body : List Char) : Option Reg :=
  (plainNames.find? fun (name, _) => Text.sameLetters name.toList body).map Prod.snd

/-- The slot of the name with number `n` in the family of a letter. -/
def familySlot? : Char → Option (Nat → Nat)
  | 'v' => some fun n => 2 + n
  | 'a' => some fun n => 4 + n
  | 'r' => some fun n => if n < 8 then 8 + n else 16 + n
  | 's' => some fun n => 16 + n
  | _ => none

/-- The register in a slot whose number is not known to fit 8 bits. -/
def ofWideSlot (n : Nat) : Except RegError Reg :=
  if n < 256 then ofSlot n else .error .outOfRange

/-- The register that a text names. The number of a name is one of 8 bits. -/
def ofName : List Char → Except RegError Reg
  | '$' :: body =>
    match ofPlainName? body with
    | some r => .ok r
    | none =>
      match body with
      | [] => .error .missingName
      | c :: number =>
        match familySlot? c with
        | none => .error (.unknownFamily c)
        | some slot =>
          if number.isEmpty || !number.all Char.isDigit then .error .badNumber
          else
            match Text.readNumeral .unsigned8 10 number with
            | .error _ => .error .outOfRange
            | .ok n => ofWideSlot (slot n.toNat)
  | _ => .error .missingSigil

end Reg

end PocketMips
