import PocketMips.Mnemonic
import PocketMips.Reg

/-!
# Words and the register file

Registers and memory hold words of 32 bits. Sums, differences and products keep the low 32 bits of the
exact result. An immediate is widened with its sign before it is used. The register file has one word
for each register, and every register can be written, the one named `$zero` too.
-/

namespace PocketMips

/-- The contents of a register or of a place in memory. -/
abbrev Word := Int32

/-- The value of a word read without a sign. -/
def Word.unsigned (w : Word) : Nat :=
  w.toUInt32.toNat

/-- The result of an operation on two words. There is none for a division by zero; any other quotient
is rounded toward zero. -/
def RegOp.result? : RegOp → Word → Word → Option Word
  | .add, a, b => some (a + b)
  | .sub, a, b => some (a - b)
  | .mult, a, b => some (a * b)
  | .div, a, b => if b = 0 then none else some (a / b)
  | .and, a, b => some (a &&& b)
  | .or, a, b => some (a ||| b)
  | .nor, a, b => some (~~~(a ||| b))
  | .slt, a, b => some (if a < b then 1 else 0)

/-- The result of an operation on a word and a widened immediate. -/
def ImmOp.result : ImmOp → Word → Word → Word
  | .addi, a, b => a + b
  | .subi, a, b => a - b
  | .andi, a, b => a &&& b
  | .xori, a, b => a ^^^ b

/-- The words of all registers. -/
structure RegFile where
  words : Vector Word 32
  deriving DecidableEq, Repr

namespace RegFile

/-- All registers hold zero. -/
def zero : RegFile :=
  ⟨Vector.replicate 32 0⟩

/-- The word in a register. -/
def get (f : RegFile) (r : Reg) : Word :=
  f.words.get r

/-- The register file with another word in a register. -/
def set (f : RegFile) (r : Reg) (w : Word) : RegFile :=
  ⟨f.words.setIfInBounds r w⟩

@[simp] theorem get_zero (r : Reg) : zero.get r = 0 := by
  simp [zero, get, Vector.get]

@[simp] theorem get_set_self (f : RegFile) (r : Reg) (w : Word) : (f.set r w).get r = w :=
  Vector.getElem_setIfInBounds_self r.isLt

theorem get_set_of_ne (f : RegFile) {r s : Reg} (w : Word) (h : r ≠ s) :
    (f.set r w).get s = f.get s :=
  Vector.getElem_setIfInBounds_ne s.isLt (Fin.val_ne_of_ne h)

/-- Setting a register changes no other one. -/
theorem get_set (f : RegFile) (r s : Reg) (w : Word) :
    (f.set r w).get s = if r = s then w else f.get s := by
  split
  case isTrue h => subst h; simp
  case isFalse h => exact f.get_set_of_ne w h

/-- Register files are equal if all registers hold the same words. -/
@[ext] theorem ext {f g : RegFile} (h : ∀ r, f.get r = g.get r) : f = g := by
  cases f; cases g
  congr 1
  exact Vector.ext fun i hi => h ⟨i, hi⟩

end RegFile

end PocketMips
