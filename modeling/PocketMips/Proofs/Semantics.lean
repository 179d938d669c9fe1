import Mathlib.Data.Int.Bitwise
import Mathlib.Logic.Function.Basic
import Mathlib.Tactic.Lemma
import PocketMips.Proofs.Effects

/-!
# Instruction-set semantics

What the instructions mean, said with integers of any size. An operation has an exact result, and a
register gets the one number of 32 bits that is congruent to it; an address is wrapped in the same way
before it is divided by four. `Arch.step` goes through the instructions and writes nothing but what
each of them names.

The main statement is `arch_step`: what shows of the processor after a step is what the semantics makes
of what shows of it before. First the operations on words are compared with those on integers, one
operation at a time, then the accesses to the memory, and then the instructions.
-/

namespace PocketMips

/-- The number of 32 bits, with a sign, that is congruent to an integer modulo 2 to the 32. -/
def wrap (x : Int) : Int :=
  x.bmod 4294967296

/-- The result of an operation on two integers, taken exactly. -/
def RegOp.exact : RegOp → Int → Int → Int
  | .add, a, b => a + b
  | .sub, a, b => a - b
  | .mult, a, b => a * b
  | .div, a, b => a.tdiv b
  | .and, a, b => a.land b
  | .or, a, b => a.lor b
  | .nor, a, b => (a.lor b).lnot
  | .slt, a, b => if a < b then 1 else 0

/-- The result of an operation on an integer and an immediate, taken exactly. -/
def ImmOp.exact : ImmOp → Int → Int → Int
  | .addi, a, b => a + b
  | .subi, a, b => a - b
  | .andi, a, b => a.land b
  | .xori, a, b => a.xor b

/-- What an instruction can see and change. -/
structure Arch where
  /-- The instruction at each index, as far as the program goes. -/
  code : Nat → Option Instr
  /-- The address of the next instruction. -/
  pc : Nat
  reg : Reg → Int
  /-- The word at each index, as far as the memory goes. -/
  mem : Nat → Option Int
  halt? : Option Halt

namespace Arch

/-- Halts for a reason. -/
def stop (s : Arch) (why : Halt) : Arch :=
  { s with halt? := some why }

/-- Goes on to the instruction that follows. The address has 32 bits. -/
def next (s : Arch) : Arch :=
  { s with pc := (s.pc + 4) % 4294967296 }

/-- Goes to the instruction with an index. A negative index is refused. -/
def goto (s : Arch) (target : Int) : Arch :=
  if target < 0 then s.stop (.noInstruction (4 * target)) else { s with pc := (4 * target).toNat }

/-- Writes a register and no other. -/
def write (s : Arch) (r : Reg) (value : Int) : Arch :=
  { s with reg := Function.update s.reg r value }

/-- Stores a word and no other. -/
def store (s : Arch) (index : Nat) (value : Int) : Arch :=
  { s with mem := Function.update s.mem index (some value) }

/-- The word at an index, which may be negative or beyond the memory. -/
def word? (s : Arch) (index : Int) : Option Int :=
  if index < 0 then none else s.mem index.toNat

/-- Loads a register from the word at a byte address, or stores it there. -/
def access (s : Arch) (op : MemOp) (rt : Reg) (address : Int) : Arch :=
  let index := address.tdiv 4
  match op, s.word? index with
  | _, none => s.stop (.badAddress address)
  | .lw, some w => (s.write rt w).next
  | .sw, some _ => (s.store index.toNat (s.reg rt)).next

/-- What an instruction does. -/
def run (s : Arch) : Instr → Arch
  | .reg op rd rs rt =>
    if op = .div ∧ s.reg rt = 0 then s.stop .divByZero
    else (s.write rd (wrap (op.exact (s.reg rs) (s.reg rt)))).next
  | .imm op dest src value => (s.write dest (wrap (op.exact (s.reg src) value.toInt))).next
  | .mem op rt base offset => s.access op rt (wrap (s.reg base + offset.toInt))
  | .jump target => s.goto target.toInt
  | .branch rs rt target => if s.reg rs = s.reg rt then s.goto target.toInt else s.next
  | .nop => s.next
  | .exit => s.next.stop .exit

/-- One step: the instruction at the address, unless the run has ended. -/
def step (s : Arch) : Arch :=
  match s.halt?, s.code (s.pc / 4) with
  | some _, _ => s
  | none, none => s.stop (.noInstruction s.pc)
  | none, some i => s.run i

end Arch

/-! ### Words and integers -/

/-- The number for an integer is the only one in the range of 32 bits that is congruent to it. -/
lemma wrap_eq_iff {x v : Int} :
    wrap x = v ↔ (-2147483648 ≤ v ∧ v < 2147483648) ∧ v % 4294967296 = x % 4294967296 := by
  unfold wrap
  rw [Int.bmod_def]
  constructor
  · rintro rfl
    split
    · omega
    · omega
  · rintro ⟨⟨low, high⟩, same⟩
    split
    · omega
    · omega

/-- The integer of a word is in the range that wrapping leaves. -/
lemma wrap_toInt (w : Word) : wrap w.toInt = w.toInt :=
  wrap_eq_iff.2 ⟨⟨w.le_toInt, w.toInt_lt⟩, rfl⟩

/-- Integers with the same bits are equal. -/
lemma eq_of_testBit_eq {x y : Int} (h : ∀ i, x.testBit i = y.testBit i) : x = y := by
  -- Far enough to the left every bit is the sign, so the two have the same sign.
  have differ (m n : Nat) (h : ∀ i, (Int.ofNat m).testBit i = (Int.negSucc n).testBit i) : False := by
    have hm : m < 2 ^ (m + n) :=
      Nat.lt_of_lt_of_le Nat.lt_two_pow_self (Nat.pow_le_pow_right (by decide) (by omega))
    have hn : n < 2 ^ (m + n) :=
      Nat.lt_of_lt_of_le Nat.lt_two_pow_self (Nat.pow_le_pow_right (by decide) (by omega))
    have far := h (m + n)
    simp only [Int.testBit, Nat.testBit_lt_two_pow hm, Nat.testBit_lt_two_pow hn] at far
    cases far
  cases x with
  | ofNat m =>
    cases y with
    | ofNat n => rw [Nat.eq_of_testBit_eq fun i => h i]
    | negSucc n => exact (differ m n h).elim
  | negSucc m =>
    cases y with
    | ofNat n => exact (differ n m fun i => (h i).symm).elim
    | negSucc n =>
      have same : m = n := Nat.eq_of_testBit_eq fun i => by simpa [Int.testBit] using h i
      rw [same]

/-- The bits of the integer of a word: those of the word, and its sign from there on. -/
lemma testBit_toInt {w : Nat} (x : BitVec w) (i : Nat) :
    x.toInt.testBit i = if i < w then x.getLsbD i else x.msb := by
  rw [BitVec.toInt_eq_msb_cond]
  cases sign : x.msb with
  | false =>
    have nat : (x.toNat : Int).testBit i = x.getLsbD i := rfl
    rw [if_neg (by decide), nat]
    split
    case isTrue => rfl
    case isFalse outside => rw [BitVec.getLsbD_of_ge x i (by omega)]
  | true =>
    have negative : (x.toNat : Int) - (2 ^ w : Nat) = Int.negSucc (2 ^ w - (x.toNat + 1)) := by
      have := x.isLt
      omega
    rw [if_pos rfl, negative]
    simp only [Int.testBit, Nat.testBit_two_pow_sub_succ x.isLt]
    split
    case isTrue inside => simp [inside, BitVec.testBit_toNat]
    case isFalse outside => simp [outside]

/-- An operation on words that works bit by bit is the operation on their integers that does the same
to each bit. -/
lemma toInt_bitwise (f : Bool → Bool → Bool) {a b c : Word} {x : Int}
    (bits : ∀ i, i < 32 →
      c.toBitVec.getLsbD i = f (a.toBitVec.getLsbD i) (b.toBitVec.getLsbD i))
    (sign : c.toBitVec.msb = f a.toBitVec.msb b.toBitVec.msb)
    (exact_ : ∀ i, x.testBit i = f (a.toInt.testBit i) (b.toInt.testBit i)) : c.toInt = x := by
  apply eq_of_testBit_eq
  intro i
  rw [exact_ i, ← Int32.toInt_toBitVec a, ← Int32.toInt_toBitVec b, ← Int32.toInt_toBitVec c]
  simp only [testBit_toInt]
  split
  case isTrue inside => exact bits i inside
  case isFalse => exact sign

/-- The bits of a conjunction are those of the conjunction of the integers. -/
lemma toInt_and (a b : Word) : (a &&& b).toInt = a.toInt.land b.toInt :=
  toInt_bitwise and (fun _ _ => BitVec.getLsbD_and) BitVec.msb_and (Int.testBit_land _ _)

/-- The bits of a disjunction are those of the disjunction of the integers. -/
lemma toInt_or (a b : Word) : (a ||| b).toInt = a.toInt.lor b.toInt :=
  toInt_bitwise or (fun _ _ => BitVec.getLsbD_or) BitVec.msb_or (Int.testBit_lor _ _)

/-- The bits of an exclusive disjunction are those of that of the integers. -/
lemma toInt_xor (a b : Word) : (a ^^^ b).toInt = a.toInt.xor b.toInt :=
  toInt_bitwise xor (fun _ _ => BitVec.getLsbD_xor) BitVec.msb_xor (Int.testBit_lxor _ _)

/-- The bits of a complement are those of the complement of the integer. -/
lemma toInt_not (a : Word) : (~~~a).toInt = a.toInt.lnot := by
  refine toInt_bitwise (fun x _ => !x) (b := a) (fun i inside => ?_) ?_ (Int.testBit_lnot _)
  · rw [Int32.toBitVec_not, BitVec.getLsbD_not, decide_eq_true inside, Bool.true_and]
  · rw [Int32.toBitVec_not, BitVec.msb_not]
    rfl

/-- An operation on two words has no result exactly if it divides by zero. -/
lemma RegOp.result?_eq_none_iff {op : RegOp} {a b : Word} :
    op.result? a b = none ↔ op = .div ∧ b.toInt = 0 := by
  have zero : b.toInt = 0 ↔ b = 0 := Int32.toInt_inj (y := 0)
  cases op <;> simp [RegOp.result?, zero]

/-- The result of an operation on two words is the wrapped result on their integers. -/
lemma RegOp.toInt_result {op : RegOp} {a b w : Word} (h : op.result? a b = some w) :
    w.toInt = wrap (op.exact a.toInt b.toInt) := by
  cases op with
  | add =>
    cases h
    exact Int32.toInt_add a b
  | sub =>
    cases h
    exact Int32.toInt_sub a b
  | mult =>
    cases h
    exact Int32.toInt_mul a b
  | div =>
    simp only [RegOp.result?] at h
    split at h
    case isTrue => cases h
    case isFalse =>
      cases h
      exact Int32.toInt_div a b
  | and =>
    -- The bits of words are those of their integers, so that there is nothing to wrap.
    cases h
    rw [RegOp.exact, ← toInt_and, wrap_toInt]
  | or =>
    cases h
    rw [RegOp.exact, ← toInt_or, wrap_toInt]
  | nor =>
    cases h
    rw [RegOp.exact, ← toInt_or, ← toInt_not, wrap_toInt]
  | slt =>
    cases h
    rw [RegOp.exact]
    by_cases less : a < b
    · rw [if_pos less, if_pos (Int32.lt_iff_toInt_lt.1 less)]
      rfl
    · rw [if_neg less, if_neg fun no => less (Int32.lt_iff_toInt_lt.2 no)]
      rfl

/-- The one quotient that is out of range comes back as the least word. -/
example : RegOp.div.result? (-2147483648) (-1) = some (-2147483648) := by decide

/-- The result of an operation on a word and a widened immediate is the wrapped result on their
integers. -/
lemma ImmOp.toInt_result (op : ImmOp) (a : Word) (value : Imm) :
    (op.result a value.toInt32).toInt = wrap (op.exact a.toInt value.toInt) := by
  have widened : value.toInt32.toInt = value.toInt := value.toInt_toInt32
  rw [← widened]
  cases op with
  | addi => exact Int32.toInt_add a _
  | subi => exact Int32.toInt_sub a _
  | andi => rw [ImmOp.exact, ← toInt_and, wrap_toInt, ImmOp.result]
  | xori => rw [ImmOp.exact, ← toInt_xor, wrap_toInt, ImmOp.result]

/-! ### The processor -/

namespace Processor

/-- What shows of a processor to its instructions. -/
def arch (p : Processor) : Arch where
  code index := (p.program.get? index).map Instruction.instr
  pc := p.pc.toNat
  reg r := (p.regs.get r).toInt
  mem index := (p.mem.get? index).map Int32.toInt
  halt? := p.halt?

/-- To go on is to go on in the model. -/
lemma arch_advance (p : Processor) : p.advance.arch = p.arch.next := by
  simp only [arch, advance, Arch.next, UInt32.toNat_add]
  rfl

/-- To write a register is to write it in the model. -/
lemma arch_writeReg (p : Processor) (r : Reg) (w : Word) :
    (p.writeReg r w).arch = p.arch.write r w.toInt := by
  simp only [arch, writeReg, Arch.write, Arch.mk.injEq, true_and, and_true]
  funext s
  rw [RegFile.get_set, Function.update_apply]
  by_cases same : s = r
  · rw [if_pos same.symm, if_pos same]
  · rw [if_neg (Ne.symm same), if_neg same]

/-- To write a word that the memory has is to store it in the model. -/
lemma arch_writeWord {p : Processor} {index : Nat} (h : index < p.mem.size) (w : Word) :
    (p.writeWord index w).arch = p.arch.store index w.toInt := by
  simp only [arch, writeWord, Arch.store, Arch.mk.injEq, true_and, and_true]
  funext other
  rw [Memory.get?_set, Function.update_apply]
  by_cases same : other = index
  · rw [if_pos ⟨same.symm, h⟩, if_pos same, Option.map_some]
  · rw [if_neg fun both => same both.1.symm, if_neg same]

/-- An address is the register and the offset, wrapped. -/
lemma toInt_address (p : Processor) (base : Reg) (offset : Imm) :
    (p.address base offset).toInt = wrap (p.arch.reg base + offset.toInt) := by
  have widened : offset.toInt32.toInt = offset.toInt := offset.toInt_toInt32
  rw [← widened]
  exact Int32.toInt_add _ _

/-- The word at an address, or the fault of the address, as the semantics looks it up. -/
lemma wordAt_eq (p : Processor) (address : Word) :
    match p.arch.word? (address.toInt.tdiv 4) with
    | none => p.wordAt address = .error (.badAddress address.toInt)
    | some x => ∃ w : Word, w.toInt = x ∧ (address.toInt.tdiv 4).toNat < p.mem.size ∧
        p.wordAt address = .ok ((address.toInt.tdiv 4).toNat, w) := by
  unfold Arch.word? wordAt wordIndex
  by_cases negative : address.toInt.tdiv 4 < 0
  · simp only [if_pos negative]
    rfl
  · simp only [if_neg negative, arch]
    cases e : p.mem.get? (address.toInt.tdiv 4).toNat with
    | none => simp [bind, Except.bind, throw, throwThe, MonadExceptOf.throw, e]
    | some w =>
      have inside : (address.toInt.tdiv 4).toNat < p.mem.size := by
        unfold Memory.get? at e
        split at e
        case isTrue h => exact h
        case isFalse => cases e
      refine ⟨w, rfl, inside, ?_⟩
      simp [bind, Except.bind, pure, Except.pure, e]

/-- The processor after an instruction that has an effect, or has none for a reason. -/
def finish (p : Processor) : Except Halt Effect → Processor
  | .error why => p.stop why
  | .ok e => (p.apply e).complete

/-- Going to an index, or refusing it. -/
lemma arch_goto (p : Processor) (target : Imm) :
    (p.finish ((targetAddress target).map .goto)).arch = p.arch.goto target.toInt := by
  -- Four times an immediate is far below the largest address.
  have high := target.toInt_lt
  unfold targetAddress Arch.goto
  by_cases negative : target.toInt < 0
  · have below : 4 * target.toInt < 0 := by omega
    simp only [if_pos below, if_pos negative]
    rfl
  · have above : ¬4 * target.toInt < 0 := by omega
    have fits : (4 * target.toInt).toNat < UInt32.size := by
      simp only [UInt32.size]
      omega
    simp only [if_neg above, if_neg negative]
    simp only [Except.map, finish, arch, apply, complete, UInt32.toNat_ofNat_of_lt' fits]

/-- Loading and storing. -/
lemma arch_access (p : Processor) (op : MemOp) (rt base : Reg) (offset : Imm) :
    (p.finish (p.effect (.mem op rt base offset))).arch =
      p.arch.access op rt (p.address base offset).toInt := by
  -- Loads and stores fail alike: where there is no word, neither of them goes on.
  have found := p.wordAt_eq (p.address base offset)
  unfold Arch.access
  cases looked : p.arch.word? ((p.address base offset).toInt.tdiv 4) with
  | none =>
    simp only [looked] at found
    cases op with
    | lw =>
      simp only [effect, found, looked]
      rfl
    | sw =>
      simp only [effect, found, looked]
      rfl
  | some x =>
    simp only [looked] at found
    obtain ⟨w, rfl, inside, found⟩ := found
    cases op with
    | lw =>
      simp only [effect, found, looked]
      show (((p.readWord _).writeReg rt w).advance).arch = _
      rw [arch_advance, arch_writeReg]
      rfl
    | sw =>
      simp only [effect, found, looked]
      show ((p.writeWord _ (p.regs.get rt)).advance).arch = _
      rw [arch_advance, arch_writeWord inside]
      rfl

/-- An instruction does to what shows of the processor what the semantics says. -/
lemma arch_run (p : Processor) (i : Instr) : (p.finish (p.effect i)).arch = p.arch.run i := by
  cases i with
  | reg op rd rs rt =>
    cases result : op.result? (p.regs.get rs) (p.regs.get rt) with
    | none =>
      -- Only a division can have no result, and it is refused before anything is written.
      have zero : op = .div ∧ p.arch.reg rt = 0 := RegOp.result?_eq_none_iff.1 result
      simp only [effect, result, Arch.run, if_pos zero]
      rfl
    | some w =>
      have nonzero : ¬(op = .div ∧ p.arch.reg rt = 0) := by
        intro zero
        rw [RegOp.result?_eq_none_iff.2 zero] at result
        cases result
      simp only [effect, result, Arch.run, if_neg nonzero]
      show ((p.writeReg rd w).advance).arch = _
      rw [arch_advance, arch_writeReg, RegOp.toInt_result result]
      rfl
  | imm op dest src value =>
    show ((p.writeReg dest _).advance).arch = _
    rw [arch_advance, arch_writeReg, ImmOp.toInt_result]
    rfl
  | mem op rt base offset => rw [arch_access, toInt_address, Arch.run]
  | jump target => exact p.arch_goto target
  | branch rs rt target =>
    have same : p.arch.reg rs = p.arch.reg rt ↔ p.regs.get rs = p.regs.get rt := Int32.toInt_inj
    simp only [effect, Arch.run, same]
    by_cases equal : p.regs.get rs = p.regs.get rt
    · simp only [if_pos equal]
      exact p.arch_goto target
    · simp only [if_neg equal]
      exact p.arch_advance
  | nop => exact p.arch_advance
  | exit =>
    show (p.advance.arch).stop .exit = _
    rw [arch_advance]
    rfl

/-- A step finishes the instruction at the program counter, if there is one and the processor has not
halted. -/
lemma step_eq (p : Processor) (going : p.halt? = none) :
    p.step = match p.current? with
      | none => p.stop (.noInstruction p.pc.toNat)
      | some i => p.finish (p.effect i.instr) := by
  rw [step_eq_apply, isDone, going]
  cases p.current? with
  | none => rfl
  | some i =>
    cases effect : p.effect i.instr with
    | error why => simp [effect, finish]
    | ok e => simp [effect, finish]

/-- A step changes what shows of the processor as the semantics says. -/
theorem arch_step (p : Processor) : p.step.arch = p.arch.step := by
  cases halted : p.halt? with
  | some why =>
    have shown : p.arch.halt? = some why := halted
    simp [step, isDone, halted, Arch.step, shown]
  | none =>
    have shown : p.arch.halt? = none := halted
    have code : p.arch.code (p.arch.pc / 4) = p.current?.map Instruction.instr := rfl
    rw [step_eq p halted]
    simp only [Arch.step, shown, code]
    cases p.current? with
    | none => rfl
    | some i => exact p.arch_run i.instr

end Processor

end PocketMips
