import Mathlib.Logic.Equiv.Defs
import PocketMips.Proofs.Operations

/-!
# Renaming registers

No register is special: a program whose registers were renamed runs like the program itself, and the
only difference is which register holds what. `Processor.Renamed` is the agreement of the two
processors. Operands that agree give the same result, so the effects of an instruction and of the renamed
one agree too (`Renamed.effect`), and applying them keeps the agreement. The run is an induction on the
number of steps.

A renaming has to be injective, as two registers with one new name would be one register.
-/

namespace PocketMips

variable {s : Equiv.Perm Reg}

/-- The instruction with its registers renamed. -/
def Instr.rename (s : Equiv.Perm Reg) : Instr → Instr
  | .reg op rd rs rt => .reg op (s rd) (s rs) (s rt)
  | .imm op dest src value => .imm op (s dest) (s src) value
  | .mem op rt base offset => .mem op (s rt) (s base) offset
  | .jump target => .jump target
  | .branch rs rt target => .branch (s rs) (s rt) target
  | .nop => .nop
  | .exit => .exit

/-- The instruction with its registers renamed, and its source as it was. -/
def Instruction.rename (s : Equiv.Perm Reg) (i : Instruction) : Instruction :=
  { i with instr := i.instr.rename s }

/-- The program with the registers of all its instructions renamed. -/
def Program.rename (s : Equiv.Perm Reg) (p : Program) : Program :=
  ⟨p.instrs.map (Instruction.rename s)⟩

/-- The effect with the register that it writes renamed. -/
def Effect.rename (s : Equiv.Perm Reg) : Effect → Effect
  | .write r w => .write (s r) w
  | .load r index w => .load (s r) index w
  | .store index w => .store index w
  | .goto address => .goto address
  | .pass => .pass
  | .exit => .exit

/-- The instruction at an index is the renamed one. -/
lemma Program.get?_rename (s : Equiv.Perm Reg) (p : Program) (index : Nat) :
    (p.rename s).get? index = (p.get? index).map (Instruction.rename s) :=
  Array.getElem?_map

namespace Processor
variable {p q : Processor}

/-- The second processor is the first one with its registers renamed. -/
structure Renamed (s : Equiv.Perm Reg) (p q : Processor) : Prop where
  program : q.program = p.program.rename s
  config : q.config = p.config
  pc : q.pc = p.pc
  halt : q.halt? = p.halt?
  completed : q.completed = p.completed
  mem : q.mem = p.mem
  /-- The words stored, in the order of the first time. -/
  words : q.footprint.words = p.footprint.words
  accesses : q.footprint.accesses = p.footprint.accesses
  regs : ∀ r, q.regs.get (s r) = p.regs.get r
  /-- The registers written, in the order of the first time. -/
  changedRegs : q.changedRegs = p.changedRegs.map s
  known : ∀ r : Reg, q.footprint.regs.contains (s r).val = p.footprint.regs.contains r.val

namespace Renamed

/-! ### What an instruction finds -/

/-- Both processors have halted or neither has. -/
lemma isDone (h : Renamed s p q) : q.isDone = p.isDone :=
  congrArg Option.isSome h.halt

/-- Both processors are at the same instruction, but for the names. -/
lemma current (h : Renamed s p q) : q.current? = p.current?.map (Instruction.rename s) := by
  unfold current? index
  rw [h.program, h.pc, Program.get?_rename]

/-- An access by the renamed register has the same address. -/
lemma address (h : Renamed s p q) (base : Reg) (offset : Imm) :
    q.address (s base) offset = p.address base offset := by
  unfold Processor.address
  rw [h.regs]

/-- Both processors find the same word at an address. -/
lemma wordAt (h : Renamed s p q) (address : Word) : q.wordAt address = p.wordAt address := by
  unfold Processor.wordAt
  rw [h.mem]

/-- The renamed instruction has the renamed effect, or fails for the same reason. -/
lemma effect (h : Renamed s p q) (i : Instr) :
    q.effect (i.rename s) = (p.effect i).map (Effect.rename s) := by
  cases i with
  | reg op rd rs rt =>
    simp only [Instr.rename, Processor.effect, h.regs]
    cases op.result? (p.regs.get rs) (p.regs.get rt) <;> rfl
  | imm op dest src value =>
    simp only [Instr.rename, Processor.effect, h.regs]
    rfl
  | mem op rt base offset =>
    cases op with
    | lw =>
      simp only [Instr.rename, Processor.effect, h.address, h.wordAt]
      cases p.wordAt (p.address base offset) <;> rfl
    | sw =>
      simp only [Instr.rename, Processor.effect, h.address, h.wordAt, h.regs]
      cases p.wordAt (p.address base offset) <;> rfl
  | jump target =>
    simp only [Instr.rename, Processor.effect]
    cases targetAddress target <;> rfl
  | branch rs rt target =>
    simp only [Instr.rename, Processor.effect, h.regs]
    split
    case isTrue => cases targetAddress target <;> rfl
    case isFalse => rfl
  | nop => rfl
  | exit => rfl

/-! ### What an effect does -/

/-- Both processors go on to the next instruction. -/
lemma advance (h : Renamed s p q) : Renamed s p.advance q.advance :=
  { h with pc := congrArg (· + 4) h.pc }

/-- Both processors go to the same address. -/
lemma goto (h : Renamed s p q) (address : UInt32) :
    Renamed s { p with pc := address } { q with pc := address } :=
  { h with pc := rfl }

/-- Both processors stop for the same reason. -/
lemma stop (h : Renamed s p q) (why : Halt) : Renamed s (p.stop why) (q.stop why) :=
  { h with halt := rfl }

/-- Both processors complete an instruction. -/
lemma complete (h : Renamed s p q) : Renamed s p.complete q.complete :=
  { h with completed := congrArg (· + 1) h.completed }

/-- A register and its new name are written on the two processors. -/
lemma writeReg (h : Renamed s p q) (r : Reg) (w : Word) :
    Renamed s (p.writeReg r w) (q.writeReg (s r) w) := by
  refine { h with regs := ?regs, changedRegs := ?changedRegs, known := ?known }
  case regs =>
    intro other
    simp only [Processor.writeReg, RegFile.get_set, s.injective.eq_iff, h.regs]
  case changedRegs =>
    show (q.footprint.writeReg (s r)).changedRegs = (p.footprint.writeReg r).changedRegs.map s
    have before : q.footprint.changedRegs = p.footprint.changedRegs.map s := h.changedRegs
    rw [Footprint.changedRegs_writeReg, Footprint.changedRegs_writeReg, h.known, before]
    split
    case isTrue => rfl
    case isFalse => rw [List.map_append, List.map_singleton]
  case known =>
    intro other
    have same : (s r).val = (s other).val ↔ r.val = other.val := by
      rw [Fin.val_inj, Fin.val_inj, s.injective.eq_iff]
    simp only [Processor.writeReg, Footprint.writeReg, ChangeSet.contains_insert, h.known, same]

/-- The same word is recorded as loaded on both processors. -/
lemma readWord (h : Renamed s p q) (index : Nat) :
    Renamed s (p.readWord index) (q.readWord index) := by
  refine { h with accesses := ?accesses }
  simp only [Processor.readWord, Footprint.readWord, Footprint.access, h.accesses]

/-- The same word is stored on both processors. -/
lemma writeWord (h : Renamed s p q) (index : Nat) (w : Word) :
    Renamed s (p.writeWord index w) (q.writeWord index w) := by
  refine { h with mem := ?mem, words := ?words, accesses := ?accesses }
  case mem => exact congrArg (·.set index w) h.mem
  case words => exact congrArg (·.insert index) h.words
  case accesses => simp only [Processor.writeWord, Footprint.writeWord, Footprint.access, h.accesses]

/-- Effects that agree keep the agreement. -/
lemma apply (h : Renamed s p q) (e : Effect) : Renamed s (p.apply e) (q.apply (e.rename s)) := by
  cases e with
  | write r w => exact (h.writeReg r w).advance
  | load r index w => exact ((h.readWord index).writeReg r w).advance
  | store index w => exact (h.writeWord index w).advance
  | goto address => exact h.goto address
  | pass => exact h.advance
  | exit => exact h.advance.stop .exit

/-! ### Runs -/

/-- A step keeps the agreement. -/
lemma step (h : Renamed s p q) : Renamed s p.step q.step := by
  rw [step_eq_apply, step_eq_apply, h.isDone]
  by_cases d : p.isDone = true
  · rw [if_pos d, if_pos d]
    exact h
  · rw [if_neg d, if_neg d, h.current, h.pc]
    cases p.current? with
    | none => exact h.stop _
    | some i =>
      have effects := h.effect i.instr
      simp only [Option.map_some, Instruction.rename]
      rw [effects]
      cases p.effect i.instr with
      | error why => exact h.stop why
      | ok e => exact (h.apply e).complete

/-- Any number of steps keeps the agreement. -/
lemma iterate (h : Renamed s p q) (n : Nat) : Renamed s (Processor.step^[n] p) (Processor.step^[n] q) := by
  induction n with
  | zero => exact h
  | succ n ih =>
    rw [Function.iterate_succ_apply', Function.iterate_succ_apply']
    exact ih.step

end Renamed

/-- At the start of a program all registers are alike. -/
lemma renamed_reset (s : Equiv.Perm Reg) (p : Processor) :
    Renamed s p.reset (p.load (p.program.rename s)) where
  program := rfl
  config := rfl
  pc := rfl
  halt := rfl
  completed := rfl
  mem := (mem_reset _).trans (mem_reset _).symm
  words := rfl
  accesses := rfl
  regs r := (RegFile.get_zero (s r)).trans (RegFile.get_zero r).symm
  changedRegs := rfl
  known _ := (ChangeSet.contains_empty _).trans (ChangeSet.contains_empty _).symm

/-- A program with renamed registers runs like the program itself, from the start and for any number of
steps, whatever the program and the size of the memory are. -/
theorem renamed_iterate_reset (s : Equiv.Perm Reg) (p : Processor) (n : Nat) :
    Renamed s (step^[n] p.reset) (step^[n] (p.load (p.program.rename s))) :=
  (renamed_reset s p).iterate n

end Processor

end PocketMips
