import PocketMips.Footprint
import PocketMips.Memory
import PocketMips.Program

/-!
# The processor

The processor runs a program one instruction at a time. The instruction with index `i` is at the
address `4 * i`. An instruction is run in place: its checks, writes and records come one after the
other, and it may fail on the way. One that fails halts the processor, and what was changed before
stays. A processor that has halted does not move any more until it is reset or gets another program.
-/

namespace PocketMips

/-- Why a run has ended. -/
inductive Halt where
  /-- The program asked for it. -/
  | exit
  /-- There is no instruction at the address, where the program went or would have gone. -/
  | noInstruction (address : Int)
  /-- A division by zero. -/
  | divByZero
  /-- An access to a word that the memory does not have, at a byte address. -/
  | badAddress (address : Int)
  deriving DecidableEq, Repr

namespace Halt

/-- Did the run end in the middle of an instruction? -/
def isFault : Halt → Bool
  | .divByZero | .badAddress _ => true
  | .exit | .noInstruction _ => false

/-- The wording of the reason. -/
def message : Halt → String
  | .exit => "program exited"
  | .noInstruction address => "PC " ++ toString address ++ " is outside of the program"
  | .divByZero => "division by zero"
  | .badAddress address => "memory address " ++ toString address ++ " is out of range"

end Halt

/-- What can be set on a processor. A change counts from the next reset on. -/
structure Config where
  /-- The number of words of memory that is asked for. -/
  memWords : Nat
  deriving DecidableEq, Repr

/-- The settings of a processor for which nothing was asked. -/
def Config.standard : Config :=
  ⟨Memory.minSize⟩

/-- The state of a processor. -/
structure Processor where
  /-- The address of the next instruction. -/
  pc : UInt32
  regs : RegFile
  mem : Memory
  /-- What was touched since the last reset. -/
  footprint : Footprint
  /-- Why the processor has halted, if it has. -/
  halt? : Option Halt
  /-- The number of instructions completed since the last reset. -/
  completed : Nat
  program : Program
  config : Config

namespace Processor

/-- The processor at the start of its program. -/
def reset (p : Processor) : Processor where
  pc := 0
  regs := .zero
  mem := p.mem.renew p.config.memWords
  footprint := .empty
  halt? := none
  completed := 0
  program := p.program
  config := p.config

/-- A reset leaves a new memory. -/
@[simp] theorem mem_reset (p : Processor) : p.reset.mem = .zero p.config.memWords :=
  p.mem.renew_eq _

/-- The processor at the start of another program. -/
def load (p : Processor) (program : Program) : Processor :=
  reset { p with program }

/-- A processor without a program. -/
def new (config : Config) : Processor where
  pc := 0
  regs := .zero
  mem := .zero config.memWords
  footprint := .empty
  halt? := none
  completed := 0
  program := .empty
  config := config

/-- A new processor is at the start of its program, which is empty. -/
theorem reset_new (config : Config) : (new config).reset = new config := by
  rw [reset, Memory.renew_eq]
  rfl

/-- Has the processor halted? -/
def isDone (p : Processor) : Bool :=
  p.halt?.isSome

/-- The index at the program counter. -/
def index (p : Processor) : Nat :=
  p.pc.toNat / 4

/-- The instruction at the program counter. -/
def current? (p : Processor) : Option Instruction :=
  p.program.get? p.index

/-- The registers written since the last reset, in the order of the first time. -/
def changedRegs (p : Processor) : List Reg :=
  p.footprint.changedRegs

/-- The words stored since the last reset, in the order of the first time. -/
def changedWords (p : Processor) : List Nat :=
  p.footprint.changedWords

/-! ### Addresses -/

/-- The address of the instruction with an index, which is not allowed to be negative. -/
def targetAddress (target : Imm) : Except Halt UInt32 :=
  let address := 4 * target.toInt
  if address < 0 then .error (.noInstruction address) else .ok (UInt32.ofNat address.toNat)

/-- The byte address at a register plus an offset. -/
def address (p : Processor) (base : Reg) (offset : Imm) : Word :=
  p.regs.get base + offset.toInt32

/-- The index of the word at a byte address, rounded toward zero; no word has a negative index. -/
def wordIndex (address : Word) : Except Halt Nat :=
  let index := address.toInt.tdiv 4
  if index < 0 then .error (.badAddress address.toInt) else .ok index.toNat

/-! ### Running an instruction -/

/-- The processor with another word in a register. -/
def writeReg (p : Processor) (r : Reg) (w : Word) : Processor :=
  { p with regs := p.regs.set r w, footprint := p.footprint.writeReg r }

/-- The processor after a word of memory was read. -/
def readWord (p : Processor) (index : Nat) : Processor :=
  { p with footprint := p.footprint.readWord index }

/-- The processor at the instruction that follows. -/
def advance (p : Processor) : Processor :=
  { p with pc := p.pc + 4 }

/-- The processor, halted for a reason. -/
def stop (p : Processor) (why : Halt) : Processor :=
  { p with halt? := some why }

/-- The processor with one more instruction completed. -/
def complete (p : Processor) : Processor :=
  { p with completed := p.completed + 1 }

/-- Runs an instruction in place. The changes made ahead of a failure are not taken back. -/
def execute : Instr → EStateM Halt Processor Unit
  | .reg op rd rs rt => do
    let p ← get
    match op.result? (p.regs.get rs) (p.regs.get rt) with
    | none => throw .divByZero
    | some w =>
      modify (·.writeReg rd w)
      modify advance
  | .imm op dest src value => do
    let p ← get
    modify (·.writeReg dest (op.result (p.regs.get src) value.toInt32))
    modify advance
  | .mem .lw rt base offset => do
    let p ← get
    let address := p.address base offset
    let index ← MonadExcept.ofExcept (wordIndex address)
    match p.mem.get? index with
    | none => throw (.badAddress address.toInt)
    | some w =>
      modify (·.readWord index)
      modify (·.writeReg rt w)
      modify advance
  | .mem .sw rt base offset => do
    let p ← get
    let address := p.address base offset
    let index ← MonadExcept.ofExcept (wordIndex address)
    match p.mem.set? index (p.regs.get rt) with
    | none => throw (.badAddress address.toInt)
    | some mem =>
      modify fun p => { p with mem }
      modify fun p => { p with footprint := p.footprint.writeWord index }
      modify advance
  | .jump target => do
    let address ← MonadExcept.ofExcept (targetAddress target)
    modify fun p => { p with pc := address }
  | .branch rs rt target => do
    let p ← get
    if p.regs.get rs = p.regs.get rt then
      let address ← MonadExcept.ofExcept (targetAddress target)
      modify fun p => { p with pc := address }
    else
      modify advance
  | .nop => modify advance
  | .exit => do
    modify advance
    throw .exit

/-- Runs the instruction at the program counter in place. -/
def executeNext : EStateM Halt Processor Unit := do
  let p ← get
  match p.current? with
  | none => throw (.noInstruction p.pc.toNat)
  | some i => execute i.instr

/-- Runs the instruction at the program counter, unless the processor has halted. An exit counts as
completed, any other failure does not. -/
def step (p : Processor) : Processor :=
  if p.isDone then p
  else
    match executeNext.run p with
    | .ok () p => p.complete
    | .error why p => (if why = .exit then p.complete else p).stop why

end Processor

end PocketMips
