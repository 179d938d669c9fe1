import PocketMips.Bounded
import PocketMips.Log

/-!
# The machine

A processor together with the log of what it does. The log never has an influence on the processor:
each operation acts on the processor as the operation of the same name there.
-/

namespace PocketMips

namespace Processor

/-- What is recorded before a step: the instruction that it runs. -/
def announcement (p : Processor) : List Event :=
  if p.isDone then [] else (p.current?.map fun i => .running p.pc.toNat i.instr).toList

/-- What is recorded after a step that halted the processor. -/
def verdict (p : Processor) : List Event :=
  (p.halt?.map (.halted p.pc.toNat)).toList

/-- What is recorded for a step. A processor that has halted records nothing. -/
def journal (p : Processor) : List Event :=
  if p.isDone then [] else p.announcement ++ p.step.verdict

/-- Steps until the processor halts, at most `limit` times: its state then and the number of steps. -/
def run (p : Processor) (limit : Nat) : Processor × Nat :=
  repeatUntil isDone step limit p

end Processor

/-- A processor and its log. -/
structure Machine where
  cpu : Processor
  log : Log

namespace Machine

/-- A machine without a program. -/
def new (config : Config) (threshold : Option Level) : Machine :=
  ⟨.new config, .empty threshold⟩

/-- Records an event of the controller. -/
def note (m : Machine) (e : Event) : Machine :=
  { m with log := m.log.write .controller e }

/-- Runs one instruction for an author. -/
def stepBy (author : Author) (m : Machine) : Machine :=
  let done := m.cpu.isDone
  let log := m.log.writeAll author m.cpu.announcement
  let cpu := m.cpu.step
  ⟨cpu, if done then log else log.writeAll author cpu.verdict⟩

/-- Runs one instruction. -/
def step (m : Machine) : Machine :=
  m.stepBy .controller

/-- Steps until the processor halts, at most `limit` times: the machine then and the number of steps. -/
def run (m : Machine) (limit : Nat) : Machine × Nat :=
  repeatUntil (·.cpu.isDone) step limit m

/-- Takes the processor back to the start of its program. -/
def reset (m : Machine) : Machine :=
  { m with cpu := m.cpu.reset }

/-- Gives the processor another program. -/
def load (m : Machine) (program : Program) : Machine :=
  { m.note (.loaded program.size) with cpu := m.cpu.load program }

/-- Sets the memory that the processor gets at the next reset. -/
def setMemWords (m : Machine) (words : Nat) : Machine :=
  { m with cpu := { m.cpu with config := ⟨words⟩ } }

/-- Assembles a text and records what came of it. -/
def assemble (m : Machine) (source : List Char) : Machine × Assembly :=
  let a := Assembly.ofSource source
  ({ m with log := m.log.writeAll .controller a.journal }, a)

@[simp] theorem cpu_stepBy (author : Author) (m : Machine) :
    (m.stepBy author).cpu = m.cpu.step := rfl

@[simp] theorem cpu_step (m : Machine) : m.step.cpu = m.cpu.step := rfl

@[simp] theorem cpu_note (m : Machine) (e : Event) : (m.note e).cpu = m.cpu := rfl

/-- A run of the machine is a run of its processor, of as many steps. -/
theorem run_cpu (m : Machine) (limit : Nat) :
    m.cpu.run limit = ((m.run limit).1.cpu, (m.run limit).2) :=
  repeatFrom_view Machine.cpu (fun _ => rfl) (fun _ => rfl) limit m 0

end Machine

end PocketMips
