import PocketMips.FreeRun
import PocketMips.SourceFile

/-!
# Sessions

A session gives commands to one machine and has at most one free run on it. The commands that change
the program or the state end a free run first, and a step during a free run is ignored.
-/

namespace PocketMips

/-- A machine and the free run on it, if one was started and its report not collected yet. -/
structure Session where
  machine : Machine
  freeRun? : Option FreeRun

/-- A register that was written, and its word. -/
structure RegEntry where
  reg : Reg
  value : Word
  deriving DecidableEq, Repr

/-- The register and its word without a sign. -/
def RegEntry.text (e : RegEntry) : List Char :=
  e.reg.text ++ ": ".toList ++ Text.showNat e.value.unsigned

/-- A word of memory that was stored, and its index. -/
structure MemEntry where
  index : Nat
  value : Word
  deriving DecidableEq, Repr

/-- The index as a signed number of 16 bits, and the word without a sign. -/
def MemEntry.text (e : MemEntry) : List Char :=
  Text.showInt (Int16.ofNat e.index).toInt ++ ": ".toList ++ Text.showNat e.value.unsigned

namespace Session

/-- A session without a program. -/
def new (config : Config) (threshold : Option Level) : Session :=
  ⟨.new config threshold, none⟩

/-- The processor of the session. -/
def cpu (s : Session) : Processor :=
  s.machine.cpu

/-- Records an event of the controller. -/
def note (s : Session) (e : Event) : Session :=
  { s with machine := s.machine.note e }

/-! ### The free run -/

/-- Is there a worker that has not left yet? -/
def isRunning (s : Session) : Bool :=
  s.freeRun?.any (!·.isFinished)

/-- The next atomic action of the worker, if there is one. -/
def workerActs (s : Session) : Session :=
  match s.freeRun? with
  | none => s
  | some r =>
    let (machine, r) := FreeRun.act s.machine r
    ⟨machine, some r⟩

/-- Lets the worker act until it has left. Its report is not collected. -/
def settle (s : Session) : Session :=
  match s.freeRun? with
  | none => s
  | some r =>
    let (machine, r) := FreeRun.settle s.machine r
    ⟨machine, some r⟩

/-- The session after an attempt to end its free run, and the report if there is one. -/
def take (attempt : Machine → FreeRun → Machine × Except FreeRun Report) (s : Session) :
    Session × Option Report :=
  match s.freeRun? with
  | none => (s, none)
  | some r =>
    match attempt s.machine r with
    | (machine, .ok report) => (⟨machine, none⟩, some report)
    | (machine, .error r) => (⟨machine, some r⟩, none)

/-- Collects the report of a free run that has ended by now. -/
def poll (s : Session) : Session × Option Report :=
  s.take FreeRun.collect

/-- Waits for the free run to end and collects its report. -/
def wait (s : Session) : Session × Option Report :=
  s.take FreeRun.wait

/-- Stops the free run and collects its report. -/
def stop (s : Session) : Session × Option Report :=
  s.take FreeRun.stop

/-- Starts a free run, unless one is going on. The report of one that has ended is lost. -/
def run (s : Session) : Session :=
  if s.isRunning then s
  else { s.poll.1.note .freeRunStarted with freeRun? := some .start }

/-! ### Commands on the machine -/

/-- Loads a program. -/
def load (s : Session) (program : Program) : Session :=
  let s := s.stop.1
  { s with machine := s.machine.load program }

/-- Loads a program from the source file at a path. If it cannot be read, the empty program is loaded
and run to its end, which takes one step. -/
def loadFile (s : Session) (path : String) (file : SourceFile) :
    Session × Except ReadError (List Rejection) :=
  let s := s.stop.1
  match file with
  | .ok source =>
    let (machine, a) := (s.machine.note (.assembling path)).assemble source
    ({ s with machine := machine.load a.program }, .ok a.rejections)
  | .error why =>
    let machine := s.machine.note (.unreadable path why.message)
    ({ s with machine := (machine.load .empty).step }, .error why)

/-- Runs one instruction, unless a free run is going on. -/
def step (s : Session) : Session :=
  if s.isRunning then s.note .stepIgnored
  else { s with machine := s.machine.step }

/-- Takes the machine back to the start of its program. -/
def reset (s : Session) : Session :=
  let s := s.stop.1
  { s with machine := s.machine.reset }

/-! ### What there is to see -/

/-- Has the processor halted? -/
def isDone (s : Session) : Bool :=
  s.cpu.isDone

/-- The index of the instruction that comes next, if it is one of the program. -/
def highlight (s : Session) : Option Nat :=
  if s.cpu.index < s.cpu.program.size then some s.cpu.index else none

/-- The registers written since the last reset and their words. -/
def changedRegs (s : Session) : List RegEntry :=
  s.cpu.changedRegs.map fun r => ⟨r, s.cpu.regs.get r⟩

/-- The words stored since the last reset. -/
def changedWords (s : Session) : List MemEntry :=
  s.cpu.changedWords.map fun i => ⟨i, (s.cpu.mem.get? i).getD 0⟩

/-- The listing of the program. -/
def listing (s : Session) : List Char :=
  s.cpu.program.listing

end Session

end PocketMips
