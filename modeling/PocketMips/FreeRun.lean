import PocketMips.Machine

/-!
# Free runs

A free run steps a processor in the background until the processor halts or a stop is asked for. Its
worker and the controller that started it share the processor, a stop flag and a mailbox for one
report. The worker goes through its phases by atomic actions, and between two of them the controller
may do anything; so an interleaving is given by how often the worker acts between two actions of the
controller.
-/

namespace PocketMips

/-- What a worker reports when its run has ended. -/
structure Report where
  /-- The number of steps that the worker took. -/
  steps : Nat
  /-- Did the run end because a stop was asked for? -/
  stopped : Bool
  /-- Why the processor had halted, if it had. -/
  halt? : Option Halt
  deriving DecidableEq, Repr

/-- What a worker does next. -/
inductive Phase where
  /-- Looks at the stop flag. -/
  | checkStop
  /-- Takes the processor, and steps it unless it has halted. -/
  | step
  /-- Counts the step, having let go of the processor. -/
  | count
  /-- Takes the processor to see why it has halted, for the report of a stopped run. -/
  | inspect
  /-- Puts its report into the mailbox. -/
  | send (r : Report)
  /-- Lets go of the processor. -/
  | leave
  /-- Nothing: the worker has left. -/
  | gone
  deriving DecidableEq, Repr

/-- A free run: where its worker is, and what worker and controller share besides the processor. -/
structure FreeRun where
  phase : Phase
  /-- The number of steps counted so far. -/
  steps : Nat
  stopRequested : Bool
  mailbox : Option Report
  deriving DecidableEq, Repr

namespace FreeRun

/-- A free run that has just been started. -/
def start : FreeRun :=
  ⟨.checkStop, 0, false, none⟩

/-- Asks the worker to stop at the next instruction. -/
def requestStop (r : FreeRun) : FreeRun :=
  { r with stopRequested := true }

/-- Has the worker left? -/
def isFinished (r : FreeRun) : Bool :=
  r.phase = .gone

/-- The next atomic action of the worker. -/
def act (m : Machine) (r : FreeRun) : Machine × FreeRun :=
  match r.phase with
  | .checkStop => (m, { r with phase := if r.stopRequested then .inspect else .step })
  | .step =>
    match m.cpu.halt? with
    | some why => (m, { r with phase := .send ⟨r.steps, false, some why⟩ })
    | none => (m.stepBy .worker, { r with phase := .count })
  | .count => (m, { r with phase := .checkStop, steps := r.steps + 1 })
  | .inspect => (m, { r with phase := .send ⟨r.steps, true, m.cpu.halt?⟩ })
  | .send report =>
    ({ m with log := m.log.write .worker (.freeRunEnded report.steps) },
      { r with phase := .leave, mailbox := some report })
  | .leave => (m, { r with phase := .gone })
  | .gone => (m, r)

/-- The number of actions of a worker that one waits for. No run comes near to it. -/
def patience : Nat := Nat.pow 2 62

/-- Lets the worker act until it has left. -/
def settle (m : Machine) (r : FreeRun) : Machine × FreeRun :=
  (repeatUntil (·.2.isFinished) (fun (m, r) => act m r) patience (m, r)).1

/-- Takes the report out of the mailbox and waits for the worker to leave, or gives the run back if
there is no report yet. -/
def collect (m : Machine) (r : FreeRun) : Machine × Except FreeRun Report :=
  match r.mailbox with
  | none => (m, .error r)
  | some report => ((settle m { r with mailbox := none }).1, .ok report)

/-- Waits for the worker to come to its end and takes its report. The run is given back if it does not
come to an end. -/
def wait (m : Machine) (r : FreeRun) : Machine × Except FreeRun Report :=
  let (m, r) := settle m r
  collect m r

/-- Asks the worker to stop and waits for its report. -/
def stop (m : Machine) (r : FreeRun) : Machine × Except FreeRun Report :=
  wait m r.requestStop

end FreeRun

end PocketMips
