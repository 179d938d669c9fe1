import Mathlib.Logic.Function.Iterate
import PocketMips.Machine
import PocketMips.Proofs.Effects

/-!
# Steps and operations

What a step can do to a processor, said once: the four cases of `Processor.Stepping`, of which one
is that it has halted and nothing happens. Steps are iterated as a function, and a run with a limit is
such an iteration. A machine that was made and then worked with has gone through a list of operations;
what each of them keeps, all of them keep.
-/

namespace PocketMips

/-- A repetition whose step changes nothing any more once it is done needs no test to stop it. -/
lemma repeatUntil_fst {σ : Type} {done : σ → Bool} {step : σ → σ}
    (still : ∀ s, done s → step s = s) (limit : Nat) (s : σ) :
    (repeatUntil done step limit s).1 = step^[limit] s := by
  unfold repeatUntil
  generalize 0 = taken
  induction limit generalizing s taken with
  | zero => rfl
  | succ limit ih =>
    unfold repeatFrom
    by_cases d : done s = true
    · rw [if_pos d, Function.iterate_fixed (still s d)]
    · rw [if_neg d, ih, Function.iterate_succ_apply]

/-- What leads from each state to itself, and goes on from a step to what comes after it, leads from the
start of a repetition to its end. -/
lemma repeatFrom_leads {σ : Type} {R : σ → σ → Prop} {done : σ → Bool} {step : σ → σ}
    (refl : ∀ s, R s s) (head : ∀ s s', done s = false → R (step s) s' → R s s')
    (limit : Nat) (s : σ) (taken : Nat) : R s (repeatFrom done step limit s taken).1 := by
  induction limit generalizing s taken with
  | zero => exact refl s
  | succ limit ih =>
    unfold repeatFrom
    cases d : done s with
    | true => exact refl s
    | false => exact head _ _ d (ih (step s) (taken + 1))

namespace Processor
variable {p : Processor} {why : Halt}

/-- The decoded instruction at an index. -/
def instrAt (p : Processor) (index : Nat) : Option Instr :=
  (p.program.get? index).map Instruction.instr

/-- A processor that has not halted has no reason to. -/
lemma halt?_of_going (going : p.isDone = false) : p.halt? = none :=
  Option.not_isSome_iff_eq_none.mp (Bool.eq_false_iff.mp going)

/-- What a step makes of a processor. -/
inductive Stepping (p : Processor) : Processor → Prop where
  /-- It has halted before. -/
  | still :
    p.isDone = true →
    Stepping p p
  /-- There is no instruction, and it halts. -/
  | fellOff :
    p.isDone = false →
    p.current? = none →
    Stepping p (p.stop (.noInstruction p.pc.toNat))
  /-- The instruction has no effect, and it halts. -/
  | refused {i why} :
    p.isDone = false →
    p.current? = some i →
    p.effect i.instr = .error why →
    Stepping p (p.stop why)
  /-- The instruction completes. -/
  | ran {i e} :
    p.isDone = false →
    p.current? = some i →
    p.effect i.instr = .ok e →
    Stepping p (p.apply e).complete

/-- What a step does is one of four things. -/
lemma stepping (p : Processor) : Stepping p p.step := by
  rw [step_eq_apply]
  by_cases d : p.isDone = true
  · rw [if_pos d]
    exact .still d
  · rw [if_neg d]
    have going : p.isDone = false := Bool.eq_false_iff.mpr d
    cases current : p.current? with
    | none => exact .fellOff going current
    | some i =>
      cases effect : p.effect i.instr with
      | error why =>
        simp only [effect]
        exact .refused going current effect
      | ok e =>
        simp only [effect]
        exact .ran going current effect

/-! ### What steps keep -/

/-- An effect other than an exit halts nothing. -/
lemma halt?_apply {e : Effect} (other : e ≠ .exit) : (p.apply e).halt? = p.halt? := by
  cases e with
  | exit => exact absurd rfl other
  | _ => rfl

/-- What an effect leaves alone. -/
lemma apply_keeps (p : Processor) (e : Effect) :
    (p.apply e).program = p.program ∧ (p.apply e).config = p.config ∧
      (p.apply e).mem.size = p.mem.size := by
  cases e <;> exact ⟨rfl, rfl, rfl⟩

/-- What a step leaves alone. -/
lemma step_keeps (p : Processor) :
    p.step.program = p.program ∧ p.step.config = p.config ∧ p.step.mem.size = p.mem.size := by
  have stepping := p.stepping
  generalize p.step = q at stepping ⊢
  cases stepping with
  | still => exact ⟨rfl, rfl, rfl⟩
  | fellOff => exact ⟨rfl, rfl, rfl⟩
  | refused => exact ⟨rfl, rfl, rfl⟩
  | ran => exact p.apply_keeps _

/-- A step keeps the program. -/
@[simp] theorem program_step (p : Processor) : p.step.program = p.program := p.step_keeps.1

/-- A step keeps the settings. -/
@[simp] theorem config_step (p : Processor) : p.step.config = p.config := p.step_keeps.2.1

/-- A step keeps the size of the memory. -/
@[simp] theorem memSize_step (p : Processor) : p.step.mem.size = p.mem.size := p.step_keeps.2.2

/-! ### Iterated steps -/

/-- What a step keeps, any number of steps keep. -/
lemma iterate_keeps {α : Type} {f : Processor → α} (keeps : ∀ p, f p.step = f p) (p : Processor)
    (n : Nat) : f (step^[n] p) = f p :=
  Function.Iterate.rec (fun q => f q = f p) rfl (fun q same => (keeps q).trans same) n

/-- A processor that has halted stays as it is. -/
lemma step_of_done (done : p.isDone) : p.step = p := by
  unfold step
  rw [if_pos done]

/-- A processor that has halted does not move any more. -/
lemma iterate_of_done (done : p.isDone) (n : Nat) : step^[n] p = p :=
  Function.iterate_fixed (step_of_done done) n

/-- Once halted, it stays so. -/
lemma isDone_iterate_of_le {k n : Nat} (done : (step^[k] p).isDone) (le : k ≤ n) :
    step^[n] p = step^[k] p := by
  obtain ⟨more, rfl⟩ := Nat.exists_eq_add_of_le' le
  rw [Function.iterate_add_apply, iterate_of_done done]

/-- A run with a limit ends where that many steps end. -/
lemma run_fst (p : Processor) (limit : Nat) : (p.run limit).1 = step^[limit] p :=
  repeatUntil_fst (fun _ => step_of_done) limit p

/-- A processor that has halted takes no steps. -/
lemma run_of_done (done : p.isDone) (limit : Nat) : (p.run limit).2 = 0 := by
  unfold run repeatUntil
  rw [repeatFrom_of_done done]

/-- A processor that has not halted takes a step, and as many as it takes from there. -/
lemma run_succ (going : p.isDone = false) (limit : Nat) :
    (p.run (limit + 1)).2 = (p.step.run limit).2 + 1 := by
  unfold run
  rw [repeatUntil_succ going]

/-- A limit beyond the halt makes no difference. -/
lemma run_snd_of_le {k n : Nat} (halts : (step^[k] p).isDone) (le : k ≤ n) :
    (p.run n).2 = (p.run k).2 := by
  induction k generalizing p n with
  | zero => rw [run_of_done (p := p) halts, run_of_done (p := p) halts]
  | succ k ih =>
    by_cases done : p.isDone = true
    · rw [run_of_done done, run_of_done done]
    · have going : p.isDone = false := Bool.eq_false_iff.mpr done
      obtain ⟨n, rfl⟩ := Nat.exists_eq_add_one_of_ne_zero (show n ≠ 0 by omega)
      rw [run_succ going, run_succ going, ih halts (by omega)]

/-- A processor that is going to halt is one step nearer to it after a step. -/
lemma run_step {n : Nat} (halts : (step^[n] p).isDone) (going : p.isDone = false) :
    (step^[n] p.step).isDone ∧ (p.run n).2 = (p.step.run n).2 + 1 := by
  cases n with
  | zero =>
    rw [show p.isDone = true from halts] at going
    cases going
  | succ n =>
    have ahead : (step^[n] p.step).isDone := halts
    refine ⟨?_, ?_⟩
    · rw [isDone_iterate_of_le ahead (Nat.le_succ n)]
      exact ahead
    · rw [run_succ going, run_snd_of_le ahead (Nat.le_succ n)]

/-- The steps that a run takes lead to where it ends. -/
lemma iterate_run_snd (p : Processor) (limit : Nat) : step^[(p.run limit).2] p = step^[limit] p := by
  induction limit generalizing p with
  | zero => rfl
  | succ limit ih =>
    by_cases done : p.isDone = true
    · rw [iterate_of_done done, iterate_of_done done]
    · rw [run_succ (Bool.eq_false_iff.mpr done), Function.iterate_succ_apply,
        Function.iterate_succ_apply, ih]

/-! ### The start of a program -/

/-- A processor at the start of a program, to which nothing has happened yet. -/
structure Pristine (code : Program) (setup : Config) (p : Processor) : Prop where
  program : p.program = code
  config : p.config = setup
  pc : p.pc = 0
  regs : ∀ r, p.regs.get r = 0
  size : p.mem.size = max 4096 (min setup.memWords 67108864)
  words : ∀ index < p.mem.size, p.mem.get? index = some 0
  changedRegs : p.changedRegs = []
  changedWords : p.changedWords = []
  unused : ∀ index, p.footprint.access index = .unused
  going : p.halt? = none
  completed : p.completed = 0

/-- A processor that was reset is as good as new, with its program and its settings. -/
lemma pristine_reset (p : Processor) : p.reset.Pristine p.program p.config where
  program := rfl
  config := rfl
  pc := rfl
  regs := RegFile.get_zero
  size := congrArg Memory.size p.mem_reset
  words index lt := by
    rw [mem_reset] at lt ⊢
    exact (Memory.get?_zero _ index).trans (if_pos lt)
  changedRegs := rfl
  changedWords := rfl
  unused _ := Std.TreeMap.getD_emptyc
  going := rfl
  completed := rfl

/-- A processor that has loaded a program is as good as new, with that program. -/
lemma pristine_load (p : Processor) (program : Program) :
    (p.load program).Pristine program p.config :=
  pristine_reset { p with program }

end Processor

/-! ### Operations -/

/-- What can be done with a machine. -/
inductive Operation where
  | load (program : Program)
  | step
  | run (limit : Nat)
  | reset
  /-- Sets the memory that is asked for at the next reset. -/
  | setMemWords (words : Nat)

namespace Machine

/-- The machine after an operation. -/
def perform (m : Machine) : Operation → Machine
  | .load program => m.load program
  | .step => m.step
  | .run limit => (m.run limit).1
  | .reset => m.reset
  | .setMemWords words => m.setMemWords words

/-- The machine after operations one after another. -/
def performAll (m : Machine) (ops : List Operation) : Machine :=
  ops.foldl perform m

/-- A run moves the processor by steps. -/
lemma cpu_run (m : Machine) (limit : Nat) : (m.run limit).1.cpu = Processor.step^[limit] m.cpu := by
  rw [← Processor.run_fst, run_cpu]

/-- A machine whose processor has halted takes no steps in a run, and records nothing. -/
lemma run_of_done {m : Machine} (done : m.cpu.isDone) (limit : Nat) : m.run limit = (m, 0) := by
  unfold run repeatUntil
  cases limit with
  | zero => rfl
  | succ limit =>
    unfold repeatFrom
    rw [if_pos done]

/-- What is true of the processor at first, and what each kind of operation keeps, is true of it after
any operations. -/
theorem performAll_induction {P : Processor → Prop} {m : Machine} (start : P m.cpu)
    (load : ∀ p program, P p → P (p.load program)) (step : ∀ p, P p → P p.step)
    (reset : ∀ p, P p → P p.reset) (config : ∀ p config, P p → P { p with config })
    (ops : List Operation) : P (m.performAll ops).cpu := by
  induction ops generalizing m with
  | nil => exact start
  | cons op ops ih =>
    apply ih
    cases op with
    | load program => exact load _ program start
    | step => exact step _ start
    | run limit =>
      unfold perform
      rw [cpu_run]
      exact Function.Iterate.rec P start step limit
    | reset => exact reset _ start
    | setMemWords words => exact config _ ⟨words⟩ start

/-- What is true at the start of every program, what a step keeps and what does not depend on the settings
is true of the processor of a new machine after any operations. -/
theorem performAll_new_induction {P : Processor → Prop} (reset : ∀ p : Processor, P p.reset)
    (step : ∀ p, P p → P p.step) (config : ∀ p config, P p → P { p with config }) (setup : Config)
    (threshold : Option Level) (ops : List Operation) :
    P ((new setup threshold).performAll ops).cpu := by
  apply performAll_induction
  case start =>
    show P (Processor.new setup)
    rw [← Processor.reset_new]
    exact reset _
  case load => exact fun p program _ => reset { p with program }
  case step => exact step
  case reset => exact fun p _ => reset p
  case config => exact config

end Machine

end PocketMips
