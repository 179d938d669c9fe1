import PocketMips.Proofs.Operations

/-!
# Starting again

A reset and a load forget everything but the settings, and a reset keeps the program: what they leave is
the machine that was made new with these settings and has got the program (`Machine.restart`). The memory
may have been cleared or replaced on the way there, which does not show (`Memory.renew_eq`).

Machines with equal processors go on alike, whatever is in their logs. So a log can be taken away before
some operations and put back in front of what they record (`Machine.performAll_prepend`), and this is all
that there is to compare.
-/

namespace PocketMips

/-- The log with entries from before. -/
def Log.prepend (past : Array (Author × Event)) (log : Log) : Log :=
  { log with entries := past ++ log.entries }

namespace Log

/-- Whether an event is recorded does not depend on the entries from before. -/
lemma write_prepend (past : Array (Author × Event)) (log : Log) (author : Author) (e : Event) :
    (log.prepend past).write author e = (log.write author e).prepend past := by
  unfold write
  by_cases keeps : log.keeps e.level = true
  · rw [if_pos keeps, if_pos (show (log.prepend past).keeps e.level = true from keeps)]
    simp [prepend]
  · rw [if_neg keeps, if_neg (show ¬ (log.prepend past).keeps e.level = true from keeps)]

/-- What is recorded does not depend on the entries from before. -/
lemma writeAll_prepend (past : Array (Author × Event)) (log : Log) (author : Author)
    (es : List Event) :
    (log.prepend past).writeAll author es = (log.writeAll author es).prepend past := by
  induction es generalizing log with
  | nil => rfl
  | cons e es ih =>
    unfold writeAll at ih ⊢
    rw [List.foldl_cons, List.foldl_cons, write_prepend, ih]

end Log

namespace Machine

/-- The machine with entries of its log from before. -/
def prepend (past : Array (Author × Event)) (m : Machine) : Machine :=
  { m with log := m.log.prepend past }

/-- Machines do the same from here on, whatever is done with them: they get into the same states, a run
takes as many steps, and they record the same. -/
structure GoesOnLike (m m' : Machine) : Prop where
  cpu : m.cpu = m'.cpu
  states : ∀ ops, (m.performAll ops).cpu = (m'.performAll ops).cpu
  steps : ∀ ops limit, ((m.performAll ops).run limit).2 = ((m'.performAll ops).run limit).2
  records : ∀ ops, ∃ entries, (m.performAll ops).log.entries = m.log.entries ++ entries ∧
    (m'.performAll ops).log.entries = m'.log.entries ++ entries

/-! ### What is in the log -/

section
variable (past : Array (Author × Event)) (m : Machine)

/-- A step does not look at the log. -/
lemma step_prepend : (m.prepend past).step = m.step.prepend past := by
  unfold step stepBy prepend
  simp only [Log.writeAll_prepend]
  split <;> rfl

/-- A run does not look at the log, and it takes as many steps. -/
lemma run_prepend (limit : Nat) :
    (m.prepend past).run limit = ((m.run limit).1.prepend past, (m.run limit).2) :=
  repeatFrom_view (prepend past) (fun _ => rfl) (step_prepend past) limit m 0

/-- Loading a program does not look at the log. -/
lemma load_prepend (program : Program) :
    (m.prepend past).load program = (m.load program).prepend past := by
  unfold load note prepend
  simp only [Log.write_prepend]

/-- An operation does not look at the log. -/
lemma perform_prepend (op : Operation) :
    (m.prepend past).perform op = (m.perform op).prepend past := by
  cases op with
  | load program => exact load_prepend past m program
  | step => exact step_prepend past m
  | run limit => exact congrArg Prod.fst (run_prepend past m limit)
  | reset => rfl
  | setMemWords words => rfl

/-- Operations do not look at the log. -/
lemma performAll_prepend (ops : List Operation) :
    (m.prepend past).performAll ops = (m.performAll ops).prepend past := by
  induction ops generalizing m with
  | nil => rfl
  | cons op ops ih =>
    unfold performAll at ih ⊢
    rw [List.foldl_cons, List.foldl_cons, perform_prepend, ih]

/-- What is done with a machine can be done with an empty log, and the old entries put back. -/
lemma performAll_eq (ops : List Operation) :
    m.performAll ops =
      (performAll ⟨m.cpu, .empty m.log.threshold⟩ ops).prepend m.log.entries := by
  have split : m = prepend m.log.entries ⟨m.cpu, .empty m.log.threshold⟩ := by
    simp [prepend, Log.prepend, Log.empty]
  exact (congrArg (performAll · ops) split).trans (performAll_prepend _ _ ops)

/-- Loading a program does not change what is recorded. -/
lemma threshold_load (program : Program) : (m.load program).log.threshold = m.log.threshold :=
  m.log.threshold_write _ _

end

/-- What a machine does depends on its processor, and what it records on the threshold too. -/
lemma goesOnLike {m m' : Machine} (cpu : m.cpu = m'.cpu)
    (threshold : m.log.threshold = m'.log.threshold) : m.GoesOnLike m' := by
  have here := m.performAll_eq
  have there := m'.performAll_eq
  rw [← cpu, ← threshold] at there
  refine ⟨cpu, ?states, ?steps, ?records⟩
  case states =>
    intro ops
    rw [here, there]
    rfl
  case steps =>
    intro ops limit
    rw [here, there, run_prepend, run_prepend]
  case records =>
    intro ops
    exact ⟨_, congrArg (·.log.entries) (here ops), congrArg (·.log.entries) (there ops)⟩

end Machine

/-! ### The start of a program -/

namespace Processor

/-- A reset leaves a new processor with the same settings that has got the program. -/
lemma reset_eq (p : Processor) : p.reset = (new p.config).load p.program := by
  unfold load reset
  rw [Memory.renew_eq, Memory.renew_eq]
  rfl

/-- Loading a program makes a new processor of one with the same settings. -/
lemma load_eq (p : Processor) (program : Program) : p.load program = (new p.config).load program :=
  reset_eq { p with program }

end Processor

/-- Whatever was done with a machine: reset, it goes on like a new one with the same settings that was
given its program, and loaded with a program like a new one that was given this program. Both are at the
start of the program, where nothing has happened yet. -/
theorem Machine.restart (m : Machine) (program : Program) :
    let fresh := new m.cpu.config m.log.threshold
    (m.reset.GoesOnLike (fresh.load m.cpu.program) ∧ m.reset.cpu.Pristine m.cpu.program m.cpu.config) ∧
      ((m.load program).GoesOnLike (fresh.load program) ∧
        (m.load program).cpu.Pristine program m.cpu.config) := by
  intro fresh
  have given (program : Program) : (fresh.load program).log.threshold = m.log.threshold :=
    fresh.threshold_load program
  refine ⟨⟨?_, m.cpu.pristine_reset⟩, ?_, m.cpu.pristine_load program⟩
  · exact goesOnLike m.cpu.reset_eq (given m.cpu.program).symm
  · exact goesOnLike (m.cpu.load_eq program) ((m.threshold_load program).trans (given program).symm)

end PocketMips
