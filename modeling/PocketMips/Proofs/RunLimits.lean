import Mathlib.Data.ENat.Lattice
import PocketMips.Proofs.Operations
import PocketMips.Shell.Start

/-!
# Runs with a limit

How many steps a run with a limit takes, and what it counts. A processor need not halt, so the number of
steps up to its halt is a natural number or infinite. It is compared with the steps of a run by bounds: a
run takes at most `n` steps exactly if `n` is not below the limit or the processor has halted by then.

The main statement is `Machine.runsUpTo`.
-/

namespace PocketMips

namespace Processor

/-- The least number of steps after which the processor has halted, or infinity if it never does. -/
noncomputable def stepsToHalt (p : Processor) : ℕ∞ :=
  ⨅ n ∈ {n : ℕ | (step^[n] p).isDone}, (n : ℕ∞)

/-- Has the processor halted for any reason but an exit? -/
def hasFailed (p : Processor) : Bool :=
  p.halt?.any (· ≠ .exit)

end Processor

/-- What a run with a limit does. -/
structure Machine.RunsUpTo (m : Machine) (limit : Nat) : Prop where
  taken : ((m.run limit).2 : ℕ∞) = min (limit : ℕ∞) m.cpu.stepsToHalt
  cpu : (m.run limit).1.cpu = Processor.step^[(m.run limit).2] m.cpu
  isDone : (m.run limit).1.cpu.isDone ↔ m.cpu.stepsToHalt ≤ limit
  /-- Every step completes an instruction, but the one that makes this run fail. -/
  completed : (m.run limit).1.cpu.completed +
      (if !m.cpu.isDone && (m.run limit).1.cpu.hasFailed then 1 else 0) =
    m.cpu.completed + (m.run limit).2
  /-- The run can be cut in two. -/
  split : ∀ a b, a + b = limit →
    m.run limit = (((m.run a).1.run b).1, (m.run a).2 + ((m.run a).1.run b).2)
  /-- The first line that the command line prints after such a run, if it halts. -/
  finished : m.cpu.stepsToHalt ≤ limit → ∀ s : Session, s.machine = m →
    ∃ why, (m.run limit).1.cpu.halt? = some why ∧
      (Shell.batch limit s).2.out.head? =
        some ("finished after " ++ toString (m.run limit).2 ++ " step(s): " ++ why.message)
  /-- The line if it does not. -/
  stopped : limit < m.cpu.stepsToHalt → ∀ s : Session, s.machine = m →
    (Shell.batch limit s).2.out.head? =
      some ("stopped at the step limit (" ++ toString limit ++ " step(s))")

namespace Processor
variable {p : Processor}

/-- A processor needs at most so many steps if it has halted after them. -/
lemma stepsToHalt_le_iff {n : Nat} : p.stepsToHalt ≤ n ↔ (step^[n] p).isDone := by
  constructor
  · intro le
    by_contra going
    have later : ((n + 1 : ℕ) : ℕ∞) ≤ p.stepsToHalt := by
      apply le_iInf₂
      intro k done
      rw [Nat.cast_le]
      by_contra early
      apply going
      rw [isDone_iterate_of_le done (by omega)]
      exact done
    have absurd := Nat.cast_le.1 (later.trans le)
    omega
  · intro done
    exact iInf₂_le n done

/-- A run takes at most so many steps if the limit allows no more or the processor has halted then. -/
lemma run_snd_le_iff {limit n : Nat} : (p.run limit).2 ≤ n ↔ limit ≤ n ∨ (step^[n] p).isDone := by
  induction limit generalizing p n with
  | zero => simp [run, repeatUntil, repeatFrom]
  | succ limit ih =>
    cases done : p.isDone with
    | true => simp [run_of_done done, iterate_of_done done, done]
    | false =>
      rw [run_succ done]
      cases n with
      | zero => simp [done]
      | succ n => simp [ih, Function.iterate_succ_apply]

/-- A run takes as many steps as its limit allows, or those up to the halt if these are fewer. -/
lemma run_snd_eq_min (p : Processor) (limit : Nat) :
    ((p.run limit).2 : ℕ∞) = min (limit : ℕ∞) p.stepsToHalt := by
  -- Two numbers with the same bounds are equal.
  apply eq_of_forall_ge_iff
  intro bound
  cases bound with
  | top => simp
  | coe n => rw [min_le_iff, stepsToHalt_le_iff, Nat.cast_le, Nat.cast_le, run_snd_le_iff]

/-- A step completes an instruction, unless it makes the processor fail. -/
lemma completed_step (going : p.isDone = false) :
    p.step.completed + (if p.step.hasFailed then 1 else 0) = p.completed + 1 := by
  have stepping := p.stepping
  generalize p.step = q at stepping ⊢
  cases stepping with
  | still done =>
    rw [going] at done
    cases done
  | fellOff => rfl
  | @refused i why _ _ effect =>
    -- As behind the end of the program, the processor fails and the count stays.
    have failed : (p.stop why).hasFailed = true := by
      simpa [hasFailed, stop] using ne_exit_of_effect effect
    rw [if_pos failed]
    rfl
  | @ran i e _ _ _ =>
    have intact : (p.apply e).complete.hasFailed = false := by
      cases e with
      | exit => rfl
      | _ =>
        show (p.apply _).halt?.any _ = false
        rw [halt?_apply (by simp), halt?_of_going going]
        rfl
    rw [intact]
    cases e <;> rfl

/-- A run completes an instruction with each step, unless it makes the processor fail. -/
lemma completed_run (p : Processor) (limit : Nat) :
    (p.run limit).1.completed + (if !p.isDone && (p.run limit).1.hasFailed then 1 else 0) =
      p.completed + (p.run limit).2 := by
  rw [run_fst]
  induction limit generalizing p with
  | zero => cases halted : p.halt? <;> simp [run, repeatUntil, repeatFrom, isDone, hasFailed, halted]
  | succ limit ih =>
    cases done : p.isDone with
    | true => simp [run_of_done done, iterate_of_done done]
    | false =>
      have first := completed_step done
      have rest := ih p.step
      rw [run_succ done, Function.iterate_succ_apply]
      cases halted : p.step.isDone with
      | true =>
        rw [run_of_done halted, iterate_of_done halted]
        exact first
      | false =>
        have intact : p.step.hasFailed = false := by simp [hasFailed, halt?_of_going halted]
        -- The step did not halt, so that it did not fail: only the last step of a run can be the one less.
        rw [intact, if_neg Bool.false_ne_true] at first
        rw [halted] at rest
        omega

end Processor

/-- A run with a limit takes the steps up to the halt or up to the limit, whichever comes first, and counts
them. -/
theorem Machine.runsUpTo (m : Machine) (limit : Nat) : m.RunsUpTo limit := by
  have cpu : m.cpu.run limit = ((m.run limit).1.cpu, (m.run limit).2) := m.run_cpu limit
  have taken := m.cpu.run_snd_eq_min limit
  have completed := m.cpu.completed_run limit
  rw [cpu] at taken completed
  have isDone : (m.run limit).1.cpu.isDone ↔ m.cpu.stepsToHalt ≤ limit := by
    rw [Processor.stepsToHalt_le_iff, m.cpu_run]
  constructor
  case taken => exact taken
  case completed => exact completed
  case isDone => exact isDone
  case cpu =>
    have steps := m.cpu.iterate_run_snd limit
    rw [cpu] at steps
    rw [steps, m.cpu_run]
  case split =>
    rintro a b rfl
    exact repeatUntil_add _ step a b m
  case finished =>
    rintro early s rfl
    obtain ⟨why, halted⟩ := Option.isSome_iff_exists.mp (isDone.mpr early)
    refine ⟨why, halted, ?_⟩
    simp [Shell.batch, Session.cpu, halted]
  case stopped =>
    rintro late s rfl
    have going : (s.machine.run limit).1.cpu.halt? = none := by
      apply Processor.halt?_of_going
      rw [Bool.eq_false_iff]
      exact fun halted => absurd (isDone.mp halted) (not_le.mpr late)
    have all : (s.machine.run limit).2 = limit := by
      rw [min_eq_left late.le, Nat.cast_inj] at taken
      exact taken
    simp [Shell.batch, Session.cpu, going, all]

end PocketMips
