import PocketMips.Proofs.FreeRunEnd
import PocketMips.Proofs.Numerals
import PocketMips.Proofs.Words
import PocketMips.Shell.Conversation

/-!
# All ways to run a program

Steps can be taken one by one, by a run with a limit, by a session, by the command `step` of the shell,
in one go from the command line, or by a free run. Each of these stops by a test of its own: before a
step, after it, or not at all. All of them lead to the processor to which that many single steps lead,
and those that count the steps come to the same number.
-/

namespace PocketMips
open Shell Text

/-- The line that asks the shell for a number of steps. -/
def Shell.stepLine (n : Nat) : List Char :=
  "step".toList ++ ' ' :: showNat n

/-- All ways to take `n` steps from a processor lead to the same processor. -/
structure Processor.RunsAlike (p : Processor) (n : Nat) : Prop where
  /-- A run with a limit. -/
  limited : (p.run n).1 = step^[n] p
  /-- The number of steps that a run takes on a processor that has halted before. -/
  none : p.isDone → (p.run n).2 = 0
  /-- The steps and the run of a machine, which keeps a log. -/
  logged : ∀ m : Machine, m.cpu = p →
    (Machine.step^[n] m).cpu = step^[n] p ∧ (m.run n).1.cpu = step^[n] p ∧
      (m.run n).2 = (p.run n).2
  /-- The run that the command line asks for. -/
  batch : ∀ s : Session, s.cpu = p → (batch n s).1.cpu = step^[n] p
  /-- The steps of a session without an active free run. -/
  session : ∀ s : Session, s.cpu = p → s.isRunning = false → (Session.step^[n] s).cpu = step^[n] p
  /-- The answer of the shell to a line that asks for `n` steps, without an active free run. -/
  shell : ∀ (disk : Disk) (line : List Char) (s : Session), s.cpu = p → s.isRunning = false →
    Command.ofLine line = .step (.ok n) → (next disk line s).1.cpu = step^[n] p
  /-- The line that asks for `n` steps, if the shell can read such a number. -/
  line : n < UInt64.size → Command.ofLine (stepLine n) = .step (.ok n)
  /-- A free run that nobody asks to stop, on a processor that halts within `n` steps. -/
  freeRun : (step^[n] p).isDone → ∀ m : Machine, m.cpu = p → ∀ c : Course m, c.Fair → c.Unasked →
    ∃ i, ∀ j, i ≤ j → c.EndsAt n j
  /-- The free run of a session that is started and waited for. -/
  waited : (step^[n] p).isDone → 3 * (p.run n).2 + 4 ≤ FreeRun.patience →
    ∀ s : Session, s.cpu = p → s.isRunning = false →
      s.run.wait.1.cpu = step^[n] p ∧ s.run.wait.2 = some (p.report n)

/-- Steps of the machine are steps of its processor. -/
lemma Machine.cpu_iterate_step (m : Machine) (n : Nat) :
    (step^[n] m).cpu = Processor.step^[n] m.cpu := by
  induction n generalizing m with
  | zero => rfl
  | succ n ih => exact ih m.step

namespace Session
variable {s : Session}

/-- Without an active free run, a step is one of the machine, whatever that is. -/
lemma step_idle (idle : s.isRunning = false) (m : Machine) :
    step { s with machine := m } = { s with machine := m.step } := by
  have idle : ({ s with machine := m } : Session).isRunning = false := idle
  unfold step
  rw [if_neg (by simp [idle])]

/-- Steps of a session without a free run are steps of its machine. -/
lemma iterate_step_idle (idle : s.isRunning = false) (n : Nat) :
    step^[n] s = { s with machine := Machine.step^[n] s.machine } := by
  induction n with
  | zero => rfl
  | succ n ih =>
    rw [Function.iterate_succ_apply', ih, step_idle idle, Function.iterate_succ_apply']

/-- Steps up to a halt are a run of the machine. -/
lemma stepUpTo_idle (idle : s.isRunning = false) (n : Nat) :
    stepUpTo n s = { s with machine := (s.machine.run n).1 } := by
  have view := @repeatFrom_view Machine Session (fun m => { s with machine := m })
    (·.cpu.isDone) Machine.step isDone step (fun _ => rfl) (step_idle idle) n s.machine 0
  exact congrArg Prod.fst view

/-- A poll does nothing to the machine if there is no active free run, and there is none after it. -/
lemma poll_idle (idle : s.isRunning = false) :
    s.poll.1.machine = s.machine ∧ s.poll.1.isRunning = false := by
  unfold poll take
  cases run : s.freeRun? with
  | none => exact ⟨rfl, idle⟩
  | some r =>
    have gone : r.phase = .gone := by simpa [isRunning, run, FreeRun.isFinished] using idle
    simp only [FreeRun.collect]
    cases r.mailbox with
    | none => exact ⟨rfl, by simpa [isRunning, run] using idle⟩
    | some report =>
      simp only
      rw [FreeRun.settle_of_hasSent (by simp only [gone]; rfl)]
      exact ⟨rfl, rfl⟩

/-- A free run that is started and waited for. -/
lemma wait_run {n : Nat} (halts : (Processor.step^[n] s.cpu).isDone)
    (short : 3 * (s.cpu.run n).2 + 4 ≤ FreeRun.patience) (idle : s.isRunning = false) :
    s.run.wait.1.cpu = Processor.step^[n] s.cpu ∧ s.run.wait.2 = some (s.cpu.report n) := by
  have same : (s.poll.1.machine.note .freeRunStarted).cpu = s.cpu := by
    rw [Machine.cpu_note, (poll_idle idle).1]
    rfl
  rw [← same] at halts short ⊢
  obtain ⟨m, waited, cpu⟩ := FreeRun.wait_start halts short
  unfold run
  rw [if_neg (by simp [idle])]
  simp only [wait, take, note, waited, and_true]
  exact cpu

end Session

/-- The shell reads the number of steps as it is written. -/
lemma Shell.ofLine_stepLine {n : Nat} (small : n < UInt64.size) :
    Command.ofLine (stepLine n) = .step (.ok n) := by
  have solid : ∀ c ∈ showNat n, isBlank c = false := by
    intro c hc
    have outside := inReg_of_isDigit (isDigit_of_mem_showNat hc)
    simp only [Token.inReg, Bool.not_eq_true', Bool.or_eq_false_iff] at outside
    exact outside.2
  have letters : ("step".toList.all fun c => !isBlank c) = true := by decide
  have plain : ∀ c ∈ "step".toList, isBlank c = false := by simpa using letters
  have split : words (stepLine n) = ["step".toList, showNat n] := by
    rw [words, runs, text_runsFrom, stepLine, pieces_append_blank (by decide) plain (by decide),
      pieces_of_noBlank (showNat_ne_nil n) solid]
  have inRange : Range.unsigned64.low ≤ n ∧ n ≤ Range.unsigned64.high := by
    simp only [Range.unsigned64, UInt64.size] at small ⊢
    omega
  have read : readNumeral .unsigned64 10 (showNat n) = .ok (n : Int) :=
    readNumeral_showInt (by decide) (by decide) inRange
  unfold Command.ofLine
  rw [split]
  show Command.step (stepCount (some (showNat n))) = _
  rw [stepCount, read]
  rfl

/-- All ways to run a program agree, whatever the processor and the number of steps. -/
theorem Processor.runsAlike (p : Processor) (n : Nat) : p.RunsAlike n where
  limited := p.run_fst n
  none done := run_of_done done n
  logged := by
    rintro m rfl
    refine ⟨m.cpu_iterate_step n, m.cpu_run n, ?_⟩
    rw [m.run_cpu]
  batch := by
    rintro s rfl
    exact s.machine.cpu_run n
  session := by
    rintro s rfl idle
    rw [Session.iterate_step_idle idle]
    exact s.machine.cpu_iterate_step n
  shell := by
    rintro disk line s rfl idle command
    obtain ⟨same, idle'⟩ := Session.poll_idle idle
    simp only [next, answer, flush, command, Shell.execute]
    rw [if_neg (by simp [idle'])]
    simp only [Session.stepUpTo_idle idle', same]
    exact s.machine.cpu_run n
  line := Shell.ofLine_stepLine
  freeRun := by
    rintro halts m rfl c fair unasked
    exact c.ends fair unasked halts
  waited := by
    rintro halts short s rfl idle
    exact s.wait_run halts short idle

end PocketMips
