import PocketMips.Proofs.Workers

/-!
# The end of free runs

A free run on a processor that is going to halt comes to its end, if nobody asks it to stop and its
worker is never kept from acting for ever. The steps that the processor still has to take, and the
phase in which the worker is, give a rank; the rank falls with each action of the worker, and nothing
else changes it. In the end the processor has halted where its steps lead, the worker has called `step`
as often as a run with a limit takes steps, and its report says so.

The same rank bounds the number of actions that one has to wait for, so a call which waits for the
worker returns, too.
-/

namespace PocketMips

/-- How many actions a worker in a phase has ahead of it at most, when its processor has `left` steps
ahead. -/
def Phase.rank (left : Nat) : Phase → Nat
  | .count => 3 * left + 5
  | .checkStop => 3 * left + 4
  | .step => 3 * left + 3
  | .inspect => 3
  | .send _ => 2
  | .leave => 1
  | .gone => 0

/-- How many actions the worker has ahead of it at most, when its processor halts within `n` steps. -/
def Shared.rank (n : Nat) (s : Shared) : Nat :=
  s.run.phase.rank (s.machine.cpu.run n).2

/-- What is reported by a run that nobody stops, on a processor that halts within `n` steps. -/
def Processor.report (p : Processor) (n : Nat) : Report :=
  ⟨(p.run n).2, false, (Processor.step^[n] p).halt?⟩

/-- Only a worker that has left has no action ahead. -/
lemma Phase.eq_gone_of_rank {left : Nat} {φ : Phase} (h : φ.rank left = 0) : φ = .gone := by
  cases φ with
  | gone => rfl
  | _ => simp [rank] at h

/-! ### Steps -/

section Steps
variable {m : Machine} {s s' : Shared} {q tr : List Mark} {n : Nat}

/-- A step leaves the processor as it is, or it is a call of `step` on one that has not halted. -/
lemma Step.cpu (st : Step s q s') :
    (s'.machine.cpu = s.machine.cpu ∧ calls q = 0) ∨
      (s'.machine.cpu = s.machine.cpu.step ∧ calls q = 1 ∧ s.machine.cpu.isDone = false) := by
  cases st with
  | readFlag at_ => exact .inl (by simp [Shared.work, FreeRun.act, at_])
  | callStep at_ _ going =>
    refine .inr ⟨?_, rfl, ?_⟩
    · simp [Shared.work, FreeRun.act, at_, going]
    · rw [Processor.isDone, going]
      rfl
  | seeHalt at_ _ halted => exact .inl (by simp [Shared.work, FreeRun.act, at_, halted])
  | count at_ => exact .inl (by simp [Shared.work, FreeRun.act, at_])
  | inspect at_ => exact .inl (by simp [Shared.work, FreeRun.act, at_])
  | send at_ => exact .inl (by simp [Shared.work, FreeRun.act, at_])
  | leave at_ => exact .inl (by simp [Shared.work, FreeRun.act, at_])
  | _ => exact .inl ⟨rfl, rfl⟩

/-- The steps taken and the steps ahead add up to those that the processor had ahead at first. -/
lemma Steps.ahead (run : Steps (.start m) tr s) (halts : (Processor.step^[n] m.cpu).isDone) :
    (Processor.step^[n] s.machine.cpu).isDone ∧
      calls tr + (s.machine.cpu.run n).2 = (m.cpu.run n).2 := by
  induction run with
  | refl => exact ⟨halts, Nat.zero_add _⟩
  | tail _ st ih =>
    obtain ⟨halts', sum⟩ := ih
    rw [calls_append]
    obtain ⟨same, quiet⟩ | ⟨moved, called, going⟩ := st.cpu
    · rw [same, quiet]
      exact ⟨halts', sum⟩
    · obtain ⟨ahead, fewer⟩ := Processor.run_step halts' going
      rw [moved, called]
      exact ⟨ahead, by omega⟩

/-- An action of the worker lowers the rank. -/
lemma Shared.rank_work (halts : (Processor.step^[n] s.machine.cpu).isDone)
    (here : s.run.phase ≠ .gone) : s.work.rank n < s.rank n := by
  unfold rank work
  cases at_ : s.run.phase with
  | checkStop =>
    simp only [FreeRun.act, at_]
    split <;> simp only [Phase.rank] <;> omega
  | step =>
    cases halted : s.machine.cpu.halt? with
    | none =>
      have going : s.machine.cpu.isDone = false := by rw [Processor.isDone, halted]; rfl
      have fewer := (Processor.run_step halts going).2
      simp only [FreeRun.act, at_, halted, Phase.rank, Machine.cpu_stepBy]
      omega
    | some why =>
      simp only [FreeRun.act, at_, halted, Phase.rank]
      omega
  | count =>
    simp only [FreeRun.act, at_, Phase.rank]
    omega
  | inspect =>
    simp only [FreeRun.act, at_, Phase.rank]
    omega
  | send report =>
    simp only [FreeRun.act, at_, Phase.rank]
    omega
  | leave =>
    simp only [FreeRun.act, at_, Phase.rank]
    omega
  | gone => exact absurd at_ here

/-- A step lowers the rank if the worker acts, and otherwise changes neither the rank nor the phase. -/
lemma Step.rank (st : Step s q s') (halts : (Processor.step^[n] s.machine.cpu).isDone) :
    s'.rank n < s.rank n ∨ (s'.rank n = s.rank n ∧ s'.run.phase = s.run.phase) := by
  cases st with
  | readFlag at_ => exact .inl (Shared.rank_work halts (by simp [at_]))
  | callStep at_ => exact .inl (Shared.rank_work halts (by simp [at_]))
  | seeHalt at_ => exact .inl (Shared.rank_work halts (by simp [at_]))
  | count at_ => exact .inl (Shared.rank_work halts (by simp [at_]))
  | inspect at_ => exact .inl (Shared.rank_work halts (by simp [at_]))
  | send at_ => exact .inl (Shared.rank_work halts (by simp [at_]))
  | leave at_ => exact .inl (Shared.rank_work halts (by simp [at_]))
  | _ => exact .inr ⟨rfl, rfl⟩

/-- A report that is sent before anybody asks for a stop does not say that the run was stopped. -/
lemma Step.unstopped {r : Report} (run : Steps (.start m) tr s) (st : Step s q s')
    (unasked : s.run.phase.hasSent = false → .asked ∉ tr) (sent : r ∈ reports q) :
    r.stopped = false := by
  cases st with
  | send at_ =>
    have sound := run.inv.worker.phase
    rw [at_] at sound unasked
    rw [reports_sent, List.mem_singleton] at sent
    subst sent
    by_contra stopped
    exact unasked rfl (sound.2.asked (by simpa using stopped))
  | _ => simp at sent

end Steps

/-! ### Courses -/

/-- The endless course of a free run. At each moment there is an atomic action, or nothing happens. -/
structure Course (m : Machine) where
  state : Nat → Shared
  marks : Nat → List Mark
  first : state 0 = .start m
  next : ∀ i, Step (state i) (marks i) (state (i + 1)) ∨ (marks i = [] ∧ state (i + 1) = state i)

namespace Course
variable {m : Machine} {n : Nat} (c : Course m)

/-- The trace of all that happens before a moment. -/
def trace : Nat → List Mark
  | 0 => []
  | i + 1 => trace i ++ c.marks i

/-- The worker is not kept from acting for ever. -/
def Fair : Prop :=
  ∀ i, (c.state i).run.phase ≠ .gone →
    ∃ j, i ≤ j ∧ (c.state (j + 1)).run.phase ≠ (c.state j).run.phase

/-- Nobody asks the worker to stop before it has sent its report. -/
def Unasked : Prop :=
  ∀ i, .asked ∈ c.marks i → (c.state i).run.phase.hasSent

/-- The worker has left, the processor is where its steps lead, and this was reported. -/
structure EndsAt (n i : Nat) : Prop where
  gone : (c.state i).run.phase = .gone
  cpu : (c.state i).machine.cpu = Processor.step^[n] m.cpu
  reported : reports (c.trace i) = [m.cpu.report n]

/-- All that happens before a moment is steps of the protocol. -/
lemma steps (i : Nat) : Steps (.start m) (c.trace i) (c.state i) := by
  induction i with
  | zero =>
    rw [c.first]
    exact .refl
  | succ i ih =>
    obtain st | ⟨quiet, same⟩ := c.next i
    · exact ih.tail st
    · rw [trace, quiet, same, List.append_nil]
      exact ih

/-- The rank never rises, and it falls when the phase changes. -/
lemma rank_succ (halts : (Processor.step^[n] m.cpu).isDone) (i : Nat) :
    (c.state (i + 1)).rank n < (c.state i).rank n ∨
      ((c.state (i + 1)).rank n = (c.state i).rank n ∧
        (c.state (i + 1)).run.phase = (c.state i).run.phase) := by
  obtain st | ⟨-, same⟩ := c.next i
  · exact st.rank ((c.steps i).ahead halts).1
  · rw [same]
    exact .inr ⟨rfl, rfl⟩

/-- The rank at a later moment is not higher. -/
lemma rank_antitone (halts : (Processor.step^[n] m.cpu).isDone) {i j : Nat} (le : i ≤ j) :
    (c.state j).rank n ≤ (c.state i).rank n := by
  induction le with
  | refl => exact Nat.le_refl _
  | @step j _ ih =>
    obtain fell | ⟨same, -⟩ := c.rank_succ halts j
    · exact Nat.le_trans (Nat.le_of_lt fell) ih
    · exact Nat.le_trans (Nat.le_of_eq same) ih

/-- A worker that is not kept from acting leaves. -/
lemma leaves (fair : c.Fair) (halts : (Processor.step^[n] m.cpu).isDone) :
    ∃ i, (c.state i).run.phase = .gone := by
  -- The induction is on the rank at a moment from which the worker has still to leave.
  suffices ∀ rank i, (c.state i).rank n = rank → ∃ i, (c.state i).run.phase = .gone from
    this _ 0 rfl
  intro rank
  induction rank using Nat.strongRecOn with
  | ind rank ih =>
    rintro i rfl
    by_cases gone : (c.state i).run.phase = .gone
    · exact ⟨i, gone⟩
    · obtain ⟨j, le, acts⟩ := fair i gone
      obtain fell | ⟨-, same⟩ := c.rank_succ halts j
      · exact ih _ (Nat.lt_of_lt_of_le fell (c.rank_antitone halts le)) (j + 1) rfl
      · exact absurd same acts

/-- As long as no report is sent, nobody has asked. -/
lemma unasked_trace (unasked : c.Unasked) (i : Nat) (open_ : (c.state i).run.phase.hasSent = false) :
    .asked ∉ c.trace i := by
  induction i with
  | zero => exact List.not_mem_nil
  | succ i ih =>
    have before : (c.state i).run.phase.hasSent = false := by
      cases sent : (c.state i).run.phase.hasSent with
      | false => rfl
      | true =>
        obtain st | ⟨-, same⟩ := c.next i
        · rw [(st.settled sent).1] at open_
          cases open_
        · rw [same, sent] at open_
          cases open_
    intro asked
    obtain earlier | now := List.mem_append.mp asked
    · exact ih before earlier
    · rw [unasked i now] at before
      cases before

/-- No report says that the run was stopped. -/
lemma unstopped (unasked : c.Unasked) (i : Nat) : ∀ r ∈ reports (c.trace i), r.stopped = false := by
  induction i with
  | zero => exact nofun
  | succ i ih =>
    intro r sent
    rw [trace, reports_append] at sent
    obtain earlier | now := List.mem_append.mp sent
    · exact ih r earlier
    · obtain st | ⟨quiet, -⟩ := c.next i
      · exact st.unstopped (c.steps i) (c.unasked_trace unasked i) now
      · rw [quiet] at now
        cases now

/-- When the worker has left, all is as it should be in the end. -/
lemma endsAt_of_gone (unasked : c.Unasked) (halts : (Processor.step^[n] m.cpu).isDone) {i : Nat}
    (gone : (c.state i).run.phase = .gone) : c.EndsAt n i := by
  have inv := (c.steps i).inv
  obtain ⟨r, sent, honest⟩ := inv.worker.phase.sent (by rw [gone]; rfl)
  have unstopped := c.unstopped unasked i r (by rw [sent]; exact .head _)
  have done : (c.state i).machine.cpu.isDone := by
    rw [Processor.isDone, ← honest.halt]
    exact honest.halted unstopped
  -- The processor has halted, so it has no steps ahead of it, and all were taken.
  have all : calls (c.trace i) = (m.cpu.run n).2 := by
    have sum := ((c.steps i).ahead halts).2
    rw [Processor.run_of_done done] at sum
    exact sum
  have cpu : (c.state i).machine.cpu = Processor.step^[n] m.cpu := by
    rw [inv.worker.cpu, all, Processor.iterate_run_snd]
  refine ⟨gone, cpu, ?_⟩
  rw [sent, Processor.report, ← all, ← honest.steps, ← cpu, ← honest.halt, ← unstopped]

/-- A fair course that nobody asks to stop comes to its end, and stays there. -/
theorem ends (fair : c.Fair) (unasked : c.Unasked) (halts : (Processor.step^[n] m.cpu).isDone) :
    ∃ i, ∀ j, i ≤ j → c.EndsAt n j := by
  obtain ⟨i, gone⟩ := c.leaves fair halts
  refine ⟨i, fun j le => c.endsAt_of_gone unasked halts ?_⟩
  -- The rank cannot rise from zero, and it is zero only for a worker that has left.
  have zero : (c.state j).rank n ≤ 0 := by
    have falls := c.rank_antitone halts le
    rwa [Shared.rank.eq_def n (c.state i), gone] at falls
  exact Phase.eq_gone_of_rank (Nat.le_zero.mp zero)

end Course

/-! ### The worker alone -/

/-- The actions of the worker leave the controller where it is. -/
lemma Shared.iterate_work (s : Shared) (i : Nat) :
    (work^[i] s).control = s.control ∧ (work^[i] s).held = s.held := by
  induction i with
  | zero => exact ⟨rfl, rfl⟩
  | succ i ih =>
    rw [Function.iterate_succ_apply']
    exact ih

/-- An action of the worker takes it to another phase. -/
lemma Shared.phase_work {s : Shared} (here : s.run.phase ≠ .gone) :
    s.work.run.phase ≠ s.run.phase := by
  unfold work
  cases at_ : s.run.phase with
  | checkStop =>
    simp only [FreeRun.act, at_]
    split <;> simp
  | step =>
    cases halted : s.machine.cpu.halt? <;> simp [FreeRun.act, at_, halted]
  | count => simp [FreeRun.act, at_]
  | inspect => simp [FreeRun.act, at_]
  | send report => simp [FreeRun.act, at_]
  | leave => simp [FreeRun.act, at_]
  | gone => exact absurd at_ here

namespace Course
variable {m : Machine} {n : Nat}

/-- The course in which nobody but the worker acts. -/
def alone (m : Machine) : Course m where
  state i := Shared.work^[i] (.start m)
  marks i :=
    if (Shared.work^[i] (.start m)).run.phase = .gone then []
    else (Shared.work^[i] (.start m)).workMarks
  first := rfl
  next i := by
    rw [Function.iterate_succ_apply']
    split
    case isTrue gone => exact .inr ⟨rfl, Shared.work_of_gone gone⟩
    case isFalse here => exact .inl (.work (Shared.iterate_work _ i).2 here)

/-- A worker that is alone is not kept from acting. -/
lemma fair_alone (m : Machine) : (alone m).Fair := by
  intro i here
  refine ⟨i, Nat.le_refl i, ?_⟩
  show (Shared.work^[i + 1] (.start m)).run.phase ≠ _
  rw [Function.iterate_succ_apply']
  exact Shared.phase_work here

/-- A worker that is alone is not asked to stop. -/
lemma unasked_alone (m : Machine) : (alone m).Unasked := by
  intro i asked
  simp only [alone, Shared.workMarks] at asked
  repeat' split at asked
  all_goals simp at asked

/-- There are fair courses in which nobody asks to stop. -/
example (m : Machine) : ∃ c : Course m, c.Fair ∧ c.Unasked :=
  ⟨alone m, fair_alone m, unasked_alone m⟩

/-- The worker has left when it has acted as often as its rank says. -/
lemma gone_alone (halts : (Processor.step^[n] m.cpu).isDone) {i : Nat}
    (enough : (Shared.start m).rank n ≤ i) : ((alone m).state i).run.phase = .gone := by
  -- Until then, the rank falls each time.
  have falls (i : Nat) : ((alone m).state i).run.phase = .gone ∨
      ((alone m).state i).rank n + i ≤ (Shared.start m).rank n := by
    induction i with
    | zero => exact .inr (Nat.le_refl _)
    | succ i ih =>
      have next : (alone m).state (i + 1) = ((alone m).state i).work :=
        Function.iterate_succ_apply' ..
      rw [next]
      obtain gone | low := ih
      · rw [Shared.work_of_gone gone]
        exact .inl gone
      · by_cases gone : ((alone m).state i).run.phase = .gone
        · rw [Shared.work_of_gone gone]
          exact .inl gone
        · have := Shared.rank_work (((alone m).steps i).ahead halts).1 gone
          exact .inr (by omega)
  obtain gone | low := falls i
  · exact gone
  · have none : ((alone m).state i).rank n = 0 := by omega
    exact Phase.eq_gone_of_rank none

end Course

namespace FreeRun

/-- Letting the worker act until it has left is letting it act often enough. The number is a variable
here, as nothing should try to count up to it. -/
lemma settle_eq {limit : Nat} (enough : limit = patience) (s : Shared) :
    settle s.machine s.run = ((Shared.work^[limit] s).machine, (Shared.work^[limit] s).run) := by
  have still (s : Shared) (gone : s.run.isFinished) : s.work = s :=
    Shared.work_of_gone (by simpa [isFinished] using gone)
  unfold settle
  rw [← enough, ← repeatUntil_fst still]
  have view := @repeatFrom_view Shared (Machine × FreeRun) (fun s => (s.machine, s.run))
    (·.run.isFinished) Shared.work (·.2.isFinished) (fun x => act x.1 x.2)
    (fun _ => rfl) (fun _ => rfl) limit s 0
  exact congrArg Prod.fst view

/-- The report of a worker that has left is there to be collected. -/
lemma collect_of_gone {m : Machine} {tr : List Mark} {s : Shared} {report : Report}
    (run : Steps (.start m) tr s) (ready : s.control = .ready) (gone : s.run.phase = .gone)
    (reported : reports tr = [report]) : collect s.machine s.run = (s.machine, .ok report) := by
  have inv := run.inv.control
  have sent : s.run.phase.hasSent := by
    rw [gone]
    rfl
  obtain ⟨r, mail⟩ : ∃ r, s.run.mailbox = some r :=
    Option.ne_none_iff_exists'.mp (inv.kept (by rw [ready]; rfl) sent)
  obtain rfl : r = report := by simpa [reported] using inv.mail r mail
  unfold collect
  rw [mail]
  simp only [settle_of_hasSent (r := { s.run with mailbox := none }) sent]

/-- Waiting for a run that nobody stops returns its report, if the processor halts before one's
patience is at its end. -/
lemma wait_start {m : Machine} {n : Nat} (halts : (Processor.step^[n] m.cpu).isDone)
    (short : 3 * (m.cpu.run n).2 + 4 ≤ patience) :
    ∃ m', wait m .start = (m', .ok (m.cpu.report n)) ∧ m'.cpu = Processor.step^[n] m.cpu := by
  obtain ⟨limit, enough⟩ : ∃ limit, limit = patience := ⟨_, rfl⟩
  have gone := Course.gone_alone halts (i := limit) (by rw [enough]; exact short)
  have ended := (Course.alone m).endsAt_of_gone (Course.unasked_alone m) halts gone
  unfold wait
  rw [show settle m start = _ from settle_eq enough (.start m)]
  exact ⟨_, collect_of_gone ((Course.alone m).steps limit) (Shared.iterate_work _ limit).1 gone
    ended.reported, ended.cpu⟩

end FreeRun

end PocketMips
