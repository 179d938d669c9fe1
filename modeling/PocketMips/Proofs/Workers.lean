import PocketMips.Proofs.FreeRunSafety
import PocketMips.Proofs.Operations

/-!
# Workers

What a worker does when it is let act. One that has not left always has a next action, which is a step of the
protocol. One that was asked to stop leaves after a few actions, and one that has sent its report does nothing
but leave, so whoever waits for the report of such a worker gets it.
-/

namespace PocketMips

/-- The marks of the next action of the worker. -/
def Shared.workMarks (s : Shared) : List Mark :=
  match s.run.phase with
  | .step => if s.machine.cpu.isDone then [] else [.stepped]
  | .send r => [.sent r]
  | .checkStop | .count | .inspect | .leave | .gone => []

/-- A worker that has not left can act when nobody looks at the processor. -/
lemma Step.work {s : Shared} (free : s.held = false) (here : s.run.phase ≠ .gone) :
    Step s s.workMarks s.work := by
  unfold Shared.workMarks
  cases at_ : s.run.phase with
  | checkStop => exact .readFlag at_
  | step =>
    cases halt : s.machine.cpu.halt? with
    | none => simpa [Processor.isDone, halt] using Step.callStep at_ free halt
    | some why => simpa [Processor.isDone, halt] using Step.seeHalt at_ free halt
  | count => exact .count at_
  | inspect => exact .inspect at_ free
  | send report => exact .send at_
  | leave => exact .leave at_
  | gone => exact absurd at_ here

/-- A worker that has left does nothing. -/
lemma Shared.work_of_gone {s : Shared} (gone : s.run.phase = .gone) : s.work = s := by
  simp [Shared.work, FreeRun.act, gone]

/-! ### Workers that leave -/

/-- How many actions a worker that was asked to stop has ahead of it at most. -/
def Phase.ahead : Phase → Nat
  | .step => 6
  | .count => 5
  | .checkStop => 4
  | .inspect => 3
  | .send _ => 2
  | .leave => 1
  | .gone => 0

namespace FreeRun

variable {m m' : Machine} {r : FreeRun} {report : Report}

/-- A worker that has sent its report leaves, and nothing else happens. -/
lemma settle_of_hasSent (done : r.phase.hasSent) :
    settle m r = (m, { r with phase := .gone }) := by
  -- One action is enough, so any patience is.
  obtain ⟨limit, e⟩ : ∃ limit, patience = limit + 1 :=
    Nat.exists_eq_add_one.mpr (Nat.pow_pos (by decide))
  unfold settle repeatUntil
  rw [e]
  cases at_ : r.phase with
  | gone =>
    rw [repeatFrom_of_done (by simp [isFinished, at_])]
    simp [← at_]
  | leave =>
    unfold PocketMips.repeatFrom
    rw [if_neg (by simp [isFinished, at_])]
    simp only [act, at_]
    rw [repeatFrom_of_done (by simp [isFinished])]
  | checkStop => simp [at_, Phase.hasSent] at done
  | step => simp [at_, Phase.hasSent] at done
  | count => simp [at_, Phase.hasSent] at done
  | inspect => simp [at_, Phase.hasSent] at done
  | send report => simp [at_, Phase.hasSent] at done

/-- A report is collected if it is in the mailbox, and the worker is waited for. -/
lemma collect_eq_ok (h : collect m r = (m', .ok report)) :
    r.mailbox = some report ∧ m' = (settle m { r with mailbox := none }).1 := by
  unfold collect at h
  cases mail : r.mailbox with
  | none => simp [mail] at h
  | some report' =>
    simp only [mail, Prod.mk.injEq, Except.ok.injEq] at h
    exact ⟨congrArg some h.2, h.1.symm⟩

/-- An action of a worker that was asked to stop brings it nearer to its leave, and it stays asked. -/
lemma ahead_act (asked : r.stopRequested = true) (here : r.phase ≠ .gone) (m : Machine) :
    (act m r).2.stopRequested = true ∧ (act m r).2.phase.ahead < r.phase.ahead := by
  unfold act
  cases at_ : r.phase with
  | checkStop => simp [asked, Phase.ahead]
  | step => cases m.cpu.halt? <;> simp [asked, Phase.ahead]
  | count => simp [asked, Phase.ahead]
  | inspect => simp [asked, Phase.ahead]
  | send report => simp [asked, Phase.ahead]
  | leave => simp [asked, Phase.ahead]
  | gone => exact absurd at_ here

/-- A worker that was asked to stop has left when it has acted as often as it has actions ahead. -/
lemma gone_of_ahead (asked : r.stopRequested = true) {limit : Nat} (enough : r.phase.ahead ≤ limit)
    (m : Machine) (taken : Nat) :
    (repeatFrom (·.2.isFinished) (fun (m, r) => act m r) limit (m, r) taken).1.2.phase = .gone := by
  induction limit generalizing m r taken with
  | zero =>
    cases at_ : r.phase with
    | gone => exact at_
    | _ => simp [at_, Phase.ahead] at enough
  | succ limit ih =>
    unfold repeatFrom
    by_cases gone : r.phase = .gone
    · rw [if_pos (by simp [isFinished, gone])]
      exact gone
    · obtain ⟨asked', fewer⟩ := ahead_act asked gone m
      rw [if_neg (by simp [isFinished, gone])]
      exact ih asked' (by omega) _ _

/-- A worker that was asked to stop leaves. -/
lemma gone_of_asked (asked : r.stopRequested = true) (m : Machine) :
    (settle m r).2.phase = .gone := by
  -- The exponents are compared, as nothing should count up to one's patience.
  have few : r.phase.ahead ≤ Nat.pow 2 3 := by cases r.phase <;> simp [Phase.ahead]
  have more : ∀ n, 3 ≤ n → Nat.pow 2 3 ≤ Nat.pow 2 n := fun n => Nat.pow_le_pow_right (by decide)
  exact gone_of_ahead asked (Nat.le_trans few (more 62 (by decide))) m 0

end FreeRun

end PocketMips
