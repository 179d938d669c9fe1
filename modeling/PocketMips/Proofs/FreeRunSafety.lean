import Mathlib.Logic.Function.Iterate
import PocketMips.Proofs.Interleaving

/-!
# Safety of free runs

Whatever the order of the actions, a free run steps the processor and does nothing else to it, sends
one report at most, and the report tells the truth. The invariant behind it has two parts. The part
of the worker says for each phase what the trace has to show for it, and the controller cannot break
it, since all that it changes there is the stop flag and the mailbox. The part of the controller says
that a report is sent before it is in the mailbox, and stays there as long as nobody takes it.
-/

namespace PocketMips

/-- The number of steps that a worker has taken and not counted yet. -/
def Phase.uncounted : Phase → Nat
  | .count => 1
  | .checkStop | .step | .inspect | .send _ | .leave | .gone => 0

/-- Has the worker sent its report? -/
def Phase.hasSent : Phase → Bool
  | .leave | .gone => true
  | .checkStop | .step | .count | .inspect | .send _ => false

/-- Has the worker no report yet? -/
def Phase.isBusy : Phase → Bool
  | .checkStop | .step | .count | .inspect => true
  | .send _ | .leave | .gone => false

/-- A report that tells the truth about a trace, and about the processor at its end. -/
structure Honest (tr : List Mark) (p : Processor) (r : Report) : Prop where
  steps : r.steps = calls tr
  halt : r.halt? = p.halt?
  halted : r.stopped = false → r.halt?.isSome
  asked : r.stopped = true → .asked ∈ tr

/-- What the trace shows for a worker in a phase. -/
def Phase.Sound (tr : List Mark) (p : Processor) : Phase → Prop
  | .checkStop | .step | .count => reports tr = []
  | .inspect => reports tr = [] ∧ .asked ∈ tr
  | .send r => reports tr = [] ∧ Honest tr p r
  | .leave | .gone => ∃ r, reports tr = [r] ∧ Honest tr p r

/-- The part of the worker in the invariant: its processor was `origin` first. -/
structure WorkerInv (origin : Processor) (tr : List Mark) (m : Machine) (r : FreeRun) : Prop where
  cpu : m.cpu = Processor.step^[calls tr] origin
  steps : r.steps + r.phase.uncounted = calls tr
  asked : r.stopRequested = true → .asked ∈ tr
  phase : r.phase.Sound tr m.cpu

/-- The part of the controller in the invariant. -/
structure ControlInv (tr : List Mark) (s : Shared) : Prop where
  mail : ∀ r, s.run.mailbox = some r → r ∈ reports tr
  kept : s.control.isOpen → s.run.phase.hasSent → s.run.mailbox ≠ none
  answer : ∀ r, s.control.answer? = some r → r ∈ reports tr
  left : ∀ a, s.control = .returned a → s.run.phase = .gone

/-! ### The worker -/

section Worker
variable {origin : Processor} {tr q : List Mark} {m : Machine} {r : FreeRun}

/-- A report stays honest as long as the worker does not step. -/
lemma Honest.mono {p : Processor} {report : Report} (h : Honest tr p report) (quiet : calls q = 0) :
    Honest (tr ++ q) p report where
  steps := by simp [h.steps, quiet]
  halt := h.halt
  halted := h.halted
  asked e := List.mem_append_left q (h.asked e)

/-- What the trace shows for a phase, it shows as long as the worker does not act. -/
lemma Phase.Sound.mono {p : Processor} {φ : Phase} (h : φ.Sound tr p) (quiet : calls q = 0)
    (silent : reports q = []) : φ.Sound (tr ++ q) p := by
  have e : reports (tr ++ q) = reports tr := by simp [silent]
  cases φ with
  | checkStop => exact e.trans h
  | step => exact e.trans h
  | count => exact e.trans h
  | inspect => exact ⟨e.trans h.1, List.mem_append_left q h.2⟩
  | send report => exact ⟨e.trans h.1, h.2.mono quiet⟩
  | leave =>
    obtain ⟨report, sent, honest⟩ := h
    exact ⟨report, e.trans sent, honest.mono quiet⟩
  | gone =>
    obtain ⟨report, sent, honest⟩ := h
    exact ⟨report, e.trans sent, honest.mono quiet⟩

/-- Before the worker has sent its report, none is in the trace. -/
lemma Phase.Sound.unsent {p : Processor} {φ : Phase} (h : φ.Sound tr p) (open_ : φ.hasSent = false) :
    reports tr = [] := by
  cases φ with
  | checkStop => exact h
  | step => exact h
  | count => exact h
  | inspect => exact h.1
  | send report => exact h.1
  | leave => cases open_
  | gone => cases open_

/-- Once the worker has sent its report, the trace has that one only. -/
lemma Phase.Sound.sent {p : Processor} {φ : Phase} (h : φ.Sound tr p) (done : φ.hasSent) :
    ∃ report, reports tr = [report] ∧ Honest tr p report := by
  cases φ with
  | leave => exact h
  | gone => exact h
  | checkStop => cases done
  | step => cases done
  | count => cases done
  | inspect => cases done
  | send report => cases done

-- The invariant holds at the start, and each action of the worker keeps its part.
namespace WorkerInv

/-- At the start, the worker has called nothing and sent nothing. -/
lemma start (m : Machine) : WorkerInv m.cpu [] m .start where
  cpu := rfl
  steps := rfl
  asked := nofun
  phase := rfl

/-- A request changes what the worker will see, and nothing that it has done. -/
lemma ask (h : WorkerInv origin tr m r) : WorkerInv origin (tr ++ [.asked]) m r.requestStop where
  cpu := by
    rw [calls_append]
    exact h.cpu
  steps := by
    rw [calls_append]
    exact h.steps
  asked _ := by simp
  phase := h.phase.mono rfl rfl

/-- The mailbox does not matter to the worker. -/
lemma mailbox (h : WorkerInv origin tr m r) (mail : Option Report) :
    WorkerInv origin tr m { r with mailbox := mail } :=
  ⟨h.cpu, h.steps, h.asked, h.phase⟩

/-- What the invariant says of a worker in a phase. -/
lemma inPhase {φ : Phase} (h : WorkerInv origin tr m r) (at_ : r.phase = φ) :
    r.steps + φ.uncounted = calls tr ∧ φ.Sound tr m.cpu := by
  subst at_
  exact ⟨h.steps, h.phase⟩

/-- The worker takes note of a request that was made. -/
lemma readFlag (h : WorkerInv origin tr m r) (at_ : r.phase = .checkStop) :
    WorkerInv origin tr (FreeRun.act m r).1 (FreeRun.act m r).2 := by
  obtain ⟨steps, silent⟩ := h.inPhase at_
  unfold FreeRun.act
  rw [at_]
  by_cases flag : r.stopRequested = true
  · rw [if_pos flag]
    exact ⟨h.cpu, steps, h.asked, silent, h.asked flag⟩
  · rw [if_neg flag]
    exact ⟨h.cpu, steps, h.asked, silent⟩

/-- A call of `step` is one more in the trace, and the processor has taken one step more. -/
lemma callStep (h : WorkerInv origin tr m r) (at_ : r.phase = .step) (going : m.cpu.halt? = none) :
    WorkerInv origin (tr ++ [.stepped]) (FreeRun.act m r).1 (FreeRun.act m r).2 := by
  obtain ⟨steps, silent⟩ := h.inPhase at_
  simp only [FreeRun.act, at_, going]
  refine ⟨?_, ?_, fun flag => List.mem_append_left _ (h.asked flag), ?_⟩
  · rw [calls_append, calls_stepped, Function.iterate_succ_apply', ← h.cpu]
    rfl
  · simpa [Phase.uncounted] using steps
  · simpa [Phase.Sound] using silent

/-- The worker sees the halt of the processor as it is. -/
lemma seeHalt {why : Halt} (h : WorkerInv origin tr m r) (at_ : r.phase = .step)
    (halted : m.cpu.halt? = some why) :
    WorkerInv origin tr (FreeRun.act m r).1 (FreeRun.act m r).2 := by
  obtain ⟨steps, silent⟩ := h.inPhase at_
  simp only [FreeRun.act, at_, halted]
  refine ⟨h.cpu, steps, h.asked, silent, ?_⟩
  exact ⟨steps, halted.symm, fun _ => rfl, nofun⟩

/-- The worker counts the call that it has made. -/
lemma count (h : WorkerInv origin tr m r) (at_ : r.phase = .count) :
    WorkerInv origin tr (FreeRun.act m r).1 (FreeRun.act m r).2 := by
  obtain ⟨steps, silent⟩ := h.inPhase at_
  simp only [FreeRun.act, at_]
  exact ⟨h.cpu, steps, h.asked, silent⟩

/-- What the worker is about to report is true of the processor. -/
lemma inspect (h : WorkerInv origin tr m r) (at_ : r.phase = .inspect) :
    WorkerInv origin tr (FreeRun.act m r).1 (FreeRun.act m r).2 := by
  obtain ⟨steps, sound⟩ := h.inPhase at_
  simp only [FreeRun.act, at_]
  refine ⟨h.cpu, steps, h.asked, sound.1, ?_⟩
  exact ⟨steps, rfl, nofun, fun _ => sound.2⟩

/-- A report is sent once, and it is the one that was prepared. -/
lemma send {report : Report} (h : WorkerInv origin tr m r) (at_ : r.phase = .send report) :
    WorkerInv origin (tr ++ [.sent report]) (FreeRun.act m r).1 (FreeRun.act m r).2 := by
  obtain ⟨steps, sound⟩ := h.inPhase at_
  simp only [FreeRun.act, at_]
  refine ⟨?_, ?_, fun flag => List.mem_append_left _ (h.asked flag), report, ?_, ?_⟩
  · rw [calls_append, calls_sent]
    exact h.cpu
  · rw [calls_append, calls_sent]
    exact steps
  · simp [sound.1]
  · exact sound.2.mono (calls_sent report)

/-- A worker leaves only after its report. -/
lemma leave (h : WorkerInv origin tr m r) (at_ : r.phase = .leave) :
    WorkerInv origin tr (FreeRun.act m r).1 (FreeRun.act m r).2 := by
  obtain ⟨steps, sound⟩ := h.inPhase at_
  simp only [FreeRun.act, at_]
  exact ⟨h.cpu, steps, h.asked, sound⟩

/-- Every step keeps the part of the worker. -/
lemma step {s s' : Shared} (h : WorkerInv origin tr s.machine s.run) (st : Step s q s') :
    WorkerInv origin (tr ++ q) s'.machine s'.run := by
  cases st with
  | readFlag at_ =>
    rw [List.append_nil]
    exact h.readFlag at_
  | callStep at_ _ going => exact h.callStep at_ going
  | seeHalt at_ _ halted =>
    rw [List.append_nil]
    exact h.seeHalt at_ halted
  | count at_ =>
    rw [List.append_nil]
    exact h.count at_
  | inspect at_ _ =>
    rw [List.append_nil]
    exact h.inspect at_
  | send at_ => exact h.send at_
  | leave at_ =>
    rw [List.append_nil]
    exact h.leave at_
  | requestStop => exact h.ask
  | stop => exact h.ask
  | drop => exact h.ask
  | join => exact h.ask
  | receive =>
    rw [List.append_nil]
    exact h.mailbox none
  | pollTake =>
    rw [List.append_nil]
    exact h.mailbox none
  | look | lookAway | wait | receiveLost | pollEmpty | pollLost | joinDropped =>
    rw [List.append_nil]
    exact h

end WorkerInv

end Worker

/-! ### The controller -/

/-- A worker that has no report yet neither sends one nor leaves. -/
lemma FreeRun.act_busy {m : Machine} {r : FreeRun} (busy : r.phase.isBusy) :
    (act m r).2.mailbox = r.mailbox ∧ (act m r).2.phase.hasSent = false := by
  unfold act
  cases at_ : r.phase with
  | checkStop =>
    refine ⟨rfl, ?_⟩
    by_cases flag : r.stopRequested = true
    · rw [if_pos flag]
      rfl
    · rw [if_neg flag]
      rfl
  | step =>
    cases m.cpu.halt? with
    | none => exact ⟨rfl, rfl⟩
    | some why => exact ⟨rfl, rfl⟩
  | count => exact ⟨rfl, rfl⟩
  | inspect => exact ⟨rfl, rfl⟩
  | send report => simp [at_, Phase.isBusy] at busy
  | leave => simp [at_, Phase.isBusy] at busy
  | gone => simp [at_, Phase.isBusy] at busy

namespace ControlInv
variable {tr q : List Mark} {s s' : Shared}

/-- At the start, the controller holds a run that has reported nothing. -/
lemma start (m : Machine) : ControlInv [] (.start m) where
  mail := nofun
  kept _ := nofun
  answer := nofun
  left := nofun

/-- A step that leaves the mailbox alone, does not send and does not take a report. -/
lemma frame (h : ControlInv tr s) (mail : s'.run.mailbox = s.run.mailbox)
    (sent : s'.run.phase.hasSent → s.run.phase.hasSent)
    (open_ : s'.control.isOpen → s.control.isOpen)
    (answer : ∀ r, s'.control.answer? = some r → s.control.answer? = some r)
    (left : ∀ a, s'.control = .returned a → s'.run.phase = .gone) : ControlInv (tr ++ q) s' where
  mail r e := by
    rw [reports_append]
    exact List.mem_append_left _ (h.mail r (mail ▸ e))
  kept o d := by
    rw [mail]
    exact h.kept (open_ o) (sent d)
  answer r e := by
    rw [reports_append]
    exact List.mem_append_left _ (h.answer r (answer r e))
  left := left

/-- An action of the worker that has no report yet. -/
lemma act (h : ControlInv tr s) (busy : s.run.phase.isBusy) : ControlInv (tr ++ q) s.work := by
  obtain ⟨mail, unsent⟩ := FreeRun.act_busy (m := s.machine) busy
  refine h.frame mail (fun d => ?_) id (fun _ => id) (fun a e => ?_)
  · rw [Shared.work, unsent] at d
    cases d
  · rw [h.left a e] at busy
    cases busy

/-- A report that is sent is in the mailbox. -/
lemma send {r : Report} (h : ControlInv tr s) (at_ : s.run.phase = .send r) :
    ControlInv (tr ++ [.sent r]) s.work where
  mail r' e := by
    simp only [Shared.work, FreeRun.act, at_, Option.some.injEq] at e
    simp [e]
  kept _ _ := by simp [Shared.work, FreeRun.act, at_]
  answer r' e := by
    rw [reports_append]
    exact List.mem_append_left _ (h.answer r' e)
  left a e := by
    have gone := h.left a e
    rw [at_] at gone
    cases gone

/-- The report that is taken from the mailbox is the one that was sent. -/
lemma take {r : Report} (h : ControlInv tr s) (mail : s.run.mailbox = some r) :
    ControlInv tr (s.take r) where
  mail := nofun
  kept := nofun
  answer r' e := by
    cases e
    exact h.mail r mail
  left := nofun

/-- Every step keeps the part of the controller. -/
lemma step (h : ControlInv tr s) (st : Step s q s') : ControlInv (tr ++ q) s' := by
  cases st with
  | readFlag at_ => exact h.act (by rw [at_]; rfl)
  | callStep at_ _ _ => exact h.act (by rw [at_]; rfl)
  | seeHalt at_ _ _ => exact h.act (by rw [at_]; rfl)
  | count at_ => exact h.act (by rw [at_]; rfl)
  | inspect at_ _ => exact h.act (by rw [at_]; rfl)
  | send at_ => exact h.send at_
  | leave at_ =>
    refine h.frame ?_ (fun _ => ?_) id (fun _ => id) (fun _ _ => ?_)
    · simp [Shared.work, FreeRun.act, at_]
    · rw [at_]
      rfl
    · simp [Shared.work, FreeRun.act, at_]
  | look => exact h.frame rfl id id (fun _ => id) h.left
  | lookAway => exact h.frame rfl id id (fun _ => id) h.left
  | requestStop => exact h.frame rfl id id (fun _ => id) h.left
  | pollEmpty => exact h.frame rfl id id (fun _ => id) h.left
  | stop ready => exact h.frame rfl id (fun _ => by rw [ready]; rfl) nofun nofun
  | wait ready => exact h.frame rfl id (fun _ => by rw [ready]; rfl) nofun nofun
  | drop => exact h.frame rfl id nofun nofun nofun
  | join waits gone =>
    refine h.frame rfl id nofun (fun r e => ?_) (fun _ _ => gone)
    rw [waits]
    exact e
  | joinDropped _ gone => exact h.frame rfl id nofun nofun (fun _ _ => gone)
  | receive _ mail =>
    rw [List.append_nil]
    exact h.take mail
  | pollTake _ mail =>
    rw [List.append_nil]
    exact h.take mail
  -- A worker that is gone has left its report in the mailbox.
  | receiveLost waits mail gone =>
    have there := h.kept (by rw [waits]; rfl) (by rw [gone]; rfl)
    exact absurd mail there
  | pollLost ready mail gone =>
    have there := h.kept (by rw [ready]; rfl) (by rw [gone]; rfl)
    exact absurd mail there

end ControlInv

/-! ### Runs -/

/-- The invariant of a free run on a processor that was `origin` first. -/
structure RunInv (origin : Processor) (tr : List Mark) (s : Shared) : Prop where
  worker : WorkerInv origin tr s.machine s.run
  control : ControlInv tr s

/-- The invariant holds after any steps. -/
lemma Steps.inv {m : Machine} {tr : List Mark} {s : Shared} (run : Steps (.start m) tr s) :
    RunInv m.cpu tr s := by
  induction run with
  | refl => exact ⟨.start m, .start m⟩
  | tail _ st ih => exact ⟨ih.worker.step st, ih.control.step st⟩

/-- A report is in the trace only if the worker has sent it. -/
lemma RunInv.hasSent {origin : Processor} {tr : List Mark} {s : Shared} (h : RunInv origin tr s)
    (sent : reports tr ≠ []) : s.run.phase.hasSent := by
  cases e : s.run.phase.hasSent with
  | true => rfl
  | false => exact absurd (h.worker.phase.unsent e) sent

/-- A worker that has sent its report does not change the machine any more. -/
lemma Step.settled {s s' : Shared} {q : List Mark} (st : Step s q s')
    (done : s.run.phase.hasSent) : s'.run.phase.hasSent ∧ s'.machine = s.machine := by
  cases st with
  | readFlag at_ => simp [at_, Phase.hasSent] at done
  | callStep at_ => simp [at_, Phase.hasSent] at done
  | seeHalt at_ => simp [at_, Phase.hasSent] at done
  | count at_ => simp [at_, Phase.hasSent] at done
  | inspect at_ => simp [at_, Phase.hasSent] at done
  | send at_ => simp [at_, Phase.hasSent] at done
  | leave at_ => simp [Shared.work, FreeRun.act, at_, Phase.hasSent]
  | _ => exact ⟨done, rfl⟩

/-- Once the worker has sent its report, no steps change the machine. -/
lemma Steps.settled {s s' : Shared} {tr : List Mark} (run : Steps s tr s')
    (done : s.run.phase.hasSent) : s'.run.phase.hasSent ∧ s'.machine = s.machine := by
  induction run with
  | refl => exact ⟨done, rfl⟩
  | tail _ st ih =>
    obtain ⟨done', same⟩ := st.settled ih.1
    exact ⟨done', same.trans ih.2⟩

/-- A report that says that the run was stopped is sent after a stop was asked for. -/
lemma Steps.asked {m : Machine} {before after : List Mark} {r : Report} {s : Shared}
    (run : Steps (.start m) (before ++ .sent r :: after) s) (stopped : r.stopped = true) :
    .asked ∈ before := by
  -- The invariant is taken where the report was about to be sent, not at the end of the run.
  obtain ⟨s₁, s₂, run₁, st, -⟩ := run.split
  have sound := run₁.inv.worker.phase
  cases st with
  | send at_ =>
    rw [at_] at sound
    exact sound.2.asked stopped

/-- What a free run on a machine guarantees in a state that its steps have led to. -/
structure SafeRun (m : Machine) (tr : List Mark) (s : Shared) : Prop where
  /-- The processor has taken as many steps as the worker has called `step`, and nothing else was
  done to it. -/
  processor : s.machine.cpu = Processor.step^[calls tr] m.cpu
  /-- There is one report at most. -/
  once : (reports tr).length ≤ 1
  /-- A worker that has left has sent its report. -/
  reported : s.run.phase = .gone → (reports tr).length = 1
  /-- The report counts all the calls of `step`. -/
  steps : ∀ r ∈ reports tr, r.steps = calls tr
  /-- The report says why the processor has halted, or that it has not. -/
  halt : ∀ r ∈ reports tr, r.halt? = s.machine.cpu.halt?
  /-- A run that was not stopped has ended because the processor has halted. -/
  halted : ∀ r ∈ reports tr, r.stopped = false → r.halt?.isSome
  /-- A run was stopped only if that was asked for before its report. -/
  asked : ∀ before r after, tr = before ++ .sent r :: after → r.stopped = true → .asked ∈ before
  /-- After the report the processor does not change any more, whatever happens. -/
  still : reports tr ≠ [] → ∀ tr' s', Steps s tr' s' → s'.machine.cpu = s.machine.cpu
  /-- When a call that gives the run up has returned, the worker has left, and the report returned, if
  any, is the one that the worker has sent. -/
  returned : ∀ answer?, s.control = .returned answer? →
    s.run.phase = .gone ∧ ∀ r, answer? = some r → reports tr = [r]

/-- A free run is safe, whatever the order of the actions. -/
theorem Steps.safe {m : Machine} {tr : List Mark} {s : Shared} (run : Steps (.start m) tr s) :
    SafeRun m tr s := by
  have inv := run.inv
  -- A report in the trace brings the worker behind its sending, where the invariant vouches for it.
  have sent : reports tr ≠ [] → ∃ r, reports tr = [r] ∧ Honest tr s.machine.cpu r :=
    fun h => inv.worker.phase.sent (inv.hasSent h)
  have honest : ∀ r ∈ reports tr, Honest tr s.machine.cpu r := by
    intro r hr
    obtain ⟨r', e, h⟩ := sent (List.ne_nil_of_mem hr)
    rw [e, List.mem_singleton] at hr
    exact hr ▸ h
  refine ⟨inv.worker.cpu, ?once, ?reported, fun r hr => (honest r hr).steps,
    fun r hr => (honest r hr).halt, fun r hr => (honest r hr).halted, ?asked, ?still, ?returned⟩
  case once =>
    by_cases h : reports tr = []
    · simp [h]
    · obtain ⟨r, e, -⟩ := sent h
      simp [e]
  case reported =>
    intro gone
    obtain ⟨r, e, -⟩ := inv.worker.phase.sent (by rw [gone]; rfl)
    simp [e]
  case asked =>
    rintro before r after rfl stopped
    exact run.asked stopped
  case still =>
    intro h tr' s' run'
    rw [(run'.settled (inv.hasSent h)).2]
  case returned =>
    intro answer? e
    refine ⟨inv.control.left _ e, ?_⟩
    rintro r rfl
    have hr : r ∈ reports tr := inv.control.answer r (by rw [e]; rfl)
    obtain ⟨r', e', -⟩ := sent (List.ne_nil_of_mem hr)
    rw [e', List.mem_singleton] at hr
    rw [e', hr]

/-- A stop that is asked for between the worker's look at the stop flag and its step, which halts the
processor: the report says both. -/
theorem safe_of_late_stop :
    ∃ tr s, Steps (.start (.new .standard none)) tr s ∧
      s.control = .returned (some ⟨1, true, some (.noInstruction 0)⟩) ∧
      SafeRun (.new .standard none) tr s := by
  have run := Steps.one (.readFlag (s := .start (.new .standard none)) rfl)
  have run := run.tail (.stop rfl)
  have run := run.tail (.callStep rfl rfl rfl)
  have run := run.tail (.count rfl)
  have run := run.tail (.readFlag rfl)
  have run := run.tail (.inspect rfl rfl)
  have run := run.tail (.send rfl)
  have run := run.tail (.receive rfl rfl)
  have run := run.tail (.leave rfl)
  have run := run.tail (.join rfl rfl)
  exact ⟨_, _, run, rfl, run.safe⟩

end PocketMips
