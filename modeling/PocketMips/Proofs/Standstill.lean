import PocketMips.Proofs.ChangeView
import PocketMips.Proofs.ChangeTracking
import PocketMips.Proofs.FreeRunEnd

/-!
# Steps that fail, and what comes after a halt

A step that cannot complete its instruction leaves the processor as it was, but for the reason of the halt.
And a processor that has halted, for this or any other reason, stays as it is: whoever steps or runs it,
and however many workers are at it, nothing changes before the next reset or load.

That somebody goes on in this way is the relation `Scene.GoesOn`. It allows every action of a session and of
its workers in any order, and whatever is done with a processor by someone who holds it; all it leaves out
is that a call returns which has reset the processor or loaded a program.
-/

namespace PocketMips

/-- Does the call take the processor to the start of a program? -/
def Call.restarts : Call → Bool
  | .load _ | .loadFile _ _ | .reset => true
  | .stop | .wait | .poll | .run | .step | .look | .close => false

/-- One scene comes after another, and the processor was neither reset nor loaded in between. -/
inductive Scene.GoesOn : Scene → Scene → Prop where
  | refl {s} : GoesOn s s
  /-- A worker or a call acts. -/
  | move {s s' q s''} :
    GoesOn s s' →
    Move s' q s'' →
    (∀ c answer?, .returned c answer? ∈ q → c.restarts = false) →
    GoesOn s s''
  /-- Someone who holds the processor takes a step. -/
  | step {s s'} :
    GoesOn s s' →
    GoesOn s (s'.operate .step)
  /-- Someone who holds the processor runs it with a limit. -/
  | run {s s'} (limit : Nat) :
    GoesOn s s' →
    GoesOn s (s'.operate (.run limit))

namespace Processor

/-- How a processor halts, and stays halted. -/
structure HaltsForGood (p : Processor) : Prop where
  /-- A step that halts it for any reason but an exit does nothing else. -/
  atomic : p.isDone = false → ∀ why, p.step.halt? = some why → why ≠ .exit →
    p.step = { p with halt? := some why }
  /-- Once it has halted, a run takes no steps. -/
  limited : p.isDone → ∀ limit, p.run limit = (p, 0)
  /-- Once it has halted, a free run does not change it. -/
  free : p.isDone → ∀ s tr s', s.machine.cpu = p → Steps s tr s' → s'.machine.cpu = p
  /-- Once it has halted, nothing changes it but a reset or a load. -/
  settled : p.isDone → ∀ s s', s.machine.cpu = p → Scene.GoesOn s s' → s'.machine.cpu = p

variable {p : Processor}

/-- A step that ends in a halt other than an exit does nothing but to halt the processor. -/
lemma step_of_failed (going : p.isDone = false) {why : Halt} (halted : p.step.halt? = some why)
    (failed : why ≠ .exit) : p.step = p.stop why := by
  have nothing := completing?_of_halt halted failed
  obtain ⟨-, same | ⟨why', stopped⟩⟩ | ⟨i, e, completing, -⟩ := p.completing?_cases
  · rw [same] at halted
    rw [isDone, halted] at going
    cases going
  · rw [stopped] at halted ⊢
    cases halted
    rfl
  · rw [nothing] at completing
    cases completing

end Processor

/-- What a call that does not restart the processor does to one that has halted. -/
lemma Call.cpu_effect_of_done {c : Call} {m : Machine} (keeps : c.restarts = false)
    (done : m.cpu.isDone) : (c.effect m).cpu = m.cpu := by
  cases c with
  | load program => cases keeps
  | loadFile path file => cases keeps
  | reset => cases keeps
  | step => exact Processor.step_of_done done
  | _ => rfl

/-- An action of a worker or of a call changes nothing about a processor that has halted. -/
lemma Move.cpu_of_done {s s' : Scene} {q : List Entry} (mv : Move s q s')
    (done : s.machine.cpu.isDone)
    (keeps : ∀ c answer?, .returned c answer? ∈ q → c.restarts = false) :
    s'.machine.cpu = s.machine.cpu := by
  cases mv with
  | @work i r =>
    obtain same | stepped := FreeRun.cpu_act s.machine r
    · exact same
    · exact stepped.trans (Processor.step_of_done done)
  | call mv =>
    obtain ⟨same, -⟩ | ⟨c, answer?, finishes⟩ := mv.cpu
    · exact same
    · have returned : .returned c (if c.answers then answer? else none) ∈ q := by
        rw [finishes.entries]
        exact List.mem_append_right _ (.head _)
      rw [finishes.machine]
      exact Call.cpu_effect_of_done (keeps c _ returned) done

/-- A processor that has halted stays as it is, whatever goes on in the session. -/
lemma Scene.GoesOn.cpu_of_done {s s' : Scene} (h : s.GoesOn s') (done : s.machine.cpu.isDone) :
    s'.machine.cpu = s.machine.cpu := by
  induction h with
  | refl => rfl
  | move _ mv keeps ih => exact (mv.cpu_of_done (ih ▸ done) keeps).trans ih
  | step _ ih => exact (Processor.step_of_done (ih ▸ done)).trans ih
  | @run s' limit _ ih =>
    have same : (s'.operate (.run limit)).machine.cpu = s'.machine.cpu := by
      show (s'.machine.run limit).1.cpu = _
      rw [Machine.cpu_run, Processor.iterate_of_done (ih ▸ done)]
    exact same.trans ih

/-- A processor that has halted stays as it is in a free run. -/
lemma Steps.cpu_of_done {s s' : Shared} {tr : List Mark} (run : Steps s tr s')
    (done : s.machine.cpu.isDone) : s'.machine.cpu = s.machine.cpu := by
  induction run with
  | refl => rfl
  | tail _ st ih =>
    obtain ⟨same, -⟩ | ⟨stepped, -⟩ := st.cpu
    · exact same.trans ih
    · exact (stepped.trans (Processor.step_of_done (ih ▸ done))).trans ih

/-- Every processor halts without a trace of what it could not do, and stays halted. -/
theorem Processor.haltsForGood (p : Processor) : p.HaltsForGood where
  atomic going why halted failed := step_of_failed going halted failed
  limited done limit := by
    apply Prod.ext
    · rw [run_fst, iterate_of_done done]
    · exact run_of_done done limit
  free := by
    rintro done s tr s' rfl run
    exact run.cpu_of_done done
  settled := by
    rintro done s s' rfl goesOn
    exact goesOn.cpu_of_done done

end PocketMips
