import Mathlib.Data.List.Basic
import Mathlib.Tactic.Lemma
import PocketMips.FreeRun

/-!
# Interleavings of a free run

A free run as a protocol between its worker and those who share its processor. A step of the
protocol is one atomic action: of the worker, as `FreeRun.act` takes it; of the controller, which
asks, waits, polls or drops; or of anyone who looks at the processor and holds it meanwhile. Nobody
but the worker moves the processor. The steps come in any order, and leave a trace of what the
accounts of a run are kept in: calls of `step`, reports, and requests to stop.
-/

namespace PocketMips

/-- What a controller does with the free run that it started. -/
inductive Control where
  /-- It holds the run, and no call on it is going on. -/
  | ready
  /-- It waits for the report. -/
  | receiving
  /-- It waits for the worker to leave: with the report to return, or none if the run is dropped. -/
  | joining (answer? : Option Report)
  /-- It has given the run up, by a call that has returned. -/
  | returned (answer? : Option Report)
  deriving DecidableEq, Repr

/-- Has the report not been taken yet? -/
def Control.isOpen : Control → Bool
  | .ready | .receiving => true
  | .joining _ | .returned _ => false

/-- The report that the controller has taken. -/
def Control.answer? : Control → Option Report
  | .ready | .receiving => none
  | .joining answer? | .returned answer? => answer?

/-- All that takes part in a free run. -/
structure Shared where
  machine : Machine
  run : FreeRun
  control : Control
  /-- Is somebody looking at the processor, who holds it? -/
  held : Bool

/-- The state right after a free run was started. -/
def Shared.start (m : Machine) : Shared :=
  ⟨m, .start, .ready, false⟩

/-- The state after the next action of the worker. -/
def Shared.work (s : Shared) : Shared :=
  { s with machine := (FreeRun.act s.machine s.run).1, run := (FreeRun.act s.machine s.run).2 }

/-- The state after a request to stop. -/
def Shared.ask (s : Shared) : Shared :=
  { s with run := s.run.requestStop }

/-- The state after the report was taken out of the mailbox, to be returned once the worker has left. -/
def Shared.take (s : Shared) (report : Report) : Shared :=
  { s with run := { s.run with mailbox := none }, control := .joining (some report) }

/-- What a step leaves in the trace. -/
inductive Mark where
  /-- A stop was asked for. -/
  | asked
  /-- The worker called `step`. -/
  | stepped
  /-- The worker sent a report. -/
  | sent (r : Report)
  deriving DecidableEq, Repr

/-- The report that a mark is about. -/
def Mark.report? : Mark → Option Report
  | .sent r => some r
  | .asked | .stepped => none

/-- The reports sent in a trace. -/
def reports (tr : List Mark) : List Report :=
  tr.filterMap Mark.report?

/-- The number of calls of `step` in a trace. -/
def calls (tr : List Mark) : Nat :=
  tr.count .stepped

/-- What is returned when the worker is gone without a report. -/
def Report.missing : Report :=
  ⟨0, true, none⟩

/-- An atomic action, and its marks. -/
inductive Step : Shared → List Mark → Shared → Prop where
  -- The worker goes from phase to phase. It waits while somebody else holds the processor.
  | readFlag {s} :
    s.run.phase = .checkStop →
    Step s [] s.work
  | callStep {s} :
    s.run.phase = .step →
    s.held = false →
    s.machine.cpu.halt? = none →
    Step s [.stepped] s.work
  | seeHalt {s why} :
    s.run.phase = .step →
    s.held = false →
    s.machine.cpu.halt? = some why →
    Step s [] s.work
  | count {s} :
    s.run.phase = .count →
    Step s [] s.work
  | inspect {s} :
    s.run.phase = .inspect →
    s.held = false →
    Step s [] s.work
  | send {s r} :
    s.run.phase = .send r →
    Step s [.sent r] s.work
  | leave {s} :
    s.run.phase = .leave →
    Step s [] s.work
  -- Anybody may take the processor to look at it, and lets it go again.
  | look {s} :
    s.held = false →
    Step s [] { s with held := true }
  | lookAway {s} :
    s.held = true →
    Step s [] { s with held := false }
  -- The controller asks the worker to stop, with or without waiting, or only waits.
  | requestStop {s} :
    s.control = .ready →
    Step s [.asked] s.ask
  | stop {s} :
    s.control = .ready →
    Step s [.asked] { s.ask with control := .receiving }
  | wait {s} :
    s.control = .ready →
    Step s [] { s with control := .receiving }
  -- One that waits receives the report, or finds out that the worker is gone and none will come.
  | receive {s r} :
    s.control = .receiving →
    s.run.mailbox = some r →
    Step s [] (s.take r)
  | receiveLost {s} :
    s.control = .receiving →
    s.run.mailbox = none →
    s.run.phase = .gone →
    Step s [] { s with control := .joining (some .missing) }
  -- One that polls keeps the run if the report is not there yet, and waits if none will come.
  | pollEmpty {s} :
    s.control = .ready →
    s.run.mailbox = none →
    s.run.phase ≠ .gone →
    Step s [] s
  | pollTake {s r} :
    s.control = .ready →
    s.run.mailbox = some r →
    Step s [] (s.take r)
  | pollLost {s} :
    s.control = .ready →
    s.run.mailbox = none →
    s.run.phase = .gone →
    Step s [] { s with control := .receiving }
  -- A run that is dropped asks the worker to stop.
  | drop {s} :
    s.control = .ready →
    Step s [.asked] { s.ask with control := .joining none }
  -- A call returns when the worker has left. If it was not the drop itself, the run is dropped now.
  | join {s r} :
    s.control = .joining (some r) →
    s.run.phase = .gone →
    Step s [.asked] { s.ask with control := .returned (some r) }
  | joinDropped {s} :
    s.control = .joining none →
    s.run.phase = .gone →
    Step s [] { s with control := .returned none }

/-- Steps in any order, and their trace. -/
inductive Steps : Shared → List Mark → Shared → Prop where
  | refl {s} : Steps s [] s
  | tail {s₀ s s' tr q} :
    Steps s₀ tr s →
    Step s q s' →
    Steps s₀ (tr ++ q) s'

/-- One step alone. -/
lemma Steps.one {s s' : Shared} {q : List Mark} (st : Step s q s') : Steps s q s' :=
  .tail .refl st

/-- A step leaves no mark or one. -/
lemma Step.marks {s s' : Shared} {q : List Mark} (st : Step s q s') : q = [] ∨ ∃ k, q = [k] := by
  cases st <;> simp

/-- Where a mark stands in the trace, a step was taken that left it. -/
lemma Steps.split {s s' : Shared} {before after : List Mark} {k : Mark}
    (h : Steps s (before ++ k :: after) s') :
    ∃ s₁ s₂, Steps s before s₁ ∧ Step s₁ [k] s₂ ∧ Steps s₂ after s' := by
  generalize e : before ++ k :: after = tr at h
  induction h generalizing after with
  | refl => simp at e
  | tail h st ih =>
    obtain rfl | ⟨j, rfl⟩ := st.marks
    · rw [List.append_nil] at e
      obtain ⟨s₁, s₂, h₁, st₁, h₂⟩ := ih e
      refine ⟨s₁, s₂, h₁, st₁, ?_⟩
      simpa using h₂.tail st
    · obtain rfl | ⟨most, _, rfl⟩ := after.eq_nil_or_concat'
      · obtain ⟨rfl, last⟩ := List.append_inj' e rfl
        obtain rfl := List.singleton_inj.mp last
        exact ⟨_, _, h, st, .refl⟩
      · rw [← List.cons_append, ← List.append_assoc] at e
        obtain ⟨init, last⟩ := List.append_inj' e rfl
        obtain rfl := List.singleton_inj.mp last
        obtain ⟨s₁, s₂, h₁, st₁, h₂⟩ := ih init
        exact ⟨s₁, s₂, h₁, st₁, h₂.tail st⟩

/-! ### Traces -/

-- What the accounts of a trace are, mark by mark.
@[simp] theorem reports_nil : reports [] = [] := rfl

@[simp] theorem reports_append (tr q : List Mark) : reports (tr ++ q) = reports tr ++ reports q :=
  List.filterMap_append

@[simp] theorem reports_asked : reports [.asked] = [] := rfl

@[simp] theorem reports_stepped : reports [.stepped] = [] := rfl

@[simp] theorem reports_sent (r : Report) : reports [.sent r] = [r] := rfl

@[simp] theorem calls_nil : calls [] = 0 := rfl

@[simp] theorem calls_append (tr q : List Mark) : calls (tr ++ q) = calls tr + calls q :=
  List.count_append

@[simp] theorem calls_asked : calls [.asked] = 0 := rfl

@[simp] theorem calls_stepped : calls [.stepped] = 1 := rfl

@[simp] theorem calls_sent (r : Report) : calls [.sent r] = 0 := by
  simp [calls]

end PocketMips
