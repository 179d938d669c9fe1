import PocketMips.Proofs.Drivers
import PocketMips.Proofs.Restart
import PocketMips.Proofs.Standstill

/-!
# Files that cannot be read

A session that is asked to load a file which cannot be read loads the empty program instead, and lets it come
to its end. So it loses all that it had before but its settings, as with any other load, and it is done at
once (`Scene.FailsClean`).

This needs the free run to be gone. It is, since a worker that was asked to stop leaves, and its report waits
for the session in the mailbox (`FreeRun.Kept`). What is done with the session afterwards finds the processor
halted, and a free run that starts there neither steps nor counts (`FreeRun.Idles`). The next load then has
nothing to clear away that a new session would not have.
-/

namespace PocketMips

/-- What is reported by a free run that has found the processor halted for a reason. -/
structure Report.Idle (why : Halt) (report : Report) : Prop where
  steps : report.steps = 0
  halt : report.halt? = some why

namespace Session

/-- One session comes after another, and the processor was neither reset nor loaded in between. -/
inductive GoesOn : Session → Session → Prop where
  | refl {s} : GoesOn s s
  | call {s s'} (c : Call) :
    GoesOn s s' →
    c.restarts = false →
    GoesOn s (s'.perform c).1
  /-- The worker acts. -/
  | work {s s'} :
    GoesOn s s' →
    GoesOn s s'.workerActs
  /-- Someone who holds the processor takes a step. -/
  | step {s s'} :
    GoesOn s s' →
    GoesOn s { s' with machine := s'.machine.step }
  /-- Someone who holds the processor runs it with a limit. -/
  | run {s s'} (limit : Nat) :
    GoesOn s s' →
    GoesOn s { s' with machine := (s'.machine.run limit).1 }

/-- The empty program has come to its end, and nothing else has happened. -/
structure Blank (setup : Config) (s : Session) : Prop where
  free : s.freeRun? = none
  /-- But for the halt, the processor is at the start of the empty program. -/
  pristine : ({ s.cpu with halt? := none } : Processor).Pristine .empty setup
  halted : s.cpu.halt? = some (.noInstruction 0)
  highlight : s.highlight = none

/-- What can be done with a session in which the empty program has come to its end. -/
structure Usable (setup : Config) (s : Session) : Prop where
  /-- A run with a limit does nothing. -/
  limited : ∀ limit, s.machine.run limit = (s.machine, 0)
  /-- Every report that is returned is one of no steps. -/
  returned : ∀ c report, (s.perform c).2 = some report → report.Idle (.noInstruction 0)
  /-- A free run that is started now and waited for reports at once. -/
  reported : s.isRunning = false → s.run.wait.2 = some ⟨0, false, some (.noInstruction 0)⟩
  /-- A file that can be read is loaded as by a new session. -/
  loads : ∀ path source threshold,
    let fresh := Session.new setup threshold
    (s.loadFile path (.ok source)).2 = (fresh.loadFile path (.ok source)).2 ∧
      (s.loadFile path (.ok source)).1.cpu = (fresh.loadFile path (.ok source)).1.cpu ∧
      (s.loadFile path (.ok source)).1.freeRun? = (fresh.loadFile path (.ok source)).1.freeRun?

end Session

/-- What comes of the attempt to load a file that cannot be read, in a state of a session. -/
structure Scene.FailsClean (s : Scene) (path : String) (why : ReadError) : Prop where
  error : (s.session.loadFile path (.error why)).2 = .error why
  blank : (s.session.loadFile path (.error why)).1.Blank s.machine.cpu.config
  /-- Nothing changes the processor before the next reset or load, and the session can be used. -/
  usable : ∀ t, (s.session.loadFile path (.error why)).1.GoesOn t →
    t.cpu = (s.session.loadFile path (.error why)).1.cpu ∧ t.Usable s.machine.cpu.config
  /-- In any order of the actions, the call leaves the session so when it returns, and without a worker. -/
  interleaved : ∀ answer? q s', CallMove s q s' → .returned (.loadFile path (.error why)) answer? ∈ q →
    s'.session.Blank s.machine.cpu.config ∧ s'.Quiet

/-- A processor with a reason to halt has halted. -/
lemma Processor.isDone_of_halt {p : Processor} {why : Halt} (halted : p.halt? = some why) :
    p.isDone = true :=
  Option.isSome_of_eq_some halted

/-! ### The end of free runs -/

namespace FreeRun
variable {m : Machine} {r : FreeRun} {why : Halt}

/-- What each action of the worker keeps holds when it has left. -/
lemma settle_induction {P : Machine → FreeRun → Prop}
    (act : ∀ m r, P m r → P (act m r).1 (act m r).2) (start : P m r) :
    P (settle m r).1 (settle m r).2 :=
  repeatFrom_leads (R := fun x y : Machine × FreeRun => P x.1 x.2 → P y.1 y.2) (fun _ => id)
    (fun x _ _ rest h => rest (act x.1 x.2 h)) patience (m, r) 0 start

/-- What steps keep is true of the processor when the worker has left. -/
lemma cpu_settle {P : Processor → Prop} (step : ∀ p, P p → P p.step) (start : P m.cpu) :
    P (settle m r).1.cpu := by
  refine settle_induction (P := fun m _ => P m.cpu) (fun m r h => ?_) start
  obtain same | stepped := cpu_act m r
  · exact same ▸ h
  · exact stepped ▸ step _ h

/-- What steps keep is true of the processor when the report was looked for. -/
lemma cpu_collect {P : Processor → Prop} (step : ∀ p, P p → P p.step) (start : P m.cpu) :
    P (collect m r).1.cpu := by
  unfold collect
  cases r.mailbox with
  | none => exact start
  | some report => exact cpu_settle step start

/-- A report that was sent is in the mailbox. -/
def Kept (r : FreeRun) : Prop :=
  r.phase.hasSent = true → r.mailbox ≠ none

/-- An action of the worker keeps its report in the mailbox. -/
lemma Kept.act (h : r.Kept) (m : Machine) : (act m r).2.Kept := by
  unfold Kept at h ⊢
  obtain ⟨report, -, -, full⟩ | ⟨-, sent, mail⟩ := act_cases m r 0
  · simp [full]
  · rw [sent, mail]
    exact h

/-- A free run that is stopped ends with its report. -/
lemma Kept.stop (h : r.Kept) (m : Machine) : ∃ m' report, stop m r = (m', .ok report) := by
  have kept : (settle m r.requestStop).2.Kept :=
    settle_induction (P := fun _ r => r.Kept) (fun m _ h => h.act m) h
  -- The worker has left, so it has sent its report, and nobody has taken it yet.
  have gone := gone_of_asked (r := r.requestStop) rfl m
  obtain ⟨report, full⟩ := Option.ne_none_iff_exists'.mp (kept (by rw [gone]; rfl))
  exact ⟨_, report, collect_of_mail full _⟩

/-! ### Free runs on a processor that has halted -/

/-- A free run that has come upon a processor which had halted for a reason before. -/
structure Idles (why : Halt) (r : FreeRun) : Prop where
  steps : r.steps = 0
  still : r.phase ≠ .count
  sends : ∀ report, r.phase = .send report → report.Idle why
  mail : ∀ report, r.mailbox = some report → report.Idle why
  kept : r.Kept

/-- What comes of an attempt to end such a free run. -/
def Spares (p : Processor) (why : Halt) : Machine × Except FreeRun Report → Prop
  | (m, .ok report) => m.cpu = p ∧ report.Idle why
  | (m, .error r) => m.cpu = p ∧ r.Idles why

namespace Idles

/-- A free run that starts on such a processor has not stepped it. -/
lemma start (why : Halt) : start.Idles why where
  steps := rfl
  still := nofun
  sends := nofun
  mail := nofun
  kept := nofun

/-- A request to stop changes nothing about that. -/
lemma requestStop (h : r.Idles why) : r.requestStop.Idles why :=
  ⟨h.steps, h.still, h.sends, h.mail, h.kept⟩

/-- The worker sees that the processor has halted, and goes on to say so. -/
lemma act (h : r.Idles why) (halted : m.cpu.halt? = some why) :
    (act m r).1.cpu = m.cpu ∧ (act m r).2.Idles why := by
  have kept := h.kept.act m
  unfold FreeRun.act at kept ⊢
  cases at_ : r.phase with
  | checkStop =>
    simp only [at_] at kept ⊢
    refine ⟨trivial, h.steps, ?_, ?_, h.mail, kept⟩ <;> split <;> exact nofun
  | step =>
    simp only [at_, halted] at kept ⊢
    refine ⟨trivial, h.steps, nofun, ?_, h.mail, kept⟩
    rintro report ⟨⟩
    exact ⟨h.steps, rfl⟩
  | count => exact absurd at_ h.still
  | inspect =>
    simp only [at_, halted] at kept ⊢
    refine ⟨trivial, h.steps, nofun, ?_, h.mail, kept⟩
    rintro report ⟨⟩
    exact ⟨h.steps, rfl⟩
  | send report =>
    simp only [at_] at kept ⊢
    refine ⟨trivial, h.steps, nofun, nofun, ?_, kept⟩
    rintro report' ⟨⟩
    exact h.sends report at_
  | leave =>
    simp only [at_] at kept ⊢
    exact ⟨trivial, h.steps, nofun, nofun, h.mail, kept⟩
  | gone => exact ⟨rfl, h⟩

/-- To look for the report finds an idle one or none. -/
lemma collect (h : r.Idles why) (halted : m.cpu.halt? = some why) : Spares m.cpu why (collect m r) := by
  have done := Processor.isDone_of_halt halted
  unfold FreeRun.collect
  cases mail : r.mailbox with
  | none => exact ⟨rfl, h⟩
  | some report =>
    refine ⟨?_, h.mail report mail⟩
    exact cpu_settle (P := (· = m.cpu)) (by rintro _ rfl; exact Processor.step_of_done done) rfl

/-- To wait for the worker gives an idle report, if it returns. -/
lemma wait (h : r.Idles why) (halted : m.cpu.halt? = some why) : Spares m.cpu why (wait m r) := by
  obtain ⟨cpu, idles⟩ : (settle m r).1.cpu = m.cpu ∧ (settle m r).2.Idles why := by
    refine settle_induction (P := fun m' r => m'.cpu = m.cpu ∧ r.Idles why) ?_ ⟨rfl, h⟩
    rintro m' r ⟨cpu, idles⟩
    rw [← cpu] at halted ⊢
    exact idles.act halted
  rw [← cpu] at halted ⊢
  exact idles.collect halted

/-- To stop the worker gives an idle report, if it returns. -/
lemma stop (h : r.Idles why) (halted : m.cpu.halt? = some why) : Spares m.cpu why (stop m r) :=
  h.requestStop.wait halted

end Idles

end FreeRun

/-! ### Sessions -/

namespace Session
variable {s t : Session} {p : Processor} {why : Halt} {c : Call}
  {attempt : Machine → FreeRun → Machine × Except FreeRun Report} {m : Machine} {r r' : FreeRun}
  {report : Report}

/-- A free run that has ended is taken from the session. -/
lemma take_of_ok (run : s.freeRun? = some r) (ended : attempt s.machine r = (m, .ok report)) :
    s.take attempt = (⟨m, none⟩, some report) := by
  simp only [take, run, ended]

/-- A free run that goes on stays with the session. -/
lemma take_of_error (run : s.freeRun? = some r) (goes : attempt s.machine r = (m, .error r')) :
    s.take attempt = (⟨m, some r'⟩, none) := by
  simp only [take, run, goes]

/-- A session whose report is kept has no free run after a stop. -/
lemma free_stop (kept : ∀ r, s.freeRun? = some r → r.Kept) : s.stop.1.freeRun? = none := by
  cases run : s.freeRun? with
  | none => simp only [stop, take, run]
  | some r =>
    obtain ⟨m, report, stopped⟩ := (kept r run).stop s.machine
    rw [stop, take_of_ok run stopped]

/-- To stop the free run does not change the settings. -/
lemma config_stop (s : Session) : s.stop.1.cpu.config = s.cpu.config := by
  -- Whatever comes of the stop, the worker has only stepped the processor.
  have attempted (r : FreeRun) : (FreeRun.stop s.machine r).1.cpu.config = s.cpu.config := by
    refine FreeRun.cpu_collect (P := (·.config = s.cpu.config)) (fun p h => p.config_step.trans h) ?_
    exact FreeRun.cpu_settle (P := (·.config = s.cpu.config)) (fun p h => p.config_step.trans h) rfl
  cases run : s.freeRun? with
  | none => simp only [stop, take, run]
  | some r =>
    have same := attempted r
    cases ended : FreeRun.stop s.machine r with
    | mk m result =>
      rw [ended] at same
      cases result with
      | ok report => rw [stop, take_of_ok run ended]; exact same
      | error r' => rw [stop, take_of_error run ended]; exact same

/-- The processor is one that has halted, and a free run on it has found it so. -/
structure Idles (p : Processor) (why : Halt) (s : Session) : Prop where
  cpu : s.cpu = p
  run : ∀ r, s.freeRun? = some r → r.Idles why

/-- What comes of a call on such a session. -/
structure Spared (p : Processor) (why : Halt) (after : Session × Option Report) : Prop where
  session : after.1.Idles p why
  answer : ∀ report, after.2 = some report → report.Idle why

namespace Idles

/-- A call that returns no report has none to be wrong. -/
lemma silent (h : s.Idles p why) : Spared p why (s, none) :=
  ⟨h, fun _ no => by cases no⟩

/-- What an attempt to end the free run spares, the call that makes it spares. -/
lemma take (h : s.Idles p why)
    (spares : ∀ r : FreeRun, r.Idles why → FreeRun.Spares p why (attempt s.machine r)) :
    Spared p why (s.take attempt) := by
  cases run : s.freeRun? with
  | none =>
    simp only [Session.take, run]
    exact h.silent
  | some r =>
    have spared := spares r (h.run r run)
    cases ended : attempt s.machine r with
    | mk m result =>
      rw [ended] at spared
      cases result with
      | ok report =>
        obtain ⟨cpu, idle⟩ := spared
        rw [take_of_ok run ended]
        exact ⟨⟨cpu, fun _ no => by cases no⟩, fun _ same => Option.some.inj same ▸ idle⟩
      | error r' =>
        obtain ⟨cpu, idles⟩ := spared
        rw [take_of_error run ended]
        exact silent ⟨cpu, fun _ same => Option.some.inj same ▸ idles⟩

/-- A call that does not restart the processor does not change it, and has only an idle report to return. -/
lemma perform (h : s.Idles p why) (halted : p.halt? = some why) (keeps : c.restarts = false) :
    Spared p why (s.perform c) := by
  obtain ⟨rfl, runs⟩ := h
  have h : s.Idles s.cpu why := ⟨rfl, runs⟩
  have done := Processor.isDone_of_halt halted
  cases c with
  | load | loadFile | reset => cases keeps
  | stop => exact h.take fun r idles => idles.stop halted
  | wait => exact h.take fun r idles => idles.wait halted
  | poll => exact h.take fun r idles => idles.collect halted
  | close => exact (h.take fun r idles => idles.stop halted).session.silent
  | look => exact h.silent
  | run =>
    refine silent (s := s.run) ?_
    cases active : s.isRunning with
    | true =>
      rw [Session.run, if_pos active]
      exact h
    | false =>
      rw [Session.run, if_neg (by simp [active])]
      have polled : Spared s.cpu why s.poll := h.take fun r idles => idles.collect halted
      exact ⟨polled.session.cpu, fun _ same => Option.some.inj same ▸ .start why⟩
  | step =>
    refine silent (s := s.step) ?_
    cases active : s.isRunning with
    | true =>
      rw [Session.step, if_pos active]
      exact ⟨rfl, runs⟩
    | false =>
      rw [Session.step, if_neg (by simp [active])]
      exact ⟨Processor.step_of_done done, runs⟩

/-- The worker does not change the processor, and finds it as it was. -/
lemma workerActs (h : s.Idles p why) (halted : p.halt? = some why) : s.workerActs.Idles p why := by
  obtain ⟨rfl, runs⟩ := h
  unfold Session.workerActs
  cases run : s.freeRun? with
  | none => exact ⟨rfl, runs⟩
  | some r =>
    obtain ⟨cpu, idles⟩ := (runs r run).act halted
    exact ⟨cpu, fun _ same => Option.some.inj same ▸ idles⟩

/-- Whatever goes on in the session but a restart, the processor stays as it is. -/
lemma goesOn (h : s.Idles p why) (halted : p.halt? = some why) (after : s.GoesOn t) : t.Idles p why := by
  have done := Processor.isDone_of_halt halted
  induction after with
  | refl => exact h
  | call c _ keeps ih => exact (ih.perform halted keeps).session
  | work _ ih => exact ih.workerActs halted
  | step _ ih =>
    refine ⟨?_, ih.run⟩
    obtain ⟨rfl, -⟩ := ih
    exact Processor.step_of_done done
  | @run t limit _ ih =>
    refine ⟨?_, ih.run⟩
    obtain ⟨rfl, -⟩ := ih
    exact (t.machine.cpu_run limit).trans (Processor.iterate_of_done done limit)

end Idles

/-- The empty program that was loaded into some processor has come to its end. -/
lemma blank_of_cpu (free : s.freeRun? = none) (cpu : s.cpu = (p.load .empty).step) :
    s.Blank p.config := by
  rw [Call.step_load_empty] at cpu
  refine ⟨free, ?pristine, by rw [cpu]; rfl, ?highlight⟩
  case pristine =>
    rw [cpu]
    exact p.pristine_load .empty
  case highlight =>
    unfold highlight
    rw [cpu]
    rfl

/-- A load makes the same of a session whose report is kept as of a new one with the same settings. -/
lemma loadFile_ok (kept : ∀ r, s.freeRun? = some r → r.Kept) (path : String) (source : List Char)
    (threshold : Option Level) :
    (s.loadFile path (.ok source)).1.cpu =
        ((Session.new s.cpu.config threshold).loadFile path (.ok source)).1.cpu ∧
      (s.loadFile path (.ok source)).1.freeRun? = none := by
  refine ⟨?_, free_stop kept⟩
  show s.stop.1.cpu.load _ = (Processor.new s.cpu.config).load _
  rw [Processor.load_eq, config_stop]

/-- A session in which the empty program has come to its end can be used. -/
lemma Idles.usable (h : s.Idles p (.noInstruction 0)) (halted : p.halt? = some (.noInstruction 0)) :
    s.Usable p.config := by
  obtain ⟨rfl, runs⟩ := h
  have done := Processor.isDone_of_halt halted
  refine ⟨Machine.run_of_done done, ?returned, ?reported, ?loads⟩
  case returned =>
    intro c report returned
    cases keeps : c.restarts with
    | false => exact (Idles.perform ⟨rfl, runs⟩ halted keeps).answer report returned
    | true =>
      cases c with
      | load | loadFile | reset => cases returned
      | _ => cases keeps
  case reported =>
    intro idle
    have short : 3 * (s.cpu.run 0).2 + 4 ≤ FreeRun.patience := by
      rw [Processor.run_of_done done]
      exact Nat.pow_le_pow_right (show 0 < 2 by decide) (show 2 ≤ 62 by decide)
    rw [(s.wait_run (n := 0) done short idle).2, ← halted]
    rfl
  case loads =>
    intro path source threshold fresh
    obtain ⟨cpu, free⟩ := loadFile_ok (fun r run => (runs r run).kept) path source threshold
    exact ⟨rfl, cpu, free⟩

end Session

/-! ### Sessions in any order of actions -/

namespace Scene
variable {s s' : Scene} {q : List Entry}

/-- Only `run` gives a session a free run. -/
lemma held?_of_callMove (mv : CallMove s q s') (free : s.held? = none) :
    s'.held? = none ∨ ∃ answer?, s.busy = .ready .run answer? := by
  cases mv with
  | takeToStop | takeToWait | receive | pollTake | pollLost => exact .inl rfl
  | start at_ => exact .inr ⟨_, at_⟩
  | replace at_ => exact .inr ⟨_, at_⟩
  | _ => exact .inl free

namespace Reachable

/-- The invariant of sessions does not depend on what others do to the processor. -/
lemma inv (h : s.Reachable) : ∃ tr, SessionInv tr s := by
  induction h with
  | new config threshold => exact ⟨[], .new config threshold⟩
  | move _ mv ih =>
    obtain ⟨tr, inv⟩ := ih
    cases mv with
    | work at_ here => exact ⟨_, inv.work at_ here⟩
    | call mv => exact ⟨_, inv.call mv⟩
  | operate op _ ih =>
    obtain ⟨tr, inv⟩ := ih
    exact ⟨tr, inv.crew, inv.others, inv.kept, inv.account, inv.sound⟩

/-- In each reachable scene, a report that was sent is in the mailbox of the free run. -/
lemma kept (h : s.Reachable) {r : FreeRun} (run : s.session.freeRun? = some r) : r.Kept := by
  obtain ⟨tr, inv⟩ := h.inv
  obtain ⟨i, held, there⟩ := Option.bind_eq_some_iff.mp run
  exact inv.kept i r there (.inl held)

/-- In whatever state a session is, the attempt to load a file that cannot be read fails in the same way:
nothing is left of what was before, nothing happens afterwards, and the next load is as good as the first. -/
theorem failsClean (h : s.Reachable) (path : String) (why : ReadError) : s.FailsClean path why := by
  have free := Session.free_stop fun r run => h.kept run
  have settings : s.session.stop.1.cpu.config = s.machine.cpu.config := s.session.config_stop
  have blank : (s.session.loadFile path (.error why)).1.Blank s.machine.cpu.config := by
    rw [← settings]
    exact Session.blank_of_cpu free rfl
  refine ⟨rfl, blank, ?usable, ?interleaved⟩
  case usable =>
    intro t after
    have idles := Session.Idles.goesOn ⟨rfl, by rw [blank.free]; exact nofun⟩ blank.halted after
    refine ⟨idles.cpu, ?_⟩
    have usable := idles.usable blank.halted
    rwa [show _ = s.machine.cpu.config from blank.pristine.config] at usable
  case interleaved =>
    intro answer? q s' mv returned
    obtain ⟨tr, inv⟩ := h.inv
    obtain ⟨answer', done⟩ := mv.ending returned (.inl rfl)
    refine ⟨?_, done.quiet inv returned (.inl rfl)⟩
    -- Only `run` could have given the session a free run, and this is another call.
    have free : s'.held? = none := by
      obtain free | ⟨_, run⟩ := held?_of_callMove mv (inv.free_of_ready done.ready rfl)
      · exact free
      · rw [done.ready] at run
        cases run
    refine Session.blank_of_cpu ?_ (congrArg Machine.cpu done.machine)
    show s'.held?.bind _ = none
    rw [free]
    rfl

/-- A program that never ends is in a free run, and meanwhile a larger memory was asked for. -/
theorem failsClean_of_endless_run :
    ∃ s : Scene, s.Reachable ∧ s.session.isRunning = true ∧ s.session.cpu.completed = 1 ∧
      s.machine.cpu.config = ⟨65536⟩ ∧ s.FailsClean "code.s" .notText := by
  let code : Program := .ofList [⟨[], .jump 0⟩]
  have start := Reachable.operate (.load code) (.new .standard none)
  have run := Moves.one (.call (.call (s := (Scene.new .standard none).operate (.load code)) .run rfl))
  have run := run.call (.allowRun rfl rfl)
  have run := run.call (.pollNone rfl rfl)
  have run := run.call (.start rfl rfl)
  have run := run.tail (.work (i := 0) rfl nofun nofun)
  have run := run.tail (.work (i := 0) rfl nofun nofun)
  have reached := Reachable.operate (.setMemWords 65536) (start.moves run)
  exact ⟨_, reached, by decide +kernel, by decide +kernel, rfl, reached.failsClean _ _⟩

end Reachable

end Scene

end PocketMips
