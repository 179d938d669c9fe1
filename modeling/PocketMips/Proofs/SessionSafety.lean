import PocketMips.Proofs.Operations
import PocketMips.Proofs.SessionCalls

/-!
# The discipline of sessions

What a session guarantees in every order of the calls and of the actions of its workers. There is one
worker at most, no call touches the processor while it is there, and a call that ends a free run leaves
a processor that nobody changes until the next call that may. Whatever a worker has done before, after
a load or a reset the processor is at the start of its program. No report is returned twice, and none is
lost but to a call that came later and does not return reports.
-/

namespace PocketMips
open scoped List

variable {config : Config} {threshold : Option Level} {s s' s'' : Scene} {tr tr' q : List Entry}
  {m : Machine} {r : FreeRun} {i : Nat} {c : Call} {answer? : Option (Nat × Report)}

/-- The state in which a call leaves the processor, when the program was `before`. -/
def Call.Leaves (config : Config) (before : Program) (p : Processor) : Call → Prop
  | .load program => p.Pristine program config
  | .loadFile _ (.ok source) => p.Pristine (Assembly.ofSource source).program config
  | .loadFile _ (.error _) =>
    ∃ start : Processor, start.Pristine .empty config ∧ p = start.stop (.noInstruction 0)
  | .reset => p.Pristine before config
  | .stop | .wait | .poll | .run | .step | .look | .close => True

/-- What a session guarantees in a state that actions have led to. -/
structure Disciplined (config : Config) (tr : List Entry) (s : Scene) : Prop where
  /-- There is one worker at most that has not left. -/
  single : ∀ (i j : Nat) (r r' : FreeRun), s.workers[i]? = some r → s.workers[j]? = some r' →
    r.phase ≠ .gone → r'.phase ≠ .gone → i = j
  /-- The session knows whether a worker is there, unless a call is just waiting for it. -/
  running : s.busy.taken? = none → (s.session.isRunning = false ↔ s.Quiet)
  /-- A call changes the processor only when no worker is there. -/
  changes : ∀ q s', CallMove s q s' → s'.machine.cpu ≠ s.machine.cpu → s.Quiet
  /-- A worker is started only when no other is there. -/
  starts : ∀ q s', CallMove s q s' → s'.workers.length ≠ s.workers.length → s.Quiet
  /-- To step or to run during a free run does nothing. -/
  ignored : ∀ c q s', s.busy = .called c → c = .step ∨ c = .run → s.session.isRunning = true →
    CallMove s q s' → q = [.returned c none] ∧ s'.machine.cpu = s.machine.cpu ∧
      s'.workers = s.workers ∧ s'.held? = s.held? ∧ s'.busy = .idle
  /-- When a call that ends the free run returns, or one that has collected a report, no worker is
  there, and the processor stays as it is until a call is made that may change it. -/
  still : ∀ c answer? q s', CallMove s q s' → .returned c answer? ∈ q →
    c.ends = true ∨ answer?.isSome → s'.Quiet ∧
      ∀ tr' s'', Moves s' tr' s'' → (∀ c', .called c' ∈ tr' → c'.mutates = false) →
        s''.Quiet ∧ s''.machine.cpu = s'.machine.cpu
  /-- A load or a reset takes the processor to the start of its program. -/
  leaves : ∀ c answer? q s', CallMove s q s' → .returned c answer? ∈ q →
    c.Leaves config (loaded tr) s'.machine.cpu
  /-- A worker sends one report at most. -/
  once : (senders tr).Nodup
  /-- Of the free runs that were started, each has its report returned or lost once, but for one that
  the session or a call still has. -/
  account : settled tr ++ s.pending?.toList = started tr ∧ (started tr).Nodup
  /-- What is returned is the report that the worker has sent, by a call to collect it. -/
  returned : ∀ c i report, .returned c (some (i, report)) ∈ tr → c.answers = true ∧
    [.started i, .sent i report, .returned c (some (i, report))] <+ tr
  /-- What is lost is lost to a call made after the start of the free run. -/
  lost : ∀ c i, .lost c i ∈ tr → c.loses = true ∧ [.started i, .called c, .lost c i] <+ tr
  /-- A call that is run goes through such actions, and returns the same report; to wait may go on for
  ever. -/
  performed : s.busy = .idle → ∀ c, (c = .wait → s.session.wait.1.freeRun? = none) →
    ∃ tr' s' answer?, Moves s (tr' ++ [.returned c answer?]) s' ∧
      s'.session = (s.session.perform c).1 ∧ answer?.map Prod.snd = (s.session.perform c).2

/-! ### Calls -/

namespace Call

/-- A call that may not change the processor does nothing to the machine. -/
lemma effect_of_not_mutates (keeps : c.mutates = false) (m : Machine) : c.effect m = m := by
  cases c with
  | load program => cases keeps
  | loadFile path file => cases keeps
  | reset => cases keeps
  | run => cases keeps
  | step => cases keeps
  | _ => rfl

/-- A call that loads a program leaves it there, and others keep the one from before. -/
lemma program_effect (c : Call) (m : Machine) :
    (c.effect m).cpu.program = c.program?.getD m.cpu.program := by
  cases c with
  | loadFile path file =>
    cases file with
    | ok source => rfl
    | error why => exact Processor.program_step _
  | step => exact Processor.program_step _
  | _ => rfl

/-- No call changes the settings. -/
lemma config_effect (c : Call) (m : Machine) : (c.effect m).cpu.config = m.cpu.config := by
  cases c with
  | loadFile path file =>
    cases file with
    | ok source => rfl
    | error why => exact Processor.config_step _
  | step => exact Processor.config_step _
  | _ => rfl

/-- The empty program comes to its end at once. -/
lemma step_load_empty (p : Processor) :
    (p.load .empty).step = (p.load .empty).stop (.noInstruction 0) := by
  rw [Processor.step_eq_apply, if_neg nofun]
  rfl

/-- A call that starts a program leaves the processor at its start. -/
lemma leaves_effect (c : Call) (m : Machine) :
    c.Leaves m.cpu.config m.cpu.program (c.effect m).cpu := by
  cases c with
  | load program => exact m.cpu.pristine_load program
  | loadFile path file =>
    cases file with
    | ok source => exact m.cpu.pristine_load _
    | error why => exact ⟨_, m.cpu.pristine_load .empty, step_load_empty m.cpu⟩
  | reset => exact m.cpu.pristine_reset
  | _ => trivial

/-- A call that does not end the free run does not take the processor to the start of a program. -/
lemma leaves_of_not_ends {before : Program} {p : Processor} (stays : c.ends = false) :
    c.Leaves config before p := by
  cases c with
  | load program => cases stays
  | loadFile path file => cases stays
  | reset => cases stays
  | _ => trivial

/-- A report is lost if one was collected by a call that does not answer. -/
lemma mem_losses {e : Entry} : e ∈ c.losses answer? ↔
    c.answers = false ∧ ∃ i report, answer? = some (i, report) ∧ e = .lost c i := by
  unfold losses
  cases c.answers with
  | true => simp
  | false =>
    cases answer? with
    | none => simp
    | some answer => simp [Prod.ext_iff, and_assoc]

/-- A call returns the report that it has collected, if it answers. -/
lemma returned_mem_outcome {answer' : Option (Nat × Report)} {c' : Call}
    (mem : .returned c' answer' ∈ c.outcome answer?) :
    c' = c ∧ answer' = if c.answers then answer? else none := by
  obtain lost | last := List.mem_append.mp mem
  · obtain ⟨-, _, _, -, e⟩ := mem_losses.mp lost
    cases e
  · rw [List.mem_singleton] at last
    cases last
    exact ⟨rfl, rfl⟩

/-- What is lost was collected by a call that does not answer. -/
lemma lost_mem_outcome {c' : Call} (mem : .lost c' i ∈ c.outcome answer?) :
    c' = c ∧ c.answers = false ∧ ∃ report, answer? = some (i, report) := by
  obtain lost | last := List.mem_append.mp mem
  · obtain ⟨silent, _, report, rfl, e⟩ := mem_losses.mp lost
    cases e
    exact ⟨rfl, silent, report, rfl⟩
  · rw [List.mem_singleton] at last
    cases last

/-- The outcome of a call tells the program that it has loaded. -/
lemma programs_outcome (c : Call) (answer? : Option (Nat × Report)) :
    (c.outcome answer?).filterMap Entry.program? = c.program?.toList :=
  filterMap_outcome (fun _ _ => rfl) c answer?

end Call

/-! ### Actions of the controller -/

/-- The action lets a call do its own work. -/
structure Finishes (c : Call) (answer? : Option (Nat × Report)) (s : Scene) (q : List Entry)
    (s' : Scene) : Prop where
  ready : s.busy = .ready c answer?
  entries : q = c.outcome answer?
  machine : s'.machine = c.effect s.machine
  workers : s'.workers = s.workers
  ended : s'.busy = .idle ∨ s'.busy = .closed

namespace CallMove

/-- Only a call that does its own work changes the processor. -/
lemma cpu (mv : CallMove s q s') :
    (s'.machine.cpu = s.machine.cpu ∧ q.filterMap Entry.program? = []) ∨
      ∃ c answer?, Finishes c answer? s q s' := by
  cases mv with
  | finish at_ => exact .inr ⟨_, _, at_, rfl, rfl, rfl, .inl rfl⟩
  | finishClose at_ => exact .inr ⟨_, _, at_, rfl, rfl, rfl, .inr rfl⟩
  | start =>
    refine .inl ⟨rfl, ?_⟩
    rw [List.filterMap_append, Call.filterMap_losses fun _ _ => rfl]
    rfl
  | replace =>
    refine .inl ⟨rfl, ?_⟩
    rw [List.filterMap_append, Call.filterMap_losses fun _ _ => rfl]
    rfl
  | _ => exact .inl ⟨rfl, rfl⟩

/-- Where a call returns that ends the free run, or that has collected a report, it does its own work. -/
lemma ending (mv : CallMove s q s') (mem : .returned c answer? ∈ q)
    (ends : c.ends = true ∨ answer?.isSome) : ∃ answer', Finishes c answer' s q s' := by
  cases mv with
  | @finish c' answer' at_ =>
    obtain ⟨rfl, -⟩ := Call.returned_mem_outcome mem
    exact ⟨_, at_, rfl, rfl, rfl, .inl rfl⟩
  | @finishClose answer' at_ =>
    obtain ⟨rfl, -⟩ := Call.returned_mem_outcome mem
    exact ⟨_, at_, rfl, rfl, rfl, .inr rfl⟩
  | ignoreStep | ignoreRun | lookAway =>
    rw [List.mem_singleton] at mem
    cases mem
    simp [Call.ends] at ends
  | start =>
    simp only [List.mem_append, Call.mem_losses, List.mem_cons, reduceCtorEq, and_false, exists_false,
      false_or, Entry.returned.injEq, List.not_mem_nil, or_false] at mem
    obtain ⟨rfl, rfl⟩ := mem
    simp [Call.ends] at ends
  | replace => simp [Call.mem_losses] at mem
  | replaced =>
    simp only [List.mem_cons, reduceCtorEq, Entry.returned.injEq, List.not_mem_nil, or_false,
      false_or] at mem
    obtain ⟨rfl, rfl⟩ := mem
    simp [Call.ends] at ends
  | call => simp at mem
  | _ => cases mem

/-- To step or to run does nothing during a free run. -/
lemma ignored (mv : CallMove s q s') (at_ : s.busy = .called c) (last : c = .step ∨ c = .run)
    (active : s.session.isRunning = true) :
    q = [.returned c none] ∧ s'.machine.cpu = s.machine.cpu ∧ s'.workers = s.workers ∧
      s'.held? = s.held? ∧ s'.busy = .idle := by
  cases mv with
  | ignoreStep at' | ignoreRun at' =>
    rw [at_] at at'
    cases at'
    exact ⟨rfl, rfl, rfl, rfl, rfl⟩
  | allowStep _ rest | allowRun _ rest =>
    rw [active] at rest
    cases rest
  -- The other moves belong to calls that end the free run or look at it, which these two do not.
  | takeNone takes | takeToStop takes | takeToWait takes =>
    obtain ⟨at', ends⟩ := Busy.takes?_eq_some takes
    rw [at_] at at'
    cases at'
    obtain rfl | rfl := last <;> cases ends
  | pollNone polls | pollTake polls | pollEmpty polls | pollLost polls =>
    obtain ⟨at', -⟩ | ⟨at', -⟩ := Busy.polls?_eq_some polls
    · rw [at_] at at'
      cases at'
      obtain e | e := last <;> cases e
    · rw [at_] at at'
      cases at'
  | look at' =>
    rw [at_] at at'
    cases at'
    obtain e | e := last <;> cases e
  | call _ at' | receive at' | receiveLost at' | join at' | finish at' | finishClose at' | start at'
  | replace at' | replaced at' | lookAway at' =>
    rw [at_] at at'
    cases at'

/-- No worker is started but by `run`, to which the session has brought its free run to an end. -/
lemma workers (mv : CallMove s q s') (h : SessionInv tr s) :
    s'.workers.length = s.workers.length ∨ s.Quiet := by
  cases mv with
  | start at_ => exact .inr (h.quiet_of_ready at_ (by simp))
  | replace at_ => exact .inr (h.quiet_of_ready at_ (by simp))
  | takeToStop | receive | join | pollTake => exact .inl (List.length_modify ..)
  | _ => exact .inl rfl

/-- What a call returns is the report that the worker has sent. -/
lemma returned {report : Report} (mv : CallMove s q s') (h : SessionInv tr s)
    (mem : .returned c (some (i, report)) ∈ q) :
    c.answers = true ∧ [.started i, .sent i report] <+ tr := by
  obtain ⟨answer', done⟩ := mv.ending mem (.inr rfl)
  rw [done.entries] at mem
  obtain ⟨-, answer⟩ := Call.returned_mem_outcome mem
  by_cases answers : c.answers = true
  · rw [if_pos answers] at answer
    have sound := h.sound
    rw [done.ready, ← answer] at sound
    exact ⟨answers, sound.2.2.2.2⟩
  · rw [if_neg answers] at answer
    cases answer

/-- A report is lost to a call that does not return it, and was made after the start of the run. -/
lemma lost (mv : CallMove s q s') (h : SessionInv tr s) (mem : .lost c i ∈ q) :
    c.loses = true ∧ [.started i, .called c] <+ tr := by
  -- A report that is in hand when a call does its own work was collected by it, after its start.
  have collected {report : Report} (at_ : s.busy = .ready c (some (i, report)))
      (silent : c.answers = false) : c.loses = true ∧ [.started i, .called c] <+ tr := by
    have sound := h.sound
    rw [at_] at sound
    obtain ⟨-, -, collects, began, -⟩ := sound
    exact ⟨collects.resolve_left (by simp [silent]), began⟩
  cases mv with
  | finish at_ =>
    obtain ⟨rfl, silent, report, rfl⟩ := Call.lost_mem_outcome mem
    exact collected at_ silent
  | finishClose at_ =>
    obtain ⟨rfl, silent, report, rfl⟩ := Call.lost_mem_outcome mem
    exact collected at_ silent
  | start at_ =>
    obtain lost | last := List.mem_append.mp mem
    · obtain ⟨silent, _, report, rfl, e⟩ := Call.mem_losses.mp lost
      cases e
      exact collected at_ silent
    · simp at last
  | replace at_ held =>
    rw [h.free_of_ready at_ rfl] at held
    cases held
  | replaced at_ =>
    have sound := h.sound
    rw [at_] at sound
    exact sound.elim
  | call => simp at mem
  | ignoreStep | ignoreRun | lookAway => simp at mem
  | _ => cases mem

end CallMove

/-- No worker is there when a call returns that ends the free run or has collected a report. -/
lemma Finishes.quiet {answer' : Option (Nat × Report)} (done : Finishes c answer' s q s')
    (h : SessionInv tr s) (mem : .returned c answer? ∈ q) (ends : c.ends = true ∨ answer?.isSome) :
    s'.Quiet := by
  have before : s.Quiet := by
    by_cases poll : c = .poll
    · subst poll
      rw [done.entries] at mem
      obtain ⟨-, rfl⟩ := Call.returned_mem_outcome mem
      obtain ⟨answer, rfl⟩ := Option.isSome_iff_exists.mp (ends.resolve_left nofun)
      have sound := h.sound
      rw [done.ready] at sound
      exact sound.2.1
    · exact h.quiet_of_ready done.ready poll
  intro r there
  rw [done.workers] at there
  exact before r there

/-! ### Actions in any order -/

/-- The program of the processor is the one loaded last, and its settings do not change. -/
lemma Moves.program (run : Moves (.new config threshold) tr s) :
    s.machine.cpu.program = loaded tr ∧ s.machine.cpu.config = config := by
  induction run with
  | refl => exact ⟨rfl, rfl⟩
  | @tail s s' tr q _ mv ih =>
    rw [loaded_append]
    cases mv with
    | @work i r =>
      have silent : (r.phase.entries i).filterMap Entry.program? = [] := by cases r.phase <;> rfl
      have keeps : (FreeRun.act s.machine r).1.cpu.program = s.machine.cpu.program ∧
          (FreeRun.act s.machine r).1.cpu.config = s.machine.cpu.config := by
        obtain same | stepped := FreeRun.cpu_act s.machine r
        · simp [same]
        · simp [stepped]
      rw [silent]
      exact ⟨keeps.1.trans ih.1, keeps.2.trans ih.2⟩
    | call mv =>
      obtain ⟨same, silent⟩ | ⟨c, answer?, done⟩ := mv.cpu
      · rw [same, silent]
        exact ih
      · rw [done.machine, done.entries, Call.programs_outcome, c.program_effect, c.config_effect, ih.1]
        exact ⟨by cases c.program? <;> rfl, ih.2⟩

/-- A report that is returned was sent after the start of its free run. -/
lemma Moves.returned {report : Report} (run : Moves (.new config threshold) tr s)
    (mem : .returned c (some (i, report)) ∈ tr) :
    c.answers = true ∧ [.started i, .sent i report, .returned c (some (i, report))] <+ tr := by
  obtain ⟨tr₁, s₁, q, s₂, run₁, mv, now, part⟩ := run.origin mem
  cases mv with
  | work =>
    obtain ⟨_, -, e⟩ := Phase.mem_entries.mp now
    cases e
  | call mv =>
    obtain ⟨answers, order⟩ := mv.returned run₁.inv now
    exact ⟨answers, (order.append (List.singleton_sublist.mpr now)).trans part⟩

/-- A report is lost only to a call that was made after the start of its free run. -/
lemma Moves.lost (run : Moves (.new config threshold) tr s) (mem : .lost c i ∈ tr) :
    c.loses = true ∧ [.started i, .called c, .lost c i] <+ tr := by
  obtain ⟨tr₁, s₁, q, s₂, run₁, mv, now, part⟩ := run.origin mem
  cases mv with
  | work =>
    obtain ⟨_, -, e⟩ := Phase.mem_entries.mp now
    cases e
  | call mv =>
    obtain ⟨loses, order⟩ := mv.lost run₁.inv now
    exact ⟨loses, (order.append (List.singleton_sublist.mpr now)).trans part⟩

/-- No call is going on that may change the processor. -/
def Busy.Calm : Busy → Prop
  | .called c | .receiving c _ | .joining c _ _ | .ready c _ => c.mutates = false
  | .polling | .replacing _ => False
  | .idle | .looking | .closed => True

/-- In calm, a free run is taken only by a call that does not change the processor. -/
lemma Busy.Calm.takes {φ : Busy} (calm : φ.Calm) (takes : φ.takes? = some c) :
    c.mutates = false := by
  obtain ⟨rfl, -⟩ := takes?_eq_some takes
  exact calm

/-- In calm, a report is looked for only by a call that does not change the processor. -/
lemma Busy.Calm.polls {φ : Busy} (calm : φ.Calm) (polls : φ.polls? = some c) :
    c.mutates = false := by
  obtain ⟨-, rfl⟩ | ⟨rfl, -⟩ := polls?_eq_some polls
  · rfl
  · exact calm.elim

/-- When no worker is there, nothing happens until a call is made that may change the processor. -/
lemma Move.still (mv : Move s q s') (quiet : s.Quiet) (calm : s.busy.Calm)
    (asked : ∀ c, .called c ∈ q → c.mutates = false) :
    s'.Quiet ∧ s'.busy.Calm ∧ s'.machine.cpu = s.machine.cpu := by
  cases mv with
  | work at_ here => exact absurd (Scene.quiet_iff.mp quiet _ _ at_) here
  | call mv =>
    cases mv with
    | call c => exact ⟨quiet, asked c (.head _), rfl⟩
    | takeNone takes => exact ⟨quiet, calm.takes takes, rfl⟩
    | takeToStop takes => exact ⟨quiet.modify fun _ => rfl, calm.takes takes, rfl⟩
    | takeToWait takes => exact ⟨quiet, calm.takes takes, rfl⟩
    | receive at_ =>
      rw [at_] at calm
      exact ⟨quiet.modify fun _ => rfl, calm, rfl⟩
    | receiveLost at_ =>
      rw [at_] at calm
      exact ⟨quiet, calm, rfl⟩
    | join at_ =>
      rw [at_] at calm
      exact ⟨quiet.modify fun _ => rfl, calm, rfl⟩
    | pollNone polls => exact ⟨quiet, calm.polls polls, rfl⟩
    | pollTake polls => exact ⟨quiet.modify fun _ => rfl, calm.polls polls, rfl⟩
    | pollEmpty polls => exact ⟨quiet, calm.polls polls, rfl⟩
    | pollLost polls => exact ⟨quiet, calm.polls polls, rfl⟩
    | ignoreStep => exact ⟨quiet, trivial, rfl⟩
    | ignoreRun => exact ⟨quiet, trivial, rfl⟩
    | finish at_ =>
      rw [at_] at calm
      rw [Call.effect_of_not_mutates calm]
      exact ⟨quiet, trivial, rfl⟩
    | finishClose => exact ⟨quiet, trivial, rfl⟩
    | look => exact ⟨quiet, trivial, rfl⟩
    | lookAway => exact ⟨quiet, trivial, rfl⟩
    -- These belong to `step` and to `run`.
    | allowStep at_ | allowRun at_ | start at_ | replace at_ | replaced at_ =>
      rw [at_] at calm
      cases calm

/-- When no worker is there, all is still until a call is made that may change the processor. -/
lemma Moves.still (run : Moves s tr s') (quiet : s.Quiet) (calm : s.busy.Calm)
    (asked : ∀ c, .called c ∈ tr → c.mutates = false) :
    s'.Quiet ∧ s'.busy.Calm ∧ s'.machine.cpu = s.machine.cpu := by
  induction run with
  | refl => exact ⟨quiet, calm, rfl⟩
  | tail _ mv ih =>
    obtain ⟨quiet', calm', same⟩ := ih fun c mem => asked c (List.mem_append_left _ mem)
    obtain ⟨quiet'', calm'', same'⟩ := mv.still quiet' calm' fun c mem =>
      asked c (List.mem_append_right _ mem)
    exact ⟨quiet'', calm'', same'.trans same⟩

/-- A session is disciplined, whatever is asked of it and however its workers go on meanwhile. -/
theorem Moves.disciplined (run : Moves (.new config threshold) tr s) : Disciplined config tr s := by
  have inv := run.inv
  obtain ⟨program, settings⟩ := run.program
  refine ⟨?single, inv.running_iff, ?changes, ?starts, ?ignored, ?still, ?leaves, inv.crew.once,
    ?account, fun c i report => run.returned, fun c i => run.lost, ?performed⟩
  case single =>
    -- Each of the two belongs to the pending free run.
    intro i j r r' at_ at' here here'
    have mine : s.pending? = some i := by
      by_contra other
      exact here (inv.others i r at_ other)
    have mine' : s.pending? = some j := by
      by_contra other
      exact here' (inv.others j r' at' other)
    exact Option.some.inj (mine.symm.trans mine')
  case changes =>
    intro q s' mv changed
    obtain ⟨same, -⟩ | ⟨c, answer?, done⟩ := mv.cpu
    · exact absurd same changed
    · refine inv.quiet_of_ready done.ready ?_
      rintro rfl
      rw [done.machine] at changed
      exact changed rfl
  case starts =>
    intro q s' mv changed
    exact (mv.workers inv).resolve_left changed
  case ignored =>
    intro c q s' at_ last active mv
    exact mv.ignored at_ last active
  case still =>
    intro c answer? q s' mv mem ends
    obtain ⟨answer', done⟩ := mv.ending mem ends
    have quiet := done.quiet inv mem ends
    have calm : s'.busy.Calm := by
      obtain e | e := done.ended <;> rw [e] <;> trivial
    refine ⟨quiet, fun tr' s'' run' asked => ?_⟩
    obtain ⟨quiet', -, same⟩ := run'.still quiet calm asked
    exact ⟨quiet', same⟩
  case leaves =>
    intro c answer? q s' mv mem
    cases ends : c.ends with
    | true =>
      obtain ⟨answer', done⟩ := mv.ending mem (.inl ends)
      rw [done.machine, ← settings, ← program]
      exact c.leaves_effect s.machine
    | false => exact Call.leaves_of_not_ends ends
  case account =>
    have numbered := inv.crew.numbered
    rw [numbered]
    exact ⟨inv.account, List.nodup_range⟩
  case performed =>
    intro idle c returns
    obtain ⟨tr', s', answer?, moves, session, answer, -⟩ := run.perform idle c returns
    exact ⟨tr', s', answer?, moves, session, answer⟩

/-- The processor is reset while the worker has taken a step that it has not counted yet. -/
theorem disciplined_of_reset :
    ∃ tr s q s', Moves (.new .standard none) tr s ∧ s.machine.cpu.pc = 4 ∧
      CallMove s q s' ∧ .lost .reset 0 ∈ q ∧ s'.machine.cpu.pc = 0 ∧
      Disciplined .standard tr s := by
  have run := Moves.one (.call (.call (s := .new .standard none)
    (.load (.ofList [⟨[], .imm .addi 0 0 1⟩, ⟨[], .jump 0⟩])) rfl))
  have run := run.call (.takeNone rfl rfl)
  have run := run.call (.finish rfl nofun nofun)
  have run := run.call (.call .run rfl)
  have run := run.call (.allowRun rfl rfl)
  have run := run.call (.pollNone rfl rfl)
  have run := run.call (.start rfl rfl)
  have run := run.tail (.work (i := 0) rfl nofun nofun)
  have run := run.tail (.work (i := 0) rfl nofun nofun)
  have run := run.call (.call .reset rfl)
  have run := run.call (.takeToStop rfl rfl rfl)
  have run := run.tail (.work (i := 0) rfl nofun nofun)
  have run := run.tail (.work (i := 0) rfl nofun nofun)
  have run := run.tail (.work (i := 0) rfl nofun nofun)
  have run := run.tail (.work (i := 0) rfl nofun nofun)
  have run := run.call (.receive rfl rfl rfl)
  have run := run.tail (.work (i := 0) rfl nofun nofun)
  have run := run.call (.join rfl rfl rfl)
  exact ⟨_, _, _, _, run, rfl, .finish rfl nofun nofun, .head _, rfl, run.disciplined⟩

end PocketMips
