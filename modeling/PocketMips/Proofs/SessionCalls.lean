import PocketMips.Proofs.SessionInvariant
import PocketMips.Proofs.Workers

/-!
# Calls on a session

What is run when a session is called goes through actions of its protocol and comes back to where the
next call can be made. So does a session that is called again and again while its worker acts in
between, and the discipline of sessions is that of what is run.

Stopping a free run always comes to an end, since a worker that was asked to stop leaves after a few
actions.
-/

namespace PocketMips

variable {config : Config} {threshold : Option Level} {s s' : Scene} {tr : List Entry}
  {m m' : Machine} {r : FreeRun} {i : Nat} {c : Call} {report : Report}

/-! ### Calls that are run -/

namespace Session

/-- The session after a call, and the report that the call returns. -/
def perform (s : Session) : Call → Session × Option Report
  | .load program => (s.load program, none)
  | .loadFile path file => ((s.loadFile path file).1, none)
  | .reset => (s.reset, none)
  | .stop => s.stop
  | .wait => s.wait
  | .poll => s.poll
  | .run => (s.run, none)
  | .step => (s.step, none)
  | .look => (s, none)
  | .close => (s.stop.1, none)

/-- The sessions that calls and actions of the worker lead to. A call to wait counts if it returns. -/
inductive Reached (config : Config) (threshold : Option Level) : Session → Prop where
  | new : Reached config threshold (.new config threshold)
  | call {s : Session} (c : Call) :
    Reached config threshold s →
    c ≠ .close →
    (c = .wait → s.wait.1.freeRun? = none) →
    Reached config threshold (s.perform c).1
  | work {s : Session} :
    Reached config threshold s →
    Reached config threshold s.workerActs

end Session

/-- How the call brings a free run to its end. -/
def Call.attempt (c : Call) : Machine → FreeRun → Machine × Except FreeRun Report :=
  if c.stops then FreeRun.stop else FreeRun.wait

/-- The call that ends a free run without a request to stop is the one to wait. -/
lemma Call.eq_wait (ends : c.ends = true) (patient : c.stops = false) : c = .wait := by
  cases c with
  | wait => rfl
  | poll | run | step | look => cases ends
  | _ => cases patient

/-- A call that ends the free run does its own work after that. -/
lemma Session.perform_of_ends (s : Session) (ends : c.ends = true) :
    s.perform c =
      ({ (s.take c.attempt).1 with machine := c.effect (s.take c.attempt).1.machine },
        if c.answers then (s.take c.attempt).2 else none) := by
  cases c with
  | loadFile path file => cases file <;> rfl
  | poll | run | step | look => cases ends
  | _ => rfl

/-! ### Actions one after another -/

namespace Scene

/-- The free run is the one that was put there. -/
@[simp] theorem workers_withRun (s : Scene) (there : s.workers[i]? = some r) (x : Machine × FreeRun) :
    (s.withRun i x).workers[i]? = some x.2 := by
  simp [withRun, modify, there]

/-- Of two free runs that are put in one place, the last one stays. -/
@[simp] theorem withRun_withRun (s : Scene) (x y : Machine × FreeRun) :
    (s.withRun i x).withRun i y = s.withRun i y := by
  simp [withRun, modify, List.modify_modify_eq, Function.comp_def]

/-- The session has the free run that was put in place of its own. -/
lemma session_withRun (held : s.held? = some i) (there : s.workers[i]? = some r)
    (x : Machine × FreeRun) : (s.withRun i x).session = ⟨x.1, some x.2⟩ := by
  have there' := s.workers_withRun there x
  have held' : (s.withRun i x).held? = some i := held
  show (⟨x.1, (s.withRun i x).held?.bind _⟩ : Session) = _
  rw [held', Option.bind_some, there']

/-- To put a free run where it is changes nothing. -/
lemma withRun_self (there : s.workers[i]? = some r) : s.withRun i (s.machine, r) = s := by
  have same : s.workers.modify i (fun _ => r) = s.workers := by
    apply List.ext_getElem?
    intro j
    by_cases e : i = j
    · subst e
      simp [there]
    · simp [e]
  simp only [withRun, modify, same]

end Scene

namespace Moves

/-- A worker may act until it has left, while nobody looks at the processor. -/
lemma settle (there : s.workers[i]? = some r) (free : s.busy ≠ .looking) :
    ∃ tr', Moves s tr' (s.withRun i (FreeRun.settle s.machine r)) := by
  have leads : ∃ tr', Moves (s.withRun i (s.machine, r)) tr'
      (s.withRun i (FreeRun.settle s.machine r)) := by
    refine repeatFrom_leads (R := fun x y => ∃ tr', Moves (s.withRun i x) tr' (s.withRun i y))
      ?refl ?head FreeRun.patience (s.machine, r) 0
    case refl => exact fun x => ⟨[], .refl⟩
    case head =>
      rintro x y here ⟨tr', rest⟩
      have gone : x.2.phase ≠ .gone := by simpa [FreeRun.isFinished] using here
      have first := Moves.one (.work (s.workers_withRun there x) gone fun _ => free)
      rw [Scene.work, Scene.withRun_withRun] at first
      exact ⟨_, first.append rest⟩
  rwa [Scene.withRun_self there] at leads

/-- A call that has the report does its own work when the worker has left. -/
lemma joined (at_ : s.busy = .joining c i report) (there : s.workers[i]? = some r)
    (sent : r.phase.hasSent = true) :
    ∃ tr' s', Moves s tr' s' ∧ s'.machine = (FreeRun.settle s.machine r).1 ∧ s'.held? = s.held? ∧
      s'.busy = .ready c (some (i, report)) := by
  obtain ⟨tr', settled⟩ := Moves.settle there (by rw [at_]; nofun)
  have there' := s.workers_withRun there (FreeRun.settle s.machine r)
  have gone : (FreeRun.settle s.machine r).2.phase = .gone := by
    rw [FreeRun.settle_of_hasSent sent]
  exact ⟨_, _, settled.call (.join at_ there' gone), rfl, rfl, rfl⟩

end Moves

/-- A report is in the mailbox only if the worker has sent it. -/
lemma SessionInv.hasSent_of_mail (h : SessionInv tr s) (there : s.workers[i]? = some r)
    (mail : r.mailbox = some report) : r.phase.hasSent = true := by
  have sent : i ∈ senders tr := by
    have order := h.crew.mail i r report there mail
    exact List.mem_filterMap.mpr ⟨.sent i report, order.subset (.tail _ (.head _)), rfl⟩
  obtain ⟨r', there', sent'⟩ := (h.crew.sent i).mp sent
  rw [there, Option.some.injEq] at there'
  exact there' ▸ sent'

/-- A report that is in the mailbox is collected. -/
lemma FreeRun.collect_of_mail (mail : r.mailbox = some report) (m : Machine) :
    collect m r = ((settle m r.emptied).1, .ok report) := by
  unfold collect
  rw [mail]
  rfl

namespace Moves

/-- A call that waits for the report gets what waiting for the free run returns. -/
lemma received (run : Moves (.new config threshold) tr s) (at_ : s.busy = .receiving c i)
    (there : s.workers[i]? = some r) (waited : FreeRun.wait s.machine r = (m', .ok report)) :
    ∃ tr' s', Moves s tr' s' ∧ s'.machine = m' ∧ s'.held? = none ∧
      s'.busy = .ready c (some (i, report)) := by
  obtain ⟨mail, rfl⟩ := FreeRun.collect_eq_ok waited
  obtain ⟨tr₁, settled⟩ := Moves.settle there (by rw [at_]; nofun)
  have there₁ := s.workers_withRun there (FreeRun.settle s.machine r)
  have sent := (run.append settled).inv.hasSent_of_mail there₁ mail
  have taken := settled.call (.receive at_ there₁ mail)
  have there₂ : ((s.withRun i (FreeRun.settle s.machine r)).take c i report).workers[i]? =
      some (FreeRun.settle s.machine r).2.emptied := by
    simp [Scene.take, Scene.modify, there₁]
  obtain ⟨tr₂, s', joined, machine, held, ready⟩ := joined rfl there₂ sent
  exact ⟨_, s', taken.append joined, machine, held, ready⟩

/-- To wait for a worker that was asked to stop comes to an end. -/
lemma wait_ok (run : Moves (.new config threshold) tr s) (at_ : s.busy = .receiving c i)
    (there : s.workers[i]? = some r) (asked : r.stopRequested = true) :
    ∃ m' report, FreeRun.wait s.machine r = (m', .ok report) := by
  obtain ⟨tr', settled⟩ := Moves.settle there (by rw [at_]; nofun)
  have there' := s.workers_withRun there (FreeRun.settle s.machine r)
  have gone := FreeRun.gone_of_asked asked s.machine
  -- The worker has left, so its report is in the mailbox.
  have mail := (run.append settled).inv.mailed there' (.inr ⟨c, at_⟩) gone
  obtain ⟨report, full⟩ := Option.ne_none_iff_exists'.mp mail
  exact ⟨_, report, FreeRun.collect_of_mail full _⟩

/-- A call that ends the free run has ended it as it is run, if that comes to an end. -/
lemma ended (run : Moves (.new config threshold) tr s) (idle : s.busy = .idle)
    (ends : c.ends = true) (returns : c = .wait → s.session.wait.1.freeRun? = none) :
    ∃ tr' s' answer?, Moves s tr' s' ∧ s'.busy = .ready c answer? ∧
      s'.session = (s.session.take c.attempt).1 ∧
      answer?.map Prod.snd = (s.session.take c.attempt).2 := by
  have called := Moves.one (.call (.call c idle))
  have takes : (Busy.called c).takes? = some c := by simp [Busy.takes?, ends]
  cases held : s.held? with
  | none =>
    have taken := called.call (.takeNone takes held)
    refine ⟨_, _, none, taken, rfl, ?_, ?_⟩ <;> simp [Session.take, Scene.session, held]
  | some i =>
    have lt := run.inv.pending_lt (i := i) (by simp [Scene.pending?, held])
    have there := List.getElem?_eq_getElem lt
    generalize s.workers[i] = r at there
    have known : s.session = ⟨s.machine, some r⟩ := by simp [Scene.session, held, there]
    -- With or without a request to stop, the report is waited for in the same way from then on.
    suffices ∃ tr₁ s₁ r' m' report, Moves s tr₁ s₁ ∧ s₁.busy = .receiving c i ∧
        s₁.machine = s.machine ∧ s₁.workers[i]? = some r' ∧
        FreeRun.wait s.machine r' = (m', .ok report) ∧
        c.attempt s.machine r = (m', .ok report) by
      obtain ⟨tr₁, s₁, r', m', report, taken, at_, same, there', waited, attempt⟩ := this
      rw [← same] at waited
      obtain ⟨tr₂, s', received, machine, free, ready⟩ := received (run.append taken) at_ there' waited
      have taken' : s.session.take c.attempt = (⟨m', none⟩, some report) := by
        rw [known]
        simp [Session.take, attempt]
      rw [taken']
      refine ⟨_, s', some (i, report), taken.append received, ready, ?_, rfl⟩
      simp [Scene.session, machine, free]
    cases stops : c.stops with
    | true =>
      have taken := called.call (.takeToStop takes stops held)
      have there' : (s.ask i).workers[i]? = some r.requestStop := by
        simp [Scene.ask, Scene.modify, there]
      obtain ⟨m', report, waited⟩ := wait_ok (run.append taken) rfl there' rfl
      refine ⟨_, _, _, m', report, taken, rfl, rfl, there', waited, ?_⟩
      rw [Call.attempt, if_pos stops]
      exact waited
    | false =>
      have taken := called.call (.takeToWait takes stops held)
      obtain rfl := Call.eq_wait ends stops
      cases waited : FreeRun.wait s.machine r with
      | mk m' result =>
        cases result with
        | ok report => exact ⟨_, _, r, m', report, taken, rfl, rfl, there, waited, waited⟩
        | error r' =>
          have returns' := returns rfl
          simp [known, Session.wait, Session.take, waited] at returns'

/-- A call that looks for a report finds what it finds as it is run. -/
lemma polled (run : Moves (.new config threshold) tr s) (polls : s.busy.polls? = some c) :
    ∃ tr' s' answer?, Moves s tr' s' ∧ s'.busy = .ready c answer? ∧
      s'.session = s.session.poll.1 ∧ answer?.map Prod.snd = s.session.poll.2 := by
  cases held : s.held? with
  | none =>
    have none := Moves.one (.call (.pollNone polls held))
    refine ⟨_, _, _, none, rfl, ?_, ?_⟩ <;> simp [Session.poll, Session.take, Scene.session, held]
  | some i =>
    have lt := run.inv.pending_lt (i := i) (by simp [Scene.pending?, held])
    have there := List.getElem?_eq_getElem lt
    generalize s.workers[i] = r at there
    have known : s.session = ⟨s.machine, some r⟩ := by simp [Scene.session, held, there]
    cases mail : r.mailbox with
    | none =>
      have here : r.phase ≠ .gone := fun gone => run.inv.mailed there (.inl held) gone mail
      have empty := Moves.one (.call (.pollEmpty polls held there mail here))
      have poll : s.session.poll = (s.session, none) := by
        simp [known, Session.poll, Session.take, FreeRun.collect, mail]
      rw [poll]
      exact ⟨_, _, none, empty, rfl, rfl, rfl⟩
    | some report =>
      have sent := run.inv.hasSent_of_mail there mail
      have taken := Moves.one (.call (.pollTake polls held there mail))
      have there' : (s.take c i report).workers[i]? = some r.emptied := by
        simp [Scene.take, Scene.modify, there]
      obtain ⟨tr', s', joined, machine, free, ready⟩ := joined rfl there' sent
      have poll : s.session.poll = (⟨(FreeRun.settle s.machine r.emptied).1, none⟩, some report) := by
        simp [known, Session.poll, Session.take, FreeRun.collect_of_mail mail]
      rw [poll]
      refine ⟨_, s', some (i, report), taken.append joined, ready, ?_, rfl⟩
      simp [Scene.session, machine, free, Scene.take]
      rfl

/-- A call other than `run` does its own work as it is run. -/
lemma finished {answer? : Option (Nat × Report)} (at_ : s.busy = .ready c answer?) (other : c ≠ .run) :
    ∃ tr' s', Moves s (tr' ++ [.returned c (if c.answers then answer? else none)]) s' ∧
      s'.session = { s.session with machine := c.effect s.machine } ∧
      (c ≠ .close → s'.busy = .idle) := by
  by_cases last : c = .close
  · subst last
    exact ⟨_, _, .one (.call (.finishClose at_)), rfl, fun e => absurd rfl e⟩
  · exact ⟨_, _, .one (.call (.finish at_ other last)), rfl, fun _ => rfl⟩

/-- A call to run starts a free run as it is run, or does nothing while another one is going on. -/
lemma performed_run (run : Moves (.new config threshold) tr s) (idle : s.busy = .idle) :
    ∃ tr' s', Moves s (tr' ++ [.returned .run none]) s' ∧ s'.session = s.session.run ∧
      s'.busy = .idle := by
  have called := Moves.one (.call (.call .run idle))
  cases active : s.session.isRunning with
  | true =>
    have same : s.session.run = s.session := by rw [Session.run, if_pos active]
    have moves := called.call (.ignoreRun rfl active)
    exact ⟨_, _, moves, same.symm, rfl⟩
  | false =>
    -- The report of a free run that has ended is looked for, and lost, before another one is started.
    have allowed := called.call (.allowRun rfl active)
    obtain ⟨tr₁, s₁, answer?, polled, ready, session, -⟩ := polled (run.append allowed) rfl
    have moves := allowed.append polled
    have free := (run.append moves).inv.free_of_ready ready rfl
    have moves := moves.call (.start ready free)
    have last : Call.run.losses answer? ++ [.started s₁.workers.length, .returned .run none] =
        Call.run.losses answer? ++ [.started s₁.workers.length] ++ [.returned .run none] :=
      (List.append_assoc _ [Entry.started s₁.workers.length] _).symm
    rw [last, ← List.append_assoc] at moves
    refine ⟨_, _, moves, ?_, rfl⟩
    have machine : s₁.machine = s.session.poll.1.machine := congrArg Session.machine session
    rw [Session.run, if_neg (by simp [active])]
    simp [Scene.session, Scene.hire, Session.note, machine]

/-- A call to step does so as it is run, or is ignored while a free run is going on. -/
lemma performed_step (idle : s.busy = .idle) :
    ∃ tr' s', Moves s (tr' ++ [.returned .step none]) s' ∧ s'.session = s.session.step ∧
      s'.busy = .idle := by
  have called := Moves.one (.call (.call .step idle))
  cases active : s.session.isRunning with
  | true =>
    have same : s.session.step = s.session.note .stepIgnored := by
      rw [Session.step, if_pos active]
    have moves := called.call (.ignoreStep rfl active)
    exact ⟨_, _, moves, same.symm, rfl⟩
  | false =>
    have same : s.session.step = { s.session with machine := s.machine.step } := by
      rw [Session.step, if_neg (by simp [active])]
      rfl
    have allowed := called.call (.allowStep rfl active)
    have ready : ({ s with busy := .ready .step none } : Scene).busy = .ready .step none := rfl
    obtain ⟨tr₁, s₁, done, session, idle'⟩ := finished ready nofun
    have moves := allowed.append done
    rw [← List.append_assoc] at moves
    refine ⟨_, s₁, moves, ?_, idle' nofun⟩
    rw [session]
    exact same.symm

/-- A call that ends the free run does its own work after that, as it is run. -/
lemma performed_ending (run : Moves (.new config threshold) tr s) (idle : s.busy = .idle)
    (ends : c.ends = true) (returns : c = .wait → s.session.wait.1.freeRun? = none) :
    ∃ tr' s' answer?, Moves s (tr' ++ [.returned c answer?]) s' ∧
      s'.session = (s.session.perform c).1 ∧ answer?.map Prod.snd = (s.session.perform c).2 ∧
      (c ≠ .close → s'.busy = .idle) := by
  obtain ⟨tr₁, s₁, answer?, ended, ready, session, answer⟩ := run.ended idle ends returns
  have other : c ≠ .run := by
    rintro rfl
    cases ends
  obtain ⟨tr₂, s₂, done, session', idle'⟩ := finished ready other
  have moves := ended.append done
  rw [← List.append_assoc] at moves
  refine ⟨_, s₂, _, moves, ?_, ?_, idle'⟩
  · rw [session', s.session.perform_of_ends ends, ← session]
    rfl
  · rw [s.session.perform_of_ends ends, ← answer]
    split <;> rfl

/-- A call that is run is a call of the protocol, and returns the same report. -/
theorem perform (run : Moves (.new config threshold) tr s) (idle : s.busy = .idle) (c : Call)
    (returns : c = .wait → s.session.wait.1.freeRun? = none) :
    ∃ tr' s' answer?, Moves s (tr' ++ [.returned c answer?]) s' ∧
      s'.session = (s.session.perform c).1 ∧ answer?.map Prod.snd = (s.session.perform c).2 ∧
      (c ≠ .close → s'.busy = .idle) := by
  cases ends : c.ends with
  | true => exact run.performed_ending idle ends returns
  | false =>
    have called := Moves.one (.call (.call c idle))
    cases c with
    | poll =>
      obtain ⟨tr₁, s₁, answer?, polled, ready, session, answer⟩ := polled (run.append called) rfl
      obtain ⟨tr₂, s₂, done, session', idle'⟩ := finished ready nofun
      have moves := (called.append polled).append done
      rw [← List.append_assoc] at moves
      exact ⟨_, s₂, answer?, moves, session'.trans session, answer, idle'⟩
    | run =>
      obtain ⟨tr', s', moves, session, idle'⟩ := run.performed_run idle
      exact ⟨tr', s', none, moves, session, rfl, fun _ => idle'⟩
    | step =>
      obtain ⟨tr', s', moves, session, idle'⟩ := performed_step idle
      exact ⟨tr', s', none, moves, session, rfl, fun _ => idle'⟩
    | look =>
      have moves := (called.call (.look rfl)).call (.lookAway rfl)
      exact ⟨_, _, none, moves, rfl, rfl, fun _ => rfl⟩
    | _ => cases ends

end Moves

/-- An action of the worker that is run is one of the protocol. -/
lemma Moves.workerActs (idle : s.busy = .idle) :
    ∃ tr' s', Moves s tr' s' ∧ s'.busy = .idle ∧ s'.session = s.session.workerActs := by
  cases known : s.session.freeRun? with
  | none => exact ⟨[], s, .refl, idle, by simp [Session.workerActs, known]⟩
  | some r =>
    obtain ⟨i, held, there⟩ := Option.bind_eq_some_iff.mp known
    have acts : s.session.workerActs = (s.withRun i (FreeRun.act s.machine r)).session := by
      rw [Scene.session_withRun held there, Session.workerActs, known]
      rfl
    by_cases gone : r.phase = .gone
    · have still : FreeRun.act s.machine r = (s.machine, r) := by simp [FreeRun.act, gone]
      rw [still, Scene.withRun_self there] at acts
      exact ⟨[], s, .refl, idle, acts.symm⟩
    · have acted := Moves.one (.work there gone fun _ => by simp [idle])
      exact ⟨_, _, acted, idle, acts.symm⟩

/-- What is run to work with a session goes through states of the protocol. -/
theorem Session.Reached.moves {session : Session} (reached : Reached config threshold session) :
    ∃ tr s, Moves (.new config threshold) tr s ∧ s.busy = .idle ∧ s.session = session := by
  induction reached with
  | new => exact ⟨[], _, .refl, rfl, rfl⟩
  | call c _ other returns ih =>
    obtain ⟨tr, s, run, idle, rfl⟩ := ih
    obtain ⟨tr', s', answer?, moves, session, -, idle'⟩ := run.perform idle c returns
    exact ⟨_, s', run.append moves, idle' other, session⟩
  | work _ ih =>
    obtain ⟨tr, s, run, idle, rfl⟩ := ih
    obtain ⟨tr', s', moves, idle', session⟩ := Moves.workerActs idle
    exact ⟨_, s', run.append moves, idle', session⟩

end PocketMips
