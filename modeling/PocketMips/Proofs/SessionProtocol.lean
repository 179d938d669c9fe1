import Mathlib.Tactic.Lemma
import PocketMips.Proofs.Interleaving
import PocketMips.Session

/-!
# Sessions, action by action

A call on a session is more than one action, and between two of its actions the workers act. It looks
whether a free run is going on, or takes the free run away from the session, asks its worker to stop,
waits for the report and then for the worker; and only after that it does its own work. All workers
that were ever started are kept, whether the session still knows them or not, and the history says
what was asked, what was reported and what became of each report.
-/

namespace PocketMips

/-- What can be asked of a session. -/
inductive Call where
  | load (program : Program)
  | loadFile (path : String) (file : SourceFile)
  | reset
  | stop
  | wait
  | poll
  | run
  | step
  /-- Reads something off the processor. -/
  | look
  /-- Gives the session up. -/
  | close

namespace Call

/-- Does the call ask the worker to stop? -/
def stops : Call → Bool
  | .load _ | .loadFile _ _ | .reset | .stop | .close => true
  | .wait | .poll | .run | .step | .look => false

/-- Does the call wait for the worker, whatever it is doing? -/
def ends : Call → Bool
  | .load _ | .loadFile _ _ | .reset | .stop | .close | .wait => true
  | .poll | .run | .step | .look => false

/-- Does the call return the report that it collects? -/
def answers : Call → Bool
  | .stop | .wait | .poll => true
  | .load _ | .loadFile _ _ | .reset | .run | .step | .look | .close => false

/-- Does the call lose the report that it collects? -/
def loses : Call → Bool
  | .load _ | .loadFile _ _ | .reset | .run | .close => true
  | .stop | .wait | .poll | .step | .look => false

/-- Can the call change the processor, or set a worker on it? -/
def mutates : Call → Bool
  | .load _ | .loadFile _ _ | .reset | .run | .step => true
  | .stop | .wait | .poll | .look | .close => false

/-- The program that the call loads. -/
def program? : Call → Option Program
  | .load program => some program
  | .loadFile _ (.ok source) => some (Assembly.ofSource source).program
  | .loadFile _ (.error _) => some .empty
  | .reset | .stop | .wait | .poll | .run | .step | .look | .close => none

/-- What the call does to the machine when it has seen to the free run. -/
def effect (m : Machine) : Call → Machine
  | .load program => m.load program
  | .loadFile path (.ok source) =>
    let (m, a) := (m.note (.assembling path)).assemble source
    m.load a.program
  | .loadFile path (.error why) => ((m.note (.unreadable path why.message)).load .empty).step
  | .reset => m.reset
  | .step => m.step
  | .stop | .wait | .poll | .run | .look | .close => m

end Call

/-- What the controller is about. The runs are numbered in the order in which they were started. -/
inductive Busy where
  /-- Nothing. -/
  | idle
  /-- A call has begun. -/
  | called (c : Call)
  /-- `run` has seen that no free run is going on. -/
  | polling
  /-- A call has taken the free run away from the session, and waits for its report. -/
  | receiving (c : Call) (i : Nat)
  /-- A call has the report, and waits for the worker to leave. -/
  | joining (c : Call) (i : Nat) (r : Report)
  /-- A call has seen to the free run, and has collected this report. -/
  | ready (c : Call) (answer? : Option (Nat × Report))
  /-- `run` has started a free run in the place of another, whose worker it waits for. -/
  | replacing (i : Nat)
  /-- Somebody looks at the processor, and holds it. -/
  | looking
  /-- The session was given up. -/
  | closed

namespace Busy

/-- The call that takes the free run away from the session, without asking first whether it goes on. -/
def takes? : Busy → Option Call
  | .called c => if c.ends then some c else none
  | _ => none

/-- The call that looks for a report. -/
def polls? : Busy → Option Call
  | .called .poll => some .poll
  | .polling => some .run
  | _ => none

/-- The free run that was taken away from the session by a call which has not returned yet. -/
def taken? : Busy → Option Nat
  | .receiving _ i | .joining _ i _ => some i
  | .ready _ answer? => answer?.map Prod.fst
  | .idle | .called _ | .polling | .replacing _ | .looking | .closed => none

end Busy

/-- The free run with its mailbox emptied. -/
def FreeRun.emptied (r : FreeRun) : FreeRun :=
  { r with mailbox := none }

/-- A session with all workers that it has ever started. -/
structure Scene where
  machine : Machine
  workers : List FreeRun
  /-- The free run that the session has. -/
  held? : Option Nat
  busy : Busy

namespace Scene

/-- A session without a program. -/
def new (config : Config) (threshold : Option Level) : Scene :=
  ⟨.new config threshold, [], none, .idle⟩

/-- What the session itself is. -/
def session (s : Scene) : Session :=
  ⟨s.machine, s.held?.bind fun i => s.workers[i]?⟩

/-- All workers have left. -/
def Quiet (s : Scene) : Prop :=
  ∀ r ∈ s.workers, r.phase = .gone

/-- The free run whose report has neither been returned nor lost. -/
def pending? (s : Scene) : Option Nat :=
  s.held?.or s.busy.taken?

/-- The scene with another state of a free run. -/
def modify (s : Scene) (i : Nat) (f : FreeRun → FreeRun) : Scene :=
  { s with workers := s.workers.modify i f }

/-- The scene after a worker was asked to stop. -/
def ask (s : Scene) (i : Nat) : Scene :=
  s.modify i FreeRun.requestStop

/-- The scene after a call has taken a report out of the mailbox. -/
def take (s : Scene) (c : Call) (i : Nat) (report : Report) : Scene :=
  { s.modify i FreeRun.emptied with held? := none, busy := .joining c i report }

/-- The scene with another machine and another state of a free run. -/
def withRun (s : Scene) (i : Nat) (x : Machine × FreeRun) : Scene :=
  { s.modify i fun _ => x.2 with machine := x.1 }

/-- The scene after the next action of a worker. -/
def work (s : Scene) (i : Nat) (r : FreeRun) : Scene :=
  s.withRun i (FreeRun.act s.machine r)

/-- The scene after a new free run was started. -/
def hire (s : Scene) : Scene :=
  { s with
    machine := s.machine.note .freeRunStarted
    workers := s.workers ++ [.start]
    held? := some s.workers.length }

end Scene

/-- What stands in the history of a session. -/
inductive Entry where
  | called (c : Call)
  | started (i : Nat)
  /-- The worker has sent its report. -/
  | sent (i : Nat) (r : Report)
  /-- A call has returned, with the report of a free run or without. -/
  | returned (c : Call) (answer? : Option (Nat × Report))
  /-- A call that returns no reports has collected one. -/
  | lost (c : Call) (i : Nat)

namespace Call

/-- The report that is lost, if a call that does not return it has collected one. -/
def losses (c : Call) (answer? : Option (Nat × Report)) : List Entry :=
  if c.answers then [] else answer?.toList.map fun (i, _) => .lost c i

/-- The end of a call that has collected a report. -/
def outcome (c : Call) (answer? : Option (Nat × Report)) : List Entry :=
  c.losses answer? ++ [.returned c (if c.answers then answer? else none)]

end Call

namespace Phase

/-- What the next action of a worker leaves in the history. -/
def entries (i : Nat) : Phase → List Entry
  | .send r => [.sent i r]
  | .checkStop | .step | .count | .inspect | .leave | .gone => []

/-- Does the worker take the processor next? -/
def locks : Phase → Bool
  | .step | .inspect => true
  | .checkStop | .count | .send _ | .leave | .gone => false

end Phase

/-- An atomic action of the controller. -/
inductive CallMove : Scene → List Entry → Scene → Prop where
  | call {s} (c : Call) :
    s.busy = .idle →
    CallMove s [.called c] { s with busy := .called c }
  -- A call that ends the free run takes it, if there is one, and asks its worker to stop or not.
  | takeNone {s c} :
    s.busy.takes? = some c →
    s.held? = none →
    CallMove s [] { s with busy := .ready c none }
  | takeToStop {s c i} :
    s.busy.takes? = some c →
    c.stops = true →
    s.held? = some i →
    CallMove s [] { s.ask i with held? := none, busy := .receiving c i }
  | takeToWait {s c i} :
    s.busy.takes? = some c →
    c.stops = false →
    s.held? = some i →
    CallMove s [] { s with held? := none, busy := .receiving c i }
  -- It receives the report, or finds out that the worker is gone and none will come.
  | receive {s c i r report} :
    s.busy = .receiving c i →
    s.workers[i]? = some r →
    r.mailbox = some report →
    CallMove s [] (s.take c i report)
  | receiveLost {s c i r} :
    s.busy = .receiving c i →
    s.workers[i]? = some r →
    r.mailbox = none →
    r.phase = .gone →
    CallMove s [] { s with busy := .joining c i .missing }
  -- It waits for the worker to leave, and drops the free run.
  | join {s c i r report} :
    s.busy = .joining c i report →
    s.workers[i]? = some r →
    r.phase = .gone →
    CallMove s [] { s.ask i with busy := .ready c (some (i, report)) }
  -- A call that polls takes the free run if the report is there, and waits if none will come.
  | pollNone {s c} :
    s.busy.polls? = some c →
    s.held? = none →
    CallMove s [] { s with busy := .ready c none }
  | pollTake {s c i r report} :
    s.busy.polls? = some c →
    s.held? = some i →
    s.workers[i]? = some r →
    r.mailbox = some report →
    CallMove s [] (s.take c i report)
  | pollEmpty {s c i r} :
    s.busy.polls? = some c →
    s.held? = some i →
    s.workers[i]? = some r →
    r.mailbox = none →
    r.phase ≠ .gone →
    CallMove s [] { s with busy := .ready c none }
  | pollLost {s c i r} :
    s.busy.polls? = some c →
    s.held? = some i →
    s.workers[i]? = some r →
    r.mailbox = none →
    r.phase = .gone →
    CallMove s [] { s with held? := none, busy := .receiving c i }
  -- `step` and `run` look first whether a free run is going on.
  | ignoreStep {s} :
    s.busy = .called .step →
    s.session.isRunning = true →
    CallMove s [.returned .step none] { s with machine := s.machine.note .stepIgnored, busy := .idle }
  | ignoreRun {s} :
    s.busy = .called .run →
    s.session.isRunning = true →
    CallMove s [.returned .run none] { s with busy := .idle }
  | allowStep {s} :
    s.busy = .called .step →
    s.session.isRunning = false →
    CallMove s [] { s with busy := .ready .step none }
  | allowRun {s} :
    s.busy = .called .run →
    s.session.isRunning = false →
    CallMove s [] { s with busy := .polling }
  -- A call does its own work and returns.
  | finish {s c answer?} :
    s.busy = .ready c answer? →
    c ≠ .run →
    c ≠ .close →
    CallMove s (c.outcome answer?) { s with machine := c.effect s.machine, busy := .idle }
  | finishClose {s answer?} :
    s.busy = .ready .close answer? →
    CallMove s (Call.close.outcome answer?) { s with busy := .closed }
  | start {s answer?} :
    s.busy = .ready .run answer? →
    s.held? = none →
    CallMove s (Call.run.losses answer? ++ [.started s.workers.length, .returned .run none])
      { s.hire with busy := .idle }
  -- A free run that gives way to another is dropped.
  | replace {s answer? i} :
    s.busy = .ready .run answer? →
    s.held? = some i →
    CallMove s (Call.run.losses answer? ++ [.started s.workers.length])
      { s.hire.ask i with busy := .replacing i }
  | replaced {s i r} :
    s.busy = .replacing i →
    s.workers[i]? = some r →
    r.phase = .gone →
    CallMove s [.lost .run i, .returned .run none] { s with busy := .idle }
  | look {s} :
    s.busy = .called .look →
    CallMove s [] { s with busy := .looking }
  | lookAway {s} :
    s.busy = .looking →
    CallMove s [.returned .look none] { s with busy := .idle }

/-- An atomic action of a worker or of the controller, and what it leaves in the history. -/
inductive Move : Scene → List Entry → Scene → Prop where
  /-- A worker that needs the processor waits while somebody else holds it. -/
  | work {s i r} :
    s.workers[i]? = some r →
    r.phase ≠ .gone →
    (r.phase.locks = true → s.busy ≠ .looking) →
    Move s (r.phase.entries i) (s.work i r)
  | call {s q s'} :
    CallMove s q s' →
    Move s q s'

/-- Actions in any order, and their history. -/
inductive Moves : Scene → List Entry → Scene → Prop where
  | refl {s} : Moves s [] s
  | tail {s₀ s s' tr q} :
    Moves s₀ tr s →
    Move s q s' →
    Moves s₀ (tr ++ q) s'

namespace Moves
variable {s s' s'' : Scene} {tr tr' q : List Entry}

/-- One action alone. -/
lemma one (mv : Move s q s') : Moves s q s' :=
  .tail .refl mv

/-- Actions after other actions. -/
lemma append (h : Moves s tr s') (h' : Moves s' tr' s'') : Moves s (tr ++ tr') s'' := by
  induction h' with
  | refl => simpa using h
  | tail _ mv ih =>
    rw [← List.append_assoc]
    exact .tail ih mv

/-- One more action of the controller. -/
lemma call (h : Moves s tr s') (mv : CallMove s' q s'') : Moves s (tr ++ q) s'' :=
  h.tail (.call mv)

/-- What stands in the history was left there by an action. -/
lemma origin {e : Entry} (h : Moves s tr s') (mem : e ∈ tr) :
    ∃ tr₁ s₁ q s₂, Moves s tr₁ s₁ ∧ Move s₁ q s₂ ∧ e ∈ q ∧ (tr₁ ++ q).Sublist tr := by
  induction h with
  | refl => cases mem
  | tail run mv ih =>
    obtain earlier | now := List.mem_append.mp mem
    · obtain ⟨tr₁, s₁, q, s₂, run₁, mv₁, left, order⟩ := ih earlier
      exact ⟨tr₁, s₁, q, s₂, run₁, mv₁, left, order.trans (List.sublist_append_left ..)⟩
    · exact ⟨_, _, _, _, run, mv, now, .refl _⟩

end Moves

/-! ### Histories -/

/-- A worker leaves an entry only when it sends its report. -/
lemma Phase.mem_entries {φ : Phase} {i : Nat} {e : Entry} :
    e ∈ φ.entries i ↔ ∃ r, φ = .send r ∧ e = .sent i r := by
  cases φ <;> simp [entries]

/-- The free run that was started. -/
def Entry.started? : Entry → Option Nat
  | .started i => some i
  | .called _ | .sent _ _ | .returned _ _ | .lost _ _ => none

/-- The free run whose report was sent. -/
def Entry.sender? : Entry → Option Nat
  | .sent i _ => some i
  | .called _ | .started _ | .returned _ _ | .lost _ _ => none

/-- The free run whose report was returned or lost. -/
def Entry.settled? : Entry → Option Nat
  | .returned _ answer? => answer?.map Prod.fst
  | .lost _ i => some i
  | .called _ | .started _ | .sent _ _ => none

/-- The program that was loaded. -/
def Entry.program? : Entry → Option Program
  | .returned c _ => c.program?
  | .called _ | .started _ | .sent _ _ | .lost _ _ => none

section Histories
variable (tr q : List Entry)

/-- The free runs that were started, in this order. -/
def started : List Nat :=
  tr.filterMap Entry.started?

/-- The free runs whose workers have sent a report, once for each report. -/
def senders : List Nat :=
  tr.filterMap Entry.sender?

/-- The free runs whose reports were returned or lost, once for each time. -/
def settled : List Nat :=
  tr.filterMap Entry.settled?

/-- The program that was loaded last. -/
def loaded : Program :=
  (tr.filterMap Entry.program?).getLast?.getD .empty

/-- The starts of two histories, one after the other. -/
@[simp] theorem started_append : started (tr ++ q) = started tr ++ started q :=
  List.filterMap_append

/-- The reports sent in two histories, one after the other. -/
@[simp] theorem senders_append : senders (tr ++ q) = senders tr ++ senders q :=
  List.filterMap_append

/-- The reports settled in two histories, one after the other. -/
@[simp] theorem settled_append : settled (tr ++ q) = settled tr ++ settled q :=
  List.filterMap_append

/-- The program loaded last is one of the later history, if it has any. -/
theorem loaded_append :
    loaded (tr ++ q) = (q.filterMap Entry.program?).getLast?.getD (loaded tr) := by
  unfold loaded
  rw [List.filterMap_append, List.getLast?_append]
  cases (q.filterMap Entry.program?).getLast? <;> rfl

end Histories

end PocketMips
