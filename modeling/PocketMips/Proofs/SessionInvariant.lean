import Mathlib.Data.List.Nodup
import PocketMips.Proofs.FreeRunSafety
import PocketMips.Proofs.SessionProtocol

/-!
# The invariant of sessions

Whatever is asked of a session and however its workers go on meanwhile, there is one worker at most. The
invariant says which free run it may still belong to: the one that the session has, or the one that a
call has taken away from it. What else holds depends on what the controller is about, and is given for
each case by `Busy.Sound`.
-/

namespace PocketMips
open scoped List

/-- Is this a call that may come upon a report? -/
def Call.Collects (c : Call) : Prop :=
  c.answers = true ∨ c.loses = true

/-- What holds while the controller is about something. -/
def Busy.Sound (tr : List Entry) (s : Scene) : Busy → Prop
  | .idle | .looking => True
  | .called c => ∀ i, s.held? = some i → [.started i, .called c] <+ tr
  | .polling => s.Quiet ∧ ∀ i, s.held? = some i → [.started i, .called .run] <+ tr
  | .receiving c i => s.held? = none ∧ c.Collects ∧ [.started i, .called c] <+ tr
  | .joining c i r =>
    s.held? = none ∧ c.Collects ∧ [.started i, .called c] <+ tr ∧ [.started i, .sent i r] <+ tr
  | .ready c none => (c ≠ .poll → s.Quiet) ∧ (c.loses = true → s.held? = none)
  | .ready c (some (i, r)) =>
    s.held? = none ∧ s.Quiet ∧ c.Collects ∧ [.started i, .called c] <+ tr ∧
      [.started i, .sent i r] <+ tr
  | .replacing _ => False
  | .closed => s.held? = none ∧ s.Quiet

/-- Does somebody still have to take the report of a free run? -/
def Scene.Awaits (s : Scene) (i : Nat) : Prop :=
  s.held? = some i ∨ ∃ c, s.busy = .receiving c i

/-- What the history shows for the workers. -/
structure Crew (tr : List Entry) (workers : List FreeRun) : Prop where
  numbered : started tr = List.range workers.length
  once : (senders tr).Nodup
  sent : ∀ i, i ∈ senders tr ↔ ∃ r, workers[i]? = some r ∧ r.phase.hasSent = true
  mail : ∀ i r report, workers[i]? = some r → r.mailbox = some report →
    [.started i, .sent i report] <+ tr

/-- The invariant of a session. -/
structure SessionInv (tr : List Entry) (s : Scene) : Prop where
  crew : Crew tr s.workers
  /-- A worker that is still there belongs to the pending free run. -/
  others : ∀ i r, s.workers[i]? = some r → s.pending? ≠ some i → r.phase = .gone
  /-- A report that was sent stays in the mailbox until it is taken. -/
  kept : ∀ i r, s.workers[i]? = some r → s.Awaits i → r.phase.hasSent = true → r.mailbox ≠ none
  /-- No report is settled twice, and each but the pending one is settled. -/
  account : settled tr ++ s.pending?.toList = List.range s.workers.length
  sound : s.busy.Sound tr s

variable {config : Config} {threshold : Option Level} {s s' s'' : Scene} {tr tr' q : List Entry}
  {m : Machine} {r : FreeRun} {workers : List FreeRun} {i : Nat} {c : Call}

/-! ### Workers -/

/-- A worker sends its report, or what it does has nothing to do with reports. -/
lemma FreeRun.act_cases (m : Machine) (r : FreeRun) (i : Nat) :
    (∃ report, r.phase = .send report ∧ (act m r).2.phase = .leave ∧
        (act m r).2.mailbox = some report) ∨
      (r.phase.entries i = [] ∧ (act m r).2.phase.hasSent = r.phase.hasSent ∧
        (act m r).2.mailbox = r.mailbox) := by
  unfold act
  cases at_ : r.phase with
  | send report => exact .inl ⟨report, rfl, rfl, rfl⟩
  | checkStop =>
    refine .inr ⟨rfl, ?_, rfl⟩
    by_cases flag : r.stopRequested = true
    · rw [if_pos flag]
      rfl
    · rw [if_neg flag]
      rfl
  | step =>
    cases m.cpu.halt? with
    | none => exact .inr ⟨rfl, rfl, rfl⟩
    | some why => exact .inr ⟨rfl, rfl, rfl⟩
  | count => exact .inr ⟨rfl, rfl, rfl⟩
  | inspect => exact .inr ⟨rfl, rfl, rfl⟩
  | leave => exact .inr ⟨rfl, rfl, rfl⟩
  | gone => exact .inr ⟨rfl, by rw [at_], rfl⟩

/-- What a worker does to the processor is a step or nothing. -/
lemma FreeRun.cpu_act (m : Machine) (r : FreeRun) :
    (act m r).1.cpu = m.cpu ∨ (act m r).1.cpu = m.cpu.step := by
  unfold act
  cases r.phase with
  | step =>
    cases m.cpu.halt? with
    | none => exact .inr rfl
    | some why => exact .inl rfl
  | _ => exact .inl rfl

/-- The workers after one was changed are the others and the changed one. -/
lemma getElem?_modify_eq_some {f : FreeRun → FreeRun} {j : Nat} :
    (workers.modify i f)[j]? = some r ↔
      ∃ r₀, workers[j]? = some r₀ ∧ r = if i = j then f r₀ else r₀ := by
  rw [List.getElem?_modify]
  simp only [Functor.map, Option.map_eq_some_iff, @eq_comm _ r]

/-- The workers after one was hired are those from before and the new one. -/
lemma getElem?_hire_eq_some :
    (workers ++ [.start])[i]? = some r ↔
      workers[i]? = some r ∨ (i = workers.length ∧ r = .start) := by
  rw [List.getElem?_append]
  split
  case isTrue lt =>
    refine ⟨.inl, fun h => h.resolve_right fun e => ?_⟩
    omega
  case isFalse ge =>
    rw [List.getElem?_eq_none (Nat.le_of_not_lt ge), List.getElem?_singleton]
    constructor
    · intro h
      by_cases e : i - workers.length = 0
      · rw [if_pos e, Option.some.injEq] at h
        exact .inr ⟨by omega, h.symm⟩
      · rw [if_neg e] at h
        cases h
    · rintro (h | ⟨rfl, rfl⟩)
      · cases h
      · simp

/-- A free run was started if the history says so. -/
lemma mem_started : i ∈ started tr ↔ .started i ∈ tr := by
  simp only [started, List.mem_filterMap]
  constructor
  · rintro ⟨e, he, same⟩
    cases e <;> simp [Entry.started?] at same
    exact same ▸ he
  · exact fun h => ⟨_, h, rfl⟩

namespace Crew

/-- Entries that are about neither a start nor a report change nothing for the workers. -/
lemma mono (h : Crew tr workers) (noStart : started q = []) (noReport : senders q = []) :
    Crew (tr ++ q) workers where
  numbered := by
    rw [started_append, noStart, List.append_nil]
    exact h.numbered
  once := by
    rw [senders_append, noReport, List.append_nil]
    exact h.once
  sent i := by
    rw [senders_append, noReport, List.append_nil]
    exact h.sent i
  mail i r report at_ mail := (h.mail i r report at_ mail).trans (List.sublist_append_left tr q)

/-- A free run may change, if no report comes of it. -/
lemma modify (h : Crew tr workers) (i : Nat) {f : FreeRun → FreeRun}
    (sent : ∀ r, workers[i]? = some r → (f r).phase.hasSent = r.phase.hasSent)
    (mail : ∀ r report, workers[i]? = some r → (f r).mailbox = some report →
      r.mailbox = some report) :
    Crew tr (workers.modify i f) where
  numbered := by
    rw [List.length_modify]
    exact h.numbered
  once := h.once
  sent j := by
    rw [h.sent j]
    simp only [getElem?_modify_eq_some]
    constructor
    · rintro ⟨r, at_, done⟩
      refine ⟨_, ⟨r, at_, rfl⟩, ?_⟩
      by_cases e : i = j
      · subst e
        rw [if_pos rfl, sent r at_]
        exact done
      · rw [if_neg e]
        exact done
    · rintro ⟨_, ⟨r, at_, rfl⟩, done⟩
      refine ⟨r, at_, ?_⟩
      by_cases e : i = j
      · subst e
        rw [if_pos rfl, sent r at_] at done
        exact done
      · rw [if_neg e] at done
        exact done
  mail j r report at_ full := by
    obtain ⟨r₀, at₀, rfl⟩ := getElem?_modify_eq_some.mp at_
    refine h.mail j r₀ report at₀ ?_
    by_cases e : i = j
    · subst e
      rw [if_pos rfl] at full
      exact mail r₀ report at₀ full
    · rw [if_neg e] at full
      exact full

/-- A worker that is there was started. -/
lemma started_of_at (h : Crew tr workers) (at_ : workers[i]? = some r) : [.started i] <+ tr := by
  obtain ⟨lt, -⟩ := List.getElem?_eq_some_iff.mp at_
  rw [List.singleton_sublist, ← mem_started, h.numbered]
  exact List.mem_range.mpr lt

/-- An action of a worker. -/
lemma act (h : Crew tr workers) (at_ : workers[i]? = some r) (m : Machine) :
    Crew (tr ++ r.phase.entries i) (workers.modify i fun _ => (FreeRun.act m r).2) := by
  have only {r' : FreeRun} (at' : workers[i]? = some r') : r' = r :=
    Option.some.inj (at'.symm.trans at_)
  obtain ⟨report, sends, left, full⟩ | ⟨silent, sent, mail⟩ := FreeRun.act_cases m r i
  -- What a worker has yet to send is not in the trace, so that no worker sends twice; a report is in its
  -- channel only when this has come into the trace.
  · have unsent : i ∉ senders tr := by
      rw [h.sent i]
      rintro ⟨r', at', done⟩
      rw [only at', sends] at done
      cases done
    rw [sends]
    refine ⟨?numbered, ?once, fun j => ?sent, fun j r' report' at' full' => ?mail⟩
    case numbered =>
      rw [started_append, List.length_modify]
      exact (List.append_nil _).trans h.numbered
    case once =>
      rw [senders_append]
      exact List.concat_eq_append ▸ h.once.concat unsent
    case sent =>
      rw [senders_append, List.mem_append, h.sent j]
      simp only [getElem?_modify_eq_some]
      by_cases e : i = j
      · subst e
        refine ⟨fun _ => ⟨_, ⟨r, at_, rfl⟩, ?_⟩, fun _ => .inr (.head _)⟩
        rw [if_pos rfl, left]
        rfl
      · have other : j ∉ senders (Phase.entries i (.send report)) := by
          simpa [Phase.entries, senders, Entry.sender?] using Ne.symm e
        simp [e, other]
    case mail =>
      obtain ⟨r₀, at₀, rfl⟩ := getElem?_modify_eq_some.mp at'
      by_cases e : i = j
      · subst e
        rw [if_pos rfl, full, Option.some.injEq] at full'
        subst full'
        exact (h.started_of_at at_).append (List.Sublist.refl [Entry.sent i report])
      · rw [if_neg e] at full'
        exact (h.mail j r₀ report' at₀ full').trans (List.sublist_append_left ..)
  · rw [silent, List.append_nil]
    refine h.modify i (fun r' at' => ?_) (fun r' report at' full => ?_)
    · rw [only at']
      exact sent
    · rw [only at', ← mail]
      exact full

/-- A worker is started. -/
lemma hire (h : Crew tr workers) : Crew (tr ++ [.started workers.length]) (workers ++ [.start]) where
  numbered := by
    rw [started_append, h.numbered, List.length_append]
    exact List.range_succ.symm
  once := by
    rw [senders_append]
    exact (List.append_nil _).symm ▸ h.once
  sent i := by
    rw [senders_append]
    show i ∈ senders tr ++ [] ↔ _
    rw [List.append_nil, h.sent i]
    simp only [getElem?_hire_eq_some]
    constructor
    · rintro ⟨r, at_, done⟩
      exact ⟨r, .inl at_, done⟩
    · rintro ⟨r, at_ | ⟨-, rfl⟩, done⟩
      · exact ⟨r, at_, done⟩
      · cases done
  mail i r report at_ full := by
    obtain at_ | ⟨-, rfl⟩ := getElem?_hire_eq_some.mp at_
    · exact (h.mail i r report at_ full).trans (List.sublist_append_left ..)
    · cases full

end Crew

/-! ### The invariant -/

/-- What holds, holds as long as only the history goes on. -/
lemma Busy.Sound.mono {φ : Busy} (h : φ.Sound tr s) (held : s'.held? = s.held?)
    (quiet : s.Quiet → s'.Quiet) : φ.Sound (tr ++ q) s' := by
  have more {l : List Entry} (earlier : l <+ tr) : l <+ tr ++ q :=
    earlier.trans (List.sublist_append_left tr q)
  cases φ with
  | idle => trivial
  | looking => trivial
  | called c => exact fun i e => more (h i (held ▸ e))
  | polling => exact ⟨quiet h.1, fun i e => more (h.2 i (held ▸ e))⟩
  | receiving c i => exact ⟨held.trans h.1, h.2.1, more h.2.2⟩
  | joining c i r => exact ⟨held.trans h.1, h.2.1, more h.2.2.1, more h.2.2.2⟩
  | ready c answer? =>
    cases answer? with
    | none => exact ⟨fun e => quiet (h.1 e), fun e => held.trans (h.2 e)⟩
    | some answer =>
      obtain ⟨free, rest, collects, began, sent⟩ := h
      exact ⟨held.trans free, quiet rest, collects, more began, more sent⟩
  | replacing i => exact h
  | closed => exact ⟨held.trans h.1, quiet h.2⟩

/-- Only a call that ends the free run takes it. -/
lemma Busy.takes?_eq_some {φ : Busy} (h : φ.takes? = some c) : φ = .called c ∧ c.ends = true := by
  cases φ with
  | called c' =>
    simp only [takes?, Option.ite_none_right_eq_some, Option.some.injEq] at h
    obtain ⟨ends, rfl⟩ := h
    exact ⟨rfl, ends⟩
  | _ => cases h

/-- A report is looked for by a poll and by the start of another run. -/
lemma Busy.polls?_eq_some {φ : Busy} (h : φ.polls? = some c) :
    (φ = .called .poll ∧ c = .poll) ∨ (φ = .polling ∧ c = .run) := by
  cases φ with
  | called c' =>
    cases c' with
    | poll => exact .inl ⟨rfl, (Option.some.inj h).symm⟩
    | _ => cases h
  | polling => exact .inr ⟨rfl, (Option.some.inj h).symm⟩
  | _ => cases h

/-- A call that ends the free run may come upon its report. -/
lemma Call.collects_of_ends (h : c.ends = true) : c.Collects := by
  cases c with
  | poll => cases h
  | run => cases h
  | step => cases h
  | look => cases h
  | stop => exact .inl rfl
  | wait => exact .inl rfl
  | _ => exact .inr rfl

/-! What a call leaves in the history when it returns. -/

section Outcomes
variable {α : Type} {f : Entry → Option α}

/-- Nothing but losses is found among the losses. -/
lemma Call.filterMap_losses (other : ∀ c i, f (.lost c i) = none) (c : Call)
    (answer? : Option (Nat × Report)) : (c.losses answer?).filterMap f = [] := by
  unfold losses
  cases answer? <;> split <;> simp [other]

/-- Besides losses, the outcome of a call has the return only. -/
lemma Call.filterMap_outcome (other : ∀ c i, f (.lost c i) = none) (c : Call)
    (answer? : Option (Nat × Report)) :
    (c.outcome answer?).filterMap f =
      (f (.returned c (if c.answers then answer? else none))).toList := by
  rw [outcome, List.filterMap_append, filterMap_losses other]
  cases h : f (.returned c (if c.answers then answer? else none)) <;> simp [h]

/-- A report is lost to a call that does not answer with it. -/
lemma settled_losses (c : Call) (answer? : Option (Nat × Report)) :
    settled (c.losses answer?) = if c.answers then [] else (answer?.map Prod.fst).toList := by
  unfold Call.losses
  cases answer? <;> split <;> rfl

/-- The report that a call has collected is settled by it, returned or lost. -/
lemma settled_outcome (c : Call) (answer? : Option (Nat × Report)) :
    settled (c.outcome answer?) = (answer?.map Prod.fst).toList := by
  unfold Call.outcome
  rw [settled_append, settled_losses]
  cases answer? <;> split <;> rfl

end Outcomes

namespace Scene

/-- A scene is quiet if all its workers have left. -/
lemma quiet_iff : s.Quiet ↔ ∀ (i : Nat) (r : FreeRun), s.workers[i]? = some r → r.phase = .gone := by
  constructor
  · exact fun h i r at_ => h r (List.mem_of_getElem? at_)
  · intro h r mem
    obtain ⟨i, at_⟩ := List.mem_iff_getElem?.mp mem
    exact h i r at_

/-- A change to a worker that has left does not bring it back. -/
lemma Quiet.modify (h : s.Quiet) {f : FreeRun → FreeRun} (phase : ∀ r, (f r).phase = r.phase) :
    (s.modify i f).Quiet := by
  rw [quiet_iff] at h ⊢
  intro j r at_
  obtain ⟨r₀, at₀, rfl⟩ := getElem?_modify_eq_some.mp at_
  split
  case isTrue e => rw [phase, h j r₀ at₀]
  case isFalse e => exact h j r₀ at₀

end Scene

namespace SessionInv

/-- A new session has no workers, and nothing has happened. -/
lemma new (config : Config) (threshold : Option Level) :
    SessionInv [] (.new config threshold) where
  crew :=
    { numbered := rfl
      once := .nil
      sent := by simp [Scene.new, senders]
      mail := by simp [Scene.new] }
  others := by simp [Scene.new]
  kept := by simp [Scene.new]
  account := rfl
  sound := trivial

/-- The session has no worker but that of the pending free run. -/
lemma quiet (h : SessionInv tr s)
    (gone : ∀ i r, s.pending? = some i → s.workers[i]? = some r → r.phase = .gone) : s.Quiet := by
  rw [Scene.quiet_iff]
  intro i r at_
  by_cases mine : s.pending? = some i
  · exact gone i r mine at_
  · exact h.others i r at_ mine

/-- Without a pending free run, no worker is there. -/
lemma quiet_of_none (h : SessionInv tr s) (none : s.pending? = none) : s.Quiet :=
  h.quiet fun i r mine => by
    rw [none] at mine
    cases mine

/-- If the session is asked when no call has taken the free run, it knows whether a worker is there. -/
lemma running_iff (h : SessionInv tr s) (free : s.busy.taken? = none) :
    s.session.isRunning = false ↔ s.Quiet := by
  have pending : s.pending? = s.held? := by simp [Scene.pending?, free]
  unfold Session.isRunning Scene.session
  cases held : s.held? with
  | none =>
    have := h.quiet_of_none (pending.trans held)
    simpa using this
  | some i =>
    cases at_ : s.workers[i]? with
    | none =>
      have := h.quiet fun j r mine at' => by
        rw [pending, held, Option.some.injEq] at mine
        rw [← mine, at_] at at'
        cases at'
      simpa [at_] using this
    | some r =>
      simp only [Option.bind_some, at_, Option.any_some, FreeRun.isFinished, Bool.not_eq_false',
        decide_eq_true_eq]
      constructor
      · intro gone
        refine h.quiet fun j r' mine at' => ?_
        rw [pending, held, Option.some.injEq] at mine
        rw [← mine, at_, Option.some.injEq] at at'
        exact at' ▸ gone
      · exact fun quiet => Scene.quiet_iff.mp quiet i r at_

/-- The pending free run is one of those that were started. -/
lemma pending_lt (h : SessionInv tr s) (pending : s.pending? = some i) : i < s.workers.length := by
  rw [← List.mem_range, ← h.account, pending]
  exact List.mem_append_right _ (.head _)

/-- The free run that the session has was started. -/
lemma started_of_held (h : SessionInv tr s) (held : s.held? = some i) : [.started i] <+ tr := by
  have lt := h.pending_lt (i := i) (by simp [Scene.pending?, held])
  exact h.crew.started_of_at (List.getElem?_eq_getElem lt)

/-- A worker that has left has its report in the mailbox, if nobody has taken it. -/
lemma mailed (h : SessionInv tr s) (at_ : s.workers[i]? = some r) (awaits : s.Awaits i)
    (gone : r.phase = .gone) : r.mailbox ≠ none :=
  h.kept i r at_ awaits (by rw [gone]; rfl)

/-! Actions of the controller, and the action of a worker at the end. -/

/-- The controller goes on to something else. If the pending free run changes, no worker is there. -/
lemma turn (h : SessionInv tr s) (same : s'.workers = s.workers)
    (pending : s'.pending? = s.pending? ∨ s.Quiet) (awaits : ∀ i, s'.Awaits i → s.Awaits i)
    (noStart : started q = []) (noReport : senders q = [])
    (account : settled q ++ s'.pending?.toList = s.pending?.toList)
    (sound : s'.busy.Sound (tr ++ q) s') : SessionInv (tr ++ q) s' where
  crew := by
    rw [same]
    exact h.crew.mono noStart noReport
  others i r at_ mine := by
    rw [same] at at_
    obtain unchanged | quiet := pending
    · exact h.others i r at_ (unchanged ▸ mine)
    · exact Scene.quiet_iff.mp quiet i r at_
  kept i r at_ there := by
    rw [same] at at_
    exact h.kept i r at_ (awaits i there)
  account := by
    rw [settled_append, List.append_assoc, account, same]
    exact h.account
  sound := sound

/-- The controller goes on, and the session has or does not have its free run as before. -/
lemma goOn {φ : Busy} (h : SessionInv tr s) (before : s.busy.taken? = none) (after : φ.taken? = none)
    (noStart : started q = []) (noReport : senders q = []) (noEnd : settled q = [])
    (sound : φ.Sound (tr ++ q) { s with machine := m, busy := φ }) :
    SessionInv (tr ++ q) { s with machine := m, busy := φ } := by
  have pending : s.pending? = s.held?.or φ.taken? := by rw [Scene.pending?, before, after]
  refine h.turn rfl (.inl pending.symm) ?_ noStart noReport ?_ sound
  · rintro i (held | ⟨c, waits⟩)
    · exact .inl held
    · subst waits
      cases after
  · rw [noEnd, pending]
    rfl

/-- Asking a worker to stop changes nothing that matters here. -/
lemma ask (h : SessionInv tr s) (i : Nat) : SessionInv tr (s.ask i) where
  crew := h.crew.modify i (fun _ _ => rfl) (fun _ _ _ => id)
  others j r at_ mine := by
    obtain ⟨r₀, at₀, rfl⟩ := getElem?_modify_eq_some.mp at_
    have gone := h.others j r₀ at₀ mine
    split <;> exact gone
  kept j r at_ there := by
    obtain ⟨r₀, at₀, rfl⟩ := getElem?_modify_eq_some.mp at_
    have kept := h.kept j r₀ at₀ there
    split <;> exact kept
  account := by
    show _ = List.range (s.workers.modify i _).length
    rw [List.length_modify]
    exact h.account
  sound := by
    have sound : s.busy.Sound (tr ++ []) (s.ask i) :=
      h.sound.mono rfl fun quiet => quiet.modify fun _ => rfl
    rwa [List.append_nil] at sound

/-- A call takes the report of the pending free run. -/
lemma take {report : Report} (h : SessionInv tr s) (pending : s.pending? = some i)
    (at_ : s.workers[i]? = some r) (mail : r.mailbox = some report) (collects : c.Collects)
    (began : [.started i, .called c] <+ tr) : SessionInv tr (s.take c i report) where
  crew := h.crew.modify i (fun _ _ => rfl) fun _ _ _ none => by cases none
  others j r at' mine := by
    obtain ⟨r₀, at₀, rfl⟩ := getElem?_modify_eq_some.mp at'
    have other : s.pending? ≠ some j := pending ▸ mine
    have gone := h.others j r₀ at₀ other
    split <;> exact gone
  kept j r at' there := by
    obtain held | ⟨c, waits⟩ := there
    · cases held
    · cases waits
  account := by
    show _ ++ [i] = List.range (s.workers.modify i _).length
    rw [List.length_modify, ← h.account, pending]
    rfl
  sound := ⟨rfl, collects, began, h.crew.mail i r report at_ mail⟩

/-- `run` starts a worker when no other is there. -/
lemma hire {answer? : Option (Nat × Report)} (h : SessionInv tr s)
    (at_ : s.busy = .ready .run answer?) (free : s.held? = none) (quiet : s.Quiet) :
    SessionInv (tr ++ (Call.run.losses answer? ++ [.started s.workers.length, .returned .run none]))
      { s.hire with busy := .idle } where
  crew := by
    have crew := (h.crew.mono (Call.filterMap_losses (fun _ _ => rfl) .run answer?)
      (Call.filterMap_losses (fun _ _ => rfl) .run answer?)).hire
    have crew := crew.mono (q := [.returned .run none]) rfl rfl
    rw [List.append_assoc, List.append_assoc] at crew
    exact crew
  others i r at_ mine := by
    obtain old | ⟨rfl, -⟩ := getElem?_hire_eq_some.mp at_
    · exact Scene.quiet_iff.mp quiet i r old
    · exact absurd rfl mine
  kept i r at_ there sent := by
    obtain held | ⟨c, waits⟩ := there
    · obtain old | ⟨-, rfl⟩ := getElem?_hire_eq_some.mp at_
      · obtain ⟨lt, -⟩ := List.getElem?_eq_some_iff.mp old
        exact absurd (Option.some.inj held) (Nat.ne_of_gt lt)
      · cases sent
    · cases waits
  account := by
    have account := h.account
    simp only [Scene.pending?, free, at_, Busy.taken?, Option.none_or] at account
    rw [settled_append, settled_append, settled_losses]
    show settled tr ++ ((answer?.map Prod.fst).toList ++ []) ++ [s.workers.length] =
      List.range (s.workers ++ [FreeRun.start]).length
    rw [List.append_nil, account, List.length_append]
    exact List.range_succ.symm
  sound := trivial

/-- What is known when a call looks for the free run. -/
lemma polls (h : SessionInv tr s) (polls : s.busy.polls? = some c) :
    s.busy.taken? = none ∧ c.Collects ∧ (∀ i, s.held? = some i → [.started i, .called c] <+ tr) ∧
      (c ≠ .poll → s.Quiet) := by
  have sound := h.sound
  obtain ⟨at_, rfl⟩ | ⟨at_, rfl⟩ := Busy.polls?_eq_some polls
  · rw [at_] at sound ⊢
    exact ⟨rfl, .inl rfl, sound, fun e => absurd rfl e⟩
  · rw [at_] at sound ⊢
    exact ⟨rfl, .inr rfl, sound.2, fun _ => sound.1⟩

/-- What is known when a call takes the free run. -/
lemma takes (h : SessionInv tr s) (takes : s.busy.takes? = some c) :
    s.busy.taken? = none ∧ c.Collects ∧ (∀ i, s.held? = some i → [.started i, .called c] <+ tr) := by
  have sound := h.sound
  obtain ⟨at_, ends⟩ := Busy.takes?_eq_some takes
  rw [at_] at sound ⊢
  exact ⟨rfl, Call.collects_of_ends ends, sound⟩

/-- A call other than `poll` does its own work when no worker is there. -/
lemma quiet_of_ready {answer? : Option (Nat × Report)} (h : SessionInv tr s)
    (at_ : s.busy = .ready c answer?) (other : c ≠ .poll) : s.Quiet := by
  have sound := h.sound
  rw [at_] at sound
  cases answer? with
  | none => exact sound.1 other
  | some answer => exact sound.2.1

/-- A call that loses reports does its own work when the session has no free run. -/
lemma free_of_ready {answer? : Option (Nat × Report)} (h : SessionInv tr s)
    (at_ : s.busy = .ready c answer?) (last : c.loses = true) : s.held? = none := by
  have sound := h.sound
  rw [at_] at sound
  cases answer? with
  | none => exact sound.2 last
  | some answer => exact sound.1

/-- A call takes the free run away from the session. -/
lemma away (h : SessionInv tr s) (held : s.held? = some i) (collects : c.Collects)
    (began : [.started i, .called c] <+ tr) :
    SessionInv (tr ++ []) { s with held? := none, busy := .receiving c i } := by
  have pending : s.pending? = some i := by rw [Scene.pending?, held]; rfl
  refine h.turn rfl (.inl pending.symm) ?_ rfl rfl ?_ ?_
  · rintro j (none | ⟨_, waits⟩)
    · cases none
    · cases waits
      exact .inl held
  · rw [pending]
    rfl
  · rw [List.append_nil]
    exact ⟨rfl, collects, began⟩

/-- The worker has left, and the call may do its own work. -/
lemma join {report : Report} (h : SessionInv tr s) (at_ : s.busy = .joining c i report)
    (there : s.workers[i]? = some r) (gone : r.phase = .gone) :
    SessionInv (tr ++ []) { s.ask i with busy := .ready c (some (i, report)) } := by
  have sound := h.sound
  rw [at_] at sound
  obtain ⟨free, collects, began, sent⟩ := sound
  have pending : s.pending? = some i := by rw [Scene.pending?, free, at_]; rfl
  have quiet : s.Quiet := h.quiet fun j r' mine at' => by
    rw [pending, Option.some.injEq] at mine
    rw [← mine, there, Option.some.injEq] at at'
    exact at' ▸ gone
  refine (h.ask i).turn rfl (.inr (quiet.modify fun _ => rfl)) ?_ rfl rfl ?_ ?_
  · rintro j (held | ⟨_, waits⟩)
    · exact .inl held
    · cases waits
  · show (s.held?.or (some i)).toList = s.pending?.toList
    rw [free, pending]
    rfl
  · rw [List.append_nil]
    exact ⟨free, quiet.modify fun _ => rfl, collects, began, sent⟩

/-- A call returns, and with it the report that it has collected is settled. -/
lemma finish {φ : Busy} {answer? : Option (Nat × Report)} (h : SessionInv tr s)
    (at_ : s.busy = .ready c answer?) (after : φ.taken? = none)
    (sound : φ.Sound (tr ++ c.outcome answer?) { s with machine := m, busy := φ }) :
    SessionInv (tr ++ c.outcome answer?) { s with machine := m, busy := φ } := by
  have ready := h.sound
  rw [at_] at ready
  refine h.turn rfl ?_ ?_ (Call.filterMap_outcome (fun _ _ => rfl) c answer?)
    (Call.filterMap_outcome (fun _ _ => rfl) c answer?) ?_ sound
  · cases answer? with
    | none => exact .inl (by rw [Scene.pending?, Scene.pending?, at_, after]; rfl)
    | some answer => exact .inr ready.2.1
  · rintro i (held | ⟨_, waits⟩)
    · exact .inl held
    · subst waits
      cases after
  · rw [settled_outcome, Scene.pending?, Scene.pending?, at_, after]
    cases answer? with
    | none => rfl
    | some answer =>
      rw [ready.1]
      rfl

/-- Each action of the controller keeps the invariant. -/
lemma call (h : SessionInv tr s) (mv : CallMove s q s') : SessionInv (tr ++ q) s' := by
  have sound := h.sound
  cases mv with
  | call c at_ =>
    refine h.goOn (by rw [at_]; rfl) rfl rfl rfl rfl fun i held => ?_
    exact (h.started_of_held held).append (.refl [Entry.called c])
  | takeNone takes free =>
    obtain ⟨untaken, -⟩ := h.takes takes
    have quiet := h.quiet_of_none (by rw [Scene.pending?, free, untaken]; rfl)
    exact h.goOn untaken rfl rfl rfl rfl ⟨fun _ => quiet, fun _ => free⟩
  | takeToStop takes _ held =>
    obtain ⟨-, collects, began⟩ := h.takes takes
    exact (h.ask _).away held collects (began _ held)
  | takeToWait takes _ held =>
    obtain ⟨-, collects, began⟩ := h.takes takes
    exact h.away held collects (began _ held)
  | receive at_ there mail =>
    rw [at_] at sound
    obtain ⟨free, collects, began⟩ := sound
    rw [List.append_nil]
    exact h.take (by rw [Scene.pending?, free, at_]; rfl) there mail collects began
  -- A worker that is gone has left its report in the mailbox, so none is ever missed.
  | receiveLost at_ there mail gone => exact absurd mail (h.mailed there (.inr ⟨_, at_⟩) gone)
  | join at_ there gone => exact h.join at_ there gone
  | pollNone polls free =>
    obtain ⟨untaken, -⟩ := h.polls polls
    have quiet := h.quiet_of_none (by rw [Scene.pending?, free, untaken]; rfl)
    exact h.goOn untaken rfl rfl rfl rfl ⟨fun _ => quiet, fun _ => free⟩
  | pollTake polls held there mail =>
    obtain ⟨-, collects, began, -⟩ := h.polls polls
    rw [List.append_nil]
    exact h.take (by rw [Scene.pending?, held]; rfl) there mail collects (began _ held)
  | pollEmpty polls held there mail here =>
    obtain ⟨untaken, -, -, quiet⟩ := h.polls polls
    refine h.goOn untaken rfl rfl rfl rfl ?_
    -- The worker is there, so this is not `run`.
    obtain ⟨-, rfl⟩ | ⟨-, rfl⟩ := Busy.polls?_eq_some polls
    · exact ⟨fun e => absurd rfl e, nofun⟩
    · exact absurd (Scene.quiet_iff.mp (quiet nofun) _ _ there) here
  | pollLost polls held there mail gone => exact absurd mail (h.mailed there (.inl held) gone)
  | ignoreStep at_ => exact h.goOn (by rw [at_]; rfl) rfl rfl rfl rfl trivial
  | ignoreRun at_ => exact h.goOn (by rw [at_]; rfl) rfl rfl rfl rfl trivial
  | allowStep at_ rest =>
    have quiet := (h.running_iff (by rw [at_]; rfl)).mp rest
    exact h.goOn (by rw [at_]; rfl) rfl rfl rfl rfl ⟨fun _ => quiet, nofun⟩
  | allowRun at_ rest =>
    have quiet := (h.running_iff (by rw [at_]; rfl)).mp rest
    rw [at_] at sound
    refine h.goOn (by rw [at_]; rfl) rfl rfl rfl rfl ⟨quiet, ?_⟩
    rw [List.append_nil]
    exact sound
  | finish at_ => exact h.finish at_ rfl trivial
  | finishClose at_ =>
    exact h.finish at_ rfl ⟨h.free_of_ready at_ rfl, h.quiet_of_ready at_ nofun⟩
  | start at_ free => exact h.hire at_ free (h.quiet_of_ready at_ nofun)
  -- `run` finds the session without a free run, so it never replaces one.
  | replace at_ held =>
    rw [h.free_of_ready at_ rfl] at held
    cases held
  | replaced at_ =>
    rw [at_] at sound
    exact sound.elim
  | look at_ => exact h.goOn (by rw [at_]; rfl) rfl rfl rfl rfl trivial
  | lookAway at_ => exact h.goOn (by rw [at_]; rfl) rfl rfl rfl rfl trivial

/-- An action of a worker keeps the invariant. -/
lemma work (h : SessionInv tr s) (at_ : s.workers[i]? = some r) (here : r.phase ≠ .gone) :
    SessionInv (tr ++ r.phase.entries i) (s.work i r) where
  crew := h.crew.act at_ s.machine
  others j r' at' mine := by
    obtain ⟨r₀, at₀, rfl⟩ := getElem?_modify_eq_some.mp at'
    have gone := h.others j r₀ at₀ mine
    by_cases e : i = j
    · subst e
      rw [at_, Option.some.injEq] at at₀
      exact absurd (at₀ ▸ gone) here
    · rw [if_neg e]
      exact gone
  kept j r' at' there := by
    obtain ⟨r₀, at₀, rfl⟩ := getElem?_modify_eq_some.mp at'
    by_cases e : i = j
    · subst e
      rw [if_pos rfl]
      obtain ⟨report, -, -, full⟩ | ⟨-, sent, mail⟩ := FreeRun.act_cases s.machine r i
      · exact fun _ => by simp [full]
      · rw [sent, mail]
        exact h.kept i r at_ there
    · rw [if_neg e]
      exact h.kept j r₀ at₀ there
  account := by
    have silent : settled (r.phase.entries i) = [] := by cases r.phase <;> rfl
    rw [settled_append, silent, List.append_nil]
    show _ = List.range (s.workers.modify i _).length
    rw [List.length_modify]
    exact h.account
  sound := h.sound.mono rfl fun quiet => absurd (Scene.quiet_iff.mp quiet i r at_) here

end SessionInv

/-- The invariant holds after any actions. -/
lemma Moves.inv (run : Moves (.new config threshold) tr s) : SessionInv tr s := by
  induction run with
  | refl => exact .new config threshold
  | tail _ mv ih =>
    cases mv with
    | work at_ here => exact ih.work at_ here
    | call mv => exact ih.call mv

end PocketMips
