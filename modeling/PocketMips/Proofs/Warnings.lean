import PocketMips.Proofs.Drivers
import PocketMips.Proofs.Standstill

/-!
# Warnings

What a log gets from a machine that assembles texts and runs them. The warnings are told from the texts and
from the processor itself: there is one for each line that is neither blank nor an instruction, and one for
each step that ends in a fault. The log has these and no others, in this order, as far as it keeps warnings
(`Machine.Warns`).

Whatever is done, the log grows by a journal that depends on the processor only (`Work.journal`). So what is
said of a sequence of works is put together from what is said of each, at the processor that it finds
(`Machine.along`). A step has an entry for its instruction, which is neither a warning nor a notice, and one
for a halt. The latter names the address where the processor is after the step; a fault leaves it where it
was.
-/

namespace PocketMips
open Text

/-- What the log shows of an event. -/
structure Record where
  level : Level
  target : String
  message : String
  deriving DecidableEq, Repr

/-- The record of an event: its level, where it is from and its message. -/
def Event.record (e : Event) : Record :=
  ⟨e.level, e.target, e.message⟩

/-- The records of a log. -/
def Log.records (log : Log) : List Record :=
  log.events.map Event.record

namespace Record

/-- Is it a warning, or more severe? -/
def isSevere (r : Record) : Bool :=
  r.level.rank ≤ Level.warn.rank

/-- Is it a debug record of the processor? -/
def isNotice (r : Record) : Bool :=
  r.level = .debug && r.target = "mips_stepper::sim"

/-- The warning about a line that could not be read. -/
def ofLine (line : List Char) (number : Nat) : Record :=
  ⟨.warn, "mips_stepper::asm",
    "Invalid instruction '" ++ String.ofList line ++ "' on line " ++ toString number⟩

/-- The warning about a fault of the instruction at an address. -/
def ofFault (pc : UInt32) (why : Halt) : Record :=
  ⟨.warn, "mips_stepper::sim", "fault at PC " ++ toString pc.toNat ++ ": " ++ why.message⟩

/-- The notice of a halt that is no fault. -/
def ofHalt (pc : UInt32) (why : Halt) : Record :=
  ⟨.debug, "mips_stepper::sim", "halted at PC " ++ toString pc.toNat ++ ": " ++ why.message⟩

/-- The notice that a program was loaded. -/
def ofLoad (program : Program) : Record :=
  ⟨.debug, "mips_stepper::sim",
    "loaded program with " ++ toString program.size ++ " instruction(s)"⟩

end Record

/-- The warning about a numbered line, unless it is blank or an instruction. -/
def lineWarning? : List Char × Nat → Option Record
  | (line, number) =>
    if allBlank line then none
    else
      match SourceLine.parse line with
      | .ok _ => none
      | .error _ => some (.ofLine line number)

namespace Processor

/-- The warning about the next step, if it halts the processor by a fault. -/
def faultWarning? (p : Processor) : Option Record :=
  if p.isDone then none
  else
    match p.step.halt? with
    | some .divByZero => some (.ofFault p.pc .divByZero)
    | some (.badAddress address) => some (.ofFault p.pc (.badAddress address))
    | some .exit | some (.noInstruction _) | none => none

/-- The notice of the next step, if it halts the processor in any other way. -/
def haltNotice? (p : Processor) : Option Record :=
  if p.isDone then none
  else
    match p.step.halt? with
    | some .exit => some (.ofHalt p.step.pc .exit)
    | some (.noInstruction address) => some (.ofHalt p.step.pc (.noInstruction address))
    | some .divByZero | some (.badAddress _) | none => none

end Processor

/-- What is done with a machine. -/
inductive Work where
  /-- Assembles a text, and loads what comes of it. -/
  | assemble (source : List Char)
  | operate (op : Operation)

/-- The processors before each of the steps of an operation. A run is given as many as its limit allows; those
that have halted do nothing any more. -/
def Operation.steps (p : Processor) : Operation → List Processor
  | .step => [p]
  | .run limit => p.before limit
  | .load _ | .reset | .setMemWords _ => []

namespace Work

/-- The warnings that a work on a processor gives rise to. -/
def warnings (p : Processor) : Work → List Record
  | .assemble source => ((lines source).zipIdx 1).filterMap lineWarning?
  | .operate op => (op.steps p).filterMap Processor.faultWarning?

/-- The notices of the processor that a work on it gives rise to. -/
def notices (p : Processor) : Work → List Record
  | .assemble source => [.ofLoad (Assembly.ofSource source).program]
  | .operate (.load program) => [.ofLoad program]
  | .operate op => (op.steps p).filterMap Processor.haltNotice?

/-- The events of a work on a processor. -/
def journal (p : Processor) : Work → List Event
  | .assemble source =>
    (Assembly.ofSource source).journal ++ [.loaded (Assembly.ofSource source).program.size]
  | .operate (.load program) => [.loaded program.size]
  | .operate op => (op.steps p).flatMap Processor.journal

end Work

namespace Machine

/-- The machine after a work. -/
def carryOut (m : Machine) : Work → Machine
  | .assemble source =>
    let (m, a) := m.assemble source
    m.load a.program
  | .operate op => m.perform op

/-- The machine after works one after another. -/
def carryOutAll (m : Machine) (works : List Work) : Machine :=
  works.foldl carryOut m

/-- What is said of works one after another, of each on the processor that it finds. -/
def along {α : Type} (say : Processor → Work → List α) (m : Machine) : List Work → List α
  | [] => []
  | w :: works => say m.cpu w ++ (m.carryOut w).along say works

/-- What a machine adds to its log in the course of some works. -/
structure Warns (m : Machine) (works : List Work) : Prop where
  /-- The warnings, and nothing more severe. -/
  severe : (m.carryOutAll works).log.records.filter Record.isSevere =
    m.log.records.filter Record.isSevere ++
      (m.along Work.warnings works).filter (m.log.keeps ·.level)
  /-- The notices of the processor. -/
  notices : (m.carryOutAll works).log.records.filter Record.isNotice =
    m.log.records.filter Record.isNotice ++
      (m.along Work.notices works).filter (m.log.keeps ·.level)
  /-- Nothing at all once the processor has halted. -/
  silent : (m.carryOutAll works).cpu.isDone →
    (m.carryOutAll works).step = m.carryOutAll works ∧
      ∀ limit, (m.carryOutAll works).run limit = (m.carryOutAll works, 0)

end Machine

/-! ### Logs -/

namespace Log

/-- Events are recorded one part after the other. -/
lemma writeAll_append (log : Log) (author : Author) (es es' : List Event) :
    log.writeAll author (es ++ es') = (log.writeAll author es).writeAll author es' :=
  List.foldl_append

/-- What is recorded does not change what will be. -/
lemma keeps_write (log : Log) (author : Author) (e : Event) : (log.write author e).keeps = log.keeps := by
  unfold keeps
  rw [threshold_write]

/-- The events that a log keeps come after those that it has. -/
lemma events_writeAll (log : Log) (author : Author) (es : List Event) :
    (log.writeAll author es).events = log.events ++ es.filter (log.keeps ·.level) := by
  induction es generalizing log with
  | nil => exact (List.append_nil _).symm
  | cons e es ih =>
    have rest := ih (log.write author e)
    rw [keeps_write, events_write, List.append_assoc] at rest
    rw [List.filter_cons]
    refine rest.trans ?_
    split <;> rfl

/-- The records of new events that a log keeps come after those that it has. -/
lemma records_writeAll (log : Log) (author : Author) (es : List Event) :
    (log.writeAll author es).records =
      log.records ++ (es.map Event.record).filter (log.keeps ·.level) := by
  unfold records
  rw [events_writeAll, List.map_append, List.filter_map]
  rfl

end Log

/-! ### Journals -/

namespace Machine

/-- A step adds its journal to the log. -/
lemma log_step (m : Machine) : m.step.log = m.log.writeAll .controller m.cpu.journal := by
  unfold step stepBy Processor.journal
  cases done : m.cpu.isDone with
  | true =>
    unfold Processor.announcement
    rw [if_pos done]
    rfl
  | false => exact (m.log.writeAll_append _ _ _).symm

/-- A machine whose processor has halted takes no step, and records nothing. -/
lemma step_of_done {m : Machine} (done : m.cpu.isDone) : m.step = m := by
  have cpu : m.step.cpu = m.cpu := Processor.step_of_done done
  have log : m.step.log = m.log := by
    rw [log_step, Processor.journal, if_pos done]
    rfl
  calc m.step = ⟨m.step.cpu, m.step.log⟩ := rfl
    _ = m := by rw [cpu, log]

/-- Steps add their journals to the log, one after the other. -/
lemma log_iterate_step (m : Machine) (n : Nat) :
    (step^[n] m).log = m.log.writeAll .controller ((m.cpu.before n).flatMap Processor.journal) := by
  induction n with
  | zero => rfl
  | succ n ih =>
    rw [Function.iterate_succ_apply', log_step, ih, cpu_iterate_step, Processor.before_succ,
      List.flatMap_append, Log.writeAll_append, List.flatMap_singleton]

/-- A run takes as many steps as its limit allows, if those of a processor that has halted count. -/
lemma run_eq_iterate (m : Machine) (limit : Nat) : (m.run limit).1 = step^[limit] m :=
  repeatUntil_fst (fun _ => step_of_done) limit m

/-- A work adds its journal to the log. -/
lemma log_carryOut (m : Machine) (w : Work) :
    (m.carryOut w).log = m.log.writeAll .controller (w.journal m.cpu) := by
  cases w with
  | assemble source => exact (m.log.writeAll_append _ _ [_]).symm
  | operate op =>
    cases op with
    | load program => rfl
    | reset => rfl
    | setMemWords words => rfl
    | step =>
      refine m.log_step.trans ?_
      rw [Work.journal, Operation.steps, List.flatMap_singleton]
      nofun
    | run limit =>
      show (m.run limit).1.log = _
      rw [run_eq_iterate]
      exact m.log_iterate_step limit

/-- Works add their journals to the log, one after the other. -/
lemma log_carryOutAll (m : Machine) (works : List Work) :
    (m.carryOutAll works).log = m.log.writeAll .controller (m.along Work.journal works) := by
  induction works generalizing m with
  | nil => rfl
  | cons w works ih =>
    rw [along, Log.writeAll_append, ← log_carryOut]
    exact ih (m.carryOut w)

/-- What is to be said of a work in particular can be found in all that is said of it. -/
lemma filter_map_along {α β : Type} {say : Processor → Work → List α} {say' : Processor → Work → List β}
    {f : α → β} {q : β → Bool} (same : ∀ p w, ((say p w).map f).filter q = say' p w) (m : Machine)
    (works : List Work) : ((m.along say works).map f).filter q = m.along say' works := by
  induction works generalizing m with
  | nil => rfl
  | cons w works ih =>
    rw [along, along, List.map_append, List.filter_append, same, ih]

/-- To know which records of some kind a log gets, it is enough to know this of each work. -/
lemma filter_records {q : Record → Bool} {say : Processor → Work → List Record}
    (same : ∀ p w, ((Work.journal p w).map Event.record).filter q = say p w) (m : Machine)
    (works : List Work) :
    (m.carryOutAll works).log.records.filter q =
      m.log.records.filter q ++ (m.along say works).filter (m.log.keeps ·.level) := by
  -- What a log keeps and what is of the kind can be looked for in either order.
  rw [log_carryOutAll, Log.records_writeAll, List.filter_append, List.filter_comm,
    filter_map_along same]

end Machine

/-! ### Steps -/

namespace Processor
variable {q : Record → Bool} {say : Processor → Option Record}

/-- The instruction of a step is neither a warning nor a notice, so what counts is how it halts. -/
lemma filter_journal (quiet : ∀ pc i, q (Event.running pc i).record = false)
    {p : Processor} (going : p.isDone = false) :
    (p.journal.map Event.record).filter q = (p.step.verdict.map Event.record).filter q := by
  have announced : (p.announcement.map Event.record).filter q = [] := by
    unfold announcement
    rw [if_neg (by simp [going])]
    cases p.current? with
    | none => rfl
    | some i => simp [quiet]
  unfold journal
  rw [if_neg (by simp [going]), List.map_append, List.filter_append, announced, List.nil_append]

/-- The only severe record of a step is the warning about its fault. -/
lemma severe_journal (p : Processor) :
    (p.journal.map Event.record).filter Record.isSevere = p.faultWarning?.toList := by
  unfold faultWarning?
  cases done : p.isDone with
  | true =>
    unfold journal
    rw [if_pos done, if_pos rfl]
    rfl
  | false =>
    rw [filter_journal (fun _ _ => rfl) done, if_neg Bool.false_ne_true]
    unfold verdict
    cases halted : p.step.halt? with
    | none => rfl
    | some why =>
      -- A fault leaves the program counter where it was.
      have pc (failed : why ≠ .exit) : p.step.pc = p.pc := by
        rw [step_of_failed done halted failed]
        rfl
      cases why with
      | exit | noInstruction => rfl
      | divByZero | badAddress =>
        rw [pc nofun]
        rfl

/-- The only notice of a step is that of its halt. -/
lemma notices_journal (p : Processor) :
    (p.journal.map Event.record).filter Record.isNotice = p.haltNotice?.toList := by
  unfold haltNotice?
  cases done : p.isDone with
  | true =>
    unfold journal
    rw [if_pos done, if_pos rfl]
    rfl
  | false =>
    rw [filter_journal (fun _ _ => rfl) done, if_neg Bool.false_ne_true]
    unfold verdict
    cases p.step.halt? with
    | none => rfl
    | some why => cases why <;> rfl

/-- What is to be said of steps is found in their journals. -/
lemma filter_flatMap_journal (same : ∀ p : Processor, (p.journal.map Event.record).filter q = (say p).toList)
    (ps : List Processor) :
    ((ps.flatMap journal).map Event.record).filter q = ps.filterMap say := by
  induction ps with
  | nil => rfl
  | cons p ps ih =>
    rw [List.flatMap_cons, List.map_append, List.filter_append, same, ih, List.filterMap_cons]
    cases say p <;> rfl

end Processor

/-! ### Works -/

/-- The rejected lines of a text are those that a warning is about. -/
lemma Assembly.records_rejections (source : List Char) :
    ((ofSource source).rejections.map Event.rejected).map Event.record =
      ((lines source).zipIdx 1).filterMap lineWarning? := by
  show (List.map _ (rejected (((lines source).zipIdx 1).filterMap judge))).map _ = _
  unfold rejected
  rw [List.filterMap_filterMap, List.map_map, List.map_filterMap]
  congr
  funext numbered
  obtain ⟨line, number⟩ := numbered
  simp only [judge, lineWarning?]
  by_cases blank : allBlank line = true
  · rw [if_pos blank, if_pos blank]
    rfl
  · rw [if_neg blank, if_neg blank]
    cases SourceLine.parse line <;> rfl

namespace Work

/-- The severe records of a work are its warnings. -/
lemma severe_journal (p : Processor) (w : Work) :
    ((w.journal p).map Event.record).filter Record.isSevere = w.warnings p := by
  cases w with
  | assemble source =>
    have all : ∀ r ∈ ((Assembly.ofSource source).rejections.map Event.rejected).map Event.record,
        r.isSevere = true := by
      simp only [List.forall_mem_map]
      exact fun _ _ => rfl
    rw [journal, Assembly.journal, List.append_assoc, List.map_append, List.filter_append,
      List.filter_eq_self.mpr all, Assembly.records_rejections]
    exact List.append_nil _
  | operate op =>
    cases op with
    | load program => rfl
    | _ => exact Processor.filter_flatMap_journal Processor.severe_journal _

/-- The notices of a work are those of its halts and loads. -/
lemma notices_journal (p : Processor) (w : Work) :
    ((w.journal p).map Event.record).filter Record.isNotice = w.notices p := by
  cases w with
  | assemble source =>
    have none : ∀ r ∈ ((Assembly.ofSource source).rejections.map Event.rejected).map Event.record,
        ¬ r.isNotice = true := by
      simp only [List.forall_mem_map]
      exact fun _ _ => Bool.false_ne_true
    rw [journal, Assembly.journal, List.append_assoc, List.map_append, List.filter_append,
      List.filter_eq_nil_iff.mpr none]
    rfl
  | operate op =>
    cases op with
    | load program => rfl
    | _ => exact Processor.filter_flatMap_journal Processor.notices_journal _

end Work

/-- Whatever texts are assembled and whatever is done with the processor, there is a warning for each line
that was rejected and for each fault, a notice for each other halt, and none for anything else. -/
theorem Machine.warns (m : Machine) (works : List Work) : m.Warns works where
  severe := m.filter_records Work.severe_journal works
  notices := m.filter_records Work.notices_journal works
  silent done := ⟨step_of_done done, run_of_done done⟩

/-- A rejected line, a blank one, and a division by zero that is the second instruction. The run goes on no
further, and starts again after the reset. -/
example :
    let source := "jump 3\n \nnop\ndiv $r0 $r1 $zero".toList
    let m := (Machine.new .standard (some .info)).carryOutAll
      [.assemble source, .operate (.run 9), .operate .step, .operate .reset, .operate (.run 9)]
    m.log.records.map Record.message =
      ["Invalid instruction 'jump 3' on line 1", "fault at PC 4: division by zero",
        "fault at PC 4: division by zero"] := by
  decide +kernel

end PocketMips
