import Mathlib.Data.List.DropRight
import PocketMips.Proofs.ChangeView

/-!
# The bounds of the memory

How many words are asked for, how many there are, and which of them are on record is kept in three
places, and not by the same operations: a number that is asked for counts only from the next reset or load
on, and up to then the old memory stays, with what is recorded of it. So the size at any time is found in
what was done before (`Machine.KeepsBounds`): the operations up to the last start say what was asked for
then.

An index comes on record only when a word is loaded or stored there, so it is one of a word that the memory
has. A start is what changes the size, and it clears the record. So a view of the words on record never asks
for a word that is not there, even if a smaller memory has been asked for since.
-/

namespace PocketMips

namespace Operation

/-- Does the operation take the processor to the start of a program? -/
def restarts : Operation → Bool
  | .load _ | .reset => true
  | .step | .run _ | .setMemWords _ => false

/-- The number of words that the operation asks for. -/
def words? : Operation → Option Nat
  | .setMemWords words => some words
  | .load _ | .step | .run _ | .reset => none

/-- The number of words asked for after some operations, if it was `words` before them. -/
def asked (words : Nat) (ops : List Operation) : Nat :=
  (ops.filterMap words?).getLast?.getD words

/-- The operations up to the last start, with all that came before it. -/
def upToStart (ops : List Operation) : List Operation :=
  ops.rdropWhile (!·.restarts)

end Operation

/-- The session lists the words on record, each with what the memory holds there. -/
def Session.ListsWords (s : Session) : Prop :=
  s.changedWords.map MemEntry.index = s.cpu.changedWords ∧
    ∀ e ∈ s.changedWords, s.cpu.mem.get? e.index = some e.value

/-- The memory of a machine after some operations, when `words` were asked for at first. -/
structure Machine.KeepsBounds (words : Nat) (ops : List Operation) (m : Machine) : Prop where
  /-- The number asked for is the one that was set last. -/
  setting : m.cpu.config.memWords = Operation.asked words ops
  /-- There are as many words as were asked for at the last start, within the limits. -/
  size : m.cpu.mem.size = max 4096 (min (Operation.asked words (Operation.upToStart ops)) 67108864)
  /-- Nothing but a start changes the size. -/
  constant : ∀ op, op.restarts = false → (m.perform op).cpu.mem.size = m.cpu.mem.size
  changed : ∀ index ∈ m.cpu.changedWords, index < m.cpu.mem.size
  accessed : ∀ index, (m.cpu.footprint.access index).any = true → index < m.cpu.mem.size
  /-- Every session on the processor shows words that are there. -/
  listed : ∀ s : Session, s.cpu = m.cpu → s.ListsWords

/-! ### What is on record -/

namespace Processor
variable {p : Processor}

/-- A load is from a word that is there. -/
lemma lt_size_of_load {i : Instr} {r : Reg} {index : Nat} {w : Word}
    (h : p.effect i = .ok (.load r index w)) : index < p.mem.size := by
  cases effecting h with
  | lw looked => exact Memory.lt_size_of_get? (get?_of_wordAt looked)

/-- Every word that was accessed is there. -/
def AccessedInside (p : Processor) : Prop :=
  ∀ index, (p.footprint.access index).any = true → index < p.mem.size

/-- A processor that was reset has accessed nothing. -/
lemma accessedInside_reset (p : Processor) : p.reset.AccessedInside := by
  intro index used
  rw [p.pristine_reset.unused] at used
  cases used

namespace AccessedInside

/-- A word that is there may be loaded. -/
lemma readWord {index : Nat} (h : p.AccessedInside) (lt : index < p.mem.size) :
    (p.readWord index).AccessedInside := by
  intro other used
  have used : ((p.footprint.readWord index).access other).any = true := used
  rw [Footprint.access_readWord] at used
  split at used
  case isTrue same => exact same ▸ lt
  case isFalse => exact h other used

/-- A word that is there may be stored. -/
lemma writeWord {index : Nat} (h : p.AccessedInside) (lt : index < p.mem.size) (w : Word) :
    (p.writeWord index w).AccessedInside := by
  intro other used
  have used : ((p.footprint.writeWord index).access other).any = true := used
  rw [Footprint.access_writeWord] at used
  split at used
  case isTrue same => exact same ▸ lt
  case isFalse => exact h other used

/-- The effect of an instruction accesses a word that is there, if it accesses one. -/
lemma apply {i : Instr} {e : Effect} (h : p.AccessedInside) (effect : p.effect i = .ok e) :
    (p.apply e).AccessedInside := by
  cases e with
  | load r index w => exact h.readWord (lt_size_of_load effect)
  | store index w => exact h.writeWord (lt_size_of_store effect) w
  | _ => exact h

/-- A step accesses only words that are there. -/
lemma step (h : p.AccessedInside) : p.step.AccessedInside := by
  have stepping := p.stepping
  generalize p.step = q at stepping ⊢
  cases stepping with
  | still => exact h
  | fellOff => exact h
  | refused => exact h
  | ran _ _ effect => exact h.apply effect

end AccessedInside

end Processor

/-- Where all is on record, a session lists it. -/
lemma Session.listsWords {s : Session} (h : s.cpu.OnRecord) : s.ListsWords := by
  refine ⟨?_, fun e mem => (get?_of_mem h mem).2⟩
  unfold changedWords
  rw [List.map_map]
  exact List.map_id _

/-! ### What was asked for -/

namespace Operation

/-- The last operation asks for a size, or it stays as it was asked for before. -/
lemma asked_concat (words : Nat) (ops : List Operation) (op : Operation) :
    asked words (ops ++ [op]) = op.words?.getD (asked words ops) := by
  unfold asked
  rw [List.filterMap_append, List.getLast?_append]
  cases h : op.words? <;> simp [h]

/-- An operation that starts a program asks for nothing. -/
lemma words?_of_restarts {op : Operation} (starts : op.restarts = true) : op.words? = none := by
  cases op with
  | load | reset => rfl
  | step | run | setMemWords => cases starts

end Operation

namespace Machine
variable {m : Machine} {op : Operation}

/-- The last operation is performed on the machine after the others. -/
lemma performAll_concat (m : Machine) (ops : List Operation) (op : Operation) :
    m.performAll (ops ++ [op]) = (m.performAll ops).perform op :=
  List.foldl_concat ..

/-- The setting of a machine is changed by what asks for another size, and by nothing else. -/
lemma memWords_perform (m : Machine) (op : Operation) :
    (m.perform op).cpu.config.memWords = op.words?.getD m.cpu.config.memWords := by
  cases op with
  | step => rw [perform, cpu_step, Processor.config_step]; rfl
  | run limit =>
    rw [perform, cpu_run, Processor.iterate_keeps (f := Processor.config) Processor.config_step]
    rfl
  | _ => rfl

/-- A start makes the memory as large as was asked for. -/
lemma memSize_of_restarts (starts : op.restarts = true) :
    (m.perform op).cpu.mem.size = Memory.clampSize m.cpu.config.memWords := by
  cases op with
  | load program => exact (m.cpu.pristine_load program).size
  | reset => exact m.cpu.pristine_reset.size
  | step | run | setMemWords => cases starts

/-- Any other operation leaves the memory as large as it is. -/
lemma memSize_of_not_restarts (stays : op.restarts = false) :
    (m.perform op).cpu.mem.size = m.cpu.mem.size := by
  cases op with
  | load | reset => cases stays
  | step => exact Processor.memSize_step _
  | run limit =>
    rw [perform, cpu_run]
    exact Processor.iterate_keeps (f := (·.mem.size)) Processor.memSize_step _ _
  | setMemWords words => rfl

/-- Operations leave the number of words that they have asked for last. -/
lemma memWords_performAll (m : Machine) (ops : List Operation) :
    (m.performAll ops).cpu.config.memWords = Operation.asked m.cpu.config.memWords ops := by
  induction ops using List.reverseRecOn with
  | nil => rfl
  | append_singleton ops op ih =>
    rw [performAll_concat, memWords_perform, ih, Operation.asked_concat]

/-- Operations leave as many words as were asked for at the last start, or at first. -/
lemma memSize_performAll (size : m.cpu.mem.size = Memory.clampSize m.cpu.config.memWords)
    (ops : List Operation) :
    (m.performAll ops).cpu.mem.size =
      Memory.clampSize (Operation.asked m.cpu.config.memWords (Operation.upToStart ops)) := by
  induction ops using List.reverseRecOn with
  | nil => exact size
  | append_singleton ops op ih =>
    rw [performAll_concat, Operation.upToStart, List.rdropWhile_concat]
    -- The operations up to the last start end here, or with those before.
    cases starts : op.restarts with
    | true =>
      rw [memSize_of_restarts starts, memWords_performAll, if_neg (by simp), Operation.asked_concat,
        Operation.words?_of_restarts starts, Option.getD_none]
    | false =>
      rw [memSize_of_not_restarts starts, if_pos (by simp)]
      exact ih

/-- Whatever is done with a machine and whatever memory is asked for, the memory has the size that was asked
for at the last start, all indices on record are below it, and every session on the processor finds the words
that it shows. -/
theorem keepsBounds (config : Config) (threshold : Option Level) (ops : List Operation) :
    KeepsBounds config.memWords ops ((new config threshold).performAll ops) := by
  have onRecord : ((new config threshold).performAll ops).cpu.OnRecord :=
    performAll_new_induction Processor.onRecord_reset (fun _ h => h.step)
      (fun _ config h => h.configure config) config threshold ops
  have accessed : ((new config threshold).performAll ops).cpu.AccessedInside :=
    performAll_new_induction Processor.accessedInside_reset (fun _ h => h.step) (fun _ _ h => h)
      config threshold ops
  exact {
    setting := memWords_performAll _ ops
    size := memSize_performAll rfl ops
    constant := fun op stays => memSize_of_not_restarts stays
    changed := onRecord.inside
    accessed := accessed
    listed := fun s same => Session.listsWords (same ▸ onRecord) }

/-- A word beyond the smallest memory stays on record until a reset, though its memory is not wanted any
more. -/
example :
    let program := .ofList [⟨[], .imm .addi 8 8 20000⟩, ⟨[], .mem .sw 8 8 0⟩]
    let m := (new .standard none).performAll
      [.setMemWords 10001, .load program, .setMemWords 0, .run 2]
    (m.cpu.mem.size = 10001 ∧ m.cpu.changedWords = [5000]) ∧
      m.reset.cpu.mem.size = 4096 ∧ m.reset.cpu.changedWords = [] := by
  decide +kernel

end Machine

end PocketMips
