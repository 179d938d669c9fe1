import PocketMips.Proofs.ChangeSets
import PocketMips.Proofs.Operations
import PocketMips.Proofs.Semantics

/-!
# What a run has touched

The registers and words that a processor shows as changed, and the accesses to each word, are those of
the instructions that it has completed since it was at the start of its program. Which instructions
those are is read off the processors that the run went through; a step completes an instruction if it
is counted.

The footprint is a record of what was written and where it was stored, kept in step with the run: a step
that completes an instruction adds what this instruction writes, loads and stores (`footprint_step`),
and any other step adds nothing. The rest is an induction on the number of steps.
-/

namespace PocketMips

/-- The register that an instruction writes. -/
def Instr.dest? : Instr → Option Reg
  | .reg _ rd _ _ => some rd
  | .imm _ dest _ _ => some dest
  | .mem .lw rt _ _ => some rt
  | .mem .sw _ _ _ | .jump _ | .branch .. | .nop | .exit => none

namespace Processor

/-- The index of the word that an instruction addresses, if it accesses the memory in this way. -/
def wordOf? (p : Processor) (op : MemOp) : Instr → Option Nat
  | .mem op' _ base offset =>
    if op' = op then some ((wrap ((p.regs.get base).toInt + offset.toInt)).tdiv 4).toNat else none
  | _ => none

/-- The instruction that the next step completes, if it completes one. -/
def completing? (p : Processor) : Option Instr :=
  if p.step.completed = p.completed then none else p.instrAt p.index

/-- The register that the next step writes. -/
def written? (p : Processor) : Option Reg :=
  p.completing?.bind Instr.dest?

/-- The index of the word that the next step loads, or stores. -/
def accessed? (op : MemOp) (p : Processor) : Option Nat :=
  p.completing?.bind (p.wordOf? op)

/-- The processor before each of the first steps. -/
def before (p : Processor) (steps : Nat) : List Processor :=
  (List.range steps).map fun k => step^[k] p

/-- The registers that the first steps have written, one for each step that writes. -/
def writtenRegs (p : Processor) (steps : Nat) : List Reg :=
  (p.before steps).filterMap written?

/-- The indices of the words that the first steps have loaded, or stored. -/
def accessedWords (p : Processor) (op : MemOp) (steps : Nat) : List Nat :=
  (p.before steps).filterMap (accessed? op)

/-- A processor to which nothing has happened since a reset or since it got its program. -/
inductive Fresh : Processor → Prop where
  | new (config : Config) : Fresh (new config)
  | reset (p : Processor) : Fresh p.reset
  | load (p : Processor) (program : Program) : Fresh (p.load program)

/-- The changes and accesses that a processor shows after some steps are those of the instructions
completed. -/
structure ExactChanges (start : Processor) (steps : Nat) : Prop where
  /-- The registers written, each where it was written first. -/
  regs : (step^[steps] start).changedRegs = (start.writtenRegs steps).eraseDups
  /-- The words stored, each where it was stored first. -/
  words : (step^[steps] start).changedWords = (start.accessedWords .sw steps).eraseDups
  read : ∀ index, ((step^[steps] start).footprint.access index).read = true ↔
    index ∈ start.accessedWords .lw steps
  written : ∀ index, ((step^[steps] start).footprint.access index).written = true ↔
    index ∈ start.accessedWords .sw steps
  /-- A step that ends in any halt but an exit completes nothing, and leaves no trace. -/
  failed : ∀ p ∈ start.before steps, ∀ why, p.step.halt? = some why → why ≠ .exit →
    p.completing? = none ∧ p.step.footprint = p.footprint

end Processor

/-! ### The record -/

namespace Footprint
variable {f : Footprint} {written : List Reg} {loaded stored : List Nat}

/-- The footprint after an instruction that writes a register, or loads or stores a word. -/
def record (f : Footprint) (dest? : Option Reg) (loaded? stored? : Option Nat) : Footprint :=
  let f := loaded?.elim f f.readWord
  let f := stored?.elim f f.writeWord
  dest?.elim f f.writeReg

/-- A footprint shows what was written, loaded and stored. -/
structure Shows (f : Footprint) (written : List Reg) (loaded stored : List Nat) : Prop where
  regs : f.regs.StandsFor (written.map Fin.val)
  words : f.words.StandsFor stored
  read : ∀ index, (f.access index).read = true ↔ index ∈ loaded
  written : ∀ index, (f.access index).written = true ↔ index ∈ stored

namespace Shows

/-- The empty footprint shows that nothing was written, loaded or stored. -/
lemma empty : Footprint.empty.Shows [] [] [] where
  regs := .empty
  words := .empty
  read := by simp [access, Footprint.empty, Access.unused]
  written := by simp [access, Footprint.empty, Access.unused]

/-- A register that is written is shown after the others. -/
lemma writeReg (h : f.Shows written loaded stored) (r : Reg) :
    (f.writeReg r).Shows (written ++ [r]) loaded stored where
  regs := by
    rw [List.map_append, List.map_singleton]
    exact h.regs.insert r.val
  words := h.words
  read := h.read
  written := h.written

/-- A word that is loaded is shown as read, and nothing else changes. -/
lemma readWord (h : f.Shows written loaded stored) (index : Nat) :
    (f.readWord index).Shows written (loaded ++ [index]) stored where
  regs := h.regs
  words := h.words
  read other := by
    rw [access_readWord, List.mem_append, List.mem_singleton, ← h.read]
    by_cases same : index = other
    · simp [same, Access.withRead]
    · simp [same, Ne.symm same]
  written other := by
    rw [access_readWord, ← h.written]
    by_cases same : index = other
    · rw [if_pos same]
      rfl
    · rw [if_neg same]

/-- A word that is stored is shown as written, among the accesses and among the changes. -/
lemma writeWord (h : f.Shows written loaded stored) (index : Nat) :
    (f.writeWord index).Shows written loaded (stored ++ [index]) where
  regs := h.regs
  words := h.words.insert index
  read other := by
    rw [access_writeWord, ← h.read]
    by_cases same : index = other
    · rw [if_pos same]
      rfl
    · rw [if_neg same]
  written other := by
    rw [access_writeWord, List.mem_append, List.mem_singleton, ← h.written]
    by_cases same : index = other
    · simp [same, Access.withWrite]
    · simp [same, Ne.symm same]

/-- The footprint after an instruction shows what it writes, loads and stores, after all from before. -/
lemma record (h : f.Shows written loaded stored) (dest? : Option Reg) (loaded? stored? : Option Nat) :
    (f.record dest? loaded? stored?).Shows (written ++ dest?.toList) (loaded ++ loaded?.toList)
      (stored ++ stored?.toList) := by
  have read : (loaded?.elim f f.readWord).Shows written (loaded ++ loaded?.toList) stored := by
    cases loaded? with
    | none => simpa using h
    | some index => exact h.readWord index
  have wrote : (f.record none loaded? stored?).Shows written (loaded ++ loaded?.toList)
      (stored ++ stored?.toList) := by
    cases stored? with
    | none =>
      rw [Option.toList_none, List.append_nil]
      exact read
    | some index => exact read.writeWord index
  cases dest? with
  | none => simpa using wrote
  | some r => exact wrote.writeReg r

end Shows

end Footprint

/-! ### Steps -/

namespace Processor
variable {p : Processor} {i : Instr} {e : Effect}

/-- An access that succeeds is one to the word that the exact address says. -/
lemma wordOf?_of_wordAt {op : MemOp} {rt base : Reg} {offset : Imm} {index : Nat} {w : Word}
    (h : p.wordAt (p.address base offset) = .ok (index, w)) :
    p.wordOf? op (.mem op rt base offset) = some index := by
  have found := p.wordAt_eq (p.address base offset)
  split at found
  case h_1 =>
    rw [found] at h
    cases h
  case h_2 =>
    obtain ⟨_, -, -, found⟩ := found
    rw [found] at h
    cases h
    rw [toInt_address]
    exact if_pos rfl

/-- What an instruction leaves in the footprint. -/
lemma footprint_apply (h : p.effect i = .ok e) :
    (p.apply e).footprint = p.footprint.record i.dest? (p.wordOf? .lw i) (p.wordOf? .sw i) := by
  cases effecting h with
  | lw looked =>
    rw [wordOf?_of_wordAt looked]
    rfl
  | sw looked =>
    rw [wordOf?_of_wordAt looked]
    rfl
  | _ => rfl

/-- To complete an instruction changes how many are completed. -/
lemma completed_apply (p : Processor) (e : Effect) :
    (p.apply e).complete.completed ≠ p.completed := by
  cases e <;> exact Nat.succ_ne_self _

/-- A step completes no instruction and does nothing but to halt the processor, if it does that; or it
completes one. -/
lemma completing?_cases (p : Processor) :
    (p.completing? = none ∧ (p.step = p ∨ ∃ why, p.step = p.stop why)) ∨
      ∃ i e, p.completing? = some i ∧ p.effect i = .ok e ∧ p.isDone = false ∧
        p.step = (p.apply e).complete := by
  unfold completing?
  have stepping := p.stepping
  generalize p.step = q at stepping ⊢
  cases stepping with
  | still => exact .inl ⟨if_pos rfl, .inl rfl⟩
  | fellOff => exact .inl ⟨if_pos rfl, .inr ⟨_, rfl⟩⟩
  | refused => exact .inl ⟨if_pos rfl, .inr ⟨_, rfl⟩⟩
  | @ran i e going current effect =>
    have instr : p.instrAt p.index = some i.instr := congrArg (Option.map Instruction.instr) current
    exact .inr ⟨i.instr, e, (if_neg (p.completed_apply e)).trans instr, effect, going, rfl⟩

/-- A step adds to the footprint what the instruction that it completes touches. -/
lemma footprint_step (p : Processor) :
    p.step.footprint = p.footprint.record p.written? (p.accessed? .lw) (p.accessed? .sw) := by
  unfold written? accessed?
  obtain ⟨nothing, same | ⟨why, stopped⟩⟩ | ⟨i, e, completing, effect, -, moved⟩ :=
    p.completing?_cases
  · rw [nothing, same]
    rfl
  · rw [nothing, stopped]
    rfl
  · rw [completing, moved]
    exact footprint_apply effect

/-- A step that halts the processor, but not for an exit, completes nothing. -/
lemma completing?_of_halt {why : Halt} (halted : p.step.halt? = some why) (failed : why ≠ .exit) :
    p.completing? = none := by
  obtain ⟨nothing, -⟩ | ⟨i, e, -, -, going, moved⟩ := p.completing?_cases
  · exact nothing
  · rw [moved] at halted
    by_cases leaves : e = .exit
    · subst leaves
      cases halted
      exact absurd rfl failed
    · rw [show (p.apply e).complete.halt? = p.halt? from halt?_apply leaves, halt?_of_going going]
        at halted
      cases halted

/-! ### Runs -/

/-- One step more has one state more before it. -/
lemma before_succ (p : Processor) (n : Nat) : p.before (n + 1) = p.before n ++ [step^[n] p] := by
  unfold before
  rw [List.range_succ, List.map_append, List.map_singleton]

/-- What is gathered from some steps and one more. -/
lemma filterMap_before_succ {α : Type} (f : Processor → Option α) (p : Processor) (n : Nat) :
    (p.before (n + 1)).filterMap f = (p.before n).filterMap f ++ (f (step^[n] p)).toList := by
  rw [before_succ, List.filterMap_append]
  cases h : f (step^[n] p) <;> simp [h]

/-- The footprint after some steps, from an empty one. -/
lemma shows_iterate (empty : p.footprint = .empty) (n : Nat) :
    (step^[n] p).footprint.Shows (p.writtenRegs n) (p.accessedWords .lw n) (p.accessedWords .sw n) := by
  induction n with
  | zero =>
    show p.footprint.Shows [] [] []
    rw [empty]
    exact .empty
  | succ n ih =>
    unfold writtenRegs accessedWords
    rw [Function.iterate_succ_apply', footprint_step, filterMap_before_succ, filterMap_before_succ,
      filterMap_before_succ]
    exact ih.record _ _ _

/-- A fresh processor has an empty footprint. -/
lemma Fresh.footprint {start : Processor} (fresh : start.Fresh) : start.footprint = .empty := by
  cases fresh <;> rfl

/-- What a processor shows as changed and accessed is exact, however far it has got. -/
theorem Fresh.exactChanges {start : Processor} (fresh : start.Fresh) (steps : Nat) :
    start.ExactChanges steps := by
  have shows_ := shows_iterate fresh.footprint steps
  refine ⟨?regs, ?words, shows_.read, shows_.written, ?failed⟩
  case regs =>
    show ((step^[steps] start).footprint.regs.toList.filterMap _) = _
    rw [shows_.regs.order, eraseDups_map (fun _ _ => Fin.eq_of_val_eq), List.filterMap_map]
    -- A slot that was written is that of a register.
    have slots : ((fun slot => if h : slot < 32 then some ⟨slot, h⟩ else none) ∘ Fin.val) =
        (some : Reg → Option Reg) := funext fun r => dif_pos r.isLt
    rw [slots, List.filterMap_some]
  case words => exact shows_.words.order
  case failed =>
    intro p _ why halted failed
    have nothing := completing?_of_halt halted failed
    refine ⟨nothing, ?_⟩
    rw [footprint_step, written?, accessed?, accessed?, nothing]
    rfl

/-- A register written twice, a word loaded and then stored twice without a change of its value, and a
division by zero in the end. -/
theorem exactChanges_of_fault :
    let start := (Processor.new .standard).load (.ofList [
      ⟨[], .imm .addi 0 1 6⟩,
      ⟨[], .mem .lw 8 0 (-6)⟩,
      ⟨[], .mem .sw 1 1 3⟩,
      ⟨[], .imm .subi 0 0 6⟩,
      ⟨[], .mem .sw 0 1 0⟩,
      ⟨[], .reg .div 9 8 1⟩])
    start.Fresh ∧ start.ExactChanges 8 ∧ (step^[8] start).changedRegs = [0, 8] ∧
      (step^[8] start).changedWords = [0] ∧ (step^[8] start).halt? = some .divByZero :=
  have fresh := .load _ _
  ⟨fresh, fresh.exactChanges 8, by decide +kernel, by decide +kernel, by decide +kernel⟩

end Processor

end PocketMips
