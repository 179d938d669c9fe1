import PocketMips.Proofs.Records

/-!
# The size of the memory

A program that gets along with a memory runs in the same way with a larger one, and what it has more of
stays zero. `Processor.Extends` is the agreement of the two processors. A word that the smaller memory has
is the same in the larger one, so an instruction that completes has the same effect on both; and one that
fails fails for the same reason, unless it fails for an address that the smaller memory lacks. That is the
one case in which a step does not keep the agreement (`Extends.step`), and since a processor that has halted
does not move any more, it is enough that this is not how the run ends.
-/

namespace PocketMips

namespace Memory
variable {small large : Memory}

/-- The second memory has the words of the first one, and zeros beyond. -/
structure Extends (small large : Memory) : Prop where
  size_le : small.size ≤ large.size
  words : ∀ index < small.size, large.get? index = small.get? index
  zeros : ∀ index, small.size ≤ index → index < large.size → large.get? index = some 0

/-- Who asks for more words does not get fewer. -/
lemma clampSize_mono {m m' : Nat} (le : m ≤ m') : clampSize m ≤ clampSize m' := by
  unfold clampSize
  omega

/-- A new memory extends one for which fewer words were asked. -/
lemma extends_zero {m m' : Nat} (le : m ≤ m') : Extends (zero m) (zero m') where
  size_le := clampSize_mono le
  words index lt := by
    rw [size_zero] at lt
    have lt' : index < clampSize m' := Nat.lt_of_lt_of_le lt (clampSize_mono le)
    rw [get?_zero, get?_zero, if_pos lt', if_pos lt]
  zeros index _ lt := by
    rw [get?_zero]
    exact if_pos lt

namespace Extends

/-- A word that the first memory has is the same in the second one. -/
lemma get? (h : Extends small large) {index : Nat} {w : Word} (found : small.get? index = some w) :
    large.get? index = some w :=
  (h.words index (lt_size_of_get? found)).trans found

/-- A word that both memories have may be set in both. -/
lemma set (h : Extends small large) {index : Nat} (lt : index < small.size) (w : Word) :
    Extends (small.set index w) (large.set index w) where
  size_le := h.size_le
  words other inside := by
    have lt' : index < large.size := Nat.lt_of_lt_of_le lt h.size_le
    simp only [get?_set, lt, lt', h.words other inside]
  zeros other above inside := by
    have apart : index ≠ other := Nat.ne_of_lt (Nat.lt_of_lt_of_le lt above)
    rw [get?_set, if_neg fun same => apart same.1]
    exact h.zeros other above inside

end Extends

end Memory

namespace Processor
variable {p q : Processor}

/-- The second processor is the first one with a memory that is as large or larger. -/
structure Extends (p q : Processor) : Prop where
  program : q.program = p.program
  pc : q.pc = p.pc
  regs : q.regs = p.regs
  mem : p.mem.Extends q.mem
  footprint : q.footprint = p.footprint
  halt : q.halt? = p.halt?
  completed : q.completed = p.completed

namespace Extends

/-! ### What an instruction finds -/

/-- Both processors have halted or neither has. -/
lemma isDone (h : p.Extends q) : q.isDone = p.isDone :=
  congrArg Option.isSome h.halt

/-- Both processors are at the same instruction. -/
lemma current (h : p.Extends q) : q.current? = p.current? := by
  unfold current? index
  rw [h.program, h.pc]

/-- An access has the same address on both processors. -/
lemma address (h : p.Extends q) (base : Reg) (offset : Imm) :
    q.address base offset = p.address base offset := by
  unfold Processor.address
  rw [h.regs]

/-- What is found at an address is found there in the larger memory too. -/
lemma wordAt (h : p.Extends q) {address : Word}
    (sound : ∀ a, p.wordAt address ≠ .error (.badAddress a)) : q.wordAt address = p.wordAt address := by
  cases found : p.wordAt address with
  | error why =>
    cases why_of_wordAt found
    exact absurd found (sound _)
  | ok place =>
    obtain ⟨index, w⟩ := place
    obtain ⟨aims, word⟩ := wordAt_eq_ok_iff.1 found
    exact wordAt_eq_ok_iff.2 ⟨aims, h.mem.get? word⟩

/-- An instruction has the same effect, or fails for the same reason, if the reason is not an address that
the first memory lacks. -/
lemma effect (h : p.Extends q) {i : Instr} (sound : ∀ a, p.effect i ≠ .error (.badAddress a)) :
    q.effect i = p.effect i := by
  cases i with
  | mem op rt base offset =>
    have sound' : ∀ a, p.wordAt (p.address base offset) ≠ .error (.badAddress a) := by
      intro a bad
      apply sound a
      cases op <;> simp only [Processor.effect, bad] <;> rfl
    cases op with
    | lw => simp only [Processor.effect, h.address, h.wordAt sound']
    | sw => simp only [Processor.effect, h.address, h.wordAt sound', h.regs]
  | reg op rd rs rt => simp only [Processor.effect, h.regs]
  | imm op dest src value => simp only [Processor.effect, h.regs]
  | branch rs rt target => simp only [Processor.effect, h.regs]
  | jump target => rfl
  | nop => rfl
  | exit => rfl

/-! ### What an effect does -/

/-- Both processors go on to the next instruction. -/
lemma advance (h : p.Extends q) : p.advance.Extends q.advance :=
  { h with pc := congrArg (· + 4) h.pc }

/-- Both processors go to the same address. -/
lemma goto (h : p.Extends q) (address : UInt32) :
    Extends { p with pc := address } { q with pc := address } :=
  { h with pc := rfl }

/-- Both processors stop for the same reason. -/
lemma stop (h : p.Extends q) (why : Halt) : (p.stop why).Extends (q.stop why) :=
  { h with halt := rfl }

/-- Both processors complete an instruction. -/
lemma complete (h : p.Extends q) : p.complete.Extends q.complete :=
  { h with completed := congrArg (· + 1) h.completed }

/-- The same register is written on both processors. -/
lemma writeReg (h : p.Extends q) (r : Reg) (w : Word) : (p.writeReg r w).Extends (q.writeReg r w) :=
  { h with
    regs := congrArg (·.set r w) h.regs
    footprint := congrArg (·.writeReg r) h.footprint }

/-- The same word is recorded as loaded on both processors. -/
lemma readWord (h : p.Extends q) (index : Nat) : (p.readWord index).Extends (q.readWord index) :=
  { h with footprint := congrArg (·.readWord index) h.footprint }

/-- A word that the smaller memory has is stored in both. -/
lemma writeWord (h : p.Extends q) {index : Nat} (lt : index < p.mem.size) (w : Word) :
    (p.writeWord index w).Extends (q.writeWord index w) :=
  { h with
    mem := h.mem.set lt w
    footprint := congrArg (·.writeWord index) h.footprint }

/-- The effect of an instruction keeps the agreement, as it stores only words that the first memory has. -/
lemma apply (h : p.Extends q) {i : Instr} {e : Effect} (effect : p.effect i = .ok e) :
    (p.apply e).Extends (q.apply e) := by
  cases e with
  | write r w => exact (h.writeReg r w).advance
  | load r index w => exact ((h.readWord index).writeReg r w).advance
  | store index w => exact (h.writeWord (lt_size_of_store effect) w).advance
  | goto address => exact h.goto address
  | pass => exact h.advance
  | exit => exact h.advance.stop .exit

/-! ### Runs -/

/-- A step keeps the agreement, unless it ends with an address that the first memory lacks. -/
lemma step (h : p.Extends q) (sound : ∀ a, p.step.halt? ≠ some (.badAddress a)) :
    p.step.Extends q.step := by
  rw [step_eq_apply] at sound ⊢
  rw [step_eq_apply, h.isDone]
  by_cases d : p.isDone = true
  · rw [if_pos d, if_pos d]
    exact h
  · rw [if_neg d] at sound ⊢
    rw [if_neg d, h.current, h.pc]
    cases current : p.current? with
    | none => exact h.stop _
    | some i =>
      have same : q.effect i.instr = p.effect i.instr := by
        apply h.effect
        intro a bad
        apply sound a
        simp only [current, bad]
        rfl
      simp only [same]
      cases effect : p.effect i.instr with
      | error why => exact h.stop why
      | ok e => exact (h.apply effect).complete

/-- A run keeps the agreement, if it does not end with an address that the first memory lacks. -/
lemma iterate (h : p.Extends q) {n : Nat}
    (sound : ∀ a, (Processor.step^[n] p).halt? ≠ some (.badAddress a)) :
    (Processor.step^[n] p).Extends (Processor.step^[n] q) := by
  induction n with
  | zero => exact h
  | succ n ih =>
    rw [Function.iterate_succ_apply'] at sound
    rw [Function.iterate_succ_apply', Function.iterate_succ_apply']
    refine (ih fun a bad => ?_).step sound
    -- A processor that had halted so would still be where it is.
    apply sound a
    rw [step_of_done (congrArg Option.isSome bad)]
    exact bad

end Extends

/-- At the start of a program, the size of the memory is the only difference. -/
lemma extends_reset (p : Processor) {m m' : Nat} (le : m ≤ m') :
    Extends { p with config := ⟨m⟩ }.reset { p with config := ⟨m'⟩ }.reset where
  program := rfl
  pc := rfl
  regs := rfl
  mem := by
    rw [mem_reset, mem_reset]
    exact Memory.extends_zero le
  footprint := rfl
  halt := rfl
  completed := rfl

/-- Whatever the program is, if its first steps do not end with an address that the memory lacks, then they
are the same with a larger memory. -/
theorem extends_iterate_reset (p : Processor) {m m' n : Nat} (le : m ≤ m')
    (sound : ∀ a, (step^[n] { p with config := ⟨m⟩ }.reset).halt? ≠ some (.badAddress a)) :
    Extends (step^[n] { p with config := ⟨m⟩ }.reset) (step^[n] { p with config := ⟨m'⟩ }.reset) :=
  (extends_reset p le).iterate sound

/-- The last word of the smaller memory is stored and loaded, and a division by zero ends the run. -/
theorem extends_iterate_of_fault :
    let p := (new .standard).load (.ofList [
      ⟨[], .imm .addi 8 0 16383⟩,
      ⟨[], .mem .sw 8 8 0⟩,
      ⟨[], .mem .lw 9 8 (-3)⟩,
      ⟨[], .reg .div 9 8 0⟩])
    10 ≤ 5000 ∧
      (∀ a, (step^[6] { p with config := ⟨10⟩ }.reset).halt? ≠ some (.badAddress a)) ∧
      Extends (step^[6] { p with config := ⟨10⟩ }.reset) (step^[6] { p with config := ⟨5000⟩ }.reset) ∧
      (step^[6] { p with config := ⟨10⟩ }.reset).changedWords = [4095] := by
  intro p
  have ends : (step^[6] { p with config := ⟨10⟩ }.reset).halt? = some .divByZero := by decide +kernel
  have sound : ∀ a, (step^[6] { p with config := ⟨10⟩ }.reset).halt? ≠ some (.badAddress a) := by
    intro a
    rw [ends]
    nofun
  have le : 10 ≤ 5000 := by decide
  exact ⟨le, sound, extends_iterate_reset p le sound, by decide +kernel⟩

end Processor

end PocketMips
