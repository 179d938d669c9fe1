import PocketMips.Proofs.Operations
import PocketMips.Proofs.Semantics

/-!
# What a halt reason says

A reason for which a processor has halted can be checked against the state that it has left: against
the instruction at the program counter, the registers and the size of the memory as they are now.
`Halt.TrueOf` is what there is to check, and `Machine.halt_trueOf` says that it holds after any
operations. Only a step halts; so it is enough to see that a step which halts leaves all that its
reason speaks of as it was, and that nothing happens to a processor which has halted.
-/

namespace PocketMips

/-- The number of instructions that addresses of 32 bits can tell apart. -/
def Program.sizeLimit : Nat := 1073741824

/-- What a reason says about the processor that has halted for it. -/
def Halt.TrueOf (p : Processor) : Halt → Prop
  | .exit => 0 < p.index ∧ p.instrAt (p.index - 1) = some .exit
  | .noInstruction address =>
    if 0 ≤ address then address = p.pc.toNat ∧ p.program.size ≤ p.index
    else
      ∃ target : Imm, address = 4 * target.toInt ∧
        (p.instrAt p.index = some (.jump target) ∨
          ∃ rs rt, p.instrAt p.index = some (.branch rs rt target) ∧ p.regs.get rs = p.regs.get rt)
  | .divByZero => ∃ rd rs rt, p.instrAt p.index = some (.reg .div rd rs rt) ∧ p.regs.get rt = 0
  | .badAddress address =>
    ∃ op rt base offset, p.instrAt p.index = some (.mem op rt base offset) ∧
      address = wrap ((p.regs.get base).toInt + offset.toInt) ∧
      (address ≤ -4 ∨ 4 * p.mem.size ≤ address)

namespace Processor
variable {p : Processor} {i : Instr} {why : Halt}

/-! ### Instructions without an effect -/

/-- Why an instruction has no effect. -/
inductive Refusal (p : Processor) : Instr → Halt → Prop where
  | divByZero {rd rs rt} :
    p.regs.get rt = 0 →
    Refusal p (.reg .div rd rs rt) .divByZero
  | badAddress {op rt base offset} :
    (p.address base offset).toInt ≤ -4 ∨ 4 * p.mem.size ≤ (p.address base offset).toInt →
    Refusal p (.mem op rt base offset) (.badAddress (p.address base offset).toInt)
  | jump {target : Imm} :
    target.toInt < 0 →
    Refusal p (.jump target) (.noInstruction (4 * target.toInt))
  | branch {rs rt} {target : Imm} :
    p.regs.get rs = p.regs.get rt →
    target.toInt < 0 →
    Refusal p (.branch rs rt target) (.noInstruction (4 * target.toInt))

/-- A quarter, rounded toward zero, by the rounding to below. -/
lemma tdiv_four (x : Int) : x.tdiv 4 = x / 4 + if 0 ≤ x ∨ 4 ∣ x then 0 else 1 :=
  Int.tdiv_eq_ediv

/-- The word at an address is missing if the address is too low or too high. The addresses just below
zero are those of the first word, which every memory has. -/
lemma wordAt_eq_error {address : Word} (nonempty : 0 < p.mem.size)
    (h : p.wordAt address = .error why) :
    why = .badAddress address.toInt ∧ (address.toInt ≤ -4 ∨ 4 * p.mem.size ≤ address.toInt) := by
  have found := p.wordAt_eq address
  cases looked : p.arch.word? (address.toInt.tdiv 4) with
  | some x =>
    simp only [looked] at found
    obtain ⟨w, -, -, found⟩ := found
    rw [found] at h
    cases h
  | none =>
    simp only [looked] at found
    rw [found] at h
    cases h
    refine ⟨rfl, ?_⟩
    -- Division is toward zero: the three addresses below zero are in the first word, and do not fail.
    have quarter := tdiv_four address.toInt
    unfold Arch.word? at looked
    by_cases negative : address.toInt.tdiv 4 < 0
    · left
      omega
    · right
      rw [if_neg negative] at looked
      have outside : p.mem.size ≤ (address.toInt.tdiv 4).toNat := by
        by_contra inside
        simp [arch, Memory.get?, Nat.not_le.mp inside] at looked
      omega

/-- An instruction has no effect for one of the reasons. -/
lemma refusal (nonempty : 0 < p.mem.size) (h : p.effect i = .error why) : Refusal p i why := by
  cases i with
  | reg op rd rs rt =>
    simp only [effect] at h
    cases result : op.result? (p.regs.get rs) (p.regs.get rt) with
    | some w => simp [result] at h
    | none =>
      obtain ⟨rfl, zero⟩ := RegOp.result?_eq_none_iff.mp result
      simp only [result] at h
      cases h
      exact .divByZero (Int32.toInt_inj.mp zero)
  | imm op dest src value => cases h
  | mem op rt base offset =>
    cases op with
    | lw =>
      obtain ⟨rfl, outside⟩ := wordAt_eq_error nonempty (map_eq_error h)
      exact .badAddress outside
    | sw =>
      obtain ⟨rfl, outside⟩ := wordAt_eq_error nonempty (map_eq_error h)
      exact .badAddress outside
  | jump target =>
    obtain ⟨negative, rfl⟩ := targetAddress_eq_error (map_eq_error h)
    exact .jump negative
  | branch rs rt target =>
    simp only [effect] at h
    by_cases same : p.regs.get rs = p.regs.get rt
    · rw [if_pos same] at h
      obtain ⟨negative, rfl⟩ := targetAddress_eq_error (map_eq_error h)
      exact .branch same negative
    · rw [if_neg same] at h
      cases h
  | nop => cases h
  | exit => cases h

/-- A reason for which an instruction has no effect is true of the processor that is halted for it. -/
lemma Refusal.trueOf (h : Refusal p i why) (current : p.instrAt p.index = some i) :
    why.TrueOf (p.stop why) := by
  cases h with
  | divByZero zero => exact ⟨_, _, _, current, zero⟩
  | badAddress outside =>
    exact ⟨_, _, _, _, current, p.toInt_address _ _, outside⟩
  | jump negative =>
    simp only [Halt.TrueOf]
    rw [if_neg (by omega)]
    exact ⟨_, rfl, .inl current⟩
  | branch same negative =>
    simp only [Halt.TrueOf]
    rw [if_neg (by omega)]
    exact ⟨_, rfl, .inr ⟨_, _, current, same⟩⟩

/-! ### Instructions that complete -/

/-- Only `exit` has the effect of an exit. -/
lemma eq_exit_of_effect (h : p.effect i = .ok .exit) : i = .exit := by
  cases effecting h with
  | exit => rfl

/-- Going on to the next instruction is going on to the next index, unless the address wraps. -/
lemma index_advance (low : p.index + 1 < Program.sizeLimit) : p.advance.index = p.index + 1 := by
  unfold Program.sizeLimit index at *
  simp only [advance, UInt32.toNat_add]
  have : (4 : UInt32).toNat = 4 := rfl
  omega

/-- After an exit, the instruction before the program counter is the one that asked for it. -/
lemma trueOf_exit (small : p.program.size < Program.sizeLimit)
    (current : p.instrAt p.index = some .exit) : Halt.exit.TrueOf (p.apply .exit).complete := by
  have inside : p.index < p.program.size := by
    obtain ⟨_, found, -⟩ := Option.map_eq_some_iff.mp current
    exact (Array.getElem?_eq_some_iff.mp found).1
  have next : (p.apply .exit).complete.index = p.index + 1 := index_advance (by omega)
  simp only [Halt.TrueOf, next]
  exact ⟨Nat.succ_pos _, current⟩

/-! ### Steps -/

/-- The invariant: there is a first word, and a reason is true as long as the program is small enough
for the addresses. -/
structure Truthful (p : Processor) : Prop where
  nonempty : 0 < p.mem.size
  halt : p.program.size < Program.sizeLimit → ∀ why, p.halt? = some why → why.TrueOf p

/-- A processor that has not halted has no reason that could be false. -/
lemma Truthful.of_going (nonempty : 0 < p.mem.size) (going : p.halt? = none) : p.Truthful where
  nonempty := nonempty
  halt _ why halted := by
    rw [going] at halted
    cases halted

/-- A step that halts the processor halts it for a true reason. -/
lemma Truthful.step (h : p.Truthful) : p.step.Truthful where
  nonempty := by
    rw [memSize_step]
    exact h.nonempty
  halt small why halted := by
    rw [program_step] at small
    have stepping := p.stepping
    generalize p.step = q at stepping halted ⊢
    cases stepping with
    | still => exact h.halt small why halted
    | fellOff _ current =>
      cases halted
      have outside : p.program.size ≤ p.index := Array.getElem?_eq_none_iff.mp current
      simp only [Halt.TrueOf]
      rw [if_pos (Int.natCast_nonneg _)]
      exact ⟨rfl, outside⟩
    | refused _ current effect =>
      cases halted
      exact (refusal h.nonempty effect).trueOf (congrArg (Option.map Instruction.instr) current)
    | @ran i e going current effect =>
      have open_ : p.halt? = none := by simpa [isDone] using going
      -- Of all effects, only that of an exit halts the processor.
      by_cases leaves : e = .exit
      · subst leaves
        cases halted
        apply trueOf_exit small
        rw [← eq_exit_of_effect effect]
        exact congrArg (Option.map Instruction.instr) current
      · rw [show (p.apply e).complete.halt? = p.halt? from halt?_apply leaves, open_] at halted
        cases halted

/-- A processor at the start of a program is truthful. -/
lemma truthful_reset (p : Processor) : p.reset.Truthful := by
  refine .of_going ?_ rfl
  simp only [mem_reset, Memory.size_zero, Memory.clampSize, Memory.minSize]
  omega

/-- A reason does not speak of the settings. -/
lemma Truthful.configure (h : p.Truthful) (config : Config) : { p with config }.Truthful where
  nonempty := h.nonempty
  halt small why halted := by
    have true_ := h.halt small why halted
    cases why with
    | _ => exact true_

end Processor

/-- Whatever was done with a machine, a reason for which its processor has halted is true, if its
program is small enough for the addresses. -/
theorem Machine.halt_trueOf {config : Config} {threshold : Option Level} {ops : List Operation}
    {why : Halt}
    (small : ((new config threshold).performAll ops).cpu.program.size < Program.sizeLimit)
    (halted : ((new config threshold).performAll ops).cpu.halt? = some why) :
    why.TrueOf ((new config threshold).performAll ops).cpu := by
  have truthful : ((new config threshold).performAll ops).cpu.Truthful := by
    apply performAll_induction
    case start =>
      show (Processor.new config).Truthful
      rw [← Processor.reset_new]
      exact Processor.truthful_reset _
    case load => exact fun p program _ => Processor.truthful_reset { p with program }
    case step => exact fun p h => h.step
    case reset => exact fun p _ => p.truthful_reset
    case config => exact fun p config h => h.configure config
  exact truthful.halt small why halted

/-- The first word beyond the memory, the size of which was changed without a reset. -/
theorem Machine.halt_trueOf_beyond_memory :
    let program := .ofList [
      ⟨[], .imm .addi 8 0 16384⟩,
      ⟨[], .mem .lw 9 8 0⟩]
    let m := (new .standard none).performAll [.load program, .step, .setMemWords 8192, .run 5]
    m.cpu.program.size < Program.sizeLimit ∧ m.cpu.halt? = some (.badAddress 16384) ∧
      (Halt.badAddress 16384).TrueOf m.cpu :=
  have small := by decide +kernel
  have halted := by decide +kernel
  ⟨small, halted, halt_trueOf small halted⟩

end PocketMips
