import PocketMips.Proofs.ChangeTracking

/-!
# The instructions that a run looks at

A run depends on the program only through the instructions that it comes to. Which ones these are is not
known beforehand, as the run itself decides where it goes on; so they are read off the run of one program,
and another program that has the same instructions there runs alike (`Processor.DependsOnFetches`).

Alike means that nothing but the program is different in the end. A step reads one decoded instruction and no
other part of the program (`step_eq_instrAt`), so to put in another program commutes with a step, as long as
this one instruction is the same.
-/

namespace PocketMips

namespace Processor
variable {p q : Processor} {code : Program}

/-- The indices at which the first steps look for an instruction. A processor that has halted looks for
none. -/
def fetches (p : Processor) (steps : Nat) : List Nat :=
  ((p.before steps).filter (!·.isDone)).map index

/-- The processor with another program, and nothing else changed. -/
def withProgram (p : Processor) (code : Program) : Processor :=
  { p with program := code }

/-- What the first steps from the start of a program depend on, besides the settings. -/
structure DependsOnFetches (p : Processor) (steps : Nat) : Prop where
  /-- On the instructions at the indices where one is looked for, and on whether there is one. -/
  alike : ∀ q : Processor, q.config = p.config →
    (∀ index ∈ p.reset.fetches steps, q.instrAt index = p.instrAt index) →
    step^[steps] q.reset = (step^[steps] p.reset).withProgram q.program
  /-- Not on the sources of the instructions. -/
  sourceless : ∀ q : Processor, q.config = p.config →
    q.program.instrs.map Instruction.instr = p.program.instrs.map Instruction.instr →
    step^[steps] q.reset = (step^[steps] p.reset).withProgram q.program
  /-- Not on what comes after the program, if no instruction is looked for beyond its end. -/
  extended : ∀ more : Array Instruction,
    (∀ index ∈ p.reset.fetches steps, index < p.program.size) →
    step^[steps] (p.load ⟨p.program.instrs ++ more⟩) =
      (step^[steps] p.reset).withProgram ⟨p.program.instrs ++ more⟩

/-! ### Steps -/

/-- A step sees the decoded instruction at the program counter, and nothing else of the program. -/
lemma step_eq_instrAt (p : Processor) :
    p.step =
      if p.isDone then p
      else
        match p.instrAt p.index with
        | none => p.stop (.noInstruction p.pc.toNat)
        | some i =>
          match p.effect i with
          | .error why => p.stop why
          | .ok e => (p.apply e).complete := by
  rw [step_eq_apply]
  unfold instrAt current?
  cases p.program.get? p.index <;> rfl

/-- The effect of an instruction does not depend on the program it stands in. -/
lemma effect_withProgram (p : Processor) (code : Program) (i : Instr) :
    (p.withProgram code).effect i = p.effect i := by
  cases i with
  | mem op rt base offset => cases op <;> rfl
  | _ => rfl

/-- What an effect does is the same with any program. -/
lemma apply_withProgram (p : Processor) (code : Program) (e : Effect) :
    (p.withProgram code).apply e = (p.apply e).withProgram code := by
  cases e <;> rfl

/-- A step with another program is the step itself, if both have the same instruction at the program
counter. -/
lemma step_withProgram
    (same : p.isDone = false → (p.withProgram code).instrAt p.index = p.instrAt p.index) :
    (p.withProgram code).step = p.step.withProgram code := by
  have isDone : (p.withProgram code).isDone = p.isDone := rfl
  have index : (p.withProgram code).index = p.index := rfl
  rw [step_eq_instrAt, step_eq_instrAt, isDone, index]
  cases done : p.isDone with
  | true => rfl
  | false =>
    rw [same done]
    cases p.instrAt p.index with
    | none => rfl
    | some i =>
      simp only [effect_withProgram, apply_withProgram]
      cases p.effect i <;> rfl

/-! ### Runs -/

/-- The index before each step of a run is among its fetches. -/
lemma mem_fetches {steps k : Nat} (before : k < steps) (going : (step^[k] p).isDone = false) :
    (step^[k] p).index ∈ p.fetches steps := by
  refine List.mem_map_of_mem (List.mem_filter.mpr ⟨?_, by simp [going]⟩)
  exact List.mem_map_of_mem (List.mem_range.mpr before)

/-- Steps with another program are the steps themselves, if both have the same instructions at the indices
where one is looked for. -/
lemma iterate_withProgram {steps : Nat}
    (same : ∀ index ∈ p.fetches steps, (p.withProgram code).instrAt index = p.instrAt index) :
    step^[steps] (p.withProgram code) = (step^[steps] p).withProgram code := by
  -- Up to each of the steps, all indices are among those of the whole run.
  suffices ∀ k ≤ steps, step^[k] (p.withProgram code) = (step^[k] p).withProgram code from
    this steps (Nat.le_refl steps)
  intro k le
  induction k with
  | zero => rfl
  | succ k ih =>
    rw [Function.iterate_succ_apply', Function.iterate_succ_apply', ih (Nat.le_of_lt le)]
    apply step_withProgram
    intro going
    have program := p.iterate_keeps program_step k
    have here := same _ (mem_fetches le going)
    unfold instrAt at here ⊢
    rw [program]
    exact here

/-- At the start of a program, only the program is its own. -/
lemma reset_withProgram (config : q.config = p.config) :
    q.reset = p.reset.withProgram q.program := by
  unfold reset withProgram
  rw [Memory.renew_eq, Memory.renew_eq, config]

/-- From the start, two programs run alike that have the same instructions where one is looked for. -/
lemma iterate_reset_of_fetches {steps : Nat} (config : q.config = p.config)
    (same : ∀ index ∈ p.reset.fetches steps, q.instrAt index = p.instrAt index) :
    step^[steps] q.reset = (step^[steps] p.reset).withProgram q.program := by
  rw [reset_withProgram config]
  exact iterate_withProgram same

/-- Whatever its program, its settings and its past are, what a processor does from the start depends on the
instructions that it comes to, and on nothing else of the program. -/
theorem dependsOnFetches (p : Processor) (steps : Nat) : p.DependsOnFetches steps where
  alike _ config same := iterate_reset_of_fetches config same
  sourceless q config decoded := by
    apply iterate_reset_of_fetches config
    intro index _
    have here := congrArg (·[index]?) decoded
    simp only [Array.getElem?_map] at here
    exact here
  extended more inside := by
    refine iterate_reset_of_fetches (p := p) (q := p.withProgram ⟨p.program.instrs ++ more⟩) rfl ?_
    intro index mem
    exact congrArg (Option.map Instruction.instr) (Array.getElem?_append_left (inside index mem))

/-- A run that comes to the end of its program does depend on what is put there. -/
example :
    let p := Processor.new .standard
    p.fetches 2 = [0] ∧ p.step.completed = 0 ∧
      (p.load ⟨p.program.instrs ++ #[⟨[], .nop⟩]⟩).step.completed = 1 := by
  decide +kernel

end Processor

end PocketMips
