import Mathlib.Tactic.Lemma
import PocketMips.Processor

/-!
# Effects

An instruction is run in place, one change after the other. Seen as a whole it has an effect, or a reason
why it has none: the state before it decides which, and all changes are those of the effect. So an
instruction that fails has changed nothing on the way, although nothing is taken back when it does. Only an
exit, which halts too, has moved on before.

The main statement is `Processor.step_eq_apply`, and what is said of steps elsewhere is said of effects.
-/

namespace PocketMips

/-- What an instruction does that completes, besides going on to the next one. -/
inductive Effect where
  /-- Writes a word into a register. -/
  | write (r : Reg) (w : Word)
  /-- Reads a word of memory and writes it into a register. -/
  | load (r : Reg) (index : Nat) (w : Word)
  /-- Writes a word into memory. -/
  | store (index : Nat) (w : Word)
  /-- Goes to an address instead of the next instruction. -/
  | goto (address : UInt32)
  /-- Does nothing. -/
  | pass
  /-- Halts the processor. -/
  | exit
  deriving DecidableEq, Repr

namespace Processor

/-- The index of the word at a byte address, and the word. -/
def wordAt (p : Processor) (address : Word) : Except Halt (Nat × Word) := do
  let index ← wordIndex address
  match p.mem.get? index with
  | none => throw (.badAddress address.toInt)
  | some w => return (index, w)

/-- The effect of an instruction that completes, or the reason why it does not. -/
def effect (p : Processor) : Instr → Except Halt Effect
  | .reg op rd rs rt =>
    match op.result? (p.regs.get rs) (p.regs.get rt) with
    | none => .error .divByZero
    | some w => .ok (.write rd w)
  | .imm op dest src value => .ok (.write dest (op.result (p.regs.get src) (value.toInt32)))
  | .mem .lw rt base offset =>
    (p.wordAt (p.address base offset)).map fun (index, w) => .load rt index w
  | .mem .sw rt base offset =>
    (p.wordAt (p.address base offset)).map fun (index, _) => .store index (p.regs.get rt)
  | .jump target => (targetAddress target).map .goto
  | .branch rs rt target =>
    if p.regs.get rs = p.regs.get rt then (targetAddress target).map .goto else .ok .pass
  | .nop => .ok .pass
  | .exit => .ok .exit

/-- The processor with another word in its memory. -/
def writeWord (p : Processor) (index : Nat) (w : Word) : Processor :=
  { p with mem := p.mem.set index w, footprint := p.footprint.writeWord index }

/-- The processor after an effect. -/
def apply (p : Processor) : Effect → Processor
  | .write r w => (p.writeReg r w).advance
  | .load r index w => ((p.readWord index).writeReg r w).advance
  | .store index w => (p.writeWord index w).advance
  | .goto address => { p with pc := address }
  | .pass => p.advance
  | .exit => p.advance.stop .exit

variable {p : Processor} {why : Halt}

/-- What an instruction that completes does. -/
inductive Effecting (p : Processor) : Instr → Effect → Prop where
  | reg {op rd rs rt w} :
    op.result? (p.regs.get rs) (p.regs.get rt) = some w →
    Effecting p (.reg op rd rs rt) (.write rd w)
  | imm {op dest src value} :
    Effecting p (.imm op dest src value) (.write dest (op.result (p.regs.get src) value.toInt32))
  | lw {rt base offset index w} :
    p.wordAt (p.address base offset) = .ok (index, w) →
    Effecting p (.mem .lw rt base offset) (.load rt index w)
  | sw {rt base offset index w} :
    p.wordAt (p.address base offset) = .ok (index, w) →
    Effecting p (.mem .sw rt base offset) (.store index (p.regs.get rt))
  | jump {target address} :
    targetAddress target = .ok address →
    Effecting p (.jump target) (.goto address)
  | taken {rs rt target address} :
    p.regs.get rs = p.regs.get rt →
    targetAddress target = .ok address →
    Effecting p (.branch rs rt target) (.goto address)
  | passed {rs rt target} :
    p.regs.get rs ≠ p.regs.get rt →
    Effecting p (.branch rs rt target) .pass
  | nop : Effecting p .nop .pass
  | exit : Effecting p .exit .exit

/-- An effect is one of those that the instruction can have. -/
lemma effecting {i : Instr} {e : Effect} (h : p.effect i = .ok e) : Effecting p i e := by
  cases i with
  | reg op rd rs rt =>
    cases result : op.result? (p.regs.get rs) (p.regs.get rt) with
    | none => simp [effect, result] at h
    | some w =>
      simp only [effect, result] at h
      cases h
      exact .reg result
  | imm op dest src value =>
    cases h
    exact .imm
  | mem op rt base offset =>
    cases looked : p.wordAt (p.address base offset) with
    | error why => cases op <;> simp [effect, looked, Except.map] at h
    | ok found =>
      cases op with
      | lw =>
        simp only [effect, looked] at h
        cases h
        exact .lw looked
      | sw =>
        simp only [effect, looked] at h
        cases h
        exact .sw looked
  | jump target =>
    cases aim : targetAddress target with
    | error why => simp [effect, aim, Except.map] at h
    | ok address =>
      simp only [effect, aim] at h
      cases h
      exact .jump aim
  | branch rs rt target =>
    by_cases same : p.regs.get rs = p.regs.get rt
    · cases aim : targetAddress target with
      | error why => simp [effect, same, aim, Except.map] at h
      | ok address =>
        simp only [effect, if_pos same, aim] at h
        cases h
        exact .taken same aim
    · simp only [effect, if_neg same] at h
      cases h
      exact .passed same
  | nop =>
    cases h
    exact .nop
  | exit =>
    cases h
    exact .exit

/-! ### Refusals -/

/-- There is only one reason not to find a word. -/
lemma why_of_wordAt {address : Word} (h : p.wordAt address = .error why) :
    why = .badAddress address.toInt := by
  unfold wordAt wordIndex at h
  by_cases negative : address.toInt.tdiv 4 < 0
  · simp only [if_pos negative] at h
    cases h
    rfl
  · cases word : p.mem.get? (address.toInt.tdiv 4).toNat with
    | none =>
      simp only [if_neg negative, bind, Except.bind, word] at h
      cases h
      rfl
    | some w =>
      simp only [if_neg negative, bind, Except.bind, word] at h
      cases h

/-- Only a negative target is refused, and the halt tells its address. -/
lemma targetAddress_eq_error {target : Imm} (h : targetAddress target = .error why) :
    target.toInt < 0 ∧ why = .noInstruction (4 * target.toInt) := by
  unfold targetAddress at h
  by_cases negative : 4 * target.toInt < 0
  · simp only [if_pos negative] at h
    cases h
    exact ⟨by omega, rfl⟩
  · simp only [if_neg negative] at h
    cases h

/-- What is done with a result does not change why there is none. -/
lemma map_eq_error {α β : Type} {x : Except Halt α} {f : α → β} (h : x.map f = .error why) :
    x = .error why := by
  cases x with
  | error e =>
    cases h
    rfl
  | ok a => cases h

/-- Whoever cannot complete an instruction does not exit by it. -/
lemma ne_exit_of_effect {i : Instr} (h : p.effect i = .error why) : why ≠ .exit := by
  rintro rfl
  cases i with
  | reg op rd rs rt =>
    simp only [effect] at h
    cases result : op.result? (p.regs.get rs) (p.regs.get rt) with
    | none => simp [result] at h
    | some w => simp [result] at h
  | imm op dest src value => cases h
  | mem op rt base offset =>
    cases op with
    | lw => cases why_of_wordAt (map_eq_error h)
    | sw => cases why_of_wordAt (map_eq_error h)
  | jump target => cases (targetAddress_eq_error (map_eq_error h)).2
  | branch rs rt target =>
    simp only [effect] at h
    split at h
    · cases (targetAddress_eq_error (map_eq_error h)).2
    · cases h
  | nop => cases h
  | exit => cases h

/-! ### Running in place -/

/-- What comes of running an instruction in place, told from its effect. An exit has moved on when it fails,
any other failure leaves the processor as it was. -/
def outcome (p : Processor) : Except Halt Effect → EStateM.Result Halt Processor Unit
  | .error why => .error why p
  | .ok .exit => .error .exit p.advance
  | .ok e => .ok () (p.apply e)

/-- What looks at the processor first finds it as it is. -/
lemma run_get {α : Type} (f : Processor → EStateM Halt Processor α) (p : Processor) :
    (get >>= f).run p = (f p).run p := rfl

/-- What needs a result fails with it, or goes on. -/
lemma run_ofExcept {α β : Type} (x : Except Halt α) (f : α → EStateM Halt Processor β) (p : Processor) :
    (MonadExcept.ofExcept x >>= f).run p =
      match x with
      | .error why => .error why p
      | .ok a => (f a).run p := by
  cases x <;> rfl

/-- A jump goes to its target, if there is one. -/
lemma run_jump (p : Processor) (target : Imm) :
    (execute (.jump target)).run p = p.outcome ((targetAddress target).map .goto) := by
  simp only [execute]
  rw [run_ofExcept]
  cases targetAddress target <;> rfl

/-- A load reads its word before anything is written. -/
lemma run_lw (p : Processor) (rt base : Reg) (offset : Imm) :
    (execute (.mem .lw rt base offset)).run p = p.outcome (p.effect (.mem .lw rt base offset)) := by
  simp only [execute, effect, wordAt]
  rw [run_get, run_ofExcept]
  cases wordIndex (p.address base offset) with
  | error why => rfl
  | ok index =>
    simp only [bind, Except.bind]
    cases p.mem.get? index <;> rfl

/-- A store fails before anything is written if the word that it would replace is not there. -/
lemma run_sw (p : Processor) (rt base : Reg) (offset : Imm) :
    (execute (.mem .sw rt base offset)).run p = p.outcome (p.effect (.mem .sw rt base offset)) := by
  simp only [execute, effect, wordAt, Memory.set?_eq_map]
  rw [run_get, run_ofExcept]
  cases wordIndex (p.address base offset) with
  | error why => rfl
  | ok index =>
    simp only [bind, Except.bind]
    cases p.mem.get? index <;> rfl

/-- An instruction that is run in place has its effect, or it has none and changes nothing. -/
lemma run_execute (p : Processor) (i : Instr) : (execute i).run p = p.outcome (p.effect i) := by
  cases i with
  | reg op rd rs rt =>
    simp only [execute, effect]
    rw [run_get]
    cases op.result? (p.regs.get rs) (p.regs.get rt) <;> rfl
  | imm op dest src value => rfl
  | mem op rt base offset =>
    cases op with
    | lw => exact p.run_lw rt base offset
    | sw => exact p.run_sw rt base offset
  | jump target => exact p.run_jump target
  | branch rs rt target =>
    simp only [execute, effect]
    rw [run_get]
    split
    case isTrue => exact p.run_jump target
    case isFalse => rfl
  | nop => rfl
  | exit => rfl

/-- A step in place is a step by effects: the instruction at the program counter completes with its effect, or
the processor halts and nothing else is changed. -/
theorem step_eq_apply (p : Processor) :
    p.step =
      if p.isDone then p
      else
        match p.current? with
        | none => p.stop (.noInstruction p.pc.toNat)
        | some i =>
          match p.effect i.instr with
          | .error why => p.stop why
          | .ok e => (p.apply e).complete := by
  unfold step executeNext
  rw [run_get]
  split
  case isTrue => rfl
  case isFalse =>
    cases p.current? with
    | none => rfl
    | some i =>
      simp only [run_execute]
      cases failed : p.effect i.instr with
      | error why =>
        show (if why = .exit then p.complete else p).stop why = p.stop why
        rw [if_neg (ne_exit_of_effect failed)]
      | ok e => cases e <;> rfl

end Processor

end PocketMips
