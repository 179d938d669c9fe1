import PocketMips.Proofs.ChangeView
import PocketMips.Proofs.HaltReasons

/-!
# The program counter

Where the program counter can be. It is always the address of an index; and in a program that is small
enough for the addresses it is never beyond both the end of the program and the reach of the largest
target. This is an invariant of the operations, since the processor goes on to the next instruction only
from one that the program has. So no address that is ever computed wraps.

A program without jumps and branches goes through its instructions one by one, and has halted when there
is none left.
-/

namespace PocketMips

/-- The program has no jumps and no branches. -/
def Program.Straight (code : Program) : Prop :=
  ∀ i ∈ code.toList, i.instr.category ≠ .jump ∧ i.instr.category ≠ .branch

namespace Processor
variable {p : Processor} {i : Instr} {e : Effect}

/-- Where the program counter is. -/
structure OnCourse (p : Processor) : Prop where
  /-- It is the address of an index. -/
  aligned : 4 ∣ p.pc.toNat
  /-- It is not beyond both the end of the program and the reach of the largest target. -/
  bounded : p.program.size < Program.sizeLimit → p.pc.toNat ≤ 4 * max p.program.size 32767

/-- What follows from where the program counter is. -/
structure NeverWraps (p : Processor) : Prop extends OnCourse p where
  /-- The address after an instruction does not wrap. -/
  next : p.program.size < Program.sizeLimit → p.current?.isSome →
    p.pc.toNat + 4 < UInt32.size ∧ p.advance.pc.toNat = p.pc.toNat + 4
  /-- The address of a target does not wrap either. -/
  targets : ∀ target : Imm, 0 ≤ target.toInt → 4 * target.toInt < UInt32.size ∧
    ∃ address, targetAddress target = .ok address ∧ address.toNat = 4 * target.toInt
  /-- Without jumps and branches, the program halts soon after a reset. -/
  halts : p.program.size < Program.sizeLimit → p.program.Straight →
    ∃ k ≤ p.program.size + 1, (step^[k] p.reset).isDone

/-! ### Addresses -/

/-- The address after an instruction wraps at the end of all addresses. -/
lemma toNat_add_four (address : UInt32) :
    (address + 4).toNat = (address.toNat + 4) % UInt32.size :=
  UInt32.toNat_add address 4

/-- Where there is an address for a target, it is the exact one. -/
lemma toNat_of_targetAddress {target : Imm} {address : UInt32}
    (h : targetAddress target = .ok address) : address.toNat = 4 * target.toInt := by
  have high := target.toInt_lt
  unfold targetAddress at h
  by_cases negative : 4 * target.toInt < 0
  · simp only [if_pos negative] at h
    cases h
  · have fits : (4 * target.toInt).toNat < UInt32.size := by
      simp only [UInt32.size]
      omega
    simp only [if_neg negative] at h
    cases h
    rw [UInt32.toNat_ofNat_of_lt' fits]
    omega

/-- A target that is not negative has an address. -/
lemma exists_targetAddress {target : Imm} (above : 0 ≤ target.toInt) :
    ∃ address, targetAddress target = .ok address := by
  unfold targetAddress
  exact ⟨_, if_neg (by omega)⟩

/-- An effect goes to an address or on to the next instruction. -/
lemma pc_apply (p : Processor) (e : Effect) :
    (∃ address, e = .goto address ∧ (p.apply e).pc = address) ∨
      (p.apply e).pc = p.pc + 4 := by
  cases e with
  | goto address => exact .inl ⟨address, rfl, rfl⟩
  | _ => exact .inr rfl

/-- Only a jump or a branch goes to an address, which is that of a target. -/
lemma target_of_goto {address : UInt32} (h : p.effect i = .ok (.goto address)) :
    (i.category = .jump ∨ i.category = .branch) ∧
      ∃ target : Imm, targetAddress target = .ok address := by
  cases effecting h with
  | jump aim => exact ⟨.inl rfl, _, aim⟩
  | taken _ aim => exact ⟨.inr rfl, _, aim⟩

/-- An instruction that is fetched is one of the program. -/
lemma inside_of_current {i : Instruction} (current : p.current? = some i) :
    p.index < p.program.size ∧ i ∈ p.program.toList := by
  obtain ⟨inside, there⟩ := Array.getElem?_eq_some_iff.mp current
  refine ⟨inside, ?_⟩
  rw [← there]
  exact Array.mem_toList_iff.mpr (Array.getElem_mem inside)

/-! ### The invariant -/

namespace OnCourse

/-- The start of a program is on course. -/
lemma of_zero (zero : p.pc = 0) : p.OnCourse where
  aligned := by
    rw [zero]
    exact Nat.dvd_zero 4
  bounded _ := by
    rw [zero]
    exact Nat.zero_le _

/-- Going on from an instruction that the program has is going on to its address plus four. -/
lemma toNat_next (h : p.OnCourse) (small : p.program.size < Program.sizeLimit)
    (inside : p.index < p.program.size) :
    p.pc.toNat + 4 ≤ 4 * p.program.size ∧ (p.pc + 4).toNat = p.pc.toNat + 4 := by
  have aligned := h.aligned
  unfold Program.sizeLimit at small
  unfold index at inside
  rw [toNat_add_four, UInt32.size]
  omega

/-- An instruction that is completed keeps the course. -/
lemma apply {i : Instruction} (h : p.OnCourse) (current : p.current? = some i)
    (effect : p.effect i.instr = .ok e) : (p.apply e).complete.OnCourse := by
  have inside := (inside_of_current current).1
  have program : (p.apply e).complete.program = p.program := (p.apply_keeps e).1
  obtain ⟨address, rfl, goes⟩ | goes := p.pc_apply e
  · obtain ⟨-, target, aim⟩ := target_of_goto effect
    -- A jump comes to four times its target, whatever the size of the program is.
    have exact_ := toNat_of_targetAddress aim
    have high := target.toInt_lt
    have pc : (p.apply (.goto address)).complete.pc = address := goes
    constructor
    · rw [pc]
      omega
    · intro _
      rw [pc, program]
      omega
  · have pc : (p.apply e).complete.pc = p.pc + 4 := goes
    have aligned := h.aligned
    constructor
    · rw [pc, toNat_add_four, UInt32.size]
      omega
    · intro small
      rw [program] at small
      -- The instruction is inside the program, so that the next address is at most its end.
      obtain ⟨below, next⟩ := h.toNat_next small inside
      rw [pc, program, next]
      omega

/-- A step keeps the course. -/
lemma step (h : p.OnCourse) : p.step.OnCourse := by
  have stepping := p.stepping
  generalize p.step = q at stepping ⊢
  cases stepping with
  | still => exact h
  | fellOff => exact ⟨h.aligned, h.bounded⟩
  | refused => exact ⟨h.aligned, h.bounded⟩
  | ran _ current effect => exact h.apply current effect

end OnCourse

/-! ### Programs without jumps -/

/-- A step of a program without jumps and branches halts or goes on to the next instruction. -/
lemma pc_step_of_straight (straight : p.program.Straight) :
    p.step.isDone ∨ p.step.pc = p.pc + 4 ∧ p.index < p.program.size := by
  have stepping := p.stepping
  generalize p.step = q at stepping ⊢
  cases stepping with
  | still done => exact .inl done
  | fellOff => exact .inl rfl
  | refused => exact .inl rfl
  | @ran i e _ current effect =>
    obtain ⟨inside, mem⟩ := inside_of_current current
    obtain ⟨notJump, notBranch⟩ := straight i mem
    obtain ⟨address, rfl, -⟩ | goes := p.pc_apply e
    · obtain ⟨jump | branch, -⟩ := target_of_goto effect
      · exact absurd jump notJump
      · exact absurd branch notBranch
    · exact .inr ⟨goes, inside⟩

/-- After `k` steps, a program without jumps and branches has halted or is at the index `k`. -/
lemma straight_ahead (small : p.program.size < Program.sizeLimit) (straight : p.program.Straight)
    (k : Nat) : (step^[k] p.reset).isDone ∨
      (step^[k] p.reset).pc.toNat = 4 * k ∧ k ≤ p.program.size := by
  induction k with
  | zero => exact .inr ⟨rfl, Nat.zero_le _⟩
  | succ k ih =>
    rw [Function.iterate_succ_apply']
    obtain done | ⟨pc, -⟩ := ih
    · rw [step_of_done done]
      exact .inl done
    · have program : (step^[k] p.reset).program = p.program := p.reset.iterate_keeps program_step k
      apply (pc_step_of_straight (program ▸ straight)).imp id
      rintro ⟨next, inside⟩
      unfold Program.sizeLimit at small
      unfold index at inside
      rw [program] at inside
      rw [next, toNat_add_four, UInt32.size]
      omega

/-- A program without jumps and branches halts after one step more than it has instructions. -/
lemma halts_of_straight (small : p.program.size < Program.sizeLimit)
    (straight : p.program.Straight) : (step^[p.program.size + 1] p.reset).isDone := by
  obtain done | ⟨-, beyond⟩ := straight_ahead small straight (p.program.size + 1)
  · exact done
  · omega

end Processor

namespace Scene.Reachable
variable {s : Scene}

/-- In each reachable scene, the processor is on course. -/
lemma onCourse (h : s.Reachable) : s.machine.cpu.OnCourse := by
  apply h.cpu_induction
  case new => exact fun config => .of_zero rfl
  case load => exact fun p program _ => .of_zero rfl
  case step => exact fun p h => h.step
  case reset => exact fun p _ => .of_zero rfl
  case config => exact fun p config h => ⟨h.aligned, h.bounded⟩

/-- In every state that a session can come to, the program counter is on course, and so nothing wraps that
is computed from it. -/
theorem neverWraps (h : s.Reachable) : s.machine.cpu.NeverWraps where
  toOnCourse := h.onCourse
  next small there := by
    obtain ⟨i, current⟩ := Option.isSome_iff_exists.mp there
    obtain ⟨below, next⟩ := h.onCourse.toNat_next small (Processor.inside_of_current current).1
    unfold Program.sizeLimit at small
    refine ⟨?_, next⟩
    rw [UInt32.size]
    omega
  targets target above := by
    have high := target.toInt_lt
    obtain ⟨address, aim⟩ := Processor.exists_targetAddress above
    refine ⟨?_, address, aim, Processor.toNat_of_targetAddress aim⟩
    rw [UInt32.size]
    omega
  halts small straight := ⟨_, Nat.le_refl _, Processor.halts_of_straight small straight⟩

/-- A worker takes the largest jump there is, far beyond the end of the program. -/
theorem neverWraps_of_far_jump :
    ∃ s : Scene, s.Reachable ∧ s.machine.cpu.NeverWraps ∧ s.machine.cpu.program.size = 1 ∧
      s.machine.cpu.pc = 131068 := by
  have run := Moves.one (.call (.call (s := .new .standard none)
    (.load (.ofList [⟨[], .jump 32767⟩])) rfl))
  have run := run.call (.takeNone rfl rfl)
  have run := run.call (.finish rfl nofun nofun)
  have run := run.call (.call .run rfl)
  have run := run.call (.allowRun rfl rfl)
  have run := run.call (.pollNone rfl rfl)
  have run := run.call (.start rfl rfl)
  have run := run.tail (.work (i := 0) rfl nofun nofun)
  have run := run.tail (.work (i := 0) rfl nofun nofun)
  have reached := (Reachable.new .standard none).moves run
  exact ⟨_, reached, reached.neverWraps, rfl, rfl⟩

end Scene.Reachable

end PocketMips
