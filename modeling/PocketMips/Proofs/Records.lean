import PocketMips.Proofs.ChangeSets
import PocketMips.Proofs.Operations

/-!
# What is not on record

A processor starts with zeros everywhere and with nothing on record, and whatever writes a register or a
word of memory puts it on record. So all that is not on record is zero, after any number of steps and
from any start, and a word on record is one that the memory has. `Processor.OnRecord` is this invariant,
and each effect of an instruction keeps it.
-/

namespace PocketMips

/-- A word that is found is within the memory. -/
lemma Memory.lt_size_of_get? {m : Memory} {index : Nat} {w : Word} (h : m.get? index = some w) :
    index < m.size := by
  unfold get? at h
  split at h
  case isTrue inside => exact inside
  case isFalse => cases h

namespace Processor
variable {p : Processor}

/-! ### The words that are stored -/

/-- What is found at an address is the word of the memory with the index of the address. -/
lemma wordAt_eq_ok_iff {address w : Word} {index : Nat} :
    p.wordAt address = .ok (index, w) ↔ wordIndex address = .ok index ∧ p.mem.get? index = some w := by
  unfold wordAt
  cases wordIndex address with
  | error why => simp [bind, Except.bind]
  | ok i =>
    cases word : p.mem.get? i with
    | none =>
      simp only [bind, Except.bind, word]
      constructor
      · nofun
      · rintro ⟨⟨⟩, found⟩
        rw [word] at found
        cases found
    | some v =>
      simp only [bind, Except.bind, word]
      constructor
      · rintro ⟨⟩
        exact ⟨rfl, word⟩
      · rintro ⟨⟨⟩, found⟩
        rw [word] at found
        cases found
        rfl

/-- The word found at an address is one of the memory. -/
lemma get?_of_wordAt {address w : Word} {index : Nat} (h : p.wordAt address = .ok (index, w)) :
    p.mem.get? index = some w :=
  (wordAt_eq_ok_iff.1 h).2

/-- A word is stored only where the memory has one. -/
lemma lt_size_of_store {i : Instr} {index : Nat} {w : Word} (h : p.effect i = .ok (.store index w)) :
    index < p.mem.size := by
  cases effecting h with
  | sw looked => exact Memory.lt_size_of_get? (get?_of_wordAt looked)

/-! ### The invariant -/

/-- Whatever is not zero is on record, and what is on record is there. -/
structure OnRecord (p : Processor) : Prop where
  regSet : p.footprint.regs.Consistent
  wordSet : p.footprint.words.Consistent
  regs : ∀ r, r ∉ p.changedRegs → p.regs.get r = 0
  words : ∀ index < p.mem.size, index ∉ p.changedWords → p.mem.get? index = some 0
  inside : ∀ index ∈ p.changedWords, index < p.mem.size

/-- After a reset, all is zero and nothing is on record. -/
lemma onRecord_reset (p : Processor) : p.reset.OnRecord where
  regSet := .empty
  wordSet := .empty
  regs r _ := RegFile.get_zero r
  words index lt _ := p.pristine_reset.words index lt
  inside := nofun

namespace OnRecord

/-- The registers on record after a write are the new one and the others. -/
lemma mem_changedRegs (h : p.OnRecord) (r other : Reg) (w : Word) :
    other ∈ (p.writeReg r w).changedRegs ↔ other = r ∨ other ∈ p.changedRegs := by
  have split := h.regSet.mem_insert r.val other.val
  rw [Fin.val_inj] at split
  exact Footprint.mem_changedRegs.trans (split.trans (or_congr_right Footprint.mem_changedRegs.symm))

/-- A register that is written goes on record. -/
lemma writeReg (h : p.OnRecord) (r : Reg) (w : Word) : (p.writeReg r w).OnRecord where
  regSet := h.regSet.insert r.val
  wordSet := h.wordSet
  regs other missing := by
    rw [h.mem_changedRegs, not_or] at missing
    exact (RegFile.get_set_of_ne _ w (Ne.symm missing.1)).trans (h.regs other missing.2)
  words := h.words
  inside := h.inside

/-- To load a word changes nothing that is on record as changed. -/
lemma readWord (h : p.OnRecord) (index : Nat) : (p.readWord index).OnRecord :=
  ⟨h.regSet, h.wordSet, h.regs, h.words, h.inside⟩

/-- A word that is written goes on record, if the memory has it. -/
lemma writeWord {index : Nat} (h : p.OnRecord) (lt : index < p.mem.size) (w : Word) :
    (p.writeWord index w).OnRecord where
  regSet := h.regSet
  wordSet := h.wordSet.insert index
  regs := h.regs
  words other inside missing := by
    have missing : ¬ other ∈ (p.footprint.words.insert index).toList := missing
    rw [h.wordSet.mem_insert, not_or] at missing
    show (p.mem.set index w).get? other = some 0
    rw [Memory.get?_set, if_neg fun same => missing.1 same.1.symm]
    exact h.words other inside missing.2
  inside other mem := by
    have mem : other ∈ (p.footprint.words.insert index).toList := mem
    obtain rfl | before := (h.wordSet.mem_insert index other).mp mem
    · exact lt
    · exact h.inside other before

/-- To go on changes neither registers nor memory. -/
lemma advance (h : p.OnRecord) : p.advance.OnRecord :=
  ⟨h.regSet, h.wordSet, h.regs, h.words, h.inside⟩

/-- To stop changes neither registers nor memory. -/
lemma stop (h : p.OnRecord) (why : Halt) : (p.stop why).OnRecord :=
  ⟨h.regSet, h.wordSet, h.regs, h.words, h.inside⟩

/-- To count an instruction changes neither registers nor memory. -/
lemma complete (h : p.OnRecord) : p.complete.OnRecord :=
  ⟨h.regSet, h.wordSet, h.regs, h.words, h.inside⟩

/-- To change the settings changes neither registers nor memory. -/
lemma configure (h : p.OnRecord) (config : Config) : { p with config }.OnRecord :=
  ⟨h.regSet, h.wordSet, h.regs, h.words, h.inside⟩

/-- The effect of an instruction puts on record what it writes. -/
lemma apply {i : Instr} {e : Effect} (h : p.OnRecord) (effect : p.effect i = .ok e) :
    (p.apply e).OnRecord := by
  cases e with
  | write r w => exact (h.writeReg r w).advance
  | load r index w => exact ((h.readWord index).writeReg r w).advance
  | store index w => exact (h.writeWord (lt_size_of_store effect) w).advance
  | goto address => exact ⟨h.regSet, h.wordSet, h.regs, h.words, h.inside⟩
  | pass => exact h.advance
  | exit => exact h.advance.stop .exit

/-- A step leaves all on record that is not zero. -/
lemma step (h : p.OnRecord) : p.step.OnRecord := by
  have stepping := p.stepping
  generalize p.step = q at stepping ⊢
  cases stepping with
  | still => exact h
  | fellOff => exact h.stop _
  | refused => exact h.stop _
  | ran _ _ effect => exact (h.apply effect).complete

end OnRecord

end Processor

end PocketMips
