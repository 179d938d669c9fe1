import PocketMips.Proofs.ChangeTracking
import PocketMips.Proofs.HaltReasons
import PocketMips.Proofs.MemorySize

/-!
# Loads and the stores before them

What a load gets, said without a memory: the word of the last store before it that was completed and went
to the same place, or zero if there was none. The memory after some steps is such a history of stores
(`Memory.Holds`), and each step keeps it so.

Which addresses go to the same place, and which ones there are, is said as well (`Processor.Reaches`). The
quotient of an address by four is rounded toward zero, so the first word has seven addresses and every
other word four.
-/

namespace PocketMips

/-- A store that was completed. -/
structure Store where
  /-- The byte address, with its sign. -/
  address : Int
  word : Word

namespace Store

/-- The store went to the word with an index. -/
def hits (index : Int) (s : Store) : Bool :=
  s.address.tdiv 4 = index

/-- The word that was stored last at an index, or zero if none was. -/
def latest (index : Int) (stores : List Store) : Word :=
  ((stores.filter (hits index)).getLast?.map word).getD 0

end Store

/-- The addresses of the word with an index. -/
def Serves (index : Nat) (address : Int) : Prop :=
  if index = 0 then -3 ≤ address ∧ address ≤ 3
  else 4 * index ≤ address ∧ address ≤ 4 * index + 3

namespace Processor

/-- The byte address at a register plus an offset: the exact sum, wrapped. -/
def byteAddress (p : Processor) (base : Reg) (offset : Imm) : Int :=
  wrap ((p.regs.get base).toInt + offset.toInt)

/-- The store that the next step completes, if it completes one. -/
def stored? (p : Processor) : Option Store :=
  match p.completing? with
  | some (.mem .sw rt base offset) => some ⟨p.byteAddress base offset, p.regs.get rt⟩
  | _ => none

/-- The stores that the first steps have completed. -/
def stores (p : Processor) (steps : Nat) : List Store :=
  (p.before steps).filterMap stored?

/-- The next step loads a register from the word with an index, or stores it there, and leaves the rest of
the memory alone. -/
def Reaches (p : Processor) (rt : Reg) (index : Nat) : MemOp → Prop
  | .lw => p.mem.get? index = some (p.step.regs.get rt) ∧ p.step.mem = p.mem
  | .sw => ∀ other, p.step.mem.get? other =
      if other = index then some (p.regs.get rt) else p.mem.get? other

/-- How the next step of a processor accesses the memory, when some steps were taken from the start. -/
structure Forwards (start : Processor) (steps : Nat) (p : Processor) : Prop where
  /-- A load gets the word that was stored last in the same place. -/
  loads : ∀ rt base offset, p.completing? = some (.mem .lw rt base offset) →
    p.step.regs.get rt =
      Store.latest ((p.byteAddress base offset).tdiv 4) (start.stores steps)
  /-- The addresses from three below zero to the end of the memory are those of its words. -/
  served : ∀ op rt base offset, p.isDone = false →
    p.instrAt p.index = some (.mem op rt base offset) →
    -3 ≤ p.byteAddress base offset → p.byteAddress base offset < 4 * p.mem.size →
    p.completing? = some (.mem op rt base offset) ∧
      ∃ index < p.mem.size, Serves index (p.byteAddress base offset) ∧ p.Reaches rt index op
  /-- At any other address the processor halts and does nothing else. -/
  faults : ∀ op rt base offset, p.isDone = false →
    p.instrAt p.index = some (.mem op rt base offset) →
    p.byteAddress base offset < -3 ∨ 4 * p.mem.size ≤ p.byteAddress base offset →
    p.completing? = none ∧ p.step = p.stop (.badAddress (p.byteAddress base offset))

end Processor

/-! ### Histories of stores -/

namespace Store

/-- The latest store is the last one if it goes to the word, and otherwise an earlier one. -/
lemma latest_concat (index : Int) (stores : List Store) (s : Store) :
    latest index (stores ++ [s]) = if s.address.tdiv 4 = index then s.word else latest index stores := by
  unfold latest
  rw [List.filter_append]
  by_cases same : s.address.tdiv 4 = index
  · have hit : hits index s = true := decide_eq_true same
    rw [if_pos same, List.filter_singleton, hit]
    simp
  · have miss : hits index s = false := decide_eq_false same
    rw [if_neg same, List.filter_singleton, miss]
    simp

end Store

/-- The memory holds at each index what was stored there last. -/
def Memory.Holds (m : Memory) (stores : List Store) : Prop :=
  ∀ index < m.size, m.get? index = some (Store.latest index stores)

namespace Memory.Holds
variable {m : Memory} {stores : List Store}

/-- A new memory holds zeros, as nothing was stored in it. -/
lemma zero (words : Nat) : (Memory.zero words).Holds [] := by
  intro index inside
  rw [get?_zero]
  exact if_pos inside

/-- A memory holds one store more when the word that it went to is set. -/
lemma set {index : Nat} (h : m.Holds stores) (inside : index < m.size) {s : Store}
    (place : s.address.tdiv 4 = index) : (m.set index s.word).Holds (stores ++ [s]) := by
  intro other lt
  rw [get?_set, Store.latest_concat, place]
  by_cases same : index = other
  · rw [if_pos ⟨same, inside⟩, if_pos (congrArg Nat.cast same)]
  · rw [if_neg fun both => same both.1, if_neg fun eq => same (Int.ofNat_inj.mp eq)]
    exact h other lt

end Memory.Holds

namespace Processor
variable {p : Processor}

/-! ### Addresses -/

/-- The address of an access is the exact one, wrapped. -/
lemma toInt_eq_byteAddress (p : Processor) (base : Reg) (offset : Imm) :
    (p.address base offset).toInt = p.byteAddress base offset :=
  p.toInt_address base offset

/-- A word is found at an address if the quotient is the index of one. -/
lemma wordAt_eq_ok_iff_tdiv {address w : Word} {index : Nat} :
    p.wordAt address = .ok (index, w) ↔ address.toInt.tdiv 4 = index ∧ p.mem.get? index = some w := by
  rw [wordAt_eq_ok_iff, wordIndex]
  apply and_congr_left'
  by_cases negative : address.toInt.tdiv 4 < 0
  · simp only [if_pos negative]
    constructor
    · nofun
    · intro eq
      omega
  · simp only [if_neg negative, Except.ok.injEq]
    omega

/-- An address belongs to the word with the index that it is divided to. -/
lemma serves_of_tdiv {address : Int} {index : Nat} (quotient : address.tdiv 4 = index) :
    Serves index address := by
  have quarter := tdiv_four address
  unfold Serves
  by_cases first : index = 0
  · rw [if_pos first]
    omega
  · rw [if_neg first]
    omega

/-- There is a word at an address, or the address is too low or too high. -/
lemma wordAt_cases (nonempty : 0 < p.mem.size) (address : Word) :
    ((-3 ≤ address.toInt ∧ address.toInt < 4 * p.mem.size) ∧
      ∃ index w, p.wordAt address = .ok (index, w) ∧ index < p.mem.size ∧
        Serves index address.toInt) ∨
      (address.toInt < -3 ∨ 4 * p.mem.size ≤ address.toInt) ∧
        p.wordAt address = .error (.badAddress address.toInt) := by
  cases found : p.wordAt address with
  | error why =>
    obtain ⟨rfl, outside⟩ := wordAt_eq_error nonempty found
    exact .inr ⟨outside.imp (by omega) id, rfl⟩
  | ok place =>
    obtain ⟨index, w⟩ := place
    obtain ⟨quotient, word⟩ := wordAt_eq_ok_iff_tdiv.mp found
    have inside := Memory.lt_size_of_get? word
    have quarter := tdiv_four address.toInt
    exact .inl ⟨⟨by omega, by omega⟩, index, w, rfl, inside, serves_of_tdiv quotient⟩

/-! ### Accesses -/

/-- A step of a processor with a current instruction ends as its effect says. -/
lemma step_of_instrAt {i : Instr} (going : p.isDone = false) (current : p.instrAt p.index = some i) :
    p.step = p.finish (p.effect i) := by
  obtain ⟨instruction, found, rfl⟩ := Option.map_eq_some_iff.mp current
  have open_ : p.halt? = none := by simpa [isDone] using going
  rw [p.step_eq open_, show p.current? = some instruction from found]

/-- An instruction that has an effect is completed by it. -/
lemma completing_of_effect {i : Instr} {e : Effect} (going : p.isDone = false)
    (current : p.instrAt p.index = some i) (effect : p.effect i = .ok e) :
    p.completing? = some i ∧ p.step = (p.apply e).complete := by
  have moved : p.step = (p.apply e).complete := by
    rw [step_of_instrAt going current, effect]
    rfl
  refine ⟨?_, moved⟩
  rw [completing?, moved, if_neg (p.completed_apply e), current]

/-- An instruction that is refused is not completed, and stops the processor. -/
lemma stop_of_effect {i : Instr} {why : Halt} (going : p.isDone = false)
    (current : p.instrAt p.index = some i) (effect : p.effect i = .error why) :
    p.completing? = none ∧ p.step = p.stop why := by
  have stopped : p.step = p.stop why := by
    rw [step_of_instrAt going current, effect]
    rfl
  refine ⟨?_, stopped⟩
  rw [completing?, stopped]
  exact if_pos rfl

/-- What an access to the memory does where there is a word. -/
lemma reaches_of_wordAt {op : MemOp} {rt base : Reg} {offset : Imm} {index : Nat} {w : Word}
    (going : p.isDone = false) (current : p.instrAt p.index = some (.mem op rt base offset))
    (found : p.wordAt (p.address base offset) = .ok (index, w)) :
    p.completing? = some (.mem op rt base offset) ∧ p.Reaches rt index op := by
  have word := (wordAt_eq_ok_iff.mp found).2
  cases op with
  | lw =>
    have effect : p.effect (.mem .lw rt base offset) = .ok (.load rt index w) := by
      simp only [Processor.effect, found]
      rfl
    obtain ⟨completing, moved⟩ := completing_of_effect going current effect
    refine ⟨completing, ?_⟩
    rw [Reaches, moved]
    refine ⟨word.trans (congrArg some ?_), rfl⟩
    exact (RegFile.get_set_self _ rt w).symm
  | sw =>
    have effect : p.effect (.mem .sw rt base offset) = .ok (.store index (p.regs.get rt)) := by
      simp only [Processor.effect, found]
      rfl
    obtain ⟨completing, moved⟩ := completing_of_effect going current effect
    refine ⟨completing, ?_⟩
    intro other
    rw [moved]
    show (p.mem.set index (p.regs.get rt)).get? other = _
    rw [Memory.get?_set]
    by_cases same : other = index
    · rw [if_pos ⟨same.symm, Memory.lt_size_of_get? word⟩, if_pos same]
    · rw [if_neg fun both => same both.1.symm, if_neg same]

/-- What an access to the memory does where there is none. -/
lemma stop_of_wordAt {op : MemOp} {rt base : Reg} {offset : Imm} {why : Halt}
    (going : p.isDone = false) (current : p.instrAt p.index = some (.mem op rt base offset))
    (missing : p.wordAt (p.address base offset) = .error why) :
    p.completing? = none ∧ p.step = p.stop why := by
  apply stop_of_effect going current
  cases op with
  | lw =>
    simp only [Processor.effect, missing]
    rfl
  | sw =>
    simp only [Processor.effect, missing]
    rfl

/-! ### Runs -/

/-- A step adds to the history of the memory the store that it completes. -/
lemma holds_step {stores : List Store} (h : p.mem.Holds stores) :
    p.step.mem.Holds (stores ++ p.stored?.toList) := by
  obtain ⟨nothing, same | ⟨why, stopped⟩⟩ | ⟨i, e, completing, effect, -, moved⟩ :=
    p.completing?_cases
  · rw [stored?, nothing, same]
    simpa using h
  · rw [stored?, nothing, stopped]
    simpa using show (p.stop why).mem.Holds stores from h
  · rw [stored?, completing, moved]
    cases effecting effect with
    | @sw rt base offset index w looked =>
      obtain ⟨place, word⟩ := wordAt_eq_ok_iff_tdiv.mp looked
      rw [toInt_eq_byteAddress] at place
      exact h.set (s := ⟨_, _⟩) (Memory.lt_size_of_get? word) place
    | _ =>
      rw [Option.toList_none, List.append_nil]
      exact h

/-- In a run from the start, the memory holds what was stored. -/
lemma holds_iterate (p : Processor) (n : Nat) :
    (step^[n] p.reset).mem.Holds (p.reset.stores n) := by
  induction n with
  | zero =>
    show p.reset.mem.Holds []
    rw [mem_reset]
    exact .zero _
  | succ n ih =>
    unfold stores
    rw [Function.iterate_succ_apply', filterMap_before_succ]
    exact holds_step ih

/-- A load gets what the memory holds. -/
lemma load_of_holds {stores : List Store} {rt base : Reg} {offset : Imm}
    (h : p.mem.Holds stores) (completing : p.completing? = some (.mem .lw rt base offset)) :
    p.step.regs.get rt = Store.latest ((p.byteAddress base offset).tdiv 4) stores := by
  obtain ⟨nothing, -⟩ | ⟨i, e, completing', effect, -, moved⟩ := p.completing?_cases
  · rw [nothing] at completing
    cases completing
  · rw [completing'] at completing
    cases completing
    rw [moved]
    cases effecting effect with
    | @lw _ _ _ index w looked =>
      obtain ⟨place, word⟩ := wordAt_eq_ok_iff_tdiv.mp looked
      have held := h index (Memory.lt_size_of_get? word)
      rw [word, Option.some_inj] at held
      rw [← toInt_eq_byteAddress, place, ← held]
      exact RegFile.get_set_self _ rt w

/-- From a reset on, each load gets what was stored last in the same place, and the addresses that there
are to access are those of the words of the memory. -/
theorem forwards_reset (p : Processor) (steps : Nat) :
    p.reset.Forwards steps (step^[steps] p.reset) := by
  have size : (step^[steps] p.reset).mem.size = Memory.clampSize p.config.memWords := by
    rw [p.reset.iterate_keeps (f := (·.mem.size)) memSize_step steps, mem_reset, Memory.size_zero]
  have nonempty : 0 < (step^[steps] p.reset).mem.size := by
    rw [size]
    unfold Memory.clampSize Memory.minSize
    omega
  -- By induction on the steps, the memory holds what was stored last, and zero where nothing was.
  have holds := p.holds_iterate steps
  generalize step^[steps] p.reset = q at nonempty holds
  constructor
  case loads => exact fun rt base offset completing => load_of_holds holds completing
  case served =>
    intro op rt base offset going current low high
    obtain ⟨-, index, w, found, inside, serves⟩ | ⟨outside, -⟩ :=
      wordAt_cases nonempty (q.address base offset)
    · obtain ⟨completing, reaches⟩ := reaches_of_wordAt going current found
      rw [toInt_eq_byteAddress] at serves
      exact ⟨completing, index, inside, serves, reaches⟩
    · rw [toInt_eq_byteAddress] at outside
      omega
  case faults =>
    intro op rt base offset going current outside
    obtain ⟨within, -⟩ | ⟨-, missing⟩ := wordAt_cases nonempty (q.address base offset)
    · rw [toInt_eq_byteAddress] at within
      omega
    · rw [← toInt_eq_byteAddress]
      exact stop_of_wordAt going current missing

/-- The addresses three above and three below zero are in the same place. -/
example :
    let p := (new .standard).load (.ofList [
      ⟨[], .imm .addi 8 8 7⟩,
      ⟨[], .mem .sw 8 0 3⟩,
      ⟨[], .mem .lw 9 8 (-10)⟩])
    (step^[3] p).regs.get 9 = 7 := by
  decide +kernel

end Processor

end PocketMips
