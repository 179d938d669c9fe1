import Mathlib.Data.List.Basic
import PocketMips.Proofs.Records
import PocketMips.Proofs.RoundTrip
import PocketMips.Proofs.SessionSafety

/-!
# What the view of the changes tells

The view of the changes of a session lists the registers and the words of memory that were written, each
with its value. Whatever is not listed is zero, so two sessions that show the same texts hold the same
words everywhere, as long as the memories are of one size and the written indices tell the words apart:
an index is written as a signed number of 16 bits.

Two facts carry this. A text determines the entry that it was written from, since neither of its parts
has the colon that stands between them. And in any state that a session can come to, by calls, by its
workers, or by someone who works on the processor directly, what is not zero is on record
(`Processor.OnRecord`).
-/

namespace PocketMips
open Text

/-! ### Entries -/

/-- Different numbers are written differently. -/
lemma Text.showNat_injective : Function.Injective showNat := by
  intro m n h
  have back (k : Nat) : Nat.ofDigitChars 10 (showNat k) 0 = k := Nat.ofDigitChars_ten_toDigits
  rw [← back m, h, back n]

/-- No number is written with a colon. -/
lemma Text.colonFree_showNat (n : Nat) : ':' ∉ showNat n := by
  intro mem
  cases isDigit_of_mem_showNat mem

/-- Two constants that are written alike are the same. -/
lemma Imm.text_injective : Function.Injective Imm.text := by
  intro v v' h
  have reads := v.numberLiteral_text.reads
  rw [h, v'.numberLiteral_text.reads] at reads
  cases reads
  rfl

/-- No constant is written with a colon. -/
lemma Imm.colonFree_text (v : Imm) : ':' ∉ v.text := by
  intro mem
  obtain digit | colon := Imm.mem_text mem
  · cases digit
  · cases colon

/-- Two registers that are written alike are the same. -/
lemma Reg.text_injective : Function.Injective Reg.text := by
  intro r r' h
  have names := r.regLiteral_text
  unfold RegLiteral at names
  rw [h, r'.regLiteral_text] at names
  cases names
  rfl

/-- No register is written with a colon. -/
lemma Reg.colonFree_text (r : Reg) : ':' ∉ r.text := by
  have all : ∀ r : Reg, ':' ∉ r.text := by decide
  exact all r

/-- A word is known by its value without a sign. -/
lemma Word.unsigned_injective : Function.Injective Word.unsigned := by
  intro w w' h
  cases w
  cases w'
  exact congrArg Int32.ofUInt32 (UInt32.toNat_inj.mp h)

/-- Indices below the number of immediates are told apart by the immediates they are written as. -/
lemma ofNat_inj {m n : Nat} (hm : m < 65536) (hn : n < 65536)
    (h : Int16.ofNat m = Int16.ofNat n) : m = n := by
  have low : UInt16.ofNat m = UInt16.ofNat n := congrArg Int16.toUInt16 h
  rw [← UInt16.toNat_inj, UInt16.toNat_ofNat', UInt16.toNat_ofNat'] at low
  omega

/-- The two parts of an entry are those before and after its colon. -/
lemma parts_inj {a a' b b' : List Char} (ha : ':' ∉ a) (hb : ':' ∉ b)
    (h : a ++ ": ".toList ++ b = a' ++ ": ".toList ++ b') : a = a' ∧ b = b' := by
  have free : ':' ∉ ' ' :: b := by
    intro mem
    cases mem with
    | tail _ mem => exact hb mem
  rw [List.append_assoc, List.append_assoc] at h
  obtain ⟨front, -, back⟩ := (List.append_cons_inj_of_notMem ha free).mp h
  exact ⟨front, (List.cons.inj back).2⟩

/-- The text of an entry determines its register and its value. -/
lemma RegEntry.text_injective : Function.Injective RegEntry.text := by
  intro e e' h
  obtain ⟨name, value⟩ := parts_inj e.reg.colonFree_text (colonFree_showNat _) h
  cases e
  cases e'
  cases Reg.text_injective name
  cases Word.unsigned_injective (showNat_injective value)
  rfl

/-- The text of an entry determines its index and its value, if the index is not too large. -/
lemma MemEntry.text_inj {e e' : MemEntry} (small : e.index < 65536) (small' : e'.index < 65536)
    (h : e.text = e'.text) : e = e' := by
  obtain ⟨number, value⟩ :=
    parts_inj (Imm.colonFree_text (.ofNat e.index)) (colonFree_showNat _) h
  have index := ofNat_inj small small' (Imm.text_injective number)
  cases e
  cases e'
  cases index
  cases Word.unsigned_injective (showNat_injective value)
  rfl

/-- Lists with the same images are the same, where different members have different images. -/
lemma eq_of_map_eq {α β : Type} {f : α → β} {l l' : List α}
    (inj : ∀ a ∈ l, ∀ a' ∈ l', f a = f a' → a = a') (h : l.map f = l'.map f) : l = l' := by
  induction l generalizing l' with
  | nil => exact (List.map_eq_nil_iff.mp h.symm).symm
  | cons a l ih =>
    cases l' with
    | nil => cases h
    | cons a' l' =>
      obtain ⟨head, tail⟩ := List.cons.inj h
      rw [inj a (.head _) a' (.head _) head,
        ih (fun x hx y hy => inj x (.tail _ hx) y (.tail _ hy)) tail]

/-! ### Sessions -/

namespace Session
variable {s s' : Session}

/-- All that is not listed is zero. -/
structure ZeroElsewhere (s : Session) : Prop where
  regs : ∀ r, (∀ e ∈ s.changedRegs, e.reg ≠ r) → s.cpu.regs.get r = 0
  words : ∀ index < s.cpu.mem.size, (∀ e ∈ s.changedWords, e.index ≠ index) →
    s.cpu.mem.get? index = some 0

/-- Where all is on record, registers and words that no view shows are zero. -/
lemma zeroElsewhere (h : s.cpu.OnRecord) : s.ZeroElsewhere where
  regs r missing := by
    apply h.regs
    intro mem
    exact missing _ (List.mem_map_of_mem mem) rfl
  words index inside missing := by
    apply h.words index inside
    intro mem
    exact missing _ (List.mem_map_of_mem mem) rfl

/-- An entry of the view of registers has the value that its register has. -/
lemma get_of_mem {e : RegEntry} (mem : e ∈ s.changedRegs) : s.cpu.regs.get e.reg = e.value := by
  obtain ⟨r, -, rfl⟩ := List.mem_map.mp mem
  rfl

/-- An entry of the view of memory has the value that its word has, and the word is there. -/
lemma get?_of_mem (h : s.cpu.OnRecord) {e : MemEntry} (mem : e ∈ s.changedWords) :
    e.index < s.cpu.mem.size ∧ s.cpu.mem.get? e.index = some e.value := by
  obtain ⟨index, listed, rfl⟩ := List.mem_map.mp mem
  have inside := h.inside index listed
  refine ⟨inside, ?_⟩
  simp [Memory.get?, inside]

/-- Two sessions that list the same registers hold the same words in all of them. -/
lemma get_eq_of_changedRegs (h : s.cpu.OnRecord) (h' : s'.cpu.OnRecord)
    (same : s.changedRegs = s'.changedRegs) (r : Reg) :
    s.cpu.regs.get r = s'.cpu.regs.get r := by
  by_cases listed : ∃ e ∈ s.changedRegs, e.reg = r
  · obtain ⟨e, mem, rfl⟩ := listed
    rw [get_of_mem mem, get_of_mem (same ▸ mem)]
  · have missing : ∀ e ∈ s.changedRegs, e.reg ≠ r := fun e mem eq => listed ⟨e, mem, eq⟩
    rw [(zeroElsewhere h).regs r missing, (zeroElsewhere h').regs r (same ▸ missing)]

/-- Two sessions with memories of one size that list the same words hold the same in all of them. -/
lemma get?_eq_of_changedWords (h : s.cpu.OnRecord) (h' : s'.cpu.OnRecord)
    (size : s.cpu.mem.size = s'.cpu.mem.size) (same : s.changedWords = s'.changedWords)
    (index : Nat) : s.cpu.mem.get? index = s'.cpu.mem.get? index := by
  by_cases inside : index < s.cpu.mem.size
  · by_cases listed : ∃ e ∈ s.changedWords, e.index = index
    · obtain ⟨e, mem, rfl⟩ := listed
      rw [(get?_of_mem h mem).2, (get?_of_mem h' (same ▸ mem)).2]
    · have missing : ∀ e ∈ s.changedWords, e.index ≠ index := fun e mem eq => listed ⟨e, mem, eq⟩
      rw [(zeroElsewhere h).words index inside missing,
        (zeroElsewhere h').words index (size ▸ inside) (same ▸ missing)]
  · simp [Memory.get?, inside, ← size]

end Session

/-! ### States that a session can come to -/

/-- The scene after an operation of someone who holds the processor. -/
def Scene.operate (s : Scene) (op : Operation) : Scene :=
  { s with machine := s.machine.perform op }

/-- The scenes that a session can come to: by its calls and the actions of its workers, in any order, and
by operations of others on its processor. -/
inductive Scene.Reachable : Scene → Prop where
  | new (config : Config) (threshold : Option Level) :
    Reachable (.new config threshold)
  | move {s q s'} :
    Reachable s →
    Move s q s' →
    Reachable s'
  | operate {s} (op : Operation) :
    Reachable s →
    Reachable (s.operate op)

/-- What is kept by loading, by a step and by a reset is kept by every action of a session. -/
lemma Move.keeps {P : Processor → Prop} {s s' : Scene} {q : List Entry}
    (load : ∀ p program, P p → P (p.load program)) (step : ∀ p, P p → P p.step)
    (reset : ∀ p, P p → P p.reset) (mv : Move s q s') (h : P s.machine.cpu) : P s'.machine.cpu := by
  cases mv with
  | work =>
    obtain same | stepped := FreeRun.cpu_act s.machine _
    · exact same ▸ h
    · exact stepped ▸ step _ h
  | call mv =>
    obtain ⟨same, -⟩ | ⟨c, answer?, done⟩ := mv.cpu
    · exact same ▸ h
    · rw [done.machine]
      cases c with
      | load program => exact load _ program h
      | loadFile path file =>
        cases file with
        | ok source => exact load _ _ h
        | error why => exact step _ (load _ .empty h)
      | reset => exact reset _ h
      | step => exact step _ h
      | _ => exact h

namespace Scene.Reachable
variable {s s' : Scene}

/-- What actions lead to from a reachable scene is reachable. -/
lemma moves {tr : List Entry} (h : s.Reachable) (run : Moves s tr s') : s'.Reachable := by
  induction run with
  | refl => exact h
  | tail _ mv ih => exact .move ih mv

/-- What is true of a new processor, and what is kept by loading, by a step, by a reset and by other
settings, is true of the processor of a session in any state. -/
theorem cpu_induction {P : Processor → Prop} (new : ∀ config, P (.new config))
    (load : ∀ p program, P p → P (p.load program)) (step : ∀ p, P p → P p.step)
    (reset : ∀ p, P p → P p.reset) (config : ∀ p config, P p → P { p with config })
    (h : s.Reachable) : P s.machine.cpu := by
  induction h with
  | new settings => exact new settings
  | move _ mv ih => exact mv.keeps load step reset ih
  | operate op _ ih =>
    exact Machine.performAll_induction ih load step reset config [op]

/-- In each reachable scene, all that is not zero is on record. -/
lemma onRecord (h : s.Reachable) : s.session.cpu.OnRecord := by
  apply h.cpu_induction
  case new =>
    intro config
    rw [← Processor.reset_new]
    exact Processor.onRecord_reset _
  case load => exact fun p program _ => Processor.onRecord_reset { p with program }
  case step => exact fun p h => h.step
  case reset => exact fun p _ => p.onRecord_reset
  case config => exact fun p config h => h.configure config

/-- Two sessions that show the same changes, in memories of one size for which the written indices are
enough, hold the same words in all registers and everywhere in memory, and both hold zeros wherever
nothing is listed. What their workers are doing does not matter. -/
theorem words_eq_of_texts (h : s.Reachable) (h' : s'.Reachable)
    (size : s.session.cpu.mem.size = s'.session.cpu.mem.size)
    (small : s.session.cpu.mem.size ≤ 65536)
    (regs : s.session.changedRegs.map RegEntry.text = s'.session.changedRegs.map RegEntry.text)
    (words : s.session.changedWords.map MemEntry.text = s'.session.changedWords.map MemEntry.text) :
    (∀ r, s.session.cpu.regs.get r = s'.session.cpu.regs.get r) ∧
      (∀ index, s.session.cpu.mem.get? index = s'.session.cpu.mem.get? index) ∧
      s.session.ZeroElsewhere ∧ s'.session.ZeroElsewhere := by
  have record := h.onRecord
  have record' := h'.onRecord
  have sameRegs : s.session.changedRegs = s'.session.changedRegs :=
    (List.map_inj_right RegEntry.text_injective).mp regs
  have sameWords : s.session.changedWords = s'.session.changedWords := by
    apply eq_of_map_eq ?_ words
    intro e mem e' mem'
    have inside := (Session.get?_of_mem record mem).1
    have inside' := (Session.get?_of_mem record' mem').1
    exact MemEntry.text_inj (by omega) (by omega)
  refine ⟨?regs, ?words, Session.zeroElsewhere record, Session.zeroElsewhere record'⟩
  case regs => exact Session.get_eq_of_changedRegs record record' sameRegs
  case words => exact Session.get?_eq_of_changedWords record record' size sameWords

/-- A program loaded by a call, and another one that comes to the same word in another way, in a memory
that was made larger before it was loaded. The index of the word is written as a negative number. -/
theorem words_eq_of_negative_index :
    let code := .ofList [
      ⟨[], .imm .addi 8 8 400⟩,
      ⟨[], .reg .mult 8 8 8⟩,
      ⟨[], .mem .sw 8 8 0⟩]
    let code' := .ofList [
      ⟨[], .imm .addi 8 8 20000⟩,
      ⟨[], .reg .add 8 8 8⟩,
      ⟨[], .reg .add 8 8 8⟩,
      ⟨[], .reg .add 8 8 8⟩,
      ⟨[], .mem .sw 8 8 0⟩]
    let s := Scene.operate ⟨(Machine.new ⟨65536⟩ none).load code, [], none, .idle⟩ (.run 9)
    let s' := (((Scene.new .standard none).operate (.setMemWords 65536)).operate (.load code')).operate
      (.run 9)
    s.Reachable ∧ s'.Reachable ∧
      s.session.cpu.mem.size = 65536 ∧ s'.session.cpu.mem.size = 65536 ∧
      s.session.changedRegs.map RegEntry.text = ["$r0: 160000".toList] ∧
      s'.session.changedRegs.map RegEntry.text = ["$r0: 160000".toList] ∧
      s.session.changedWords.map MemEntry.text = ["-25536: 160000".toList] ∧
      s'.session.changedWords.map MemEntry.text = ["-25536: 160000".toList] ∧
      ∀ index, s.session.cpu.mem.get? index = s'.session.cpu.mem.get? index := by
  intro code code' s s'
  have run := Moves.one (.call (.call (s := .new ⟨65536⟩ none) (.load code) rfl))
  have run := run.call (.takeNone rfl rfl)
  have run := run.call (.finish rfl nofun nofun)
  have h : s.Reachable := .operate (.run 9) ((Reachable.new ⟨65536⟩ none).moves run)
  have h' : s'.Reachable :=
    .operate (.run 9) (.operate (.load code') (.operate (.setMemWords 65536) (.new .standard none)))
  have size : s.session.cpu.mem.size = 65536 := by decide +kernel
  have size' : s'.session.cpu.mem.size = 65536 := by decide +kernel
  have regs : s.session.changedRegs.map RegEntry.text = ["$r0: 160000".toList] := by decide +kernel
  have regs' : s'.session.changedRegs.map RegEntry.text = ["$r0: 160000".toList] := by decide +kernel
  have words : s.session.changedWords.map MemEntry.text = ["-25536: 160000".toList] := by
    decide +kernel
  have words' : s'.session.changedWords.map MemEntry.text = ["-25536: 160000".toList] := by
    decide +kernel
  have same := h.words_eq_of_texts h' (size.trans size'.symm) size.le (regs.trans regs'.symm)
    (words.trans words'.symm)
  exact ⟨h, h', size, size', regs, regs', words, words', same.2.1⟩

end Scene.Reachable

end PocketMips
