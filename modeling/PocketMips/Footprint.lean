import PocketMips.ChangeSet
import PocketMips.Reg
import Std.Data.TreeMap

/-!
# Footprints

What a run has touched: the registers it wrote and the words it stored, in the order of the first
time, and for each word whether it was read and whether it was written. Reading a word is an access
and no change.
-/

namespace PocketMips

/-- The ways in which a word was used. -/
structure Access where
  read : Bool
  written : Bool
  deriving DecidableEq, Repr

namespace Access

/-- The word was not used. -/
def unused : Access :=
  ⟨false, false⟩

/-- Was the word used at all? -/
def any (a : Access) : Bool :=
  a.read || a.written

/-- The access together with a reading. -/
def withRead (a : Access) : Access :=
  { a with read := true }

/-- The access together with a writing. -/
def withWrite (a : Access) : Access :=
  { a with written := true }

end Access

/-- The registers and words that a run has touched. -/
structure Footprint where
  regs : ChangeSet
  words : ChangeSet
  accesses : Std.TreeMap Nat Access

namespace Footprint

/-- Nothing was touched. -/
def empty : Footprint :=
  ⟨.empty, .empty, ∅⟩

/-- How a word was used. -/
def access (f : Footprint) (index : Nat) : Access :=
  f.accesses.getD index .unused

/-- A register was written. -/
def writeReg (f : Footprint) (r : Reg) : Footprint :=
  { f with regs := f.regs.insert r.val }

/-- A word was read. -/
def readWord (f : Footprint) (index : Nat) : Footprint :=
  let access := (f.access index).withRead
  { f with accesses := f.accesses.insert index access }

/-- A word was written. -/
def writeWord (f : Footprint) (index : Nat) : Footprint :=
  let access := (f.access index).withWrite
  { f with words := f.words.insert index, accesses := f.accesses.insert index access }

/-- The registers written, in the order of the first time. -/
def changedRegs (f : Footprint) : List Reg :=
  f.regs.toList.filterMap fun slot => if h : slot < 32 then some ⟨slot, h⟩ else none

/-- The words written, in the order of the first time. -/
def changedWords (f : Footprint) : List Nat :=
  f.words.toList

/-- To read a word is recorded for this word only. -/
theorem access_readWord (f : Footprint) (index other : Nat) :
    (f.readWord index).access other =
      if index = other then (f.access other).withRead else f.access other := by
  by_cases h : index = other
  · subst h; simp [readWord, access]
  · simp [readWord, access, Std.TreeMap.getD_insert, h]

/-- To write a word is recorded for this word only. -/
theorem access_writeWord (f : Footprint) (index other : Nat) :
    (f.writeWord index).access other =
      if index = other then (f.access other).withWrite else f.access other := by
  by_cases h : index = other
  · subst h; simp [writeWord, access]
  · simp [writeWord, access, Std.TreeMap.getD_insert, h]

/-- The registers written are those in the set. -/
theorem mem_changedRegs {f : Footprint} {r : Reg} :
    r ∈ f.changedRegs ↔ r.val ∈ f.regs.toList := by
  unfold changedRegs
  rw [List.mem_filterMap]
  constructor
  · rintro ⟨slot, mem, h⟩
    split at h
    · cases h
      exact mem
    · cases h
  · intro mem
    exact ⟨r.val, mem, by simp⟩

/-- A register that is written comes after the others, unless it is there already. -/
theorem changedRegs_writeReg (f : Footprint) (r : Reg) :
    (f.writeReg r).changedRegs =
      if f.regs.contains r.val then f.changedRegs else f.changedRegs ++ [r] := by
  unfold changedRegs writeReg
  rw [ChangeSet.toList_insert]
  split <;> simp

end Footprint

end PocketMips
