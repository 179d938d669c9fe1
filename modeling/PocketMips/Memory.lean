import PocketMips.RegFile
import Std.Data.TreeMap

/-!
# The data memory

A fixed number of words, all zero at first. Only the words that were written are kept, so a large
memory costs nothing until it is used. What a memory holds is what `get?` says.
-/

namespace PocketMips

/-- A memory of `size` words. A word that is not kept is zero. -/
structure Memory where
  size : Nat
  kept : Std.TreeMap Nat Word

namespace Memory

/-- The smallest number of words that a memory has. -/
def minSize : Nat := 4096

/-- The largest number of words that a memory has. -/
def maxSize : Nat := 67108864

/-- The number of words of a memory for which `words` were asked. -/
def clampSize (words : Nat) : Nat :=
  max minSize (min words maxSize)

/-- A memory of zeros. -/
def zero (words : Nat) : Memory :=
  ⟨clampSize words, ∅⟩

/-- The word at an index, which has to be below the size. -/
def get? (m : Memory) (index : Nat) : Option Word :=
  if index < m.size then some (m.kept.getD index 0) else none

/-- The memory with another word at an index. Beyond the size it shows nowhere. -/
def set (m : Memory) (index : Nat) (w : Word) : Memory :=
  { m with kept := m.kept.insert index w }

/-- The memory with another word at an index, which has to be below the size. -/
def set? (m : Memory) (index : Nat) (w : Word) : Option Memory :=
  if index < m.size then some (m.set index w) else none

/-- The memory with every word zero. -/
def clear (m : Memory) : Memory :=
  { m with kept := ∅ }

/-- The memory for a new start with `words` asked for: cleared, or another one if the size is not right. -/
def renew (m : Memory) (words : Nat) : Memory :=
  if m.size = clampSize words then m.clear else zero words

@[simp] theorem size_zero (words : Nat) : (zero words).size = clampSize words := rfl

/-- In a new memory each word is zero. -/
theorem get?_zero (words index : Nat) :
    (zero words).get? index = if index < clampSize words then some 0 else none := by
  simp [zero, get?]

/-- It does not show whether a memory was cleared or replaced. -/
theorem renew_eq (m : Memory) (words : Nat) : m.renew words = zero words := by
  unfold renew
  split
  case isTrue h => rw [clear, h, zero]
  case isFalse => rfl

/-- Setting a word changes no other word. -/
theorem get?_set (m : Memory) (index other : Nat) (w : Word) :
    (m.set index w).get? other =
      if index = other ∧ index < m.size then some w else m.get? other := by
  by_cases h : index = other
  · subst h; by_cases hlt : index < m.size <;> simp [get?, set, hlt]
  · simp [get?, set, Std.TreeMap.getD_insert, h]

/-- A word can be written where one can be read. -/
theorem set?_eq_map (m : Memory) (index : Nat) (w : Word) :
    m.set? index w = (m.get? index).map fun _ => m.set index w := by
  unfold set? get?
  split <;> rfl

end Memory

end PocketMips
