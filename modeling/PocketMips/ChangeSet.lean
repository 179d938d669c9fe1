/-!
# Change sets

A set of indices that remembers the order in which they came. Membership is one bit in a vector of
machine words, which grows as far as the largest member needs; the order is a second copy of the set.
-/

namespace PocketMips

/-- A set of indices with the order of their first insertion. -/
structure ChangeSet where
  bits : Array (BitVec 64)
  order : Array Nat
  deriving DecidableEq, Repr

namespace ChangeSet

/-- The set without members. -/
def empty : ChangeSet :=
  ⟨#[], #[]⟩

instance : Inhabited ChangeSet := ⟨empty⟩

/-- Is the bit of an index set? A bit beyond the vector is not. -/
def testBit (bits : Array (BitVec 64)) (index : Nat) : Bool :=
  (bits[index / 64]?).any (·.getLsbD (index % 64))

/-- The vector, long enough for the bit of an index. -/
def grow (bits : Array (BitVec 64)) (index : Nat) : Array (BitVec 64) :=
  bits ++ Array.replicate (index / 64 + 1 - bits.size) 0

/-- The vector with the bit of an index set. -/
def setBit (bits : Array (BitVec 64)) (index : Nat) : Array (BitVec 64) :=
  (grow bits index).modify (index / 64) (· ||| BitVec.twoPow 64 (index % 64))

/-- Is the index a member? -/
def contains (s : ChangeSet) (index : Nat) : Bool :=
  testBit s.bits index

/-- The set with one more member, and whether it was new. -/
def insertNew (s : ChangeSet) (index : Nat) : ChangeSet × Bool :=
  if s.contains index then (s, false)
  else (⟨setBit s.bits index, s.order.push index⟩, true)

/-- The set with one more member. -/
def insert (s : ChangeSet) (index : Nat) : ChangeSet :=
  (s.insertNew index).1

/-- The members in the order of their first insertion. -/
def toList (s : ChangeSet) : List Nat :=
  s.order.toList

/-- The number of members. -/
def size (s : ChangeSet) : Nat :=
  s.order.size

/-- Is the set without members? -/
def isEmpty (s : ChangeSet) : Bool :=
  s.order.isEmpty

/-- The set after all members are taken out. -/
def clear (_ : ChangeSet) : ChangeSet :=
  empty

/-! ### Bits -/

/-- To set a bit makes the vector as long as the bit needs. -/
@[simp] theorem size_setBit (bits : Array (BitVec 64)) (index : Nat) :
    (setBit bits index).size = max bits.size (index / 64 + 1) := by
  simp [setBit, grow]; omega

/-- No bit is set as the vector grows. -/
theorem testBit_grow (bits : Array (BitVec 64)) (index other : Nat) :
    testBit (grow bits index) other = testBit bits other := by
  simp only [testBit, grow]
  by_cases h : other / 64 < bits.size
  · rw [Array.getElem?_append_left h]
  · rw [Array.getElem?_append_right (Nat.le_of_not_lt h), Array.getElem?_eq_none (Nat.le_of_not_lt h),
      Array.getElem?_replicate]
    split <;> simp

/-- Setting a bit changes no other bit. -/
theorem testBit_setBit (bits : Array (BitVec 64)) (index other : Nat) :
    testBit (setBit bits index) other = (decide (index = other) || testBit bits other) := by
  rw [← testBit_grow bits index other]
  simp only [setBit, testBit, Array.getElem?_modify]
  by_cases same : index / 64 = other / 64
  · have grown : other / 64 < (grow bits index).size := by simp [grow]; omega
    have bit : other % 64 = index % 64 ↔ index = other := by omega
    simp [same, Array.getElem?_eq_getElem grown, Nat.mod_lt, bit, Bool.or_comm]
  · have apart : index ≠ other := fun h => same (h ▸ rfl)
    simp [same, apart]

/-! ### Members -/

@[simp] theorem contains_empty (index : Nat) : empty.contains index = false := by
  simp [contains, testBit, empty]

/-- After an insertion, the set contains the new index and what it contained. -/
theorem contains_insert (s : ChangeSet) (index other : Nat) :
    (s.insert index).contains other = (decide (index = other) || s.contains other) := by
  unfold insert insertNew
  split
  case isTrue h =>
    by_cases same : index = other
    · subst same; simpa using h
    · simp [same]
  case isFalse => exact testBit_setBit ..

@[simp] theorem toList_empty : empty.toList = [] := rfl

/-- An index that is inserted comes last, unless it is there. -/
theorem toList_insert (s : ChangeSet) (index : Nat) :
    (s.insert index).toList = if s.contains index then s.toList else s.toList ++ [index] := by
  unfold insert insertNew
  split <;> simp [toList, *]

end ChangeSet

end PocketMips
