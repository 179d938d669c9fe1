import Mathlib.Data.List.DropRight
import Mathlib.Data.List.Nodup
import Mathlib.Order.MinMax
import PocketMips.Proofs.ChangeSets

/-!
# The history of a change set

A change set is made by insertions and is cleared now and then. What it holds is what was inserted since it was
cleared last, each index at the place of its first insertion. It keeps this twice, as bits and in order, and the
bits say no more than the order does: the vector ends with the word of the largest index, so there is only one
vector for a set. Hence two change sets with one order are the same, whatever was done to come to them.

The main statement is `ChangeSet.recalls`.
-/

namespace PocketMips

/-- What can be done with a change set. -/
inductive Change where
  | insert (index : Nat)
  | clear

namespace Change

/-- The index that is inserted. -/
def index? : Change → Option Nat
  | .insert index => some index
  | .clear => none

/-- All that was inserted since the set was cleared last. -/
def inserted (changes : List Change) : List Nat :=
  (changes.rtakeWhile (·.index?.isSome)).filterMap index?

/-- An insertion comes after those before it. -/
lemma inserted_insert (changes : List Change) (index : Nat) :
    inserted (changes ++ [.insert index]) = inserted changes ++ [index] := by
  unfold inserted
  rw [List.rtakeWhile_concat_pos _ _ _ rfl, List.filterMap_append]
  rfl

/-- After the set was cleared, nothing was inserted. -/
lemma inserted_clear (changes : List Change) : inserted (changes ++ [.clear]) = [] := by
  unfold inserted
  rw [List.rtakeWhile_concat_neg _ _ _ Bool.false_ne_true]
  rfl

end Change

namespace ChangeSet

/-- The set after a change. -/
def change (s : ChangeSet) : Change → ChangeSet
  | .insert index => s.insert index
  | .clear => s.clear

/-- The set after changes one after another. -/
def changeAll (s : ChangeSet) (changes : List Change) : ChangeSet :=
  changes.foldl change s

/-- What a change set tells about the changes that have made it of a new one. -/
structure Recalls (changes : List Change) (s : ChangeSet) : Prop where
  /-- The members are the indices inserted since the last clearing, each where it came first. -/
  order : s.toList = (Change.inserted changes).eraseDups
  once : s.toList.Nodup
  members : ∀ index, s.contains index = true ↔ index ∈ s.toList
  /-- An insertion tells whether the index was a new one. -/
  fresh : ∀ index, (s.insertNew index).2 = true ↔ s.contains index = false
  size : s.size = s.toList.length
  isEmpty : s.isEmpty = true ↔ s.toList = []
  /-- The vector ends with the word of the largest member. -/
  words : s.bits.size = s.toList.max?.elim 0 (· / 64 + 1)
  /-- The bits that are set are those of the members. -/
  bits : ∀ index, (∃ w, s.bits[index / 64]? = some w ∧ w.getLsbD (index % 64) = true) ↔ index ∈ s.toList
  /-- Two sets are equal, bits and order, if their orders are. -/
  same : ∀ changes', s = empty.changeAll changes' ↔ s.toList = (empty.changeAll changes').toList

/-! ### Two copies of one set -/

/-- There is nothing in a change set that its order does not tell. -/
structure Packed (s : ChangeSet) : Prop where
  members : s.Consistent
  words : s.bits.size = s.toList.max?.elim 0 (· / 64 + 1)

/-- A bit is set if it is so in the word that has it. -/
lemma testBit_iff {bits : Array (BitVec 64)} {index : Nat} :
    testBit bits index = true ↔ ∃ w, bits[index / 64]? = some w ∧ w.getLsbD (index % 64) = true := by
  unfold testBit
  rw [Option.any_eq_true]

/-- One more number is the largest one if it is not below the others. -/
lemma max?_concat (l : List Nat) (n : Nat) : (l ++ [n]).max? = some (l.max?.elim n (max · n)) := by
  rw [List.max?_eq_some_iff]
  cases largest : l.max? with
  | none => simp [List.max?_eq_none_iff.mp largest]
  | some m =>
    obtain ⟨mem, le⟩ := List.max?_eq_some_iff.mp largest
    simp only [Option.elim_some, List.mem_append, List.mem_singleton]
    constructor
    · obtain e | e := max_choice m n
      · rw [e]
        exact .inl mem
      · exact .inr e
    · rintro b (before | rfl)
      · exact (le b before).trans (le_max_left m n)
      · exact le_max_right m b

namespace Packed
variable {s t : ChangeSet}

/-- The empty set has no words, as it has no members. -/
lemma empty : empty.Packed where
  members := .empty
  words := rfl

/-- An insertion makes the vector as long as the largest member needs, and no longer. -/
lemma insert (h : s.Packed) (index : Nat) : (s.insert index).Packed where
  members := h.members.insert index
  words := by
    rw [toList_insert]
    unfold ChangeSet.insert insertNew
    split
    case isTrue => exact h.words
    case isFalse =>
      show (setBit s.bits index).size = _
      rw [size_setBit, h.words, max?_concat]
      cases s.toList.max? with
      | none => exact Nat.zero_max _
      | some m =>
        simp only [Option.elim_some]
        omega

/-- The vectors of two sets with one order are equal word by word and bit by bit. -/
lemma eq_of_toList (h : s.Packed) (h' : t.Packed) (same : s.toList = t.toList) : s = t := by
  have sizes : s.bits.size = t.bits.size := by rw [h.words, h'.words, same]
  have bit (index : Nat) : testBit s.bits index = testBit t.bits index := by
    rw [Bool.eq_iff_iff]
    exact (h.members index).trans (same ▸ (h'.members index).symm)
  have bits : s.bits = t.bits := by
    apply Array.ext sizes
    intro k lt lt'
    apply BitVec.eq_of_getLsbD_eq
    intro i small
    have word : (64 * k + i) / 64 = k := by omega
    have place : (64 * k + i) % 64 = i := by omega
    have here := bit (64 * k + i)
    unfold testBit at here
    rwa [word, place, Array.getElem?_eq_getElem lt, Array.getElem?_eq_getElem lt'] at here
  cases s
  cases t
  cases bits
  cases Array.toList_inj.mp same
  rfl

end Packed

/-! ### Sets and their histories -/

/-- The last change is made of the set after the others. -/
lemma changeAll_concat (s : ChangeSet) (changes : List Change) (c : Change) :
    s.changeAll (changes ++ [c]) = (s.changeAll changes).change c :=
  List.foldl_concat ..

/-- Whatever was changed, the vector is as long as the members need. -/
lemma packed_changeAll (changes : List Change) : (empty.changeAll changes).Packed := by
  induction changes using List.reverseRecOn with
  | nil => exact .empty
  | append_singleton changes c ih =>
    rw [changeAll_concat]
    cases c with
    | insert index => exact ih.insert index
    | clear => exact .empty

/-- A set stands for what was inserted since it was cleared last. -/
lemma standsFor_changeAll (changes : List Change) :
    (empty.changeAll changes).StandsFor (Change.inserted changes) := by
  induction changes using List.reverseRecOn with
  | nil => exact .empty
  | append_singleton changes c ih =>
    rw [changeAll_concat]
    cases c with
    | insert index =>
      rw [Change.inserted_insert]
      exact ih.insert index
    | clear =>
      rw [Change.inserted_clear]
      exact .empty

/-- Without its repetitions, a list holds nothing twice. -/
lemma nodup_eraseDups (l : List Nat) : l.eraseDups.Nodup := by
  induction l using List.reverseRecOn with
  | nil => exact List.nodup_nil
  | append_singleton l n ih =>
    rw [eraseDups_concat]
    split
    case isTrue => exact ih
    case isFalse new =>
      rw [← List.concat_eq_append]
      exact ih.concat (List.mem_eraseDups.not.mpr new)

/-- Whatever is inserted and however often it is cleared, a change set recalls what was inserted since, in the
order of the first time, and its bits say the same. -/
theorem recalls (changes : List Change) : Recalls changes (empty.changeAll changes) := by
  have stands := standsFor_changeAll changes
  have packed := packed_changeAll changes
  refine ⟨stands.order, ?once, packed.members, ?fresh, rfl, ?isEmpty, packed.words, ?bits, ?same⟩
  case once =>
    rw [stands.order]
    exact nodup_eraseDups _
  case fresh =>
    intro index
    unfold insertNew
    cases (empty.changeAll changes).contains index <;> simp
  case isEmpty =>
    unfold isEmpty toList
    rw [Array.isEmpty_iff, Array.toList_eq_nil_iff]
  case bits =>
    intro index
    rw [← testBit_iff]
    exact packed.members index
  case same =>
    intro changes'
    constructor
    · exact congrArg toList
    · exact packed.eq_of_toList (packed_changeAll changes')

/-- The insertions before the clearing are forgotten, and the vector is as short as it can be again. -/
example :
    let s := empty.changeAll [.insert 200, .clear, .insert 64, .insert 3, .insert 64]
    s.toList = [64, 3] ∧ s.bits = #[8, 1] ∧ s.contains 200 = false := by
  decide

end ChangeSet

end PocketMips
