import Mathlib.Data.List.Basic
import Mathlib.Data.List.Induction
import Mathlib.Tactic.Lemma
import PocketMips.ChangeSet

/-!
# Change sets and lists

A change set stands for the list of all that was inserted into it, each index where it came first.
The bits and the order say the same: an index has its bit set exactly if it is in the list.
Where it does not matter what was inserted when, it is enough that the set is consistent.
-/

namespace PocketMips

/-- One more element is kept if it is a new one. -/
lemma eraseDups_concat {α : Type} [DecidableEq α] (l : List α) (a : α) :
    (l ++ [a]).eraseDups = if a ∈ l then l.eraseDups else l.eraseDups ++ [a] := by
  rw [List.eraseDups_append]
  by_cases known : a ∈ l
  · have rest : [a].removeAll l = [] := by simp [List.removeAll, known]
    rw [if_pos known, rest, List.eraseDups_nil, List.append_nil]
  · have rest : [a].removeAll l = [a] := by simp [List.removeAll, known]
    rw [if_neg known, rest, List.eraseDups_cons, List.filter_nil, List.eraseDups_nil]

/-- Where different elements have different images, their first places are those of the images. -/
lemma eraseDups_map {α β : Type} [DecidableEq α] [DecidableEq β] {f : α → β}
    (injective : f.Injective) (l : List α) : (l.map f).eraseDups = l.eraseDups.map f := by
  induction l using List.reverseRecOn with
  | nil => rfl
  | append_singleton l a ih =>
    have known : f a ∈ l.map f ↔ a ∈ l := List.mem_map_of_injective injective
    rw [List.map_append, List.map_singleton, eraseDups_concat, eraseDups_concat, ih]
    by_cases there : a ∈ l
    · rw [if_pos there, if_pos (known.mpr there)]
    · rw [if_neg there, if_neg (known.not.mpr there), List.map_append, List.map_singleton]

/-- A change set stands for the indices that were inserted, in the order of their insertion. -/
structure ChangeSet.StandsFor (s : ChangeSet) (inserted : List Nat) : Prop where
  order : s.toList = inserted.eraseDups
  bits : ∀ index, s.contains index = true ↔ index ∈ inserted

namespace ChangeSet.StandsFor
variable {s : ChangeSet} {inserted : List Nat}

/-- The empty set stands for no insertions. -/
lemma empty : ChangeSet.empty.StandsFor [] where
  order := rfl
  bits := by simp

/-- To insert an index adds it to the history, whether it was there or not. -/
lemma insert (h : s.StandsFor inserted) (index : Nat) :
    (s.insert index).StandsFor (inserted ++ [index]) where
  order := by simp only [toList_insert, h.bits, h.order, eraseDups_concat]
  bits other := by
    rw [contains_insert, Bool.or_eq_true, h.bits, decide_eq_true_iff, List.mem_append,
      List.mem_singleton, or_comm, eq_comm]

end ChangeSet.StandsFor

/-- The bits and the order have the same members. -/
def ChangeSet.Consistent (s : ChangeSet) : Prop :=
  ∀ index, s.contains index = true ↔ index ∈ s.toList

namespace ChangeSet.Consistent
variable {s : ChangeSet}

/-- The empty set is consistent: it has neither bits nor entries. -/
lemma empty : ChangeSet.empty.Consistent := by
  intro index
  simp

/-- What is listed after an insertion is the new index and what was listed before. -/
lemma mem_insert (h : s.Consistent) (index other : Nat) :
    other ∈ (s.insert index).toList ↔ other = index ∨ other ∈ s.toList := by
  rw [toList_insert]
  split
  case isTrue known =>
    constructor
    · exact .inr
    · rintro (rfl | mem)
      · exact (h other).mp known
      · exact mem
  case isFalse => rw [List.mem_append, List.mem_singleton, or_comm]

/-- Insertions keep a set consistent. -/
lemma insert (h : s.Consistent) (index : Nat) : (s.insert index).Consistent := by
  intro other
  rw [contains_insert, Bool.or_eq_true, decide_eq_true_iff, h.mem_insert, h, eq_comm]

end ChangeSet.Consistent

end PocketMips
