import PocketMips.Proofs.Lines

/-!
# Texts one after the other

A line feed between two texts keeps their lines apart, so the two can be assembled separately: the
instructions of the second text follow those of the first, and so do its rejections, with higher line
numbers. What the line feed does to the lines is `Text.lines_append`. A text that ends with a line feed
already, or is empty, gets a blank line in between, which counts and gives nothing. A text that ends with
a carriage return would lose it to the line feed, so its last line would be another one.
-/

namespace PocketMips
open Text

namespace Text

/-- The lines of two texts with a line feed between them are those of the one and those of the other,
with an empty line in between if the first text has no last line without a line feed. -/
theorem lines_append {a : List Char} (noReturn : a.getLast? ≠ some '\r') (b : List Char) :
    ∃ front, lines (a ++ '\n' :: b) = front ++ lines b ∧ front.length = a.count '\n' + 1 ∧
      (front = lines a ∨ front = lines a ++ [[]]) := by
  -- On the lines of the first text; the line feed in between ends the last one, even if it is empty.
  induction a using line_induction with
  | last line noFeed =>
    refine ⟨[line], ?_, ?_, ?_⟩
    · rw [lines_feed noFeed, dropReturn, if_neg noReturn, List.singleton_append]
    · rw [List.count_eq_zero.2 noFeed, List.length_singleton]
    · by_cases empty : line = []
      · subst empty
        right
        simp [lines]
      · left
        rw [lines_of_noFeed empty noFeed]
  | feed line rest noFeed ih =>
    have noReturn' : rest.getLast? ≠ some '\r' := by
      intro last
      apply noReturn
      rw [List.getLast?_append, List.getLast?_cons, last]
      rfl
    obtain ⟨front, cut, length, front_eq⟩ := ih noReturn'
    refine ⟨dropReturn line :: front, ?_, ?_, ?_⟩
    · rw [List.append_assoc, List.cons_append, lines_feed noFeed, cut, List.cons_append]
    · rw [List.length_cons, length, List.count_append, List.count_eq_zero.2 noFeed,
        List.count_cons_self, Nat.zero_add]
    · rw [lines_feed noFeed]
      exact front_eq.imp (congrArg _) (congrArg _)

end Text

/-- The rejection of a line in a text that has more lines in front. -/
def Rejection.shift (more : Nat) (r : Rejection) : Rejection :=
  { r with number := r.number + more }

namespace Assembly

/-- What becomes of lines with numbers from `first` on. -/
def verdicts (first : Nat) (lines : List (List Char)) : List (Except Rejection Instruction) :=
  (lines.zipIdx first).filterMap judge

/-- The assembly of a text is what the verdicts on its lines accept and reject. -/
lemma ofSource_eq (source : List Char) : ofSource source =
    ⟨.ofList (accepted (verdicts 1 (lines source))), rejected (verdicts 1 (lines source))⟩ := rfl

/-- The verdicts on the lines of two texts are those on the first and, counted on, those on the second. -/
lemma verdicts_append (first : Nat) (front back : List (List Char)) :
    verdicts first (front ++ back) =
      verdicts first front ++ verdicts (first + front.length) back := by
  unfold verdicts
  rw [List.zipIdx_append, List.filterMap_append]

/-- The number of a line shows in its rejection only. -/
lemma judge_shift (line : List Char) (number more : Nat) :
    judge (line, number + more) =
      (judge (line, number)).map (Except.mapError (Rejection.shift more)) := by
  cases blank : allBlank line with
  | true => rw [judge_blank _ blank, judge_blank _ blank, Option.map_none]
  | false =>
    cases parsed : SourceLine.parse line with
    | ok i =>
      rw [judge_ok _ blank parsed, judge_ok _ blank parsed]
      rfl
    | error e =>
      rw [judge_error _ blank parsed, judge_error _ blank parsed]
      rfl

/-- Lines that are counted on have the same verdicts, with their numbers shifted. -/
lemma verdicts_shift (first more : Nat) (lines : List (List Char)) :
    verdicts (first + more) lines =
      (verdicts first lines).map (Except.mapError (Rejection.shift more)) := by
  unfold verdicts
  induction lines generalizing first with
  | nil => rfl
  | cons line lines ih =>
    rw [List.zipIdx_cons, List.zipIdx_cons, List.filterMap_cons, List.filterMap_cons, judge_shift,
      Nat.add_right_comm, ih]
    cases judge (line, first) <;> rfl

/-- What is accepted among all verdicts is what is accepted in either part. -/
lemma accepted_append (vs ws : List (Except Rejection Instruction)) :
    accepted (vs ++ ws) = accepted vs ++ accepted ws :=
  List.filterMap_append

/-- What is rejected among all verdicts is what is rejected in either part. -/
lemma rejected_append (vs ws : List (Except Rejection Instruction)) :
    rejected (vs ++ ws) = rejected vs ++ rejected ws :=
  List.filterMap_append

/-- A change of the rejections does not touch what is accepted. -/
lemma accepted_map_mapError (f : Rejection → Rejection)
    (vs : List (Except Rejection Instruction)) :
    accepted (vs.map (Except.mapError f)) = accepted vs := by
  induction vs with
  | nil => rfl
  | cons v vs ih =>
    cases v with
    | ok i => exact congrArg (i :: ·) ih
    | error r => exact ih

/-- A change of the rejections changes each of them. -/
lemma rejected_map_mapError (f : Rejection → Rejection)
    (vs : List (Except Rejection Instruction)) :
    rejected (vs.map (Except.mapError f)) = (rejected vs).map f := by
  induction vs with
  | nil => rfl
  | cons v vs ih =>
    cases v with
    | ok i => exact ih
    | error r => exact congrArg (f r :: ·) ih

/-- An empty line at the end gives nothing. -/
lemma verdicts_of_front {a : List Char} {front : List (List Char)}
    (h : front = lines a ∨ front = lines a ++ [[]]) : verdicts 1 front = verdicts 1 (lines a) := by
  obtain rfl | rfl := h
  · rfl
  · rw [verdicts_append]
    exact List.append_nil _

end Assembly

/-- Two texts with a line feed between them are assembled into the instructions and the rejections of the
first and then those of the second, which is moved down by the lines in front of it. -/
theorem ofSource_append {a : List Char} (noReturn : a.getLast? ≠ some '\r') (b : List Char) :
    Assembly.ofSource (a ++ '\n' :: b) =
      ⟨.ofList ((Assembly.ofSource a).program.toList ++ (Assembly.ofSource b).program.toList),
        (Assembly.ofSource a).rejections ++
          (Assembly.ofSource b).rejections.map (Rejection.shift (a.count '\n' + 1))⟩ := by
  obtain ⟨front, cut, length, front_eq⟩ := lines_append noReturn b
  have split : Assembly.verdicts 1 (lines (a ++ '\n' :: b)) =
      Assembly.verdicts 1 (lines a) ++
        (Assembly.verdicts 1 (lines b)).map (Except.mapError (Rejection.shift (a.count '\n' + 1))) := by
    rw [cut, Assembly.verdicts_append, length, Assembly.verdicts_shift,
      Assembly.verdicts_of_front front_eq]
  rw [Assembly.ofSource_eq, split, Assembly.accepted_append, Assembly.rejected_append,
    Assembly.accepted_map_mapError, Assembly.rejected_map_mapError]
  rfl

/-- The first text ends with a line feed of its own, and the second one is cut by a blank line. -/
theorem ofSource_append_after_feed :
    let a := "nop\r\n,,\r\n".toList
    let b := "exit\r\n\nfrob\r".toList
    a.getLast? ≠ some '\r' ∧
      Assembly.ofSource (a ++ '\n' :: b) =
        ⟨.ofList ((Assembly.ofSource a).program.toList ++ (Assembly.ofSource b).program.toList),
          (Assembly.ofSource a).rejections ++ (Assembly.ofSource b).rejections.map (Rejection.shift 3)⟩ ∧
      (Assembly.ofSource (a ++ '\n' :: b)).rejections.map Rejection.number = [2, 6] :=
  ⟨by decide, ofSource_append (by decide) _, by decide +kernel⟩

end PocketMips
