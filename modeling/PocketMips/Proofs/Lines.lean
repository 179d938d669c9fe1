import Mathlib.Data.List.Forall2
import Mathlib.Data.List.TakeWhile
import Mathlib.Tactic.Lemma
import PocketMips.Program

/-!
# Lines of a text

How a text falls into lines, one line feed at a time, what becomes of a text all of whose lines are
accepted, and from where the instructions of an assembled program come.
-/

namespace PocketMips

namespace Text

/-- The characters of a text are not one that the text does not have. -/
lemma bne_of_notMem {cs : List Char} {x : Char} (h : x ∉ cs) : ∀ c ∈ cs, (c != x) = true := by
  intro c hc
  rw [bne_iff_ne]
  rintro rfl
  exact h hc

/-- A text without a line feed is its only line. -/
lemma lines_of_noFeed {line : List Char} (ne : line ≠ []) (h : '\n' ∉ line) : lines line = [line] := by
  have plain := bne_of_notMem h
  have whole : line.takeWhile (· != '\n') = line := by
    rw [← List.append_nil line, List.takeWhile_append_of_pos plain]
    simp
  have nothing : line.dropWhile (· != '\n') = [] := List.dropWhile_eq_nil_iff.2 plain
  rw [lines, if_neg (by simpa using ne)]
  split
  · rw [whole]
  · rename_i more
    rw [nothing] at more
    cases more

/-- A line feed ends the first line, and the lines of the rest follow. -/
lemma lines_feed {line : List Char} (h : '\n' ∉ line) (rest : List Char) :
    lines (line ++ '\n' :: rest) = dropReturn line :: lines rest := by
  have plain := bne_of_notMem h
  have front : (line ++ '\n' :: rest).takeWhile (· != '\n') = line := by
    rw [List.takeWhile_append_of_pos plain]
    simp
  have back : (line ++ '\n' :: rest).dropWhile (· != '\n') = '\n' :: rest := by
    rw [List.dropWhile_append_of_pos plain]
    simp
  rw [lines, if_neg (by simp)]
  split
  · rename_i none
    rw [back] at none
    cases none
  · rename_i some
    rw [back] at some
    cases some
    rw [front]

/-- The lines of texts that are joined by line feeds are these texts, if none of them is empty, holds a
line feed or ends with a carriage return. -/
lemma lines_intercalate {texts : List (List Char)}
    (h : ∀ t ∈ texts, t ≠ [] ∧ '\n' ∉ t ∧ t.getLast? ≠ some '\r') :
    lines (['\n'].intercalate texts) = texts := by
  induction texts with
  | nil => simp [lines]
  | cons t texts ih =>
    obtain ⟨ne, noFeed, noReturn⟩ := h t (.head _)
    cases texts with
    | nil => rw [List.intercalate_singleton, lines_of_noFeed ne noFeed]
    | cons u texts =>
      rw [List.intercalate_cons_cons, List.append_assoc, List.singleton_append,
        lines_feed noFeed, ih fun x hx => h x (.tail _ hx), dropReturn, if_neg noReturn]

/-- The lines of texts that are ended by line feeds each are these texts, if none of them holds a line
feed or ends with a carriage return. -/
lemma lines_flatMap {texts : List (List Char)}
    (h : ∀ t ∈ texts, '\n' ∉ t ∧ t.getLast? ≠ some '\r') :
    lines (texts.flatMap (· ++ ['\n'])) = texts := by
  induction texts with
  | nil => simp [lines]
  | cons t texts ih =>
    obtain ⟨noFeed, noReturn⟩ := h t (.head _)
    rw [List.flatMap_cons, List.append_assoc, List.singleton_append, lines_feed noFeed,
      ih fun x hx => h x (.tail _ hx), dropReturn, if_neg noReturn]

/-- A text is one line, or a line, a line feed, and another text. -/
theorem line_induction {P : List Char → Prop} (last : ∀ line, '\n' ∉ line → P line)
    (feed : ∀ line rest, '\n' ∉ line → P rest → P (line ++ '\n' :: rest)) (cs : List Char) : P cs := by
  induction h : cs.length using Nat.strong_induction_on generalizing cs with
  | _ n ih =>
    by_cases mem : '\n' ∈ cs
    · obtain ⟨line, rest, rfl, noFeed⟩ := List.eq_append_cons_of_mem mem
      apply feed line rest noFeed
      apply ih rest.length ?_ rest rfl
      simp only [List.length_append, List.length_cons] at h
      omega
    · exact last cs mem

/-- No line holds a line feed. -/
lemma noFeed_of_mem_lines {cs line : List Char} (h : line ∈ lines cs) : '\n' ∉ line := by
  induction cs using line_induction with
  | last cs noFeed =>
    by_cases empty : cs = []
    · subst empty
      simp [lines] at h
    · rw [lines_of_noFeed empty noFeed, List.mem_singleton] at h
      rwa [h]
  | feed first rest noFeed ih =>
    rw [lines_feed noFeed] at h
    cases h with
    | head =>
      unfold dropReturn
      split
      case isTrue => exact fun mem => noFeed (List.dropLast_subset first mem)
      case isFalse => exact noFeed
    | tail _ h => exact ih h

end Text

namespace Assembly

section
variable {line : List Char} (number : Nat)

/-- There is no verdict on a line without content. -/
lemma judge_blank (blank : Text.allBlank line = true) : judge (line, number) = none := by
  simp [judge, blank]

/-- A line that can be parsed is accepted. -/
lemma judge_ok {i : Instruction} (notBlank : Text.allBlank line = false)
    (parsed : SourceLine.parse line = .ok i) : judge (line, number) = some (.ok i) := by
  simp [judge, notBlank, parsed]

/-- A line that cannot be parsed is rejected with its number, its text and the error. -/
lemma judge_error {e : ParseError} (notBlank : Text.allBlank line = false)
    (parsed : SourceLine.parse line = .error e) :
    judge (line, number) = some (.error ⟨number, line, e⟩) := by
  simp [judge, notBlank, parsed]

end

/-- A line that is not blank and is accepted with an instruction. -/
def Accepts (line : List Char) (i : Instruction) : Prop :=
  Text.allBlank line = false ∧ SourceLine.parse line = .ok i

/-- Accepted lines give their instructions, whatever their numbers. -/
lemma filterMap_judge {lines : List (List Char)} {is : List Instruction}
    (h : List.Forall₂ Accepts lines is) (number : Nat) :
    (lines.zipIdx number).filterMap judge = is.map .ok := by
  induction h generalizing number with
  | nil => rfl
  | @cons line i lines is head _ ih =>
    obtain ⟨notBlank, parses⟩ := head
    rw [List.zipIdx_cons, List.filterMap_cons_some (judge_ok number notBlank parses), ih,
      List.map_cons]

/-- Verdicts without a rejection hold the instructions and nothing else. -/
lemma accepted_map_ok (is : List Instruction) :
    accepted (is.map .ok) = is ∧ rejected (is.map .ok) = [] := by
  induction is with
  | nil => exact ⟨rfl, rfl⟩
  | cons i is ih =>
    constructor
    · exact congrArg (i :: ·) ih.1
    · exact ih.2

/-- A text whose lines are all accepted is assembled into their instructions. -/
lemma ofSource_of_accepts {source : List Char} {is : List Instruction}
    (h : List.Forall₂ Accepts (Text.lines source) is) : ofSource source = ⟨.ofList is, []⟩ := by
  obtain ⟨taken, left⟩ := accepted_map_ok is
  simp only [ofSource, filterMap_judge h, taken, left]

/-- Each instruction of an assembled program comes from a line of the text. -/
lemma exists_line {source : List Char} {i : Instruction}
    (h : i ∈ (ofSource source).program.toList) :
    ∃ line ∈ Text.lines source, SourceLine.parse line = .ok i := by
  simp only [ofSource, accepted, Program.toList, Program.ofList, List.mem_filterMap] at h
  obtain ⟨verdict, ⟨⟨line, number⟩, numbered, judged⟩, taken⟩ := h
  refine ⟨line, List.fst_mem_of_mem_zipIdx numbered, ?_⟩
  cases verdict with
  | error r => cases taken
  | ok j =>
    cases taken
    by_cases blank : Text.allBlank line = true
    · simp [judge, blank] at judged
    · cases parsed : SourceLine.parse line with
      | error e => simp [judge, blank, parsed] at judged
      | ok j => simpa [judge, blank, parsed] using judged

end Assembly

end PocketMips
