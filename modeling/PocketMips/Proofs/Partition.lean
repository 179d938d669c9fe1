import Mathlib.Data.List.Forall2
import PocketMips.Proofs.Diagnosis
import PocketMips.Proofs.Reassembly

/-!
# What becomes of each line

Assembling a text loses no line, makes none up and keeps their order. `Text.Lines` says what the lines of
a text are, without a way to find them. `Assembly.Deals` deals numbered lines out one after the other: a
blank one is passed over, and any other one gives an instruction or a rejection. Everything that there is
to say of an assembled text (`Assembly.Partition`) is an induction on how its lines were dealt out.

There are two ways in which a line can be without content. A blank line is passed over; a line with
commas but nothing else has no fields, and is rejected for this reason and no other
(`SourceLine.problem_eq_emptyLine_iff`).
-/

namespace PocketMips
open Text
open scoped List

/-! ### The lines of a text -/

namespace Text

/-- The lines of a text. Each line feed ends one, and takes one carriage return before it along. -/
inductive Lines : List Char → List (List Char) → Prop where
  /-- Where nothing is left, there is no line. -/
  | none : Lines [] []
  /-- What is left after the last line feed is a line. -/
  | last {line} :
    line ≠ [] →
    '\n' ∉ line →
    Lines line [line]
  | feed {line rest ls} :
    '\n' ∉ line →
    line.getLast? ≠ some '\r' →
    Lines rest ls →
    Lines (line ++ '\n' :: rest) (line :: ls)
  | returnFeed {line rest ls} :
    '\n' ∉ line →
    Lines rest ls →
    Lines (line ++ '\r' :: '\n' :: rest) (line :: ls)

/-- An empty text has no lines. -/
lemma lines_nil : lines [] = [] := by
  rw [lines]
  rfl

/-- A text falls into lines in one way only, the one that is computed. -/
lemma Lines.eq_lines {cs : List Char} {ls : List (List Char)} (h : Lines cs ls) : ls = lines cs := by
  induction h with
  | none => exact lines_nil.symm
  | last ne noFeed => exact (lines_of_noFeed ne noFeed).symm
  | feed noFeed noReturn _ ih => rw [lines_feed noFeed, dropReturn, if_neg noReturn, ih]
  | @returnFeed line rest _ noFeed _ ih =>
    have noFeed' : '\n' ∉ line ++ ['\r'] := by simpa using noFeed
    rw [List.append_cons, lines_feed noFeed', dropReturn, if_pos (by simp), List.dropLast_concat, ih]

/-- A text falls into the lines that are computed. -/
lemma lines_lines (cs : List Char) : Lines cs (lines cs) := by
  induction cs using line_induction with
  | last line noFeed =>
    by_cases empty : line = []
    · subst empty
      rw [lines_nil]
      exact .none
    · rw [lines_of_noFeed empty noFeed]
      exact .last empty noFeed
  | feed line rest noFeed ih =>
    rw [lines_feed noFeed, dropReturn]
    split
    case isFalse noReturn => exact .feed noFeed noReturn ih
    case isTrue return_ =>
      obtain ⟨front, rfl⟩ : ∃ front, line = front ++ ['\r'] :=
        ⟨line.dropLast, (List.dropLast_append_getLast? '\r' return_).symm⟩
      rw [List.mem_append, not_or] at noFeed
      rw [← List.append_cons, List.dropLast_concat]
      exact .returnFeed noFeed.1 ih

/-- The lines of a text are those that are computed, and no others. -/
lemma lines_iff {cs : List Char} {ls : List (List Char)} : Lines cs ls ↔ ls = lines cs := by
  constructor
  · exact Lines.eq_lines
  · rintro rfl
    exact lines_lines cs

/-- A text with a character other than white space has a piece. -/
lemma pieces_eq_nil_iff {cs : List Char} : pieces cs = [] ↔ allBlank cs = true := by
  refine ⟨fun h => ?_, pieces_of_allBlank⟩
  induction cs with
  | nil => rfl
  | cons c cs ih =>
    cases blank : isBlank c with
    | true =>
      rw [pieces_cons_of_blank blank] at h
      rw [allBlank, List.all_cons, blank, Bool.true_and]
      exact ih h
    | false =>
      rw [pieces_run c blank] at h
      cases h

end Text

/-! ### Lines without content -/

namespace SourceLine

/-- A blank line gives no instruction. -/
lemma toOption_parse_of_allBlank {line : List Char} (blank : allBlank line = true) :
    (parse line).toOption = none := by
  cases parsed : parse line with
  | error e => rfl
  | ok i =>
    obtain ⟨_, decoded, -⟩ := map_eq_ok_iff.1 parsed
    rw [notBlank_of_decode decoded] at blank
    cases blank

/-- A line without fields is one of commas and white space, and nothing else. -/
lemma fields_eq_nil_iff {line : List Char} :
    fields line = [] ↔ ∀ c ∈ line, c = ',' ∨ isBlank c = true := by
  rw [← List.map_eq_nil_iff (f := Field.text), text_fields, pieces_eq_nil_iff, allBlank,
    List.all_eq_true]
  simp only [List.mem_filter, bne_iff_ne, and_imp]
  exact forall₂_congr fun c _ => or_iff_not_imp_left.symm

/-- A line that is not blank and has no fields has a comma. -/
lemma comma_mem {line : List Char} (notBlank : allBlank line = false)
    (nothing : ∀ c ∈ line, c = ',' ∨ isBlank c = true) : ',' ∈ line := by
  rw [allBlank, List.all_eq_false] at notBlank
  obtain ⟨c, mem, notBlank⟩ := notBlank
  obtain rfl | blank := nothing c mem
  · exact mem
  · exact absurd blank notBlank

/-- A rejected line is called empty if it has no fields, and for no other reason. -/
lemma problem_eq_emptyLine_iff {line : List Char} {e : ParseError} (h : parse line = .error e) :
    e.problem = .emptyLine ↔ fields line = [] := by
  have diagnosis : Diagnosis line (fields line) e :=
    decode_eq_error_iff.1 (map_eq_error_iff.1 h)
  generalize fields line = fs at diagnosis
  cases diagnosis with
  | emptyLine => exact ⟨fun _ => rfl, fun _ => rfl⟩
  | unknownMnemonic => exact ⟨nofun, nofun⟩
  | @operand _ operands _ k _ _ fault =>
    refine ⟨fun empty => ?_, nofun⟩
    obtain ⟨w, -, blamed⟩ := fault.here
    generalize operands[k]? = found at blamed
    cases blamed with
    | missing => cases empty
    | fault wrong =>
      subst empty
      cases wrong with
      | malformed malformed => cases malformed

end SourceLine

/-! ### Dealing out the lines -/

namespace Assembly
variable {xs : List (List Char × Nat)} {origins : List Nat} {is : List Instruction}
  {rs : List Rejection}

/-- Numbered lines are dealt out: to the instructions, of which the numbers are kept here, and to the
rejections. -/
inductive Deals :
    List (List Char × Nat) → List Nat → List Instruction → List Rejection → Prop where
  | nil : Deals [] [] [] []
  | skip {line number xs origins is rs} :
    allBlank line = true →
    Deals xs origins is rs →
    Deals ((line, number) :: xs) origins is rs
  | accept {line number i xs origins is rs} :
    allBlank line = false →
    SourceLine.parse line = .ok i →
    Deals xs origins is rs →
    Deals ((line, number) :: xs) (number :: origins) (i :: is) rs
  | reject {line number e xs origins is rs} :
    allBlank line = false →
    SourceLine.parse line = .error e →
    Deals xs origins is rs →
    Deals ((line, number) :: xs) origins is (⟨number, line, e⟩ :: rs)

/-- To judge lines is to deal them out. -/
lemma exists_deals (xs : List (List Char × Nat)) :
    ∃ origins, Deals xs origins (accepted (xs.filterMap judge)) (rejected (xs.filterMap judge)) := by
  induction xs with
  | nil => exact ⟨[], .nil⟩
  | cons x xs ih =>
    obtain ⟨line, number⟩ := x
    obtain ⟨origins, dealt⟩ := ih
    cases blank : allBlank line with
    | true =>
      rw [List.filterMap_cons_none (judge_blank number blank)]
      exact ⟨origins, .skip blank dealt⟩
    | false =>
      cases parsed : SourceLine.parse line with
      | ok i =>
        rw [List.filterMap_cons_some (judge_ok number blank parsed)]
        exact ⟨number :: origins, .accept blank parsed dealt⟩
      | error e =>
        rw [List.filterMap_cons_some (judge_error number blank parsed)]
        exact ⟨origins, .reject blank parsed dealt⟩

namespace Deals

/-- The numbers of the accepted lines come in the order of the text. -/
lemma origins_sublist (h : Deals xs origins is rs) : origins <+ xs.map Prod.snd := by
  induction h with
  | nil => exact .refl _
  | skip _ _ ih => exact ih.cons _
  | accept _ _ _ ih => exact ih.cons_cons _
  | reject _ _ _ ih => exact ih.cons _

/-- The numbers of the rejected lines come in the order of the text. -/
lemma numbers_sublist (h : Deals xs origins is rs) :
    rs.map Rejection.number <+ xs.map Prod.snd := by
  induction h with
  | nil => exact .refl _
  | skip _ _ ih => exact ih.cons _
  | accept _ _ _ ih => exact ih.cons _
  | reject _ _ _ ih => exact ih.cons_cons _

/-- Each instruction is that of the line with the number of its origin. -/
lemma instrs (h : Deals xs origins is rs) :
    List.Forall₂ (fun number i => ∃ line, (line, number) ∈ xs ∧ SourceLine.parse line = .ok i)
      origins is := by
  have more {x : List Char × Nat} {xs : List (List Char × Nat)} (number : Nat) (i : Instruction) :
      (∃ line, (line, number) ∈ xs ∧ SourceLine.parse line = .ok i) →
        ∃ line, (line, number) ∈ x :: xs ∧ SourceLine.parse line = .ok i :=
    fun ⟨line, mem, parsed⟩ => ⟨line, .tail _ mem, parsed⟩
  induction h with
  | nil => exact .nil
  | skip _ _ ih => exact ih.imp more
  | accept _ parsed _ ih => exact .cons ⟨_, .head _, parsed⟩ (ih.imp more)
  | reject _ _ _ ih => exact ih.imp more

/-- Each rejection shows its line and what is wrong with it. -/
lemma rejections (h : Deals xs origins is rs) : ∀ r ∈ rs, (r.line, r.number) ∈ xs ∧
    allBlank r.line = false ∧ SourceLine.parse r.line = .error r.error := by
  induction h with
  | nil => nofun
  | skip _ _ ih => exact fun r mem => (ih r mem).imp_left (.tail _)
  | accept _ _ _ ih => exact fun r mem => (ih r mem).imp_left (.tail _)
  | reject notBlank parsed _ ih =>
    intro r mem
    cases mem with
    | head => exact ⟨.head _, notBlank, parsed⟩
    | tail _ mem => exact (ih r mem).imp_left (.tail _)

/-- Each line that is not blank is dealt out, and to one side only. -/
lemma perm (h : Deals xs origins is rs) : (origins ++ rs.map Rejection.number).Perm
    ((xs.filter (!allBlank ·.1)).map Prod.snd) := by
  induction h with
  | nil => exact .refl _
  | skip blank _ ih =>
    rw [List.filter_cons_of_neg (by simp [blank])]
    exact ih
  | accept notBlank _ _ ih =>
    rw [List.filter_cons_of_pos (by simp [notBlank])]
    exact ih.cons _
  | reject notBlank _ _ ih =>
    rw [List.filter_cons_of_pos (by simp [notBlank])]
    exact List.perm_middle.trans (ih.cons _)

/-- The instructions are those of the lines that can be parsed, which no blank line can. -/
lemma instrs_eq (h : Deals xs origins is rs) :
    is = (xs.map Prod.fst).filterMap fun line => (SourceLine.parse line).toOption := by
  induction h with
  | nil => rfl
  | skip blank _ ih =>
    rw [List.map_cons, List.filterMap_cons, SourceLine.toOption_parse_of_allBlank blank]
    exact ih
  | accept _ parsed _ ih =>
    rw [List.map_cons, List.filterMap_cons, parsed]
    exact congrArg (_ :: ·) ih
  | reject _ parsed _ ih =>
    rw [List.map_cons, List.filterMap_cons, parsed]
    exact ih

end Deals

/-! ### Assembled texts -/

/-- What becomes of the lines of a text. The numbers of lines start from one and count blank lines too,
and the origins are the numbers of the lines that the instructions come from. -/
structure Partition (lines : List (List Char)) (a : Assembly) (origins : List Nat) : Prop where
  /-- Each instruction is what the line of its origin is parsed to. -/
  instrs : List.Forall₂
    (fun number i => ∃ line, (line, number) ∈ lines.zipIdx 1 ∧ SourceLine.parse line = .ok i)
    origins a.program.toList
  /-- Each rejection has the number, the text and the error of its line. -/
  rejections : ∀ r ∈ a.rejections,
    (r.line, r.number) ∈ lines.zipIdx 1 ∧ SourceLine.parse r.line = .error r.error
  /-- Each line that is not blank is the origin of an instruction or was rejected. -/
  once : (origins ++ a.rejections.map Rejection.number).Perm
    (((lines.zipIdx 1).filter (!allBlank ·.1)).map Prod.snd)
  /-- No line is both, or one of them twice. -/
  apart : (origins ++ a.rejections.map Rejection.number).Nodup
  sourceOrder : origins.Pairwise (· < ·)
  errorOrder : (a.rejections.map Rejection.number).Pairwise (· < ·)
  count : a.program.size + a.rejections.length = lines.countP (!allBlank ·)
  /-- The instructions are those of the lines that are accepted, one by one. -/
  accepted : a.program.toList = lines.filterMap fun line => (SourceLine.parse line).toOption
  /-- A line is rejected as empty if it has commas and white space and nothing else. -/
  empty : ∀ r ∈ a.rejections,
    r.error.problem = .emptyLine ↔ ',' ∈ r.line ∧ ∀ c ∈ r.line, c = ',' ∨ isBlank c = true

end Assembly

/-- Every text falls into lines in one way, and assembling it partitions them. -/
theorem ofSource_partition (source : List Char) :
    ∃ lines origins, (∀ other, Text.Lines source other ↔ other = lines) ∧
      (Assembly.ofSource source).Partition lines origins := by
  obtain ⟨origins, dealt⟩ := Assembly.exists_deals ((Text.lines source).zipIdx 1)
  -- The numbers of the lines rise, and what is dealt out is a part of them in the same order.
  have numbers : (((Text.lines source).zipIdx 1).map Prod.snd).Pairwise (· < ·) := by
    rw [List.zipIdx_map_snd]
    exact List.pairwise_lt_range' 1
  refine ⟨Text.lines source, origins, fun _ => Text.lines_iff, ?_⟩
  refine ⟨dealt.instrs, ?rejections, dealt.perm, ?apart, numbers.sublist dealt.origins_sublist,
    numbers.sublist dealt.numbers_sublist, ?count, ?accepted, ?empty⟩
  case rejections =>
    intro r mem
    obtain ⟨here, -, parsed⟩ := dealt.rejections r mem
    exact ⟨here, parsed⟩
  case apart =>
    apply dealt.perm.nodup_iff.2
    exact (numbers.sublist (List.filter_sublist.map _)).imp Nat.ne_of_lt
  case count =>
    have total := dealt.perm.length_eq
    rw [List.length_append, List.length_map, List.length_map] at total
    calc (Assembly.ofSource source).program.size + (Assembly.ofSource source).rejections.length
      _ = origins.length + (Assembly.ofSource source).rejections.length := by
        rw [dealt.instrs.length_eq]
        rfl
      _ = ((Text.lines source).zipIdx 1).countP (!allBlank ·.1) := by
        rw [List.countP_eq_length_filter]
        exact total
      _ = (((Text.lines source).zipIdx 1).map Prod.fst).countP (!allBlank ·) := by
        rw [List.countP_map]
        rfl
      _ = (Text.lines source).countP (!allBlank ·) := by rw [List.zipIdx_map_fst]
  case accepted =>
    have eq := dealt.instrs_eq
    rw [List.zipIdx_map_fst] at eq
    exact eq
  case empty =>
    intro r mem
    obtain ⟨-, notBlank, parsed⟩ := dealt.rejections r mem
    rw [SourceLine.problem_eq_emptyLine_iff parsed, SourceLine.fields_eq_nil_iff]
    exact ⟨fun nothing => ⟨SourceLine.comma_mem notBlank nothing, nothing⟩, And.right⟩

end PocketMips
