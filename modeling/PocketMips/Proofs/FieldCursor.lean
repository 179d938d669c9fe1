import PocketMips.Proofs.Diagnosis

/-!
# Fields found with a cursor

The fields of a line can be found with nothing but a place in the line that moves to the right. A round looks
from there for the next character that is not white space, and from that one for the next that is; what is
between the two is a run, and a field if anything is left of it without its commas. If nothing is left, another
round follows.

Places are counted in bytes, and a slice of the line fails if it would cut a character. No slice that a round
takes does: the place is always the length of what was passed. `Yields` says what comes out of the rounds, by a
derivation for each list, so a loop without an end or a slice that fails would yield nothing.

The main statement is `SourceLine.fieldsOf_fields`.
-/

namespace PocketMips

namespace Text

/-- Cuts a text behind its first `n` bytes, unless this would cut a character. -/
def splitBytes? : (n : Nat) → List Char → Option (List Char × List Char)
  | 0, cs => some ([], cs)
  | _ + 1, [] => none
  | n + 1, c :: cs =>
    if c.utf8Size ≤ n + 1 then
      (splitBytes? (n + 1 - c.utf8Size) cs).map fun (front, back) => (c :: front, back)
    else none

/-- The slice of a text at a place, unless the place is none of the text or cuts a character. -/
def slice? (text : List Char) (s : Span) : Option (List Char) :=
  if s.start ≤ s.stop then do
    let (_, rest) ← splitBytes? s.start text
    let (piece, _) ← splitBytes? (s.stop - s.start) rest
    return piece
  else none

/-- The byte at which the first character of a kind starts. -/
def findByte? (kind : Char → Bool) : List Char → Option Nat
  | [] => none
  | c :: cs => if kind c then some 0 else (findByte? kind cs).map (c.utf8Size + ·)

end Text

namespace SourceLine
open Text

/-- What comes of a round. -/
inductive Round where
  /-- There is nothing but white space any more. -/
  | ended
  /-- A run of commas alone. -/
  | passed (pos : Nat)
  /-- A field, and the place behind it. -/
  | found (f : Field) (pos : Nat)

/-- The place that a round comes to. -/
def Round.pos? : Round → Option Nat
  | .ended => none
  | .passed pos | .found _ pos => some pos

/-- One round from a place in a line, which fails if a slice fails. -/
def round? (line : List Char) (pos : Nat) : Option Round := do
  let rest ← slice? line ⟨pos, byteLength line⟩
  match findByte? (!isBlank ·) rest with
  | none => return .ended
  | some skipped =>
    let start := pos + skipped
    let tail ← slice? line ⟨start, byteLength line⟩
    let stop := start + (findByte? isBlank tail).getD (byteLength line - start)
    let run ← slice? line ⟨start, stop⟩
    let text := run.filter (· != ',')
    if text.isEmpty then return .passed stop else return .found ⟨text, ⟨start, stop⟩⟩ stop

/-- The next field from a place and the place behind it, or none if there is no field any more. -/
inductive Next (line : List Char) : Nat → Option (Field × Nat) → Prop where
  | ended {pos} :
    round? line pos = some .ended →
    Next line pos none
  | passed {pos pos' answer} :
    round? line pos = some (.passed pos') →
    Next line pos' answer →
    Next line pos answer
  | found {pos f pos'} :
    round? line pos = some (.found f pos') →
    Next line pos (some (f, pos'))

/-- All fields from a place, up to where there is none any more. -/
inductive Yields (line : List Char) : Nat → List Field → Prop where
  | nil {pos} :
    Next line pos none →
    Yields line pos []
  | cons {pos f pos' fs} :
    Next line pos (some (f, pos')) →
    Yields line pos' fs →
    Yields line pos (f :: fs)

/-- The places that rounds come to from the front of a line. -/
inductive Visited (line : List Char) : Nat → Prop where
  | start : Visited line 0
  | round {pos round pos'} :
    Visited line pos →
    round? line pos = some round →
    round.pos? = some pos' →
    Visited line pos'

/-- What the fields of a line are, and how they are found. -/
structure FieldsOf (line : List Char) (fs : List Field) : Prop where
  /-- These fields are found from the front of the line, and then no more. -/
  yields : ∀ fs', Yields line 0 fs' ↔ fs' = fs
  /-- No slice fails on the way. -/
  whole : ∀ pos, Visited line pos → ∃ round, round? line pos = some round
  /-- The texts are what is between white space after the commas were deleted. -/
  texts : fs.map Field.text = pieces (line.filter (· != ','))
  nonempty : ∀ f ∈ fs, f.span.start < f.span.stop
  ordered : fs.Pairwise fun f f' => f.span.stop < f'.span.start
  /-- Each field is a run of the line without its commas. -/
  runs : ∀ f ∈ fs, ∃ r, IsRun line r ∧ f.span = r.span ∧ slice? line f.span = some r.text ∧
    f.text = r.text.filter (· != ',')
  /-- A run is left out if there is nothing in it but commas. -/
  leftOut : ∀ r, IsRun line r → ((∀ f ∈ fs, f.span ≠ r.span) ↔ ∀ c ∈ r.text, c = ',')

end SourceLine

/-! ### Slices -/

namespace Text

/-- Only the empty text has no bytes. -/
lemma byteLength_eq_zero_iff {cs : List Char} : byteLength cs = 0 ↔ cs = [] := by
  constructor
  · intro none
    by_contra ne
    exact absurd none (Nat.ne_of_gt (byteLength_pos ne))
  · rintro rfl
    rfl

/-- Before the first byte there is nothing. -/
lemma splitBytes?_zero_iff {cs front back : List Char} :
    splitBytes? 0 cs = some (front, back) ↔ cs = front ++ back ∧ byteLength front = 0 := by
  have start : splitBytes? 0 cs = some ([], cs) := by cases cs <;> rfl
  rw [start, byteLength_eq_zero_iff, Option.some.injEq, Prod.mk.injEq]
  constructor
  · rintro ⟨rfl, rfl⟩
    exact ⟨rfl, rfl⟩
  · rintro ⟨rfl, rfl⟩
    exact ⟨rfl, rfl⟩

/-- A text can be split at a position exactly if a front of it has that many bytes. -/
lemma splitBytes?_eq_some_iff {n : Nat} {cs front back : List Char} :
    splitBytes? n cs = some (front, back) ↔ cs = front ++ back ∧ byteLength front = n := by
  induction cs generalizing n front with
  | nil =>
    cases n with
    | zero => exact splitBytes?_zero_iff
    | succ n =>
      simp only [splitBytes?, false_iff, not_and, reduceCtorEq]
      intro e
      obtain ⟨rfl, -⟩ := List.append_eq_nil_iff.mp e.symm
      exact nofun
  | cons c cs ih =>
    have positive := c.utf8Size_pos
    cases n with
    | zero => exact splitBytes?_zero_iff
    | succ n =>
      unfold splitBytes?
      split
      case isTrue fits =>
        rw [Option.map_eq_some_iff]
        constructor
        · rintro ⟨⟨front, back⟩, split, ⟨⟩⟩
          obtain ⟨rfl, length⟩ := ih.mp split
          refine ⟨rfl, ?_⟩
          rw [byteLength_cons]
          omega
        · rintro ⟨e, length⟩
          cases front with
          | nil => cases length
          | cons d front =>
            cases e
            rw [byteLength_cons] at length
            exact ⟨(front, back), ih.mpr ⟨rfl, by omega⟩, rfl⟩
      case isFalse wide =>
        -- The position is within the first character, where no front of the text ends.
        simp only [false_iff, not_and, reduceCtorEq]
        intro e length
        cases front with
        | nil => cases length
        | cons d front =>
          cases e
          rw [byteLength_cons] at length
          omega

/-- A slice is what a piece of the text covers; where no piece does, there is none. -/
lemma slice?_eq_some_iff {text piece : List Char} {s : Span} :
    slice? text s = some piece ↔ s.Covers text piece := by
  unfold slice? Span.Covers
  split
  case isTrue ordered =>
    simp only [Option.bind_eq_bind, Option.bind_eq_some_iff, Option.pure_def, Option.some.injEq,
      Prod.exists, splitBytes?_eq_some_iff]
    constructor
    · rintro ⟨before, rest, ⟨rfl, start⟩, piece, after, ⟨rfl, length⟩, rfl⟩
      refine ⟨before, after, (List.append_assoc ..).symm, ?_⟩
      rw [Span.mk.injEq, byteLength_append]
      omega
    · rintro ⟨before, after, rfl, rfl⟩
      refine ⟨before, piece ++ after, ⟨List.append_assoc .., rfl⟩, piece, after, ⟨rfl, ?_⟩, rfl⟩
      rw [byteLength_append, Nat.add_sub_cancel_left]
  case isFalse reversed =>
    simp only [false_iff, not_exists, not_and, reduceCtorEq]
    rintro before after rfl rfl
    exact reversed (by simp)

/-- A slice up to the end of the text. -/
lemma slice?_rest (before rest : List Char) :
    slice? (before ++ rest) ⟨byteLength before, byteLength (before ++ rest)⟩ = some rest :=
  slice?_eq_some_iff.mpr ⟨before, [], (List.append_nil _).symm, rfl⟩

/-- Only one run is at a place. -/
lemma IsRun.eq_of_span {line : List Char} {r r' : Run} (h : IsRun line r) (h' : IsRun line r')
    (same : r.span = r'.span) : r = r' := by
  have text : some r.text = some r'.text := by
    rw [← slice?_eq_some_iff.mpr h.covers, ← slice?_eq_some_iff.mpr h'.covers, same]
  have start : r.start = r'.start := congrArg Span.start same
  cases r
  cases r'
  cases text
  cases start
  rfl

/-- What is found is what stops a run of the other characters. -/
lemma findByte?_eq (kind : Char → Bool) (cs : List Char) :
    findByte? kind cs =
      if cs.dropWhile (!kind ·) = [] then none else some (byteLength (cs.takeWhile (!kind ·))) := by
  induction cs with
  | nil => rfl
  | cons c cs ih =>
    cases here : kind c with
    | true => simp [findByte?, here]
    | false =>
      simp only [findByte?, here, Bool.false_eq_true, if_false, ih, Bool.not_false,
        List.dropWhile_cons_of_pos, List.takeWhile_cons_of_pos, byteLength_cons]
      split <;> rfl

/-- From the front of a run, the next white space is what stops it, or the text ends there. -/
lemma Longest.findByte? {run after : List Char} (h : Longest [] run after) :
    (findByte? isBlank (run ++ after)).getD (byteLength (run ++ after)) = byteLength run := by
  have rest : (run ++ after).dropWhile (!isBlank ·) = after :=
    Token.dropWhile_run (fun c hc => by simp [h.solid c hc]) (fun c hc => by simp [h.right c hc])
  rw [findByte?_eq, h.takeWhile, rest]
  split
  case isTrue last => rw [Option.getD_none, last, List.append_nil]
  case isFalse => rfl

end Text

/-! ### Rounds -/

namespace SourceLine
open Text

/-- At the end of the line the cursor has ended. -/
lemma round?_end (line : List Char) : round? line (byteLength line) = some .ended := by
  have nothing := slice?_rest line []
  rw [List.append_nil] at nothing
  unfold round?
  rw [nothing]
  rfl

/-- White space makes no difference to a round. -/
lemma round?_blank {c : Char} (blank : isBlank c = true) (before cs : List Char) :
    round? (before ++ c :: cs) (byteLength before) =
      round? (before ++ c :: cs) (byteLength (before ++ [c])) := by
  have here := slice?_rest before (c :: cs)
  have behind := slice?_rest (before ++ [c]) cs
  rw [List.append_assoc, List.singleton_append] at behind
  unfold round?
  simp only [here, behind, Option.bind_eq_bind, Option.bind_some, findByte?, blank, Bool.not_true,
    Bool.false_eq_true, if_false]
  cases findByte? (!isBlank ·) cs with
  | none => rfl
  | some skipped =>
    have start : byteLength before + (c.utf8Size + skipped) = byteLength (before ++ [c]) + skipped := by
      rw [byteLength_append, byteLength_cons, byteLength_nil, Nat.add_zero, Nat.add_assoc]
    simp only [Option.map_some, start]

/-- What comes of a round that has taken a run. -/
def Round.ofRun (r : Run) : Round :=
  if (Field.ofRun r).text.isEmpty then .passed r.span.stop else .found (Field.ofRun r) r.span.stop

/-- A round takes a run that it stands in front of. -/
lemma round?_run {run after : List Char} (h : Longest [] run after) (before : List Char) :
    round? (before ++ (run ++ after)) (byteLength before) = some (.ofRun ⟨byteLength before, run⟩) := by
  let r : Run := ⟨byteLength before, run⟩
  have first : Text.findByte? (!isBlank ·) (run ++ after) = some 0 := by
    obtain ⟨c, run, rfl⟩ := List.exists_cons_of_ne_nil h.nonempty
    rw [List.cons_append, Text.findByte?, if_pos (by simp [h.solid c (.head _)])]
  have length : (Text.findByte? isBlank (run ++ after)).getD
      (byteLength (before ++ (run ++ after)) - byteLength before) = byteLength run := by
    rw [byteLength_append, Nat.add_sub_cancel_left, h.findByte?]
  have taken : slice? (before ++ (run ++ after)) r.span = some run :=
    slice?_eq_some_iff.mpr ⟨before, after, (List.append_assoc ..).symm, by simp [r, Run.span]⟩
  unfold round?
  simp only [slice?_rest, first, length, Option.bind_eq_bind, Option.bind_some, Nat.add_zero]
  rw [show Span.mk _ _ = r.span from rfl, taken]
  show (if (Field.ofRun r).text.isEmpty then _ else _) = some (Round.ofRun r)
  unfold Round.ofRun
  split <;> rfl

/-! ### Fields one after the other -/

section
variable {line : List Char} {pos pos' : Nat} {answer answer' : Option (Field × Nat)} {fs fs' : List Field}

/-- Where the same round is made, the same field comes next. -/
lemma Next.of_round? (same : round? line pos = round? line pos') (h : Next line pos' answer) :
    Next line pos answer := by
  cases h with
  | ended round => exact .ended (same.trans round)
  | passed round rest => exact .passed (same.trans round) rest
  | found round => exact .found (same.trans round)

/-- There is at most one next field. -/
lemma Next.unique (h : Next line pos answer) (h' : Next line pos answer') : answer = answer' := by
  induction h with
  | ended round =>
    cases h' with
    | ended => rfl
    | passed round' | found round' => cases round.symm.trans round'
  | passed round _ ih =>
    cases h' with
    | passed round' rest =>
      cases round.symm.trans round'
      exact ih rest
    | ended round' | found round' => cases round.symm.trans round'
  | found round =>
    cases h' with
    | found round' =>
      cases round.symm.trans round'
      rfl
    | ended round' | passed round' => cases round.symm.trans round'

/-- Where the same round is made, the same fields are yielded. -/
lemma Yields.of_round? (same : round? line pos = round? line pos') (h : Yields line pos' fs) :
    Yields line pos fs := by
  cases h with
  | nil next => exact .nil (next.of_round? same)
  | cons next rest => exact .cons (next.of_round? same) rest

/-- A run of commas alone yields nothing. -/
lemma Yields.passed (round : round? line pos = some (.passed pos')) (h : Yields line pos' fs) :
    Yields line pos fs := by
  cases h with
  | nil next => exact .nil (.passed round next)
  | cons next rest => exact .cons (.passed round next) rest

/-- The fields that are yielded are determined. -/
lemma Yields.unique (h : Yields line pos fs) (h' : Yields line pos fs') : fs = fs' := by
  induction h generalizing fs' with
  | nil next =>
    cases h' with
    | nil => rfl
    | cons next' => cases next.unique next'
  | cons next _ ih =>
    cases h' with
    | nil next' => cases next.unique next'
    | cons next' rest =>
      cases next.unique next'
      rw [ih rest]

end

/-- From behind what was passed, the fields are those of the runs that are left. -/
lemma yields_runsFrom (before cs : List Char) :
    Yields (before ++ cs) (byteLength before)
      (((runsFrom (byteLength before) cs).map Field.ofRun).filter (!·.text.isEmpty)) := by
  generalize start : byteLength before = pos
  -- Along the cut into runs: a blank takes no round of its own, and a run takes one, with a field or without.
  induction pos, cs using runsFrom.induct generalizing before with
  | case1 pos =>
    rw [runsFrom.eq_def, List.append_nil, ← start]
    exact .nil (.ended (round?_end before))
  | case2 pos c cs blank ih =>
    subst start
    have ih := ih (before ++ [c]) (by simp)
    rw [List.append_assoc, List.singleton_append] at ih
    have same := round?_blank blank before cs
    rw [byteLength_append, byteLength_cons, byteLength_nil, Nat.add_zero] at same
    rw [runsFrom_blank blank]
    exact ih.of_round? same
  | case3 pos c cs notBlank run ih =>
    subst start
    have solid : isBlank c = false := by simpa using notBlank
    have first : Longest [] run (cs.dropWhile (!isBlank ·)) := longest_takeWhile solid cs
    have cut : c :: cs = run ++ cs.dropWhile (!isBlank ·) := cons_eq_append ..
    have ih := ih (before ++ run) (byteLength_append ..)
    have round := round?_run first before
    rw [List.append_assoc, ← cut] at ih
    rw [← cut, Round.ofRun] at round
    rw [runsFrom_run solid, List.map_cons, List.filter_cons]
    split
    case isTrue kept =>
      rw [if_neg (by simpa using kept)] at round
      exact .cons (.found round) ih
    case isFalse commas =>
      rw [if_pos (by simpa using commas)] at round
      exact ih.passed round

/-- From between two characters a round comes to such a place again, or to its end. -/
lemma exists_round (before rest : List Char) :
    ∃ round, round? (before ++ rest) (byteLength before) = some round ∧
      ∀ pos, round.pos? = some pos → ∃ front, front <+: before ++ rest ∧ byteLength front = pos := by
  induction rest generalizing before with
  | nil =>
    refine ⟨.ended, ?_, nofun⟩
    rw [List.append_nil]
    exact round?_end before
  | cons c cs ih =>
    cases blank : isBlank c with
    | true =>
      rw [round?_blank blank, ← List.singleton_append, ← List.append_assoc]
      exact ih (before ++ [c])
    | false =>
      have first := longest_takeWhile blank cs
      rw [cons_eq_append (!isBlank ·) c cs]
      refine ⟨_, round?_run first before, fun pos stop => ?_⟩
      refine ⟨before ++ (c :: cs.takeWhile (!isBlank ·)), ⟨_, List.append_assoc ..⟩, ?_⟩
      unfold Round.ofRun at stop
      split at stop <;> cases stop <;> exact byteLength_append ..

/-- A visited position is that of a whole character. -/
lemma Visited.whole {line : List Char} {pos : Nat} (h : Visited line pos) :
    ∃ front, front <+: line ∧ byteLength front = pos := by
  induction h with
  | start => exact ⟨[], List.nil_prefix, rfl⟩
  | round _ round leads ih =>
    obtain ⟨before, ⟨rest, rfl⟩, rfl⟩ := ih
    obtain ⟨_, round', next⟩ := exists_round before rest
    cases round.symm.trans round'
    exact next _ leads

/-! ### Fields and runs -/

/-- A field of a line is a run with something besides commas, without the commas around it. -/
lemma mem_fields_iff {line : List Char} {f : Field} :
    f ∈ fields line ↔ ∃ r, IsRun line r ∧ (∃ c ∈ r.text, c ≠ ',') ∧ Field.ofRun r = f := by
  rw [fields_eq, List.mem_map]
  simp only [(rawFields_iff.mpr rfl : RawFields line _).mem, and_assoc]

/-- From the start of a line, the cursor yields its fields. -/
lemma yields_fields (line : List Char) : Yields line 0 (fields line) :=
  yields_runsFrom [] line

/-- The cursor finds the fields of a line, wherever its commas are, and they are what is left of the words
when the commas are deleted. -/
theorem fieldsOf_fields (line : List Char) : FieldsOf line (fields line) where
  yields fs' := by
    constructor
    · exact fun h => h.unique (yields_fields line)
    · rintro rfl
      exact yields_fields line
  whole pos visited := by
    obtain ⟨before, ⟨rest, rfl⟩, rfl⟩ := visited.whole
    obtain ⟨round, taken, -⟩ := exists_round before rest
    exact ⟨round, taken⟩
  texts := text_fields line
  nonempty f mem := by
    obtain ⟨r, ⟨_, _, -, long, -⟩, -, rfl⟩ := mem_fields_iff.mp mem
    exact Nat.lt_add_of_pos_right (byteLength_pos long.nonempty)
  ordered := by
    rw [fields_eq, List.pairwise_map]
    exact (runs_ordered line).filter _
  runs f mem := by
    obtain ⟨r, isRun, -, rfl⟩ := mem_fields_iff.mp mem
    exact ⟨r, isRun, rfl, slice?_eq_some_iff.mpr isRun.covers, rfl⟩
  leftOut r isRun := by
    constructor
    · intro absent c mem
      by_contra other
      exact absent _ (mem_fields_iff.mpr ⟨r, isRun, ⟨c, mem, other⟩, rfl⟩) rfl
    · rintro commas f mem same
      obtain ⟨r', isRun', ⟨c, mem', other⟩, rfl⟩ := mem_fields_iff.mp mem
      cases isRun'.eq_of_span isRun same
      exact other (commas c mem')

-- The letter takes two bytes, the space after it three, and the run between the fields is no field.
example : fields "é\u2003,, a,b".toList = [⟨['é'], ⟨0, 2⟩⟩, ⟨['a', 'b'], ⟨8, 11⟩⟩] := by
  decide +kernel

end SourceLine

end PocketMips
