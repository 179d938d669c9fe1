import Mathlib.Data.List.Sort
import PocketMips.Proofs.Lexemes
import PocketMips.Proofs.Words

/-!
# Runs in a text

`runs` cuts one run after the other off the front of a text. What a run of a text is can be said without
a way to find it: a piece without white space that has white space, or an end of the text, on both sides.

The main statements are that the computed runs are all the runs there are (`mem_runs_iff`) and that they
come in order with white space between them (`runs_ordered`). A list in order is determined by its
members, so the two together say what the list of runs is.
-/

namespace PocketMips.Text

/-- In the text `before ++ run ++ after`, `run` is a longest piece without white space. -/
structure Longest (before run after : List Char) : Prop where
  nonempty : run ≠ []
  solid : ∀ c ∈ run, isBlank c = false
  left : ∀ c ∈ before.getLast?, isBlank c = true
  right : ∀ c ∈ after.head?, isBlank c = true

/-- A longest piece of a text without white space, with the byte at which it starts. -/
def IsRun (text : List Char) (r : Run) : Prop :=
  ∃ before after, text = before ++ r.text ++ after ∧ Longest before r.text after ∧
    r.start = byteLength before

/-- The bytes of a text from `s.start` up to `s.stop` are those of a piece of it. -/
def Span.Covers (s : Span) (text piece : List Char) : Prop :=
  ∃ before after, text = before ++ piece ++ after ∧
    s = ⟨byteLength before, byteLength (before ++ piece)⟩

/-- The span is a range of the bytes of a text that cuts no character. -/
structure Span.Within (s : Span) (text : List Char) : Prop where
  ordered : s.start ≤ s.stop
  inside : s.stop ≤ byteLength text
  startsWhole : ∃ before, before <+: text ∧ byteLength before = s.start
  stopsWhole : ∃ before, before <+: text ∧ byteLength before = s.stop

/-- What covers a piece of a text is within the text. -/
lemma Span.Covers.within {s : Span} {text piece : List Char} (h : s.Covers text piece) :
    s.Within text := by
  obtain ⟨before, after, rfl, rfl⟩ := h
  constructor
  · simp
  · simp
  · exact ⟨before, ⟨piece ++ after, by simp⟩, rfl⟩
  · exact ⟨before ++ piece, ⟨after, rfl⟩, rfl⟩

/-- The span of a run covers it. -/
lemma IsRun.covers {text : List Char} {r : Run} (h : IsRun text r) : r.span.Covers text r.text := by
  obtain ⟨before, after, e, -, start⟩ := h
  exact ⟨before, after, e, by simp [Run.span, start]⟩

/-- A text with a character has a byte at least. -/
lemma byteLength_pos {cs : List Char} (ne : cs ≠ []) : 0 < byteLength cs := by
  obtain ⟨c, cs, rfl⟩ := List.exists_cons_of_ne_nil ne
  rw [byteLength_cons]
  exact Nat.add_pos_left c.utf8Size_pos _

namespace Longest
variable {front before run after : List Char}

/-- Text in front of what comes before a run can be taken away. -/
lemma of_append (h : Longest (front ++ before) run after) : Longest before run after where
  nonempty := h.nonempty
  solid := h.solid
  left c hc := h.left c (by simp [List.getLast?_append, Option.mem_def.1 hc])
  right := h.right

/-- Text that ends in white space can be put in front. -/
lemma append (h : Longest before run after)
    (blank : before = [] → ∀ c ∈ front.getLast?, isBlank c = true) :
    Longest (front ++ before) run after where
  nonempty := h.nonempty
  solid := h.solid
  left c hc := by
    rcases List.eq_nil_or_concat before with rfl | ⟨init, last, rfl⟩
    · rw [List.append_nil] at hc
      exact blank rfl c hc
    · apply h.left
      simpa using hc
  right := h.right

/-- A run at the front of a text is what is taken from it up to the first white space. -/
lemma takeWhile (h : Longest before run after) : (run ++ after).takeWhile (!isBlank ·) = run :=
  Token.takeWhile_run (fun c hc => by simp [h.solid c hc]) (fun c hc => by simp [h.right c hc])

/-- No run starts with white space. -/
lemma head (h : Longest before run after) {c : Char} (hc : c ∈ (run ++ after).head?) :
    isBlank c = false := by
  obtain ⟨d, ds, rfl⟩ := List.exists_cons_of_ne_nil h.nonempty
  cases hc
  exact h.solid c (.head _)

/-- What a run leaves over starts with white space or not at all, so no run stands at its front. -/
lemma apart {rest run' : List Char} (first : Longest before run rest)
    (next : Longest front run' after) (e : rest = front ++ run' ++ after) : front ≠ [] := by
  rintro rfl
  obtain ⟨c, cs, rfl⟩ := List.exists_cons_of_ne_nil next.nonempty
  have blank : isBlank c = true := first.right c (e ▸ rfl)
  rw [next.solid c (.head _)] at blank
  cases blank

end Longest

/-- White space at the front of a text is in no run of it. -/
lemma isRun_cons_of_blank {c : Char} (blank : isBlank c = true) {cs : List Char} {r : Run} :
    IsRun (c :: cs) r ↔ ∃ start, r.start = c.utf8Size + start ∧ IsRun cs ⟨start, r.text⟩ := by
  constructor
  · rintro ⟨before, after, e, long, start⟩
    cases before with
    | nil =>
      have solid : isBlank c = false := long.head (e ▸ rfl)
      rw [blank] at solid
      cases solid
    | cons b before =>
      cases e
      have long' : Longest ([c] ++ before) r.text after := long
      exact ⟨byteLength before, by simpa using start, before, after, rfl, long'.of_append, rfl⟩
  · rintro ⟨_, start, before, after, e, long, rfl⟩
    have long' : Longest ([c] ++ before) r.text after := by
      apply long.append
      intro _ x hx
      cases hx
      exact blank
    exact ⟨c :: before, after, by simpa using e, long', by simpa using start⟩

/-- The runs of a text that starts with a run are this one and those of the rest. -/
lemma isRun_append {run rest : List Char} (first : Longest [] run rest) {r : Run} :
    IsRun (run ++ rest) r ↔
      r = ⟨0, run⟩ ∨ ∃ start, r.start = byteLength run + start ∧ IsRun rest ⟨start, r.text⟩ := by
  constructor
  · rintro ⟨before, after, e, long, start⟩
    by_cases atFront : before = []
    · subst atFront
      left
      have text : run = r.text := by
        rw [← first.takeWhile, ← long.takeWhile, e, List.nil_append]
      cases r
      cases text
      cases start
      rfl
    · right
      rw [List.append_assoc, List.append_eq_append_iff] at e
      obtain ⟨mid, rfl, e⟩ | ⟨mid, rfl, e⟩ := e
      · exact ⟨byteLength mid, by simpa using start, mid, after, by simpa using e, long.of_append, rfl⟩
      · -- What stands before the run would end within the first run, which has no white space.
        obtain ⟨init, last, rfl⟩ := (List.eq_nil_or_concat before).resolve_left atFront
        have solid := first.solid last (by simp)
        rw [long.left last (by simp)] at solid
        cases solid
  · rintro (rfl | ⟨_, start, before, after, e, long, rfl⟩)
    · exact ⟨[], rest, rfl, first, rfl⟩
    · refine ⟨run ++ before, after, by simp [e], ?_, by simpa using start⟩
      exact long.append fun atFront => absurd atFront (first.apart long e)

/-- From a character on that is not white space, the longest run is up to the next white space. -/
lemma longest_takeWhile {c : Char} (hc : isBlank c = false) (cs : List Char) :
    Longest [] (c :: cs.takeWhile (!isBlank ·)) (cs.dropWhile (!isBlank ·)) where
  nonempty := List.cons_ne_nil _ _
  solid := by
    intro x hx
    cases hx with
    | head => exact hc
    | tail _ hx => simpa using List.mem_takeWhile_imp hx
  left := nofun
  right := by
    intro x hx
    obtain e | ⟨b, rest, hb, e⟩ := dropWhile_notBlank cs
    · rw [e] at hx
      cases hx
    · rw [e] at hx
      cases hx
      exact hb

/-- The runs from a position are those of the text there, moved by the position. -/
lemma mem_runsFrom_iff {pos : Nat} {cs : List Char} {r : Run} :
    r ∈ runsFrom pos cs ↔ ∃ start, r.start = pos + start ∧ IsRun cs ⟨start, r.text⟩ := by
  induction pos, cs using runsFrom.induct with
  | case1 pos =>
    rw [runsFrom.eq_def]
    constructor
    · intro no
      cases no
    · rintro ⟨_, -, before, after, e, long, -⟩
      rw [eq_comm, List.append_assoc, List.append_eq_nil_iff, List.append_eq_nil_iff] at e
      exact absurd e.2.1 long.nonempty
  | case2 pos c cs blank ih =>
    rw [runsFrom_blank blank, ih]
    simp only [isRun_cons_of_blank blank]
    constructor
    · rintro ⟨start, e, isRun⟩
      exact ⟨c.utf8Size + start, by omega, start, rfl, isRun⟩
    · rintro ⟨_, e, start, rfl, isRun⟩
      exact ⟨start, by omega, isRun⟩
  | case3 pos c cs notBlank run ih =>
    have solid : isBlank c = false := by simpa using notBlank
    have cut : c :: cs = run ++ cs.dropWhile (!isBlank ·) := cons_eq_append ..
    have first : Longest [] run (cs.dropWhile (!isBlank ·)) := longest_takeWhile solid cs
    rw [runsFrom_run solid, List.mem_cons, ih, cut]
    simp only [isRun_append first]
    constructor
    · rintro (rfl | ⟨start, e, isRun⟩)
      · exact ⟨0, rfl, .inl rfl⟩
      · exact ⟨byteLength run + start, by omega, .inr ⟨start, rfl, isRun⟩⟩
    · rintro ⟨_, e, he | ⟨start, rfl, isRun⟩⟩
      · obtain ⟨rfl, text⟩ := Run.mk.inj he
        cases r
        exact .inl (by rw [Run.mk.injEq]; exact ⟨e, text⟩)
      · exact .inr ⟨start, by omega, isRun⟩

/-- All runs of a text are found, and nothing else is. -/
lemma mem_runs_iff {cs : List Char} {r : Run} : r ∈ runs cs ↔ IsRun cs r := by
  rw [runs, mem_runsFrom_iff]
  simp only [Nat.zero_add, exists_eq_left']

/-- The runs come from left to right, and white space is between two of them. -/
lemma runsFrom_ordered (pos : Nat) (cs : List Char) :
    (runsFrom pos cs).Pairwise fun r r' => r.span.stop < r'.span.start := by
  induction pos, cs using runsFrom.induct with
  | case1 pos =>
    rw [runsFrom.eq_def]
    exact .nil
  | case2 pos c cs blank ih =>
    rw [runsFrom_blank blank]
    exact ih
  | case3 pos c cs notBlank run ih =>
    have solid : isBlank c = false := by simpa using notBlank
    rw [runsFrom_run solid, List.pairwise_cons]
    refine ⟨fun r later => ?_, ih⟩
    obtain ⟨start, e, before, after, rest, long, rfl⟩ := mem_runsFrom_iff.1 later
    have gap := byteLength_pos ((longest_takeWhile solid cs).apart long rest)
    simp only [Run.span]
    omega

/-- The runs of a text come from left to right, with white space between them. -/
lemma runs_ordered (cs : List Char) :
    (runs cs).Pairwise fun r r' => r.span.stop < r'.span.start :=
  runsFrom_ordered 0 cs

end PocketMips.Text
