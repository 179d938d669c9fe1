import Mathlib.Data.List.TakeWhile
import Mathlib.Tactic.Lemma
import PocketMips.SourceLine

/-!
# Words and fields

The words of a text are found by cutting off one run after the other. Here they are compared with the
plain way to say what they are: split the text at every white space and leave out the empty pieces.
Splitting goes through the text from the left like the words do, so the proofs are by induction on the
text and look at one separator at a time.

The main statement is `SourceLine.text_fields`: the texts of the fields of a line are the pieces of the
line without its commas.
-/

namespace PocketMips.Text

/-- The pieces of a text between its white space, without the empty ones. -/
def pieces (cs : List Char) : List (List Char) :=
  (cs.splitOnP isBlank).filter (· ≠ [])

/-- An empty text has no pieces. -/
@[simp] lemma pieces_nil : pieces [] = [] := by
  simp [pieces]

/-- White space at the front belongs to no piece. -/
lemma pieces_cons_of_blank {c : Char} (h : isBlank c = true) (cs : List Char) :
    pieces (c :: cs) = pieces cs := by
  simp [pieces, List.splitOnP_cons_eq_if_modifyHead, h]

/-- A text without white space is its only piece. -/
lemma pieces_of_noBlank {run : List Char} (ne : run ≠ []) (h : ∀ c ∈ run, isBlank c = false) :
    pieces run = [run] := by
  simp [pieces, List.splitOnP_eq_singleton h, ne]

/-- A run that white space ends is the first piece. -/
lemma pieces_append_blank {run : List Char} (ne : run ≠ []) (h : ∀ c ∈ run, isBlank c = false)
    {b : Char} (hb : isBlank b = true) (cs : List Char) :
    pieces (run ++ b :: cs) = run :: pieces cs := by
  simp [pieces, List.splitOnP_append_cons_of_forall_mem h b hb, ne]

/-- White space separates the pieces before it from those after it. -/
lemma pieces_append_cons {b : Char} (hb : isBlank b = true) (cs ds : List Char) :
    pieces (cs ++ b :: ds) = pieces cs ++ pieces ds := by
  unfold pieces
  rw [List.splitOnP_append_cons cs ds hb, List.filter_append]

/-- White space has no pieces. -/
lemma pieces_of_allBlank {cs : List Char} (h : allBlank cs = true) : pieces cs = [] := by
  induction cs with
  | nil => exact pieces_nil
  | cons c cs ih =>
    simp only [allBlank, List.all_cons, Bool.and_eq_true] at h
    rw [pieces_cons_of_blank h.1]
    exact ih h.2

/-- White space at the two ends of a text belongs to no piece. -/
lemma pieces_between {front back : List Char} (hfront : allBlank front = true)
    (hback : allBlank back = true) (cs : List Char) : pieces (front ++ cs ++ back) = pieces cs := by
  have stop : pieces (cs ++ back) = pieces cs := by
    cases back with
    | nil => rw [List.append_nil]
    | cons b back =>
      simp only [allBlank, List.all_cons, Bool.and_eq_true] at hback
      rw [pieces_append_cons hback.1, pieces_of_allBlank hback.2, List.append_nil]
  rw [List.append_assoc]
  induction front with
  | nil => exact stop
  | cons b front ih =>
    simp only [allBlank, List.all_cons, Bool.and_eq_true] at hfront
    rw [List.cons_append, pieces_cons_of_blank hfront.1]
    exact ih hfront.2

/-- No piece of a text that is split holds a separator. -/
lemma not_sep_of_mem_splitOnP {α : Type} {p : α → Bool} {cs piece : List α}
    (h : piece ∈ cs.splitOnP p) {c : α} (hc : c ∈ piece) : p c = false := by
  induction cs generalizing piece with
  | nil =>
    rw [List.splitOnP_nil, List.mem_singleton] at h
    subst h
    cases hc
  | cons x cs ih =>
    rw [List.splitOnP_cons_eq_if_modifyHead] at h
    -- A separator opens a new piece, any other character is put in front of the first one.
    cases hx : p x with
    | true =>
      rw [if_pos hx] at h
      cases h with
      | head => cases hc
      | tail _ h => exact ih h hc
    | false =>
      rw [if_neg (by simp [hx])] at h
      obtain ⟨first, rest, e⟩ := List.exists_cons_of_ne_nil (List.splitOnP_ne_nil p cs)
      rw [e] at h ih
      cases h with
      | head =>
        cases hc with
        | head => exact hx
        | tail _ hc => exact ih (.head _) hc
      | tail _ h => exact ih (.tail _ h) hc

/-- A piece is not empty, and there is no white space in it. -/
lemma pieces_noBlank {cs piece : List Char} (h : piece ∈ pieces cs) :
    piece ≠ [] ∧ ∀ c ∈ piece, isBlank c = false := by
  simp only [pieces, List.mem_filter, decide_eq_true_eq] at h
  exact ⟨h.2, fun _ hc => not_sep_of_mem_splitOnP h.1 hc⟩

/-- A text is cut in two where the characters of a kind end that follow its first one. -/
lemma cons_eq_append (kind : Char → Bool) (c : Char) (cs : List Char) :
    c :: cs = (c :: cs.takeWhile kind) ++ cs.dropWhile kind := by
  rw [List.cons_append, List.takeWhile_append_dropWhile]

/-- What stops a run is the end of the text or white space. -/
lemma dropWhile_notBlank (cs : List Char) :
    cs.dropWhile (!isBlank ·) = [] ∨
      ∃ b rest, isBlank b = true ∧ cs.dropWhile (!isBlank ·) = b :: rest := by
  cases e : cs.dropWhile (!isBlank ·) with
  | nil => exact .inl rfl
  | cons b rest =>
    have stop := List.head?_dropWhile_not (!isBlank ·) cs
    rw [e] at stop
    exact .inr ⟨b, rest, by simpa using stop, rfl⟩

/-- The first run of a text is its first piece, and the runs of the rest are the other pieces. -/
lemma pieces_run (c : Char) (hc : isBlank c = false) (cs : List Char) :
    pieces (c :: cs) = (c :: cs.takeWhile (!isBlank ·)) :: pieces (cs.dropWhile (!isBlank ·)) := by
  have run : ∀ x ∈ c :: cs.takeWhile (!isBlank ·), isBlank x = false := by
    intro x hx
    cases hx with
    | head => exact hc
    | tail _ hx => simpa using List.mem_takeWhile_imp hx
  have cut := cons_eq_append (!isBlank ·) c cs
  obtain e | ⟨b, rest, hb, e⟩ := dropWhile_notBlank cs
  · rw [cut, e, List.append_nil, pieces_of_noBlank (by simp) run, pieces_nil]
  · rw [cut, e, pieces_append_blank (by simp) run hb, pieces_cons_of_blank hb]

/-- White space is passed by on the way to the next run. -/
lemma runsFrom_blank {pos : Nat} {c : Char} {cs : List Char} (h : isBlank c = true) :
    runsFrom pos (c :: cs) = runsFrom (pos + c.utf8Size) cs := by
  rw [runsFrom.eq_def]
  exact if_pos h

/-- The first run goes on up to the first white space. -/
lemma runsFrom_run {pos : Nat} {c : Char} {cs : List Char} (h : isBlank c = false) :
    runsFrom pos (c :: cs) =
      ⟨pos, c :: cs.takeWhile (!isBlank ·)⟩ ::
        runsFrom (pos + byteLength (c :: cs.takeWhile (!isBlank ·))) (cs.dropWhile (!isBlank ·)) := by
  rw [runsFrom.eq_def]
  exact if_neg (by simp [h])

/-- The texts of the runs are the pieces, wherever the text starts. -/
lemma text_runsFrom (pos : Nat) (cs : List Char) : (runsFrom pos cs).map Run.text = pieces cs := by
  induction pos, cs using runsFrom.induct with
  | case1 pos => rw [runsFrom.eq_def, List.map_nil, pieces_nil]
  | case2 pos c cs h ih => rw [runsFrom_blank h, ih, pieces_cons_of_blank h]
  | case3 pos c cs h run ih =>
    have notBlank : isBlank c = false := by simpa using h
    rw [runsFrom_run notBlank, List.map_cons, ih, pieces_run c notBlank]

/-- Deleting characters that do not separate can be done before or after splitting. -/
lemma splitOnP_filter {α : Type} {p q : α → Bool} (keep : ∀ c, p c = true → q c = true)
    (cs : List α) : (cs.filter q).splitOnP p = (cs.splitOnP p).map (List.filter q) := by
  induction cs with
  | nil => simp
  | cons c cs ih =>
    obtain ⟨first, rest, e⟩ := List.exists_cons_of_ne_nil (List.splitOnP_ne_nil p cs)
    rw [e] at ih
    cases hp : p c with
    | true =>
      rw [List.filter_cons_of_pos (keep c hp)]
      simp [List.splitOnP_cons_eq_if_modifyHead, hp, ih, e]
    | false =>
      cases hq : q c with
      | true => simp [List.splitOnP_cons_eq_if_modifyHead, hp, hq, ih, e]
      | false => simp [List.splitOnP_cons_eq_if_modifyHead, hp, hq, ih, e]

/-- The pieces of a text without its commas are the pieces of the text without theirs, less those that
were commas alone. -/
lemma pieces_filter_comma (cs : List Char) :
    pieces (cs.filter (· != ',')) = ((pieces cs).map (List.filter (· != ','))).filter (· ≠ []) := by
  have keep : ∀ c, isBlank c = true → (c != ',') = true := by
    intro c h
    have notBlank : isBlank ',' = false := by decide
    rw [bne_iff_ne]
    rintro rfl
    rw [notBlank] at h
    cases h
  unfold pieces
  -- Both sides delete commas from the pieces; the left one drops the empty pieces only afterwards.
  rw [splitOnP_filter keep, List.filter_map, List.filter_map, List.filter_filter]
  congr 2
  funext piece
  cases piece with
  | nil => rfl
  | cons c cs => simp

end PocketMips.Text

namespace PocketMips.SourceLine
open Text

/-- The texts of the fields of a line are the pieces of the line without its commas. -/
lemma text_fields (line : List Char) :
    (fields line).map Field.text = pieces (line.filter (· != ',')) := by
  rw [pieces_filter_comma, ← text_runsFrom 0 line]
  simp only [fields, runs, List.filter_map, List.map_map, Function.comp_def, Field.ofRun]
  congr 2
  funext r
  cases r.text.filter (· != ',') <;> rfl

end PocketMips.SourceLine
