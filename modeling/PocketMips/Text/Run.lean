import PocketMips.Text.Basic

/-!
# Runs between white space

A place in a text is a range of bytes of its UTF-8 form. The measure `byteLength` says how many bytes a
piece of text takes there, so a range whose ends are measures of pieces never cuts a character.

A run is a longest piece of a text without white space, together with its first byte. The runs of a
text in order, without their places, are its words.
-/

namespace PocketMips.Text

/-! ### Places -/

/-- The number of bytes of a text in UTF-8. -/
def byteLength (cs : List Char) : Nat :=
  cs.foldr (fun c n => c.utf8Size + n) 0

@[simp] theorem byteLength_nil : byteLength [] = 0 := rfl

@[simp] theorem byteLength_cons (c : Char) (cs : List Char) :
    byteLength (c :: cs) = c.utf8Size + byteLength cs := by
  simp [byteLength]

/-- The bytes of two texts add up. -/
@[simp] theorem byteLength_append (cs ds : List Char) :
    byteLength (cs ++ ds) = byteLength cs + byteLength ds := by
  induction cs with
  | nil => simp
  | cons c cs ih => simp [ih, Nat.add_assoc]

/-- The bytes from `start` up to, but not including, `stop`. -/
structure Span where
  start : Nat
  stop : Nat
  deriving DecidableEq, Repr

/-! ### Runs -/

/-- A piece of a text and the byte at which it starts. -/
structure Run where
  start : Nat
  text : List Char
  deriving DecidableEq, Repr

/-- The bytes that a run takes. -/
def Run.span (r : Run) : Span :=
  ⟨r.start, r.start + byteLength r.text⟩

/-- The runs of a text whose first byte is `pos`. -/
def runsFrom (pos : Nat) : List Char → List Run
  | [] => []
  | c :: cs =>
    if isBlank c then runsFrom (pos + c.utf8Size) cs
    else
      let run := c :: cs.takeWhile (!isBlank ·)
      ⟨pos, run⟩ :: runsFrom (pos + byteLength run) (cs.dropWhile (!isBlank ·))
termination_by cs => cs.length
decreasing_by
  · simp
  · have := (List.dropWhile_sublist (l := cs) (!isBlank ·)).length_le
    simp only [List.length_cons]; omega

/-- The runs of a text. -/
def runs (cs : List Char) : List Run :=
  runsFrom 0 cs

/-- The pieces of a text that white space separates. -/
def words (cs : List Char) : List (List Char) :=
  (runs cs).map Run.text

end PocketMips.Text
