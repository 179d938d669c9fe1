/-!
# Texts

What is done with a text before it means anything. White space is taken off its ends, its letters are
compared without their case, it is cut into lines, and it is filled with blanks to a width.
-/

namespace PocketMips.Text

/-! ### White space -/

/-- Is `c` one of the 25 characters with the property `White_Space`? -/
def isBlank (c : Char) : Bool :=
  let n := c.toNat
  (9 ≤ n && n ≤ 13) || n == 0x20 || n == 0x85 || n == 0xA0 || n == 0x1680 ||
    (0x2000 ≤ n && n ≤ 0x200A) || n == 0x2028 || n == 0x2029 || n == 0x202F || n == 0x205F ||
    n == 0x3000

/-- The text without the white space at its start. -/
def trimStart (cs : List Char) : List Char :=
  cs.dropWhile isBlank

/-- The text without the white space at its end. -/
def trimEnd (cs : List Char) : List Char :=
  (trimStart cs.reverse).reverse

/-- The text without the white space at its two ends. -/
def trim (cs : List Char) : List Char :=
  trimEnd (trimStart cs)

/-- Does a text consist of white space alone? -/
def allBlank (cs : List Char) : Bool :=
  cs.all isBlank

/-- Trimming goes on until there is no white space. -/
theorem trimStart_cons (c : Char) (cs : List Char) :
    trimStart (c :: cs) = if isBlank c then trimStart cs else c :: cs := by
  cases h : isBlank c <;> simp [trimStart, h]

/-! ### Letter case

No letters but those from A to Z have a case here.
-/

/-- The text with the letters A to Z made small. -/
def smallLetters (cs : List Char) : List Char :=
  cs.map Char.toLower

/-- Do two texts agree up to the case of the letters A to Z? -/
def sameLetters (cs ds : List Char) : Bool :=
  smallLetters cs == smallLetters ds

/-- Texts agree up to letter case if they are the same in small letters. -/
@[simp] theorem sameLetters_iff {cs ds : List Char} :
    sameLetters cs ds = true ↔ smallLetters cs = smallLetters ds := by
  simp [sameLetters]

/-! ### Lines

A line ends with a line feed, which does not belong to it, nor does one carriage return right before
it. What follows the last line feed is a line too unless it is empty, and keeps its carriage return.
-/

/-- A line that a line feed ended, without the carriage return before it. -/
def dropReturn (line : List Char) : List Char :=
  if line.getLast? = some '\r' then line.dropLast else line

/-- The lines of a text. -/
def lines (cs : List Char) : List (List Char) :=
  if cs.isEmpty then []
  else
    let line := cs.takeWhile (· != '\n')
    match _h : cs.dropWhile (· != '\n') with
    | [] => [line]
    | _ :: rest => dropReturn line :: lines rest
termination_by cs.length
decreasing_by
  have := (List.dropWhile_sublist (l := cs) (· != '\n')).length_le
  rw [_h, List.length_cons] at this
  omega

/-! ### Columns

Widths are counted in characters.
-/

/-- The text with blanks after it, up to `width` characters. -/
def padEnd (width : Nat) (cs : List Char) : List Char :=
  cs ++ List.replicate (width - cs.length) ' '

/-- The text with blanks before it, up to `width` characters. -/
def padStart (width : Nat) (cs : List Char) : List Char :=
  List.replicate (width - cs.length) ' ' ++ cs

/-- The text with `width` blanks at the start of every line but the first. -/
def hang (width : Nat) (cs : List Char) : List Char :=
  cs.flatMap fun c => if c = '\n' then c :: List.replicate width ' ' else [c]

end PocketMips.Text
