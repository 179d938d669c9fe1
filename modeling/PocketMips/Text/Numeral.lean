/-!
# Numerals

Reading and writing whole numbers in a radix up to sixteen. A numeral is read from the left, one digit
after the other, and the first character that does not fit decides what is wrong with it: either it is
no digit of the radix, or with it the value read so far leaves the allowed range.
-/

namespace PocketMips.Text

/-- The value of a digit of the radix, in either letter case. -/
def digit? (radix : Nat) (c : Char) : Option Nat :=
  let value? :=
    if '0' ≤ c ∧ c ≤ '9' then some (c.toNat - '0'.toNat)
    else if 'a' ≤ c ∧ c ≤ 'z' then some (c.toNat - 'a'.toNat + 10)
    else if 'A' ≤ c ∧ c ≤ 'Z' then some (c.toNat - 'A'.toNat + 10)
    else none
  value?.filter (· < radix)

/-- What can be wrong with a numeral. -/
inductive NumeralError where
  /-- There is no character at all. -/
  | empty
  /-- There is a sign and nothing after it. -/
  | loneSign
  /-- A character is no digit of the radix. -/
  | badDigit
  /-- The value is above the range. -/
  | tooLarge
  /-- The value is below the range. -/
  | tooSmall
  /-- The value is zero where it must not be. No numeral is read with this outcome. -/
  | zero
  deriving DecidableEq, Repr

/-- The wording of the error. -/
def NumeralError.message : NumeralError → String
  | .empty => "cannot parse integer from empty string"
  | .loneSign | .badDigit => "invalid digit found in string"
  | .tooLarge => "number too large to fit in target type"
  | .tooSmall => "number too small to fit in target type"
  | .zero => "number would be zero for non-zero type"

/-- A range of whole numbers, both ends included. -/
structure Range where
  low : Int
  high : Int
  deriving DecidableEq, Repr

/-- The values of a signed number of 16 bits. -/
def Range.signed16 : Range := ⟨-32768, 32767⟩

/-- The values of an unsigned number of 8 bits. -/
def Range.unsigned8 : Range := ⟨0, 255⟩

/-- The values of an unsigned number of 64 bits. -/
def Range.unsigned64 : Range := ⟨0, 18446744073709551615⟩

/-- Appends one digit to the value read so far, which grows away from zero on its side of it. -/
def appendDigit (range : Range) (radix : Nat) (negative : Bool) (value : Int) (c : Char) :
    Except NumeralError Int :=
  match digit? radix c with
  | none => .error .badDigit
  | some d =>
    let next := if negative then value * radix - d else value * radix + d
    if next < range.low then .error .tooSmall
    else if range.high < next then .error .tooLarge
    else .ok next

/-- The value of the digits of a numeral. -/
def readDigits (range : Range) (radix : Nat) (negative : Bool) (digits : List Char) :
    Except NumeralError Int :=
  digits.foldlM (appendDigit range radix negative) 0

/-- The value of the digits that have to follow a sign. -/
def readSigned (range : Range) (radix : Nat) (negative : Bool) (digits : List Char) :
    Except NumeralError Int :=
  if digits.isEmpty then .error .loneSign else readDigits range radix negative digits

/-- The value of a numeral. A minus sign is a sign only where the range has numbers below zero. -/
def readNumeral (range : Range) (radix : Nat) : List Char → Except NumeralError Int
  | [] => .error .empty
  | c :: cs =>
    if c = '+' then readSigned range radix false cs
    else if c = '-' ∧ range.low < 0 then readSigned range radix true cs
    else readDigits range radix false (c :: cs)

/-- The decimal numeral of a natural number. -/
def showNat (n : Nat) : List Char :=
  Nat.toDigits 10 n

/-- The decimal numeral of a whole number. -/
def showInt : Int → List Char
  | .ofNat n => showNat n
  | .negSucc n => '-' :: showNat (n + 1)

end PocketMips.Text
