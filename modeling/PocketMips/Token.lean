import PocketMips.Instr
import PocketMips.Text.Run
import PocketMips.Text.WordChar

/-!
# Tokens

The operands of a line are made of numbers, registers and parentheses. A lexeme is the longest piece
at the front of a text that its first character allows, and is read as a whole: what it stands for,
or why it stands for nothing, does not depend on what comes before or after it.
-/

namespace PocketMips

/-- A number, a register or a parenthesis. -/
inductive Token where
  | number (value : Imm)
  | reg (r : Reg)
  | leftParen
  | rightParen
  deriving DecidableEq, Repr

/-- The two spellings of numbers. -/
inductive Radix where
  | decimal
  | hex
  deriving DecidableEq, Repr

/-- Why a piece of text is no token. -/
inductive TokenError where
  /-- The number needs more than 16 bits. -/
  | tooWide
  /-- A character is no digit of the radix. -/
  | badDigits (radix : Radix)
  /-- There are no digits. -/
  | noDigits (radix : Radix)
  /-- There is something else wrong with the number. -/
  | badNumber
  /-- The text after a dollar sign names no register. -/
  | badReg (why : RegError)
  /-- No token starts with the character. -/
  | badSymbol
  deriving DecidableEq, Repr

namespace TokenError

/-- The wording of the error. -/
def message : TokenError → String
  | .tooWide => "numeric token does not fit 16-bit signed integer"
  | .badDigits .hex | .noDigits .hex => "invalid hex literal"
  | .badDigits .decimal | .noDigits .decimal => "invalid decimal literal"
  | .badNumber => "could not parse integer"
  | .badReg why => "invalid register: " ++ why.message
  | .badSymbol => "unrecognized symbol"

/-- How to mend the text, where there is something to say. -/
def help? : TokenError → Option String
  | .tooWide => some "the range for a 16-bit signed integer is [-32768, 32767]"
  | .badDigits .hex => some "a hex literal contains 'x' followed by 0-9, A-F"
  | .noDigits .hex => some "there should be hex digits (0-9, A-F) after the 'x'"
  | .badDigits .decimal => some "a decimal literal only consists of digits 0-9"
  | .noDigits .decimal => some "there should be digits (0-9) here"
  | .badNumber => none
  | .badReg why => some why.help
  | .badSymbol => some "operands are registers, numbers, or offset(register)"

/-- The wordings of the errors behind this one. -/
def causes : TokenError → List String
  | .badReg why => [why.message]
  | _ => []

end TokenError

/-- The base of the radix. -/
def Radix.base : Radix → Nat
  | .decimal => 10
  | .hex => 16

namespace Token

/-- May the character stand between tokens? -/
def isGap (c : Char) : Bool :=
  c == ' ' || c == '\t'

/-- May the character stand in a number? -/
def inNumber (c : Char) : Bool :=
  Text.isWordChar c || c == '+' || c == '-'

/-- May the character stand in the name of a register, after the dollar sign? -/
def inReg (c : Char) : Bool :=
  !(c == '(' || c == ')' || Text.isBlank c)

/-- Cuts the longest lexeme off the front of a text. -/
def cut? : List Char → Option (List Char × List Char)
  | [] => none
  | c :: cs =>
    if c = '(' ∨ c = ')' then some ([c], cs)
    else if c = '$' then some (c :: cs.takeWhile inReg, cs.dropWhile inReg)
    else if inNumber c then some (c :: cs.takeWhile inNumber, cs.dropWhile inNumber)
    else none

/-- The radix and the digits of a number: with a small `x` in it the number is what follows the first
one, in hex, and what comes before it does not count. -/
def splitRadix (text : List Char) : Radix × List Char :=
  match text.dropWhile (· != 'x') with
  | [] => (.decimal, text)
  | _ :: digits => (.hex, digits)

/-- The value of a number of 16 bits. -/
def readNumber (text : List Char) : Except TokenError Imm :=
  let (radix, digits) := splitRadix text
  match Text.readNumeral .signed16 radix.base digits with
  | .ok value => .ok (Int16.ofInt value)
  | .error .empty | .error .loneSign => .error (.noDigits radix)
  | .error .badDigit => .error (.badDigits radix)
  | .error .tooLarge | .error .tooSmall => .error .tooWide
  | .error .zero => .error .badNumber

/-- The token that a lexeme stands for. -/
def ofLexeme (text : List Char) : Except TokenError Token :=
  match text with
  | ['('] => .ok .leftParen
  | [')'] => .ok .rightParen
  | '$' :: _ =>
    match Reg.ofName text with
    | .ok r => .ok (.reg r)
    | .error why => .error (.badReg why)
  | _ =>
    match readNumber text with
    | .ok value => .ok (.number value)
    | .error why => .error why

end Token

/-- A token and its place. -/
structure Lexeme where
  token : Token
  span : Text.Span
  deriving DecidableEq, Repr

/-- What scanning a text found: the tokens up to the first error, and this error if there is one. -/
structure Scan where
  lexemes : List Lexeme
  error? : Option TokenError
  deriving DecidableEq, Repr

namespace Scan

/-- The scan with one more token at its front. -/
def cons (l : Lexeme) (s : Scan) : Scan :=
  { s with lexemes := l :: s.lexemes }

/-- The tokens of a scan without an error. -/
def tokens (s : Scan) : Except TokenError (List Token) :=
  match s.error? with
  | none => .ok (s.lexemes.map Lexeme.token)
  | some why => .error why

end Scan

namespace Token

/-- Something is cut off, so less is left. -/
theorem length_rest_lt {cs lexeme rest : List Char} (h : cut? cs = some (lexeme, rest)) :
    rest.length < cs.length := by
  have drop (p : Char → Bool) (l : List Char) : (l.dropWhile p).length < l.length + 1 :=
    Nat.lt_succ_of_le (List.dropWhile_sublist p).length_le
  cases cs with
  | nil => simp [cut?] at h
  | cons c cs =>
    simp only [cut?] at h
    split at h
    · cases h; exact Nat.lt_succ_self _
    · split at h
      · cases h; exact drop ..
      · split at h
        · cases h; exact drop ..
        · cases h

/-- Scans a text whose first byte is `pos`. -/
def scanFrom (pos : Nat) (cs : List Char) : Scan :=
  match cs with
  | [] => ⟨[], none⟩
  | c :: rest =>
    if isGap c then scanFrom (pos + c.utf8Size) rest
    else
      match _h : cut? (c :: rest) with
      | none => ⟨[], some .badSymbol⟩
      | some (lexeme, rest) =>
        match ofLexeme lexeme with
        | .error why => ⟨[], some why⟩
        | .ok token =>
          let stop := pos + Text.byteLength lexeme
          (scanFrom stop rest).cons ⟨token, ⟨pos, stop⟩⟩
termination_by cs.length
decreasing_by
  · exact Nat.lt_succ_self _
  · exact length_rest_lt _h

/-- The tokens of a text with their places. -/
def scan (cs : List Char) : Scan :=
  scanFrom 0 cs

end Token

end PocketMips
