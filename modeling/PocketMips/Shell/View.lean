import PocketMips.Session

/-!
# Views

The lines that show a session, a report or a rejected line.
-/

namespace PocketMips.Shell

/-- The lines that show why a line was rejected and how to mend it. -/
def viewRejection (r : Rejection) : List String :=
  ("  line " ++ toString r.number ++ ": " ++ r.error.problem.message) ::
    (r.error.problem.help?.map ("    help: " ++ ·)).toList

/-- The line that shows how a free run has ended. -/
def viewReport (r : Report) : String :=
  if r.stopped then "stopped after " ++ toString r.steps ++ " step(s)"
  else
    "finished after " ++ toString r.steps ++ " step(s)" ++ r.halt?.elim "" (": " ++ ·.message)

/-- The line that shows where the processor is. -/
def viewPosition (p : Processor) : String :=
  "PC " ++ toString p.pc.toNat ++
    match p.halt?, p.current? with
    | some why, _ => ": done (" ++ why.message ++ ")"
    | none, some i => ": " ++ String.ofList i.source
    | none, none => ""

/-- A titled list of entries, or nothing if there are none. -/
def viewSection (title : String) (entries : List (List Char)) : List String :=
  if entries.isEmpty then []
  else (title ++ ":") :: entries.map fun e => "  " ++ String.ofList e

/-- The registers that were written. -/
def viewChangedRegs (s : Session) : List String :=
  viewSection "registers" (s.changedRegs.map RegEntry.text)

/-- The words that were stored. -/
def viewChangedWords (s : Session) : List String :=
  viewSection "memory" (s.changedWords.map MemEntry.text)

/-- A word in eight hexadecimal digits. -/
def viewHex (w : Word) : List Char :=
  let digits := Nat.toDigits 16 w.unsigned
  '0' :: 'x' :: List.replicate (8 - digits.length) '0' ++ digits

/-- The row of a register: a mark if it was written, its name, and its word with a sign and in hex. -/
def viewReg (p : Processor) (r : Reg) : String :=
  let w := p.regs.get r
  String.ofList <|
    (if p.changedRegs.contains r then '*' else ' ') :: ' ' :: Text.padEnd 6 r.text ++ ' ' ::
      Text.padStart 11 (Text.showInt w.toInt) ++ ' ' :: ' ' :: viewHex w

/-- All registers. -/
def viewRegs (p : Processor) : List String :=
  Reg.all.map (viewReg p)

/-- The numbered listing, with an arrow at the instruction that comes next. -/
def viewListing (s : Session) : List String :=
  s.cpu.program.toList.zipIdx.map fun (i, index) =>
    (if s.highlight = some index then "=>" else "  ") ++
      String.ofList (' ' :: Text.padStart 4 (Text.showNat index) ++ ' ' :: ' ' :: i.row)

end PocketMips.Shell
