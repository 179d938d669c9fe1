import PocketMips.Text.Numeral
import PocketMips.Text.Run

/-!
# Commands

A command is the first word of a line, and some take the second word. Words beyond that do not count.
-/

namespace PocketMips.Shell

/-- What a line asks the shell to do. -/
inductive Command where
  /-- Nothing: the line is blank. -/
  | blank
  /-- Loads a program, if there is a path. -/
  | load (path? : Option String)
  /-- Runs a number of instructions, if it is a number. -/
  | step (count : Except Text.NumeralError Nat)
  | run
  | stop
  | reset
  | regs
  | mem
  | list
  | pc
  | help
  | quit
  /-- No command has this name. -/
  | unknown (name : String)

/-- The number of instructions that `step` is asked to run. -/
def stepCount : Option (List Char) → Except Text.NumeralError Nat
  | none => .ok 1
  | some word => (Text.readNumeral .unsigned64 10 word).map Int.toNat

/-- The command with a name, given the word after it. -/
def Command.ofName (name : List Char) (word? : Option (List Char)) : Command :=
  match String.ofList name with
  | "load" => .load (word?.map String.ofList)
  | "step" => .step (stepCount word?)
  | "run" => .run
  | "stop" => .stop
  | "reset" => .reset
  | "regs" => .regs
  | "mem" => .mem
  | "list" => .list
  | "pc" => .pc
  | "help" => .help
  | "quit" | "exit" => .quit
  | name => .unknown name

/-- The command of a line. -/
def Command.ofLine (line : List Char) : Command :=
  match Text.words line with
  | [] => .blank
  | name :: rest => .ofName name rest.head?

/-- What the commands do. -/
def commandHelp : List String := [
  "commands:",
  "  load <path>   load a program file",
  "  step [n]      execute n instructions (default 1)",
  "  run           run until the program finishes or 'stop'",
  "  stop          stop a running program",
  "  reset         reset registers, memory and PC",
  "  regs          show all registers (* = written)",
  "  mem           show written memory words",
  "  list          show the program listing",
  "  pc            show the PC and the next instruction",
  "  help          show this message",
  "  quit          exit"]

end PocketMips.Shell
