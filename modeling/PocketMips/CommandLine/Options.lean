import PocketMips.CommandLine.Argument
import PocketMips.Processor

/-!
# Options

What the command line asks for. Of several faults the first in this order counts: the arguments, the
size of the memory, the limit of steps, the number of files. A request for help comes right after the
arguments.
-/

namespace PocketMips.CommandLine

/-- What the command line asks for. -/
structure Options where
  /-- The program to load at the start. -/
  file? : Option String
  config : Config
  /-- Run to the end instead of asking for commands? -/
  batch : Bool
  /-- The largest number of steps of such a run. -/
  maxSteps : Nat
  /-- Show the listing after loading? -/
  listing : Bool
  deriving DecidableEq, Repr

/-- The limit of steps when none is asked for. -/
def standardMaxSteps : Nat := 10000000

/-- What is wrong with a command line. -/
inductive OptionsError where
  | argument (e : ArgumentError)
  /-- The value of a flag is no number of 64 bits. -/
  | number (e : Text.NumeralError)
  /-- The size of the memory is not one that a memory can have. -/
  | memWords (words : Nat)
  /-- There is more than one file. -/
  | files (count : Nat)
  deriving DecidableEq, Repr

/-- The wording of the error. -/
def OptionsError.message : OptionsError → String
  | .argument e => e.message
  | .number e => e.message
  | .memWords words =>
    "--mem-words must be between " ++ toString Memory.minSize ++ " and " ++ toString Memory.maxSize ++
      ", got " ++ toString words
  | .files count => "expected at most one input file, got " ++ toString count

/-- The number of 64 bits that a flag is given, if it is there. -/
def numberOf? (f : Flag) (found : List Item) : Except OptionsError (Option Nat) :=
  match valueOf? f found with
  | none => .ok none
  | some v =>
    match Text.readNumeral .unsigned64 10 v with
    | .ok n => .ok (some n.toNat)
    | .error e => .error (.number e)

/-- The settings of the machine. -/
def configOf (found : List Item) : Except OptionsError Config := do
  match ← numberOf? .memWords found with
  | none => return .standard
  | some words =>
    if Memory.minSize ≤ words ∧ words ≤ Memory.maxSize then return ⟨words⟩
    else throw (.memWords words)

/-- The file to load. -/
def fileOf? (found : List Item) : Except OptionsError (Option String) :=
  match frees found with
  | [] => .ok none
  | [file] => .ok (some (String.ofList file))
  | files => .error (.files files.length)

/-- The options that are asked for by what was found among the arguments, or none if it asks for help. -/
def optionsOf (found : List Item) : Except OptionsError (Option Options) := do
  if present .help found then return none
  let config ← configOf found
  let maxSteps? ← numberOf? .maxSteps found
  let file? ← fileOf? found
  return some {
    file?
    config
    batch := present .run found
    maxSteps := maxSteps?.getD standardMaxSteps
    listing := present .listing found }

/-- The options that arguments ask for when they are read in some way. -/
def optionsBy (read : List (List Char) → Except ArgumentError (List Item)) (arguments : List (List Char)) :
    Except OptionsError (Option Options) :=
  match read arguments with
  | .error e => .error (.argument e)
  | .ok found => optionsOf found

/-- The options that the arguments ask for, or none if they ask for help. -/
def options? (arguments : List (List Char)) : Except OptionsError (Option Options) :=
  optionsBy items arguments

/-- How the program is called. -/
def usage (programName : String) : String :=
  "Usage: " ++ programName ++ " [options] [FILE]\n\nOptions:\n" ++
    String.join (Flag.all.map fun f => f.usage ++ "\n")

end PocketMips.CommandLine
