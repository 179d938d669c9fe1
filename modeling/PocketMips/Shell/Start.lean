import PocketMips.CommandLine.Options
import PocketMips.Shell.Reply

/-!
# The start

What the command line asks for is done first: a program is loaded and listed, and it may be run to its
end. If that was all, the program is finished with an exit code, and otherwise there is a session for
the shell to go on with.
-/

namespace PocketMips.Shell

/-- How the program starts. -/
inductive Start where
  /-- All is done already; the exit code. -/
  | finished (code : Nat) (output : Output)
  /-- The shell goes on with its input. -/
  | interactive (session : Session) (output : Output)

/-- Runs a program to its end or to the limit of steps, and shows the changes. -/
def batch (maxSteps : Nat) (s : Session) : Session × Reply :=
  let (machine, steps) := s.machine.run maxSteps
  let s := { s with machine }
  let ending :=
    match s.cpu.halt? with
    | some why => "finished after " ++ toString steps ++ " step(s): " ++ why.message
    | none => "stopped at the step limit (" ++ toString steps ++ " step(s))"
  (s, ⟨ending :: viewChangedRegs s ++ viewChangedWords s, []⟩)

/-- Loads a program if there is a path. -/
def loadGiven (disk : Disk) (path? : Option String) (s : Session) : Session × Reply :=
  match path? with
  | none => (s, .empty)
  | some path => load disk path s

/-- The session that the options ask for, and what is printed on the way to it. -/
def prepare (disk : Disk) (threshold : Option Level) (o : CommandLine.Options) : Session × Reply :=
  let (s, loading) := loadGiven disk o.file? (.new o.config threshold)
  let (s, loading) := flush s loading
  (s, if o.listing then loading ++ ⟨viewListing s, []⟩ else loading)

/-- Does what the command line asks for. -/
def start (programName : String) (disk : Disk) (threshold : Option Level)
    (arguments : List (List Char)) : Start :=
  match CommandLine.options? arguments with
  | .error e => .finished 1 ⟨"", "error: " ++ e.message ++ "\n"⟩
  | .ok none =>
    .finished 0 (⟨CommandLine.usage programName ++ "\n", ""⟩ ++ .ofReply ⟨commandHelp, []⟩)
  | .ok (some o) =>
    let (s, preparing) := prepare disk threshold o
    if o.batch then
      let (s, running) := batch o.maxSteps s
      let (_, running) := flush s running
      .finished 0 (.ofReply (preparing ++ running))
    else
      .interactive s (.ofReply (preparing ++ .say "type 'help' for a list of commands"))

end PocketMips.Shell
