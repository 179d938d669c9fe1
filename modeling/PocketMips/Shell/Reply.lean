import PocketMips.Shell.Command
import PocketMips.Shell.View

/-!
# Replies

What the shell does for a command, the lines that it prints, and the text that goes to the two outputs
of the program. The log of the session goes to the error output, ahead of the shell's own lines there.
-/

namespace PocketMips.Shell

/-- The lines that go to the standard output and to the error output. -/
structure Reply where
  out : List String
  err : List String
  deriving DecidableEq, Repr

namespace Reply

/-- The reply without any lines. -/
def empty : Reply :=
  ⟨[], []⟩

/-- The reply with one line on the standard output. -/
def say (line : String) : Reply :=
  ⟨[line], []⟩

/-- One reply after another. -/
def append (r r' : Reply) : Reply :=
  ⟨r.out ++ r'.out, r.err ++ r'.err⟩

instance : Append Reply := ⟨append⟩

end Reply

/-- What goes to the standard output and to the error output. -/
structure Output where
  out : String
  err : String
  deriving DecidableEq, Repr

namespace Output

/-- Nothing. -/
def empty : Output :=
  ⟨"", ""⟩

/-- One output after another. -/
def append (o o' : Output) : Output :=
  ⟨o.out ++ o'.out, o.err ++ o'.err⟩

instance : Append Output := ⟨append⟩

/-- Outputs one after another. -/
def join (os : List Output) : Output :=
  os.foldl append empty

/-- The output of a reply, each line ended by a line feed. -/
def ofReply (r : Reply) : Output :=
  ⟨String.join (r.out.map (· ++ "\n")), String.join (r.err.map (· ++ "\n"))⟩

end Output

/-- Loads a program and tells what came of it. -/
def load (disk : Disk) (path : String) (s : Session) : Session × Reply :=
  match s.loadFile path (disk path) with
  | (s, .ok rejections) =>
    (s, ⟨["loaded " ++ toString s.cpu.program.size ++ " instruction(s) from " ++ path],
      rejections.flatMap viewRejection⟩)
  | (s, .error why) => (s, ⟨[], ["error: cannot read " ++ path ++ ": " ++ why.message]⟩)

/-- Runs instructions until the processor halts, at most `count` of them. -/
def stepUpTo (count : Nat) (s : Session) : Session :=
  (repeatUntil Session.isDone Session.step count s).1

/-- What the shell does for a command. -/
def execute (disk : Disk) (c : Command) (s : Session) : Session × Reply :=
  match c with
  | .blank | .quit => (s, .empty)
  | .load none => (s, .say "usage: load <path>")
  | .load (some path) => load disk path s
  | .step (.error e) => (s, .say ("invalid step count: " ++ e.message))
  | .step (.ok count) =>
    if s.isRunning then (s, .say "program is running, 'stop' it first")
    else
      let s := stepUpTo count s
      (s, ⟨viewPosition s.cpu :: viewChangedRegs s ++ viewChangedWords s, []⟩)
  | .run =>
    if s.isRunning then (s, .say "already running")
    else (s.run, .say "running (type 'stop' to stop)")
  | .stop =>
    match s.stop with
    | (s, some report) => (s, ⟨[viewReport report, viewPosition s.cpu], []⟩)
    | (s, none) => (s, .say "not running")
  | .reset =>
    let s := s.reset
    (s, .say (viewPosition s.cpu))
  | .regs => (s, ⟨viewRegs s.cpu, []⟩)
  | .mem => (s, ⟨viewChangedWords s, []⟩)
  | .list => (s, ⟨viewListing s, []⟩)
  | .pc => (s, .say (viewPosition s.cpu))
  | .help => (s, ⟨commandHelp, []⟩)
  | .unknown name =>
    (s, .say ("unknown command '" ++ name ++ "' (type 'help' for a list of commands)"))

/-- What the shell does for a line. First it tells how a free run has ended, if one has by now. -/
def answer (disk : Disk) (line : List Char) (s : Session) : Session × Reply :=
  let (s, report?) := s.poll
  let (s, reply) := execute disk (.ofLine line) s
  (s, ⟨(report?.map viewReport).toList, []⟩ ++ reply)

/-- Takes what is in the log of the session out of it, ahead of the error lines of the reply. -/
def flush (s : Session) (r : Reply) : Session × Reply :=
  let log := s.machine.log
  ({ s with machine := { s.machine with log := log.clear } },
    { r with err := log.events.map Event.line ++ r.err })

end PocketMips.Shell
