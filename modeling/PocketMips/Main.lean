import PocketMips.Shell.Conversation

/-!
# The program

Arguments, input and outputs of the system are joined to the shell here. While the shell waits for a
line, the worker of a free run goes on with its actions.
-/

namespace PocketMips.Main

open Shell

/-- The error of the system with a number, which some calls give with a minus sign. One that has no
meaning of its own here is told in the words of the system. -/
def systemError (number : UInt32) (words : String) : ReadError :=
  match min number (0 - number) with
  | 2 => .notFound
  | 20 => .notFolder
  | 21 => .isFolder
  | 36 => .nameTooLong
  | number => .other (words.capitalize ++ " (os error " ++ toString number ++ ")")

/-- What an error of the system means for the file that was to be read. -/
def readErrorOf : IO.Error → ReadError
  | .noFileOrDirectory _ number words | .permissionDenied _ number words
  | .inappropriateType _ number words | .invalidArgument _ number words
  | .resourceExhausted _ number words => systemError number words
  | why => .other why.toString

/-- Reads a file. -/
def readSource (path : String) : IO SourceFile := do
  if path.contains '\x00' then return .error .badPath
  match ← (IO.FS.readBinFile path).toBaseIO with
  | .ok bytes => return .ofBytes bytes
  | .error why => return .error (readErrorOf why)

/-- The one file that is going to be asked for, if any. -/
def diskFor (path? : Option String) : IO Disk := do
  match path? with
  | none => return fun _ => .error .notFound
  | some path =>
    let source ← readSource path
    return fun _ => source

/-- The path of the file that the command line asks for. -/
def givenPath? (arguments : List (List Char)) : Option String :=
  match CommandLine.options? arguments with
  | .ok (some o) => o.file?
  | .ok none | .error _ => none

/-- The path of the file that a line asks for. -/
def askedPath? (line : List Char) : Option String :=
  match Command.ofLine line with
  | .load path? => path?
  | _ => none

/-- The threshold of the log that the environment asks for. -/
def threshold : IO (Option Level) := do
  match ← IO.getEnv "MIPSI_LOG" with
  | none => return some .info
  | some name => return (Level.threshold? name.toList).getD (some .info)

/-- Prints an output. -/
def print (o : Output) : IO Unit := do
  IO.eprint o.err
  IO.print o.out
  (← IO.getStdout).flush

/-- The next line of the input, or none at its end. -/
def readLine (input : IO.FS.Stream) : IO (Option (List Char)) := do
  match ← input.getLine.toBaseIO with
  | .ok line => return (Text.lines line.toList).head?
  | .error _ => return none

/-- Lets the worker of a free run act until the line is there or the worker has left. -/
partial def workUntil (line : Task (Except IO.Error (Option (List Char)))) (s : Session) : IO Session := do
  if !s.isRunning || (← IO.hasFinished line) then return s
  let (s, reply) := flush s.workerActs .empty
  unless reply.err.isEmpty do print (.ofReply reply)
  workUntil line s

/-- Goes on with the input line by line. -/
partial def converse (input : IO.FS.Stream) (s : Session) : IO Unit := do
  print prompt
  let waiting ← IO.asTask (readLine input)
  let s ← workUntil waiting s
  match ← IO.ofExcept (← IO.wait waiting) with
  | none => print (close s)
  | some line =>
    let (s, output) := next (← diskFor (askedPath? line)) line s
    print output
    if isQuit line then print (close s) else converse input s

end PocketMips.Main

/-- Runs the program with the arguments of its command line. -/
def main (arguments : List String) : IO UInt32 := do
  let arguments := arguments.map String.toList
  let disk ← PocketMips.Main.diskFor (PocketMips.Main.givenPath? arguments)
  match PocketMips.Shell.start "mipsi" disk (← PocketMips.Main.threshold) arguments with
  | .finished code output =>
    PocketMips.Main.print output
    return code.toUInt32
  | .interactive session output =>
    PocketMips.Main.print output
    PocketMips.Main.converse (← IO.getStdin) session
    return 0
