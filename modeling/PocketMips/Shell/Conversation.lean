import PocketMips.Shell.Start

/-!
# Conversations

The shell prompts for a line, answers it, and goes on so until a line says to quit or the input ends.
The answers are given line by line first, and the text of a conversation is made of them.
-/

namespace PocketMips.Shell

/-- What comes to the shell. -/
inductive Input where
  /-- A line. -/
  | line (text : List Char)
  /-- Time enough for a free run to come to its end. -/
  | pause
  deriving DecidableEq, Repr

/-- Does a line say to quit? -/
def isQuit (line : List Char) : Bool :=
  Command.ofLine line matches .quit

/-- The session after a line, and what is printed for it. -/
def next (disk : Disk) (line : List Char) (s : Session) : Session × Output :=
  let (s, reply) := answer disk line s
  let (s, reply) := flush s reply
  (s, .ofReply reply)

/-- What comes of some input. -/
structure Dialogue where
  /-- What is printed for each line that was read. -/
  answers : List Output
  /-- The session in the end. -/
  session : Session
  /-- Did a line say to quit? -/
  quit : Bool

/-- Answers lines until one says to quit. -/
def talk (disk : Disk) : Session → List Input → Dialogue
  | s, [] => ⟨[], s, false⟩
  | s, .pause :: rest => talk disk s.settle rest
  | s, .line text :: rest =>
    let (s, output) := next disk text s
    if isQuit text then ⟨[output], s, true⟩
    else
      let d := talk disk s rest
      { d with answers := output :: d.answers }

/-- What the shell prints when it waits for a line. -/
def prompt : Output :=
  ⟨"> ", ""⟩

/-- Ends the free run of a session that is given up. -/
def close (s : Session) : Output :=
  .ofReply (flush s.stop.1 .empty).2

/-- All that is printed in a dialogue: a prompt ahead of each answer, and one more if the shell still
waited for a line when the input ended. -/
def Dialogue.output (d : Dialogue) : Output :=
  .join (d.answers.map (prompt ++ ·)) ++ (if d.quit then .empty else prompt) ++ close d.session

/-- One call of the program: its exit code and all that it prints. -/
def call (programName : String) (disk : Disk) (threshold : Option Level)
    (arguments : List (List Char)) (input : List Input) : Nat × Output :=
  match start programName disk threshold arguments with
  | .finished code output => (code, output)
  | .interactive s output => (0, output ++ (talk disk s input).output)

end PocketMips.Shell
