import PocketMips.Processor

/-!
# The log

What happens is recorded as events. Each kind of event has a level and belongs to a part of the
program, and a log keeps the events that are at least as severe as its threshold, in their order.
-/

namespace PocketMips

/-- How severe an event is, the most severe first. -/
inductive Level where
  | error | warn | info | debug | trace
  deriving DecidableEq, Repr

namespace Level

/-- The place of the level, counted from the most severe. -/
def rank : Level → Nat
  | .error => 0
  | .warn => 1
  | .info => 2
  | .debug => 3
  | .trace => 4

/-- The name of the level in capitals. -/
def name : Level → String
  | .error => "ERROR"
  | .warn => "WARN"
  | .info => "INFO"
  | .debug => "DEBUG"
  | .trace => "TRACE"

/-- All levels. -/
def all : List Level :=
  [.error, .warn, .info, .debug, .trace]

/-- The threshold with a name in any letter case: a level, or none at all for `off`. -/
def threshold? (text : List Char) : Option (Option Level) :=
  if Text.sameLetters "off".toList text then some none
  else (all.find? fun l => Text.sameLetters l.name.toList text).map some

end Level

/-- What can happen. -/
inductive Event where
  /-- A file is going to be assembled. -/
  | assembling (path : String)
  /-- A line was set aside. -/
  | rejected (r : Rejection)
  /-- A text was assembled: the lines taken into the program and those left out. -/
  | assembled (taken left : Nat)
  /-- A processor got a program. -/
  | loaded (instructions : Nat)
  /-- An instruction is going to be run. -/
  | running (pc : Nat) (i : Instr)
  /-- A processor has halted. -/
  | halted (pc : Nat) (why : Halt)
  /-- A file could not be read. -/
  | unreadable (path why : String)
  /-- A step was asked for during a free run. -/
  | stepIgnored
  /-- A free run was started. -/
  | freeRunStarted
  /-- A free run has ended. -/
  | freeRunEnded (steps : Nat)
  deriving DecidableEq, Repr

namespace Event

/-- How severe an event is. -/
def level : Event → Level
  | .unreadable .. => .error
  | .rejected _ => .warn
  | .halted _ why => if why.isFault then .warn else .debug
  | .assembling _ => .info
  | .assembled .. | .loaded _ | .stepIgnored | .freeRunStarted | .freeRunEnded _ => .debug
  | .running .. => .trace

/-- The part of the program that an event belongs to. -/
def target : Event → String
  | .assembling _ | .rejected _ | .assembled .. => "mips_stepper::asm"
  | .loaded _ | .running .. | .halted .. => "mips_stepper::sim"
  | .unreadable .. | .stepIgnored => "mips_stepper::session"
  | .freeRunStarted | .freeRunEnded _ => "mips_stepper::session::free_run"

/-- The wording of an event. -/
def message : Event → String
  | .assembling path => "loading program from " ++ path
  | .rejected r => r.message
  | .assembled taken left =>
    "assembled " ++ toString taken ++ " instruction(s), rejected " ++ toString left ++ " line(s)"
  | .loaded n => "loaded program with " ++ toString n ++ " instruction(s)"
  | .running pc i => "PC " ++ toString pc ++ ": " ++ String.ofList i.text
  | .halted pc why =>
    (if why.isFault then "fault" else "halted") ++ " at PC " ++ toString pc ++ ": " ++ why.message
  | .unreadable path why => "could not read " ++ path ++ ": " ++ why
  | .stepIgnored => "ignoring step during free-run"
  | .freeRunStarted => "free-run started"
  | .freeRunEnded steps => "free-run finished after " ++ toString steps ++ " step(s)"

/-- The line that shows an event: its level in five columns, its part and its wording. If the wording
goes on for more lines, these are indented. -/
def line (e : Event) : String :=
  "[" ++ String.ofList (Text.padEnd 5 e.level.name.toList) ++ " " ++ e.target ++ "] " ++
    String.ofList (Text.hang 4 e.message.toList)

end Event

/-- Who did what is recorded. -/
inductive Author where
  /-- The one who gives the commands. -/
  | controller
  /-- The worker of a free run. -/
  | worker
  deriving DecidableEq, Repr

/-- The events at or above a threshold, and who did them. -/
structure Log where
  threshold : Option Level
  entries : Array (Author × Event)
  deriving DecidableEq, Repr

namespace Log

/-- The log without entries. -/
def empty (threshold : Option Level) : Log :=
  ⟨threshold, #[]⟩

/-- Does the log keep events of a level? -/
def keeps (log : Log) (level : Level) : Bool :=
  log.threshold.any (level.rank ≤ ·.rank)

/-- The log with one more event, if it keeps it. -/
def write (log : Log) (author : Author) (e : Event) : Log :=
  if log.keeps e.level then { log with entries := log.entries.push (author, e) } else log

/-- The log with more events. -/
def writeAll (log : Log) (author : Author) (es : List Event) : Log :=
  es.foldl (·.write author ·) log

/-- The events in their order. -/
def events (log : Log) : List Event :=
  log.entries.toList.map Prod.snd

/-- The log with its entries taken out. -/
def clear (log : Log) : Log :=
  .empty log.threshold

/-- To write to a log does not change what it keeps. -/
@[simp] theorem threshold_write (log : Log) (author : Author) (e : Event) :
    (log.write author e).threshold = log.threshold := by
  unfold write; split <;> rfl

/-- An event is added to a log that keeps it. -/
theorem events_write (log : Log) (author : Author) (e : Event) :
    (log.write author e).events = log.events ++ if log.keeps e.level then [e] else [] := by
  unfold write; split <;> simp_all [events]

end Log

/-- What is recorded when a text has been assembled: each rejected line, and the two counts. -/
def Assembly.journal (a : Assembly) : List Event :=
  a.rejections.map .rejected ++ [.assembled a.program.size a.rejections.length]

end PocketMips
