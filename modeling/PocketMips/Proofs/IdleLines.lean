import PocketMips.Proofs.Counts
import PocketMips.Proofs.Drivers

/-!
# Lines that do nothing

Some lines only show something, and others ask for nothing that could be done: there is no such command, no path
to load from, no count of steps. Without a free run such a line leaves the session as it is. With one it would
not, as the first line after its end tells its report.

So idle lines can be left out of a script, one or all of them: the other lines get the answers that they get in
the whole script, and the session is the same in the end (`talk_without_idle`). `Spares` says which answers of
the whole script are meant. The proof goes through the script from its front, with the session that waits for
the next line as it is in both scripts.
-/

namespace PocketMips.Shell
open Text

/-- The names of all commands. -/
def commandNames : List String :=
  ["load", "step", "run", "stop", "reset", "regs", "mem", "list", "pc", "help", "quit", "exit"]

/-- The names of the commands that only show something. -/
def queryNames : List String :=
  ["regs", "mem", "list", "pc", "help"]

/-- The line shows something at most. -/
inductive Idle (line : List Char) : Prop where
  | blank :
    pieces line = [] →
    Idle line
  | query {name rest} :
    pieces line = name :: rest →
    String.ofList name ∈ queryNames →
    Idle line
  | unknown {name rest} :
    pieces line = name :: rest →
    String.ofList name ∉ commandNames →
    Idle line
  /-- There is no path after `load`. -/
  | noPath :
    pieces line = ["load".toList] →
    Idle line
  /-- What follows `step` is not a number of 64 bits. -/
  | noCount {word rest} :
    pieces line = "step".toList :: word :: rest →
    (∀ n, ¬Counts word n) →
    Idle line

/-- The line asks for a free run. -/
def AsksToRun (line : List Char) : Prop :=
  (pieces line).head? = some "run".toList

instance (line : List Char) : Decidable (AsksToRun line) :=
  inferInstanceAs (Decidable ((pieces line).head? = some "run".toList))

/-- A line of a script, and whether it is left out. -/
structure ScriptLine where
  text : List Char
  leftOut : Bool

/-- All that comes to the shell in a script. -/
def wholeScript (script : List ScriptLine) : List Input :=
  script.map (.line ·.text)

/-- What is left of a script. -/
def keptScript (script : List ScriptLine) : List Input :=
  wholeScript (script.filter (!·.leftOut))

/-- Of the answers to a script, those to the lines that are kept. -/
def keptAnswers (script : List ScriptLine) (answers : List Output) : List Output :=
  ((script.zip answers).filter (!·.1.leftOut)).map Prod.snd

/-- A session as the shell goes on with it: what was logged so far is printed. -/
def opened (s : Session) : Session :=
  (flush s .empty).1

/-- Leaving out lines of a script makes no difference. -/
structure Spares (script : List ScriptLine) (whole kept : Dialogue) : Prop where
  answers : kept.answers = keptAnswers script whole.answers
  session : kept.session = whole.session
  quit : kept.quit = whole.quit

/-! ### Sessions that wait for a line -/

/-- There is no free run, and nothing is left to be printed. -/
structure Waits (s : Session) : Prop where
  free : s.freeRun? = none
  printed : s.machine.log.entries = #[]

/-- A session without a free run waits when its records are printed. -/
lemma waits_flush {s : Session} (free : s.freeRun? = none) (r : Reply) : Waits (flush s r).1 :=
  ⟨free, rfl⟩

/-- Where nothing is left to be printed there is nothing to flush. -/
lemma Waits.flush {s : Session} (h : Waits s) (r : Reply) : flush s r = (s, r) := by
  obtain ⟨⟨cpu, threshold, entries⟩, run?⟩ := s
  obtain ⟨-, rfl⟩ := h
  rfl

/-- Where there is no free run, none is found to have ended. -/
lemma Waits.poll {s : Session} (h : Waits s) : s.poll = (s, none) := by
  unfold Session.poll Session.take
  rw [h.free]

/-! ### What lines ask for -/

/-- A line without words asks for nothing. -/
lemma ofLine_nil {line : List Char} (split : pieces line = []) : Command.ofLine line = .blank := by
  rw [← text_runsFrom 0] at split
  unfold Command.ofLine words runs
  rw [split]

/-- A line asks for what its first word says, about its second word. -/
lemma ofLine_cons {line name : List Char} {rest : List (List Char)} (split : pieces line = name :: rest) :
    Command.ofLine line = .ofName name rest.head? := by
  rw [← text_runsFrom 0] at split
  unfold Command.ofLine words runs
  rw [split]

/-- Only the name `run` asks for a free run. -/
lemma asksToRun_of_ofLine {line : List Char} (h : Command.ofLine line = .run) : AsksToRun line := by
  unfold AsksToRun
  cases split : pieces line with
  | nil =>
    rw [ofLine_nil split] at h
    cases h
  | cons name rest =>
    rw [ofLine_cons split] at h
    unfold Command.ofName at h
    split at h
    case h_3 run =>
      rw [← run, String.toList_ofList]
      rfl
    all_goals cases h

/-- What is not among the names of the commands is an unknown name. -/
lemma ofName_of_unknown {name : List Char} (unknown : String.ofList name ∉ commandNames)
    (word? : Option (List Char)) : Command.ofName name word? = .unknown (String.ofList name) := by
  unfold Command.ofName
  split
  case h_13 => rfl
  all_goals
    rename_i e
    exact absurd (e ▸ by decide) unknown

/-- What is no count is refused as a number of steps. -/
lemma stepCount_of_noCount {word : List Char} (none : ∀ n, ¬Counts word n) :
    ∃ e, stepCount (some word) = .error e := by
  obtain ⟨n, counts⟩ | ⟨e, miscounts⟩ := counts_or_miscounts word
  · exact absurd counts (none n)
  · refine ⟨e, ?_⟩
    simp only [stepCount, miscounts.readNumeral]
    rfl

/-- The command shows something at most. -/
def Command.showsOnly : Command → Bool
  | .blank | .load none | .step (.error _) | .regs | .mem | .list | .pc | .help | .unknown _ => true
  | .load (some _) | .step (.ok _) | .run | .stop | .reset | .quit => false

/-- An idle line gives a command that shows something at most. -/
lemma Idle.showsOnly {line : List Char} (h : Idle line) : (Command.ofLine line).showsOnly = true := by
  cases h with
  | blank split =>
    rw [ofLine_nil split]
    rfl
  | query split named =>
    rw [ofLine_cons split]
    simp only [queryNames, List.mem_cons, List.not_mem_nil, or_false] at named
    obtain e | e | e | e | e := named <;> simp only [Command.ofName, e] <;> rfl
  | unknown split named =>
    rw [ofLine_cons split, ofName_of_unknown named]
    rfl
  | noPath split =>
    rw [ofLine_cons split]
    rfl
  | @noCount word _ split none =>
    obtain ⟨e, bad⟩ := stepCount_of_noCount none
    rw [ofLine_cons split]
    show Command.showsOnly (.step (stepCount (some word))) = true
    rw [bad]
    rfl

/-! ### Answers -/

section
variable {s : Session} {line : List Char}

/-- A command that only shows something leaves every session as it is. -/
lemma execute_of_showsOnly {c : Command} (shows : c.showsOnly = true) (disk : Disk) (s : Session) :
    (execute disk c s).1 = s := by
  cases c with
  | load path? =>
    cases path? with
    | none => rfl
    | some path => cases shows
  | step count =>
    cases count with
    | error e => rfl
    | ok n => cases shows
  | run | stop | reset | quit => cases shows
  | _ => rfl

/-- No command but `run` makes a free run. -/
lemma execute_free {c : Command} (other : c ≠ .run) (free : s.freeRun? = none) (disk : Disk) :
    (execute disk c s).1.freeRun? = none := by
  have stopped : s.stop = (s, none) := by
    unfold Session.stop Session.take
    rw [free]
  cases c with
  | load path? =>
    cases path? with
    | none => exact free
    | some path =>
      simp only [execute, load, Session.loadFile, stopped]
      cases disk path <;> exact free
  | step count =>
    cases count with
    | error e => exact free
    | ok n =>
      have idle : s.isRunning = false := by rw [Session.isRunning, free]; rfl
      simp only [execute, idle, Bool.false_eq_true, if_false, Session.stepUpTo_idle idle]
      exact free
  | run => exact absurd rfl other
  | stop =>
    simp only [execute, stopped]
    exact free
  | reset =>
    simp only [execute, Session.reset, stopped]
    exact free
  | _ => exact free

/-- After the answer to a line, the session waits for the next. -/
lemma Waits.next (h : Waits s) (other : ¬AsksToRun line) (disk : Disk) : Waits (next disk line s).1 := by
  have free := execute_free (fun run => other (asksToRun_of_ofLine run)) h.free disk
  unfold Shell.next answer
  simp only [h.poll]
  exact waits_flush free ((⟨[], []⟩ : Reply) ++ (execute disk (.ofLine line) s).2)

/-- An idle line changes nothing for the next line. -/
lemma Idle.next (idle : Idle line) (h : Waits s) (disk : Disk) : (next disk line s).1 = s := by
  unfold Shell.next answer
  simp only [h.poll, execute_of_showsOnly idle.showsOnly, h.flush]

/-- An idle line does not end the dialogue. -/
lemma Idle.not_quit (idle : Idle line) : isQuit line = false := by
  have shows := idle.showsOnly
  unfold isQuit
  cases e : Command.ofLine line with
  | quit =>
    rw [e] at shows
    cases shows
  | _ => rfl

end

/-! ### Scripts -/

section
variable {disk : Disk} {s : Session} {l : ScriptLine} {script : List ScriptLine}

/-- A line that is left out of a script is not there. -/
lemma keptScript_of_leftOut (out : l.leftOut = true) : keptScript (l :: script) = keptScript script := by
  unfold keptScript
  rw [List.filter_cons, if_neg (by simp [out])]

/-- A line that is kept is there, before what is kept after it. -/
lemma keptScript_of_kept (kept : l.leftOut = false) :
    keptScript (l :: script) = .line l.text :: keptScript script := by
  unfold keptScript
  rw [List.filter_cons, if_pos (by simp [kept])]
  rfl

/-- The answer to a line that is left out is not counted. -/
lemma keptAnswers_of_leftOut (out : l.leftOut = true) (answer : Output) (answers : List Output) :
    keptAnswers (l :: script) (answer :: answers) = keptAnswers script answers := by
  unfold keptAnswers
  rw [List.zip_cons_cons, List.filter_cons, if_neg (by simp [out])]

/-- The answer to a line that is kept is counted, before those that follow. -/
lemma keptAnswers_of_kept (kept : l.leftOut = false) (answer : Output) (answers : List Output) :
    keptAnswers (l :: script) (answer :: answers) = answer :: keptAnswers script answers := by
  unfold keptAnswers
  rw [List.zip_cons_cons, List.filter_cons, if_pos (by simp [kept])]
  rfl

/-- A line that does not say to quit is answered, and the dialogue goes on. -/
lemma talk_line {text : List Char} (goesOn : isQuit text = false) (disk : Disk) (s : Session)
    (rest : List Input) :
    talk disk s (.line text :: rest) =
      { talk disk (next disk text s).1 rest with
        answers := (next disk text s).2 :: (talk disk (next disk text s).1 rest).answers } := by
  simp only [talk, goesOn, Bool.false_eq_true, if_false]

/-- A line that says to quit is the last one to be answered. -/
lemma talk_quit {text : List Char} (quits : isQuit text = true) (disk : Disk) (s : Session)
    (rest : List Input) :
    talk disk s (.line text :: rest) = ⟨[(next disk text s).2], (next disk text s).1, true⟩ := by
  simp only [talk, quits, if_true]

/-- From a session that waits, the lines that are left out make no difference. -/
lemma spares_of_waits (h : Waits s) (noRun : ∀ l ∈ script, ¬AsksToRun l.text)
    (idle : ∀ l ∈ script, l.leftOut = true → Idle l.text) :
    Spares script (talk disk s (wholeScript script)) (talk disk s (keptScript script)) := by
  induction script generalizing s with
  | nil => exact ⟨rfl, rfl, rfl⟩
  | cons l script ih =>
    have noRun' : ∀ l ∈ script, ¬AsksToRun l.text := fun l mem => noRun l (.tail _ mem)
    have idle' : ∀ l ∈ script, l.leftOut = true → Idle l.text := fun l mem => idle l (.tail _ mem)
    show Spares (l :: script) (talk disk s (.line l.text :: wholeScript script)) _
    cases out : l.leftOut with
    | true =>
      -- The whole script has one answer more, and the same session after it.
      have nothing := idle l (.head _) out
      have spares := ih h noRun' idle'
      rw [talk_line nothing.not_quit, nothing.next h, keptScript_of_leftOut out]
      refine ⟨?_, spares.session, spares.quit⟩
      rw [keptAnswers_of_leftOut out]
      exact spares.answers
    | false =>
      rw [keptScript_of_kept out]
      cases quits : isQuit l.text with
      | true =>
        rw [talk_quit quits, talk_quit quits]
        refine ⟨?_, rfl, rfl⟩
        rw [keptAnswers_of_kept out]
        simp [keptAnswers]
      | false =>
        have spares := ih (h.next (noRun l (.head _)) disk) noRun' idle'
        rw [talk_line quits, talk_line quits]
        refine ⟨?_, spares.session, spares.quit⟩
        rw [keptAnswers_of_kept out, spares.answers]

/-- Idle lines can be left out of a script without free runs, whatever the session is that it starts with: the
answers to the other lines are those that they get in the whole script, and the session is the same in the
end. -/
theorem talk_without_idle (disk : Disk) (s : Session) (free : s.freeRun? = none) (script : List ScriptLine)
    (noRun : ∀ l ∈ script, ¬AsksToRun l.text) (idle : ∀ l ∈ script, l.leftOut = true → Idle l.text) :
    Spares script (talk disk (opened s) (wholeScript script)) (talk disk (opened s) (keptScript script)) :=
  spares_of_waits (waits_flush free .empty) noRun idle

/-- A name with a typing error, a count that is one too large and a query are left out, and so is what comes
after the end. -/
theorem talk_without_idle_of_typos :
    let disk : Disk := fun _ => .ok "addi $r0 $zero 7\nsw $r0 8($zero)\nbad\nexit".toList
    let s := Session.new .standard (some .warn)
    let script : List ScriptLine := [
      ⟨"laod a.s".toList, true⟩,
      ⟨"load a.s".toList, false⟩,
      ⟨"step 18446744073709551616".toList, true⟩,
      ⟨"step 2".toList, false⟩,
      ⟨"mem".toList, true⟩,
      ⟨"quit".toList, false⟩,
      ⟨"load".toList, true⟩]
    s.freeRun? = none ∧ (∀ l ∈ script, ¬AsksToRun l.text) ∧
      (∀ l ∈ script, l.leftOut = true → Idle l.text) ∧
      Spares script (talk disk (opened s) (wholeScript script)) (talk disk (opened s) (keptScript script)) ∧
      (talk disk (opened s) (keptScript script)).answers.map Output.out = [
        "loaded 3 instruction(s) from a.s\n",
        "PC 8: exit\nregisters:\n  $r0: 7\nmemory:\n  2: 7\n",
        ""] := by
  intro disk s script
  have noRun : ∀ l ∈ script, ¬AsksToRun l.text := by decide +kernel
  have tooLarge : ∀ n, ¬Counts "18446744073709551616".toList n := by
    intro n counts
    have read : readNumeral .unsigned64 10 "18446744073709551616".toList = .error .tooLarge := by
      decide +kernel
    cases counts.readNumeral.symm.trans read
  have idle : ∀ l ∈ script, l.leftOut = true → Idle l.text := by
    simp only [script, List.forall_mem_cons, List.not_mem_nil, false_implies, implies_true, and_true,
      Bool.false_eq_true, true_implies, true_and]
    refine ⟨.unknown rfl (by decide), .noCount rfl tooLarge, .query rfl (by decide), .noPath rfl⟩
  exact ⟨rfl, noRun, idle, talk_without_idle disk s rfl script noRun idle, by decide +kernel⟩

end

end PocketMips.Shell
