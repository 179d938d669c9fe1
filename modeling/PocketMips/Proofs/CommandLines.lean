import PocketMips.CommandLine.Options
import PocketMips.Proofs.Counts
import PocketMips.Proofs.MemoryBounds

/-!
# What a command line asks for

The arguments are read first, by a reader that says which flags and values and which free arguments are there, or
what is wrong with them. What follows is the same for every reader: help comes before all that is wrong with the
values, and of what is wrong the first counts, the size of the memory before the limit of steps and that before
the number of files. `FirstFault` says which fault that is, and `Granted` what the options are if there is none.

The sizes that can be asked for are those that a memory can have, so there is nothing to clamp: a session with the
options has the memory that was asked for, and it keeps its size through every load and reset.

The main statement is `CommandLine.settles`.
-/

namespace PocketMips

/-- One scene comes after another, and meanwhile nobody has asked for another memory. -/
inductive Scene.Follows : Scene → Scene → Prop where
  | refl {s} : Follows s s
  | move {s s' q s''} :
    Follows s s' →
    Move s' q s'' →
    Follows s s''
  | operate {s s'} (op : Operation) :
    Follows s s' →
    op.words? = none →
    Follows s (s'.operate op)

namespace CommandLine
open Text

/-- The number that a flag is given, or the standard one if the flag is not there. -/
inductive Asks (f : Flag) (standard : Nat) (found : List Item) : Nat → Prop where
  | standard :
    valueOf? f found = none →
    Asks f standard found standard
  | given {v n} :
    valueOf? f found = some v →
    Counts v n →
    Asks f standard found n

/-- Nothing is wrong with what was found, and it does not ask for help. -/
structure Acceptable (found : List Item) : Prop where
  noHelp : present .help found = false
  memWords : ∀ v, valueOf? .memWords found = some v → ∃ n, Counts v n ∧ 4096 ≤ n ∧ n ≤ 67108864
  maxSteps : ∀ v, valueOf? .maxSteps found = some v → ∃ n, Counts v n
  files : (frees found).length ≤ 1

/-- What is wrong with the value of a flag that is no number. -/
inductive CountFault (f : Flag) (found : List Item) : OptionsError → Prop where
  | noCount {v e} :
    valueOf? f found = some v →
    Miscounts v e →
    CountFault f found (.number e)

/-- What is wrong with the size of the memory. -/
inductive MemWordsFault (found : List Item) : OptionsError → Prop where
  | noCount {e} :
    CountFault .memWords found e →
    MemWordsFault found e
  | outside {v n} :
    valueOf? .memWords found = some v →
    Counts v n →
    ¬(4096 ≤ n ∧ n ≤ 67108864) →
    MemWordsFault found (.memWords n)

/-- The first thing that is wrong. -/
inductive FirstFault : Except ArgumentError (List Item) → OptionsError → Prop where
  | arguments {e} :
    FirstFault (.error e) (.argument e)
  | memWords {found e} :
    present .help found = false →
    MemWordsFault found e →
    FirstFault (.ok found) e
  | maxSteps {found e} :
    present .help found = false →
    (∀ e', ¬MemWordsFault found e') →
    CountFault .maxSteps found e →
    FirstFault (.ok found) e
  | files {found} :
    present .help found = false →
    (∀ e', ¬MemWordsFault found e') →
    (∀ e', ¬CountFault .maxSteps found e') →
    1 < (frees found).length →
    FirstFault (.ok found) (.files (frees found).length)

/-- A session with these settings has a memory of this size, and keeps it. -/
structure KeepsSize (config : Config) (words : Nat) : Prop where
  /-- It is not changed to fit. -/
  unclamped : Memory.clampSize config.memWords = words
  created : ∀ threshold, (Session.new config threshold).cpu.mem.size = words
  /-- Whatever is loaded, reset or run later, in any order of the actions. -/
  later : ∀ threshold s, (Scene.new config threshold).Follows s → s.machine.cpu.mem.size = words
  /-- So it is for what is run to work with a session. -/
  reached : ∀ threshold s, Session.Reached config threshold s → s.cpu.mem.size = words

/-- The options are what was found. -/
structure Granted (found : List Item) (o : Options) : Prop where
  file : o.file? = (frees found).head?.map String.ofList
  batch : o.batch = present .run found
  listing : o.listing = present .listing found
  maxSteps : Asks .maxSteps 10000000 found o.maxSteps
  memWords : Asks .memWords 4096 found o.config.memWords
  size : KeepsSize o.config o.config.memWords

/-- What comes of a command line whose arguments are read in some way. -/
structure Settles (read : List (List Char) → Except ArgumentError (List Item))
    (arguments : List (List Char)) : Prop where
  accepted : (∃ o, optionsBy read arguments = .ok (some o)) ↔
    ∃ found, read arguments = .ok found ∧ Acceptable found
  helped : optionsBy read arguments = .ok none ↔
    ∃ found, read arguments = .ok found ∧ present .help found = true
  rejected : ∀ e, optionsBy read arguments = .error e ↔ FirstFault (read arguments) e
  granted : ∀ o, optionsBy read arguments = .ok (some o) →
    ∃ found, read arguments = .ok found ∧ Granted found o

/-! ### Values and files -/

section
variable {f : Flag} {found : List Item} {e : OptionsError}

/-- A flag is not there, or its value is a count, or something is wrong with it. -/
lemma value_cases (f : Flag) (found : List Item) :
    valueOf? f found = none ∨ (∃ v n, valueOf? f found = some v ∧ Counts v n) ∨
      ∃ e, CountFault f found e := by
  cases value : valueOf? f found with
  | none => exact .inl rfl
  | some v =>
    obtain ⟨n, counts⟩ | ⟨e, miscounts⟩ := counts_or_miscounts v
    · exact .inr (.inl ⟨v, n, rfl, counts⟩)
    · exact .inr (.inr ⟨_, .noCount value miscounts⟩)

/-- A flag that is given no value asks for no number. -/
lemma numberOf?_of_absent (absent : valueOf? f found = none) : numberOf? f found = .ok none := by
  simp only [numberOf?, absent]

/-- A value that counts is the number that is asked for. -/
lemma numberOf?_of_counts {v : List Char} {n : Nat} (value : valueOf? f found = some v)
    (counts : Counts v n) : numberOf? f found = .ok (some n) := by
  simp only [numberOf?, value, counts.readNumeral, Int.toNat_natCast]

/-- A value that does not count is reported. -/
lemma CountFault.numberOf? (h : CountFault f found e) : numberOf? f found = .error e := by
  obtain ⟨value, miscounts⟩ := h
  simp only [CommandLine.numberOf?, value, miscounts.readNumeral]

/-- A number is refused exactly when there is a fault in its count. -/
lemma numberOf?_eq_error_iff : numberOf? f found = .error e ↔ CountFault f found e := by
  constructor
  · intro h
    obtain absent | ⟨v, n, value, counts⟩ | ⟨e', fault⟩ := value_cases f found
    · cases (numberOf?_of_absent absent).symm.trans h
    · cases (numberOf?_of_counts value counts).symm.trans h
    · cases fault.numberOf?.symm.trans h
      exact fault
  · exact CountFault.numberOf?

/-- A flag asks for the number that is found, or for the standard if there is none. -/
lemma asks_iff {standard n : Nat} :
    Asks f standard found n ↔ ∃ n?, numberOf? f found = .ok n? ∧ n?.getD standard = n := by
  constructor
  · rintro (absent | ⟨value, counts⟩)
    · exact ⟨none, numberOf?_of_absent absent, rfl⟩
    · exact ⟨some n, numberOf?_of_counts value counts, rfl⟩
  · rintro ⟨n?, number, rfl⟩
    obtain absent | ⟨v, n, value, counts⟩ | ⟨e, fault⟩ := value_cases f found
    · cases (numberOf?_of_absent absent).symm.trans number
      exact .standard absent
    · cases (numberOf?_of_counts value counts).symm.trans number
      exact .given value counts
    · cases fault.numberOf?.symm.trans number

/-- Without a size of its memory, a processor gets the standard one. -/
lemma configOf_of_absent (absent : valueOf? .memWords found = none) : configOf found = .ok .standard := by
  unfold configOf
  rw [numberOf?_of_absent absent]
  rfl

/-- A size that counts is taken as it is, if it is within the limits. -/
lemma configOf_of_counts {v : List Char} {n : Nat} (value : valueOf? .memWords found = some v)
    (counts : Counts v n) :
    configOf found = if 4096 ≤ n ∧ n ≤ 67108864 then .ok ⟨n⟩ else .error (.memWords n) := by
  unfold configOf
  rw [numberOf?_of_counts value counts]
  rfl

/-- A size that does not count is reported. -/
lemma CountFault.configOf (h : CountFault .memWords found e) : configOf found = .error e := by
  unfold CommandLine.configOf
  rw [h.numberOf?]
  rfl

/-- The settings ask for the size that is found, which is one that a memory can have. -/
lemma configOf_eq_ok_iff {config : Config} :
    configOf found = .ok config ↔
      Asks .memWords 4096 found config.memWords ∧ 4096 ≤ config.memWords ∧
        config.memWords ≤ 67108864 := by
  obtain ⟨words⟩ := config
  constructor
  · intro h
    obtain absent | ⟨v, n, value, counts⟩ | ⟨e, fault⟩ := value_cases .memWords found
    · cases (configOf_of_absent absent).symm.trans h
      exact ⟨.standard absent, by decide, by decide⟩
    · rw [configOf_of_counts value counts] at h
      split at h
      case isTrue inside =>
        cases h
        exact ⟨.given value counts, inside⟩
      case isFalse => cases h
    · cases fault.configOf.symm.trans h
  · rintro ⟨absent | ⟨value, counts⟩, inside⟩
    · exact configOf_of_absent absent
    · rw [configOf_of_counts value counts, if_pos inside]

/-- A configuration is refused exactly when there is a fault in the size of the memory. -/
lemma configOf_eq_error_iff : configOf found = .error e ↔ MemWordsFault found e := by
  constructor
  · intro h
    obtain absent | ⟨v, n, value, counts⟩ | ⟨e', fault⟩ := value_cases .memWords found
    · cases (configOf_of_absent absent).symm.trans h
    · rw [configOf_of_counts value counts] at h
      split at h
      case isTrue => cases h
      case isFalse outside =>
        cases h
        exact .outside value counts outside
    · cases fault.configOf.symm.trans h
      exact .noCount fault
  · rintro (fault | ⟨value, counts, outside⟩)
    · exact fault.configOf
    · rw [configOf_of_counts value counts, if_neg outside]

/-- One free argument is the file, and none is no file. -/
lemma fileOf?_of_few (few : (frees found).length ≤ 1) :
    fileOf? found = .ok ((frees found).head?.map String.ofList) := by
  unfold fileOf?
  match files : frees found with
  | [] => rfl
  | [file] => rfl
  | _ :: _ :: _ =>
    rw [files] at few
    simp at few

/-- More free arguments than one are too many files. -/
lemma fileOf?_of_many (many : 1 < (frees found).length) :
    fileOf? found = .error (.files (frees found).length) := by
  unfold fileOf?
  match files : frees found with
  | [] | [_] =>
    rw [files] at many
    simp at many
  | _ :: _ :: _ => rfl

end

/-! ### Options -/

/-- What comes of what was found among the arguments. -/
inductive Outcome (found : List Item) : Except OptionsError (Option Options) → Prop where
  | help :
    present .help found = true →
    Outcome found (.ok none)
  | fault {e} :
    FirstFault (.ok found) e →
    Outcome found (.error e)
  | options {o} :
    present .help found = false →
    configOf found = .ok o.config →
    Asks .maxSteps 10000000 found o.maxSteps →
    (frees found).length ≤ 1 →
    o.file? = (frees found).head?.map String.ofList →
    o.batch = present .run found →
    o.listing = present .listing found →
    Outcome found (.ok (some o))

/-- Whatever was found on a command line, it has one of the three outcomes. -/
lemma outcome_optionsOf (found : List Item) : Outcome found (optionsOf found) := by
  unfold optionsOf
  cases help : present .help found with
  | true => exact .help help
  | false =>
    cases config : configOf found with
    | error e => exact .fault (.memWords help (configOf_eq_error_iff.mp config))
    | ok config' =>
      have sized (e : OptionsError) : ¬MemWordsFault found e := by
        intro fault
        cases config.symm.trans (configOf_eq_error_iff.mpr fault)
      cases steps : numberOf? .maxSteps found with
      | error e => exact .fault (.maxSteps help sized (numberOf?_eq_error_iff.mp steps))
      | ok maxSteps? =>
        have limited (e : OptionsError) : ¬CountFault .maxSteps found e := by
          intro fault
          cases steps.symm.trans fault.numberOf?
        by_cases few : (frees found).length ≤ 1
        · have file := fileOf?_of_few few
          rw [file]
          exact .options help config (asks_iff.mpr ⟨maxSteps?, steps, rfl⟩) few rfl rfl rfl
        · have many : 1 < (frees found).length := Nat.lt_of_not_le few
          have file := fileOf?_of_many many
          rw [file]
          exact .fault (.files help sized limited many)

/-- Help is given exactly when it was asked for. -/
lemma optionsOf_eq_none_iff {found : List Item} :
    optionsOf found = .ok none ↔ present .help found = true := by
  constructor
  · intro helps
    have outcome := outcome_optionsOf found
    rw [helps] at outcome
    cases outcome with
    | help help => exact help
  · intro help
    unfold optionsOf
    rw [help]
    rfl

/-- The first fault is the one that is reported. -/
lemma FirstFault.optionsOf {found : List Item} {e : OptionsError} (h : FirstFault (.ok found) e) :
    optionsOf found = .error e := by
  have config_ok (sized : ∀ e', ¬MemWordsFault found e') : ∃ config, configOf found = .ok config := by
    cases config : configOf found with
    | error e' => exact absurd (configOf_eq_error_iff.mp config) (sized e')
    | ok config' => exact ⟨config', rfl⟩
  unfold CommandLine.optionsOf
  cases h with
  | memWords noHelp fault =>
    rw [noHelp, configOf_eq_error_iff.mpr fault]
    rfl
  | maxSteps noHelp sized fault =>
    obtain ⟨config, ok⟩ := config_ok sized
    rw [noHelp, ok, fault.numberOf?]
    rfl
  | files noHelp sized limited many =>
    obtain ⟨config, ok⟩ := config_ok sized
    rw [noHelp, ok, fileOf?_of_many many]
    cases steps : numberOf? .maxSteps found with
    | error e' => exact absurd (numberOf?_eq_error_iff.mp steps) (limited e')
    | ok maxSteps? => rfl

/-- What was found is refused with an error exactly when this is the first fault. -/
lemma optionsOf_eq_error_iff {found : List Item} {e : OptionsError} :
    optionsOf found = .error e ↔ FirstFault (.ok found) e := by
  constructor
  · intro rejects
    have outcome := outcome_optionsOf found
    rw [rejects] at outcome
    cases outcome with
    | fault fault => exact fault
  · exact FirstFault.optionsOf

/-- If a flag is given a number of a kind whenever it is there, it asks for one of this kind, as long as the
standard is one, too. -/
lemma values_iff {f : Flag} {found : List Item} {standard : Nat} (kind : Nat → Prop)
    (usual : kind standard) :
    (∀ v, valueOf? f found = some v → ∃ n, Counts v n ∧ kind n) ↔ ∃ n, Asks f standard found n ∧ kind n := by
  constructor
  · intro values
    cases value : valueOf? f found with
    | none => exact ⟨standard, .standard value, usual⟩
    | some v =>
      obtain ⟨n, counts, ok⟩ := values v value
      exact ⟨n, .given value counts, ok⟩
  · rintro ⟨n, absent | ⟨value, counts⟩, ok⟩ v there
    · cases absent.symm.trans there
    · cases value.symm.trans there
      exact ⟨n, counts, ok⟩

/-- What is acceptable is accepted. -/
lemma Acceptable.optionsOf {found : List Item} (h : Acceptable found) :
    ∃ o, optionsOf found = .ok (some o) := by
  obtain ⟨words, asked, inside⟩ :=
    (values_iff (fun n => 4096 ≤ n ∧ n ≤ 67108864) ⟨Nat.le_refl 4096, by decide⟩).mp h.memWords
  have config : configOf found = .ok ⟨words⟩ := configOf_eq_ok_iff.mpr ⟨asked, inside⟩
  have outcome := outcome_optionsOf found
  generalize CommandLine.optionsOf found = result at outcome ⊢
  cases outcome with
  | help help => cases h.noHelp.symm.trans help
  | options => exact ⟨_, rfl⟩
  | fault fault =>
    cases fault with
    | memWords _ fault => cases config.symm.trans (configOf_eq_error_iff.mpr fault)
    | maxSteps _ _ fault =>
      obtain ⟨value, miscounts⟩ := fault
      obtain ⟨n, counts⟩ := h.maxSteps _ value
      cases counts.readNumeral.symm.trans miscounts.readNumeral
    | files _ _ _ many => exact absurd h.files (Nat.not_le_of_lt many)

end CommandLine

/-! ### The memory that was asked for -/

/-- The processor has as many words as it asks for. -/
structure Processor.Sized (words : Nat) (p : Processor) : Prop where
  setting : p.config.memWords = words
  size : p.mem.size = words

section
variable {words : Nat} (unclamped : Memory.clampSize words = words)
include unclamped

/-- A reset makes no other size. -/
lemma Processor.Sized.reset {p : Processor} (h : p.Sized words) : p.reset.Sized words where
  setting := h.setting
  size := p.pristine_reset.size.trans (h.setting ▸ unclamped)

/-- An operation that does not set the size keeps it, in the setting and in the memory. -/
lemma Machine.sized_perform {m : Machine} (h : m.cpu.Sized words) {op : Operation}
    (silent : op.words? = none) : (m.perform op).cpu.Sized words where
  setting := by
    rw [memWords_perform, silent]
    exact h.setting
  size := by
    cases starts : op.restarts with
    | true => rw [memSize_of_restarts starts, h.setting, unclamped]
    | false => rw [memSize_of_not_restarts starts, h.size]

/-- The size stays as long as no other one is asked for. -/
lemma Scene.Follows.sized {s s' : Scene} (after : s.Follows s') (h : s.machine.cpu.Sized words) :
    s'.machine.cpu.Sized words := by
  induction after with
  | refl => exact h
  | move _ mv ih =>
    refine mv.keeps (fun p program h => ?load) (fun p h => ?step) (fun p h => h.reset unclamped) ih
    case load => exact Processor.Sized.reset unclamped (p := { p with program }) ⟨h.setting, h.size⟩
    case step => exact ⟨p.config_step ▸ h.setting, p.memSize_step.trans h.size⟩
  | operate op _ silent ih => exact Machine.sized_perform unclamped ih silent

end

/-- A scene follows the one that moves lead to it from. -/
lemma Moves.follows {s s' : Scene} {tr : List Entry} (run : Moves s tr s') : s.Follows s' := by
  induction run with
  | refl => exact .refl
  | tail _ mv ih => exact .move ih mv

namespace CommandLine

/-- A size within the limits is what the memory gets, and it is kept by whatever is done with the session.
-/
lemma keepsSize {config : Config} (low : 4096 ≤ config.memWords) (high : config.memWords ≤ 67108864) :
    KeepsSize config config.memWords := by
  have unclamped : Memory.clampSize config.memWords = config.memWords := by
    unfold Memory.clampSize Memory.minSize Memory.maxSize
    omega
  have later (threshold : Option Level) (s : Scene) (after : (Scene.new config threshold).Follows s) :
      s.machine.cpu.mem.size = config.memWords :=
    (after.sized unclamped ⟨rfl, unclamped⟩).size
  refine ⟨unclamped, fun _ => unclamped, later, fun threshold session reached => ?_⟩
  obtain ⟨tr, s, run, -, rfl⟩ := reached.moves
  exact later threshold s run.follows

/-! ### Command lines -/

/-- What is accepted is acceptable, and it is granted as it was found. -/
lemma granted_of_optionsOf {found : List Item} {o : Options} (accepts : optionsOf found = .ok (some o)) :
    Acceptable found ∧ Granted found o := by
  have outcome := outcome_optionsOf found
  rw [accepts] at outcome
  cases outcome with
  | options noHelp config maxSteps few file batch listing =>
    obtain ⟨memWords, low, high⟩ := configOf_eq_ok_iff.mp config
    refine ⟨⟨noHelp, ?_, ?_, few⟩, file, batch, listing, maxSteps, memWords, keepsSize low high⟩
    · exact (values_iff _ ⟨Nat.le_refl 4096, by decide⟩).mpr ⟨_, memWords, low, high⟩
    · intro v value
      obtain ⟨n, counts, -⟩ := (values_iff (fun _ => True) trivial).mpr ⟨_, maxSteps, trivial⟩ v value
      exact ⟨n, counts⟩

/-- What the reader of arguments refuses is refused. -/
lemma optionsBy_of_error {read : List (List Char) → Except ArgumentError (List Item)}
    {arguments : List (List Char)} {e : ArgumentError} (reads : read arguments = .error e) :
    optionsBy read arguments = .error (.argument e) := by
  unfold optionsBy
  rw [reads]

/-- Of arguments that can be read, only what was found in them matters. -/
lemma optionsBy_of_ok {read : List (List Char) → Except ArgumentError (List Item)}
    {arguments : List (List Char)} {found : List Item} (reads : read arguments = .ok found) :
    optionsBy read arguments = optionsOf found := by
  unfold optionsBy
  rw [reads]

/-- Whatever the arguments are and however they are read, the command line is accepted, answered with help, or
rejected for the first fault; and options that are accepted are those that were found, with a memory of the very
size that was asked for. -/
theorem settles (read : List (List Char) → Except ArgumentError (List Item))
    (arguments : List (List Char)) : Settles read arguments := by
  cases reads : read arguments with
  | error e =>
    -- The reader stands in front: what it does not read is neither accepted nor answered with help.
    have rejects := optionsBy_of_error reads
    refine ⟨?accepted, ?helped, ?rejected, ?granted⟩
    case accepted => simp only [rejects, reads, reduceCtorEq, exists_false, false_and]
    case helped => simp only [rejects, reads, reduceCtorEq, exists_false, false_and]
    case rejected =>
      intro e'
      rw [rejects, reads]
      constructor
      · rintro ⟨⟩
        exact .arguments
      · rintro ⟨⟩
        rfl
    case granted =>
      intro o accepts
      cases rejects.symm.trans accepts
  | ok found =>
    have goesOn := optionsBy_of_ok reads
    refine ⟨?accepted, ?helped, ?rejected, ?granted⟩
    case accepted =>
      rw [goesOn, reads]
      constructor
      · rintro ⟨o, accepts⟩
        exact ⟨found, rfl, (granted_of_optionsOf accepts).1⟩
      · rintro ⟨_, ⟨⟩, acceptable⟩
        exact acceptable.optionsOf
    case helped =>
      rw [goesOn, reads, optionsOf_eq_none_iff]
      simp only [Except.ok.injEq, exists_eq_left']
    case rejected =>
      intro e
      rw [goesOn, reads]
      exact optionsOf_eq_error_iff
    case granted =>
      intro o accepts
      rw [goesOn] at accepts
      exact ⟨found, reads, (granted_of_optionsOf accepts).2⟩

-- The first fault is in the size of the memory, though the limit and the files are wrong, too; help comes before.
example :
    let arguments := ["-m", "4095", "-s", "x", "a.s", "b.s"].map String.toList
    options? arguments = .error (.memWords 4095) ∧ options? ("-h".toList :: arguments) = .ok none := by
  decide +kernel

end CommandLine

end PocketMips
