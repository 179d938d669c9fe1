import PocketMips.Text.Basic

/-!
# Arguments

Flags may be written short, `-r`, several in one argument, `-rl`, or long, `--run`. The value of a flag
that takes one is what follows it in the same argument, after `=` if the flag is written long, or else
the next argument, whatever it looks like. Flags and free arguments may be mixed; all arguments after
`--` are free, and so is a dash alone.
-/

namespace PocketMips.CommandLine

/-- The flags of the program. -/
inductive Flag where
  | help | memWords | run | maxSteps | listing
  deriving DecidableEq, Repr

namespace Flag

/-- All flags, in the order in which they are explained. -/
def all : List Flag :=
  [.help, .memWords, .run, .maxSteps, .listing]

/-- The letter of the short form. -/
def short : Flag → Char
  | .help => 'h'
  | .memWords => 'm'
  | .run => 'r'
  | .maxSteps => 's'
  | .listing => 'l'

/-- The name of the long form. -/
def long : Flag → String
  | .help => "help"
  | .memWords => "mem-words"
  | .run => "run"
  | .maxSteps => "max-steps"
  | .listing => "listing"

/-- What the value stands for, for a flag that takes one. -/
def hint? : Flag → Option String
  | .memWords | .maxSteps => some "N"
  | .help | .run | .listing => none

/-- Does the flag take a value? -/
def takesValue (f : Flag) : Bool :=
  f.hint?.isSome

/-- What the flag does. -/
def purpose : Flag → String
  | .help => "print this help menu"
  | .memWords => "size of data memory in 32-bit words (4096 to 67108864)"
  | .run => "run FILE to completion, print the changes and exit"
  | .maxSteps => "with --run, give up after N steps (default 10000000)"
  | .listing => "print the program listing after loading"

/-- The flag with a letter. -/
def ofShort? (c : Char) : Option Flag :=
  all.find? (·.short = c)

/-- The flag with a name. A name of one byte is the letter of a short form. -/
def ofLong? : List Char → Option Flag
  | [c] => if c.utf8Size = 1 then ofShort? c else none
  | name => all.find? (·.long.toList = name)

/-- The line that explains the flag, its two forms in 24 columns. -/
def usage (f : Flag) : String :=
  let forms := "    -" ++ f.short.toString ++ ", --" ++ f.long ++ (f.hint?.elim "" (" " ++ ·))
  String.ofList (Text.padEnd 24 forms.toList) ++ f.purpose

end Flag

/-- What is wrong with the arguments. A flag is named as it was written, except where it is repeated. -/
inductive ArgumentError where
  /-- There is no such flag. -/
  | unknown (name : List Char)
  /-- A flag that takes a value is the last argument. -/
  | valueMissing (name : List Char)
  /-- A flag that takes no value is given one. -/
  | valueUnwanted (name : List Char)
  /-- A flag is there more than once. -/
  | repeated (f : Flag)
  deriving DecidableEq, Repr

/-- The wording of the error. -/
def ArgumentError.message : ArgumentError → String
  | .unknown name => "Unrecognized option: '" ++ String.ofList name ++ "'"
  | .valueMissing name => "Argument to option '" ++ String.ofList name ++ "' missing"
  | .valueUnwanted name => "Option '" ++ String.ofList name ++ "' does not take an argument"
  | .repeated f => "Option '" ++ f.long ++ "' given more than once"

/-- What an argument contributes. -/
inductive Item where
  /-- A flag without a value. -/
  | flag (f : Flag)
  /-- A flag and its value. -/
  | value (f : Flag) (v : List Char)
  /-- An argument that is no flag. -/
  | free (text : List Char)
  deriving DecidableEq, Repr

/-- The flags in one argument, and the one among them, with its written name, that waits for its value
in the next argument. -/
structure Cluster where
  items : List Item
  waiting? : Option (Flag × List Char)
  deriving DecidableEq, Repr

/-- Reads short forms written together. -/
def readShort : List Char → Except ArgumentError Cluster
  | [] => .ok ⟨[], none⟩
  | c :: cs =>
    match Flag.ofShort? c with
    | none => .error (.unknown [c])
    | some f =>
      if f.takesValue then
        if cs.isEmpty then .ok ⟨[], some (f, [c])⟩ else .ok ⟨[.value f cs], none⟩
      else (readShort cs).map fun cluster => { cluster with items := .flag f :: cluster.items }

/-- Reads a long form, with a value after the first `=` if there is one. -/
def readLong (text : List Char) : Except ArgumentError Cluster :=
  let name := text.takeWhile (· != '=')
  match Flag.ofLong? name, text.dropWhile (· != '=') with
  | none, _ => .error (.unknown name)
  | some f, [] => if f.takesValue then .ok ⟨[], some (f, name)⟩ else .ok ⟨[.flag f], none⟩
  | some f, _ :: v => if f.takesValue then .ok ⟨[.value f v], none⟩ else .error (.valueUnwanted name)

/-- Reads one argument before any `--`. -/
def readArgument : List Char → Except ArgumentError Cluster
  | '-' :: '-' :: text => readLong text
  | '-' :: c :: cs => readShort (c :: cs)
  | text => .ok ⟨[.free text], none⟩

/-- Reads the arguments from left to right, up to the first error. -/
def readArguments : List (List Char) → Except ArgumentError (List Item)
  | [] => .ok []
  | ['-', '-'] :: rest => .ok (rest.map .free)
  | argument :: rest =>
    match readArgument argument with
    | .error e => .error e
    | .ok ⟨items, none⟩ => (readArguments rest).map (items ++ ·)
    | .ok ⟨items, some (f, name)⟩ =>
      match rest with
      | [] => .error (.valueMissing name)
      | v :: rest => (readArguments rest).map (items ++ .value f v :: ·)

/-- Does the item belong to the flag? -/
def Item.isOf (f : Flag) : Item → Bool
  | .flag g | .value g _ => g = f
  | .free _ => false

/-- The items of the arguments, in which no flag is there twice. -/
def items (arguments : List (List Char)) : Except ArgumentError (List Item) :=
  match readArguments arguments with
  | .error e => .error e
  | .ok found =>
    match Flag.all.find? fun f => 1 < found.countP (Item.isOf f) with
    | some f => .error (.repeated f)
    | none => .ok found

/-! ### Looking up what was found -/

section Lookups
variable {f : Flag} {found : List Item} {v : List Char}

/-- Is the flag among the items? -/
def present (f : Flag) (found : List Item) : Bool :=
  found.any (Item.isOf f)

/-- A flag is there if it stands among the items with a value or without one. -/
theorem present_iff : present f found = true ↔ .flag f ∈ found ∨ ∃ v, .value f v ∈ found := by
  unfold present
  rw [List.any_eq_true]
  constructor
  · rintro ⟨item, there, of⟩
    cases item with
    | flag g =>
      obtain rfl : g = f := by simpa [Item.isOf] using of
      exact .inl there
    | value g v =>
      obtain rfl : g = f := by simpa [Item.isOf] using of
      exact .inr ⟨v, there⟩
    | free text => cases of
  · rintro (there | ⟨v, there⟩)
    · exact ⟨_, there, by simp [Item.isOf]⟩
    · exact ⟨_, there, by simp [Item.isOf]⟩

/-- The value of a flag among the items. -/
def valueOf? (f : Flag) (found : List Item) : Option (List Char) :=
  found.findSome? fun
    | .value g v => if g = f then some v else none
    | .flag _ | .free _ => none

/-- The value of a flag is the first one that is given for it. -/
theorem valueOf?_eq_some_iff :
    valueOf? f found = some v ↔
      ∃ before after, found = before ++ .value f v :: after ∧ ∀ w, .value f w ∉ before := by
  unfold valueOf?
  rw [List.findSome?_eq_some_iff]
  constructor
  · rintro ⟨before, item, after, rfl, here, none⟩
    cases item with
    | value g w =>
      obtain ⟨rfl, rfl⟩ : g = f ∧ w = v := by simpa using here
      refine ⟨before, after, rfl, fun w earlier => ?_⟩
      simpa using none _ earlier
    | flag g => cases here
    | free text => cases here
  · rintro ⟨before, after, rfl, first⟩
    refine ⟨before, .value f v, after, rfl, by simp, fun item earlier => ?_⟩
    cases item with
    | value g w =>
      have other : g ≠ f := fun same => first w (same ▸ earlier)
      simp [other]
    | flag g => rfl
    | free text => rfl

/-- A flag has no value if none is given for it. -/
theorem valueOf?_eq_none_iff : valueOf? f found = none ↔ ∀ v, .value f v ∉ found := by
  constructor
  · intro none v there
    unfold valueOf? at none
    simpa using List.findSome?_eq_none_iff.mp none _ there
  · intro absent
    rw [Option.eq_none_iff_forall_ne_some]
    intro v value
    obtain ⟨before, after, rfl, -⟩ := valueOf?_eq_some_iff.mp value
    exact absent v (by simp)

/-- The free arguments among the items. -/
def frees (found : List Item) : List (List Char) :=
  found.filterMap fun
    | .free text => some text
    | .flag _ | .value .. => none

/-- The free arguments are those items that are no flags, in their order. -/
theorem map_free_frees : (frees found).map .free = found.filter (· matches .free _) := by
  induction found with
  | nil => rfl
  | cons item found ih =>
    unfold frees at ih ⊢
    cases item with
    | free text => simpa using ih
    | flag g => simpa using ih
    | value g v => simpa using ih

end Lookups

end PocketMips.CommandLine
