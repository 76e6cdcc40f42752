import TemplateTrace.Text.Terminal

/-!
# Options

The form of a command line: options with a long name and perhaps a letter, some of them with a
value, and operands. A value stands behind a `=`, behind the letter or in the next argument; behind
`--` all arguments are operands. The first operand may be the name of a command, which reads the
arguments behind it by itself.

An option whose value is the next argument is settled only when the reading goes on to something
else that it knows, so that an unknown argument behind it is reported first.

- `OptionSpec`, `Options`: an option, and what is allowed together.
- `UsageError`: what can be wrong with arguments, and `UsageError.message`, its wording.
- `Given`: the options and operands that were given.
- `Options.read`: the reading of arguments up to the name of a command.
-/

namespace TemplateTrace

/-- What is wrong with the value of an option. -/
inductive ValueFault where
  | missing
  | invalid (reason : Option Text)
  deriving DecidableEq, Repr

/-- What an option does when it is met. -/
inductive OptionKind where
  /-- It is on or off. -/
  | flag
  /-- It has a value, which is shown as `display` and has to pass a check. -/
  | valued (display : Text) (isRepeatable : Bool) (fault? : Text → Option ValueFault)
  /-- It asks for the version. -/
  | version
  /-- It asks for help. -/
  | help

/-- An option. -/
structure OptionSpec where
  name : Text
  letter : Option Char := none
  kind : OptionKind

namespace OptionSpec

/-- An option as messages show it. -/
def shown (o : OptionSpec) : Text :=
  match o.kind with
  | .valued display .. => "--".toList ++ o.name ++ " <".toList ++ display ++ ">".toList
  | _ => "--".toList ++ o.name

/-- Whether an option may be given more than once. -/
def isRepeatable (o : OptionSpec) : Bool :=
  match o.kind with
  | .valued _ r _ => r
  | _ => false

/-- What is wrong with a value of an option. -/
def fault? (o : OptionSpec) (value : Text) : Option ValueFault :=
  match o.kind with
  | .valued _ _ f => f value
  | _ => none

end OptionSpec

/-- The options, operands and commands that are allowed together. -/
structure Options where
  options : List OptionSpec
  /-- How many operands there are. -/
  operands : Nat := 0
  commands : List Text := []

/-- What can be wrong with arguments. -/
inductive UsageError where
  /-- Nothing was given where a command is needed. -/
  | nothingGiven
  | missingCommand
  | missingOperands
  | unexpectedArgument (argument : Text)
  | unknownCommand (name : Text)
  | unexpectedValue (value : Text) (shown : Text)
  | faultyValue (value : Text) (shown : Text) (fault : ValueFault)
  | repeatedOption (shown : Text)
  deriving DecidableEq, Repr

/-- What ends the reading of arguments. -/
inductive Stop where
  | wrong (e : UsageError)
  | version
  | help
  deriving DecidableEq, Repr

/-- What was given. -/
structure Given where
  /-- The options by name, in order; flags have an empty value. -/
  values : List (Text × Text) := []
  operands : List Text := []
  deriving DecidableEq, Repr

namespace Given

/-- Whether an option was given. -/
def has (g : Given) (name : Text) : Bool := g.values.any (·.1 == name)

/-- The values of an option. -/
def valuesOf (g : Given) (name : Text) : List Text :=
  g.values.filterMap fun (k, v) => if k = name then some v else none

/-- The value of an option that is given at most once. -/
def value? (g : Given) (name : Text) : Option Text := (g.valuesOf name).head?

/-- Adds an option, unless it may not be given again or its value is at fault. -/
def add (g : Given) (o : OptionSpec) (value : Text) : Except Stop Given :=
  if !o.isRepeatable ∧ g.has o.name then .error (.wrong (.repeatedOption o.shown))
  else match o.fault? value with
    | some fault => .error (.wrong (.faultyValue value o.shown fault))
    | none => .ok { g with values := g.values ++ [(o.name, value)] }

end Given

/-- An option whose value is the next argument, and that argument once it has been met. -/
structure Pending where
  option : OptionSpec
  value : Option Text := none

/-- How far arguments have been read. -/
structure Progress where
  given : Given := {}
  pending : Option Pending := none
  /-- Whether only operands follow. -/
  isTrailing : Bool := false

namespace Progress

/-- Adds the option that is pending. -/
def settle (p : Progress) : Except Stop Progress :=
  match p.pending with
  | none => .ok p
  | some ⟨o, none⟩ => .error (.wrong (.faultyValue [] o.shown .missing))
  | some ⟨o, some v⟩ => return { p with given := ← p.given.add o v, pending := none }

/-- Adds an option with its value, if it stands with it. -/
def meet (p : Progress) (o : OptionSpec) (value : Option Text) : Except Stop Progress :=
  match o.kind, value with
  | .valued .., some v => do
    let p ← p.settle
    return { p with given := ← p.given.add o v }
  | .valued .., none => return { ← p.settle with pending := some { option := o } }
  | _, some v => .error (.wrong (.unexpectedValue v o.shown))
  | .version, none => do
    let _ ← p.settle
    .error .version
  | .help, none => do
    let _ ← p.settle
    .error .help
  | .flag, none => do
    let p ← p.settle
    return { p with given := ← p.given.add o [] }

/-- Whether the next argument is the value of an option. -/
def awaitsValue (p : Progress) : Bool := p.pending.any (·.value.isNone)

end Progress

namespace Options

/-- An argument that is not expected. -/
def unexpected (argument : Text) : Stop := .wrong (.unexpectedArgument argument)

/-- Reads `--name` or `--name=value`. -/
def readLong (spec : Options) (p : Progress) (s : Text) : Except Stop Progress :=
  let (name, value) := match Text.breakOn? ['='] s with
    | some (name, value) => (name, some value)
    | none => (s, none)
  match spec.options.find? (·.name == name) with
  | some o => p.meet o value
  | none => .error (unexpected ("--".toList ++ name))

/-- Reads letters behind one `-`; the value of an option may follow its letter. -/
def readLetters (spec : Options) (p : Progress) : Text → Except Stop Progress
  | [] => .ok p
  | c :: s =>
    match spec.options.find? (·.letter == some c) with
    | none => .error (unexpected ['-', c])
    | some o =>
      match o.kind with
      | .valued .. =>
        p.meet o (match s with
          | [] => none
          | '=' :: v => some v
          | v => some v)
      | _ => do spec.readLetters (← p.meet o none) s

/-- Reads an operand. -/
def readOperand (spec : Options) (p : Progress) (s : Text) : Except Stop Progress :=
  if p.given.operands.length < spec.operands then do
    let p ← p.settle
    return { p with given.operands := p.given.operands ++ [s] }
  else if spec.commands = [] ∨ (p.isTrailing ∧ spec.commands.contains s) then
    .error (unexpected s)
  else .error (.wrong (.unknownCommand s))

/-- Reads arguments up to the name of a command; the answer has that name and what is behind it. -/
def read (spec : Options) (p : Progress) :
    List Text → Except Stop (Progress × Option (Text × List Text))
  | [] => .ok (p, none)
  | s :: rest =>
    if p.isTrailing then do spec.read (← spec.readOperand p s) rest
    else if !p.awaitsValue ∧ spec.commands.contains s then .ok (p, some (s, rest))
    else match s with
      | ['-', '-'] => spec.read { p with isTrailing := true } rest
      | '-' :: '-' :: name => do spec.read (← spec.readLong p name) rest
      | '-' :: c :: letters => do spec.read (← spec.readLetters p (c :: letters)) rest
      | s =>
        match p.pending with
        | some ⟨o, none⟩ => spec.read { p with pending := some ⟨o, some s⟩ } rest
        | _ => do spec.read (← spec.readOperand p s) rest

end Options

namespace UsageError

/-- The name of the program, as messages show it. -/
def program : Text := "blade_lens".toList

/-- What the program does, in one line. -/
def about : Text := "Type check Blade templates and report errors at template lines".toList

/-- The wording of a fault of a value. -/
def faultMessage (value shown : Text) : ValueFault → Text
  | .missing => "a value is required for '".toList ++ shown ++ "' but none was supplied".toList
  | .invalid reason =>
    "invalid value '".toList ++ Terminal.printed value ++ "' for '".toList ++ shown ++ "'".toList ++
      (reason.map fun r => ": ".toList ++ r).getD []

/-- The wording of an error. -/
def message : UsageError → Text
  | nothingGiven => about
  | missingCommand =>
    "error: '".toList ++ program ++ "' requires a subcommand but one was not provided".toList
  | missingOperands => "error: the following required arguments were not provided:".toList
  | unexpectedArgument a =>
    "error: unexpected argument '".toList ++ Terminal.printed a ++ "' found".toList
  | unknownCommand n =>
    "error: unrecognized subcommand '".toList ++ Terminal.printed n ++ "'".toList
  | unexpectedValue v shown =>
    "error: unexpected value '".toList ++ Terminal.printed v ++ "' for '".toList ++ shown ++
      "' found; no more were expected".toList
  | faultyValue v shown fault => "error: ".toList ++ faultMessage v shown fault
  | repeatedOption shown =>
    "error: the argument '".toList ++ shown ++ "' cannot be used multiple times".toList

end UsageError

end TemplateTrace
