import TemplateTrace.Check.Bindings
import TemplateTrace.CommandLine.Options
import TemplateTrace.Marker.Basic
import TemplateTrace.Text.Quoted

/-!
# Invocations

What the program is asked to do: check one template, or list the stale callers. The settings file
and the form of the output can be given in front of the command and behind it, where they count
more; the environment names the settings file if no option does.

- `Invocation`: a request to the program.
- `Invocation.read`: the request that arguments make.
-/

namespace TemplateTrace

/-- The form of the output. -/
inductive OutputForm where
  | json
  | text
  deriving DecidableEq, Repr

/-- What the program is asked to do. -/
inductive Request where
  /-- Check a template, which is given by name or by an expression of host code. -/
  | check (template : Text) (isExpression : Bool) (explicit merge : TypeBindings) (caller : Frame)
      (records : Bool)
  /-- List the callers with stale templates. -/
  | stale
  deriving DecidableEq, Repr

/-- A request to the program. -/
structure Invocation where
  /-- The settings file, if one is named. -/
  settings : Option Text
  form : OutputForm
  request : Request
  deriving DecidableEq, Repr

/-! ## Values -/

/-- The form of the output that a value names. -/
def OutputForm.ofText? (s : Text) : Option OutputForm :=
  if s = "json".toList then some .json
  else if s = "text".toList then some .text
  else none

/-- The binding that a value of the form `name=type` makes, or why it makes none. -/
def TypeBinding.ofArgument (s : Text) : Except Text TypeBinding :=
  let fault := "expected name=type, got ".toList ++ Text.quoted s
  match Text.breakOn? ['='] s with
  | none => .error fault
  | some (name, type) =>
    if Text.strip name = [] ∨ Text.strip type = [] then .error fault
    else .ok (.of name (Text.strip type))

/-- The calling place that a value of the form `path:line` names, or why it names none. -/
def Frame.ofArgument (s : Text) : Except Text Frame :=
  match Text.breakOn? [':'] s.reverse with
  | none => .error ("expected path:line, got ".toList ++ Text.quoted s)
  | some (line, file) =>
    match Text.readWord32 line.reverse with
    | .ok n => .ok { file := file.reverse, line := n }
    | .error fault =>
      .error ("bad line number in ".toList ++ Text.quoted s ++ ": ".toList ++
        fault.message.toList)

/-- The fault of a value that is read by `read`. -/
def faultOf {α : Type} (read : Text → Except Text α) (s : Text) : Option ValueFault :=
  match read s with
  | .ok _ => none
  | .error reason => some (.invalid (some reason))

/-! ## Options -/

namespace Invocation

/-- The settings file. -/
def settingsOption : OptionSpec :=
  { name := "config".toList, letter := 'c'
    kind := .valued "CONFIG".toList false fun s => if s = [] then some .missing else none }

/-- The form of the output. -/
def formOption : OptionSpec :=
  { name := "format".toList, letter := 'o'
    kind := .valued "FORMAT".toList false fun s =>
      if s = [] then some .missing
      else if (OutputForm.ofText? s).isNone then some (.invalid none)
      else none }

/-- The options that are allowed everywhere. -/
def everywhere : List OptionSpec :=
  [settingsOption, formOption, { name := "help".toList, letter := 'h', kind := .help }]

/-- The options in front of a command. -/
def topLevel : Options :=
  { options := everywhere ++ [{ name := "version".toList, letter := 'V', kind := .version }]
    commands := ["check".toList, "stale".toList, "help".toList] }

/-- The options of `check`. -/
def checkOptions : Options :=
  { operands := 1
    options := everywhere ++ [
      { name := "expr".toList, kind := .flag },
      { name := "bind".toList
        kind := .valued "BINDINGS".toList true (faultOf TypeBinding.ofArgument) },
      { name := "merge".toList
        kind := .valued "MERGE".toList true (faultOf TypeBinding.ofArgument) },
      { name := "caller".toList
        kind := .valued "CALLER".toList false (faultOf Frame.ofArgument) },
      { name := "record".toList, kind := .flag }] }

/-- The options of `stale`. -/
def staleOptions : Options := { options := everywhere }

/-! ## Reading -/

/-- Settles what was read, and checks the settings file that the environment names if no option
names one. -/
def finish (environment : Option Text) (p : Progress) : Except Stop Given := do
  let p ← p.settle
  if environment = some [] ∧ !p.given.has settingsOption.name then
    throw (.wrong (.faultyValue [] settingsOption.shown .missing))
  return p.given

/-- The bindings that the values of an option make. -/
def bindings (g : Given) (name : String) : TypeBindings :=
  .ofList ((g.valuesOf name.toList).filterMap fun s => (TypeBinding.ofArgument s).toOption)

/-- The check that is asked for. -/
def checkRequest (g : Given) (template : Text) : Request :=
  .check template (g.has "expr".toList) (bindings g "bind") (bindings g "merge")
    (((g.value? "caller".toList).bind fun s => (Frame.ofArgument s).toOption).getD
      { file := "cli".toList, line := 1 })
    (g.has "record".toList)

/-- Reads the arguments of a command. -/
def readCommand (environment : Option Text) (name : Text) (arguments : List Text) :
    Except Stop (Given × Request) := do
  if name = "check".toList then
    let (p, _) ← checkOptions.read {} arguments
    let g ← finish environment p
    match g.operands with
    | template :: _ => return (g, checkRequest g template)
    | [] => throw (.wrong .missingOperands)
  else if name = "stale".toList then
    let (p, _) ← staleOptions.read {} arguments
    return (← finish environment p, .stale)
  else throw .help

/-- The request that arguments make, given the settings file that the environment names. -/
def read (environment : Option Text) (arguments : List Text) : Except Stop Invocation := do
  let (p, command) ← topLevel.read {} arguments
  match command with
  | some (name, rest) =>
    let (inner, request) ← readCommand environment name rest
    let outer ← finish environment p
    let value? (name : Text) : Option Text := inner.value? name <|> outer.value? name
    return { settings := value? settingsOption.name <|> environment
             form := ((value? formOption.name).bind OutputForm.ofText?).getD .text
             request }
  | none =>
    let outer ← finish environment p
    if outer.values = [] ∧ environment.isNone then throw (.wrong .nothingGiven)
    throw (.wrong .missingCommand)

end Invocation

end TemplateTrace
