import TemplateTrace.Check.Diagnostic
import TemplateTrace.Config.Basic
import TemplateTrace.Files.Store

/-!
# External commands

The template compiler reads tagged source from its standard input and writes compiled code. The
type checker is given a path as its last argument and writes what it found as JSON: one array, or
one object per line. A checker that finds something may fail, so that its status counts only when
it wrote nothing but blanks.

- `Outcome`: what a finished program leaves behind.
- `CommandError`: why an external command is of no use.
- `compileOutput`, `checkOutput`: what the outcome of a compiler and of a checker means.
- `RawDiagnostic.parseReport?`: the diagnostics in a checker's report.
-/

namespace TemplateTrace

/-- Why an external command is of no use. -/
inductive CommandError where
  /-- It could not be started. -/
  | spawn (command : Text) (cause : FileError)
  /-- It failed. -/
  | failed (command : Text) (status : Nat) (complaint : Text)
  /-- It wrote what cannot be read. -/
  | output (command : Text)
  deriving DecidableEq, Repr

/-- The wording of an error. -/
def CommandError.message : CommandError → Text
  | spawn command cause =>
    "failed to run `".toList ++ command ++ "`: ".toList ++ cause.message
  | failed command status complaint =>
    "`".toList ++ command ++ "` exited with exit status: ".toList ++ Text.decimal status ++
      ": ".toList ++ complaint
  | output command => "unreadable output from `".toList ++ command ++ "`".toList

/-- What a finished program leaves behind. -/
structure Outcome where
  status : Nat
  out : List UInt8
  complaints : List UInt8
  deriving DecidableEq, Repr

/-- The command as it is typed. -/
def CommandSpec.display (c : CommandSpec) : Text := Text.joinWith [' '] (c.program :: c.args)

/-- The error of a program that failed. -/
def Outcome.failure (o : Outcome) (c : CommandSpec) : CommandError :=
  .failed c.display o.status (Text.strip (Utf8.lossy o.complaints))

/-- The compiled code that a compiler wrote. -/
def compileOutput (c : CommandSpec) (o : Outcome) : Except CommandError Text :=
  if o.status ≠ 0 then .error (o.failure c)
  else match Utf8.decode? o.out with
    | some s => .ok s
    | none => .error (.output c.display)

/-- Space, tab, line feed, form feed or carriage return. -/
def isBlankByte (b : UInt8) : Bool := b == 0x20 || b == 0x09 || b == 0x0a || b == 0x0c || b == 0x0d

/-- How deep a JSON text may nest where all of it is kept. -/
def nestingLimit : Nat := 127

/-- The diagnostics in a report: in one JSON array, or in one JSON record per line. -/
def RawDiagnostic.parseReport? (report : Text) : Option (List RawDiagnostic) :=
  let report := Text.strip report
  if report.head? = some '[' then
    (Json.parse? report).bind fun v => v.listOf? (RawDiagnostic.ofJson? (nestingLimit - 2))
  else
    (((Text.endedLines report).map Text.strip).filter (· ≠ [])).mapM fun line =>
      (Json.parse? line).bind (RawDiagnostic.ofJson? (nestingLimit - 1))

/-- The diagnostics that a checker wrote. -/
def checkOutput (c : CommandSpec) (o : Outcome) : Except CommandError (List RawDiagnostic) :=
  if o.status ≠ 0 ∧ o.out.all isBlankByte then .error (o.failure c)
  else match (Utf8.decode? o.out).bind RawDiagnostic.parseReport? with
    | some ds => .ok ds
    | none => .error (.output c.display)

end TemplateTrace
