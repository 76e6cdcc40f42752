import TemplateTrace.Analysis.Analyser
import TemplateTrace.CommandLine.Invocation
import TemplateTrace.CommandLine.Report
import TemplateTrace.Config.File
import TemplateTrace.Files.Finder
import TemplateTrace.Process.Shell

/-!
# Running the program

From arguments to what is printed and what the files look like afterwards. The status is 0 if
nothing was found, 1 if there are findings or stale callers, and 2 if the program could not do what
it was asked. An error is shown with what is behind it, from the outside in.

- `Failure`: the wordings of an error, outermost first.
- `Config.analyser`: the analyser that settings describe.
- `Invocation.run`: one request.
- `commandLine`: the whole program.
-/

namespace TemplateTrace

/-- The wordings of an error, outermost first. -/
abbrev Failure := List Text

/-- A failure as the program shows it. -/
def Failure.exit (form : OutputForm) (f : Failure) : Exit :=
  let wording := Text.joinWith ": ".toList f
  match form with
  | .json =>
    { code := 2, out := (Json.object [("error".toList, .string wording)]).compact ++ ['\n'] }
  | .text => { code := 2, complaint := "error: ".toList ++ wording ++ ['\n'] }

/-- An analysis error, said in the given context. -/
def AnalysisError.failure (context : List Text) (e : AnalysisError) : Failure :=
  context ++ e.message :: e.causes

/-- The analyser that settings describe; it records what it checks if it is asked to. -/
def Config.analyser (c : Config) (records : Bool) : Except Failure Analyser := do
  let some compiler := c.compiler | throw ["no `compiler` command configured".toList]
  let some checker := c.checker | throw ["no `checker` command configured".toList]
  let tools : Tools := { compile := fun fs source => compiler.compile fs source
                         check := fun fs path => checker.check fs path
                         locate := c.finder.locate? }
  let a ← (Analyser.of tools c).mapError (AnalysisError.failure [])
  return if records then { a with ledger := some (.inDirectory c.scratchDir) } else a

/-- The end of a run with findings or without. -/
def Exit.found (isClean : Bool) (out : Text) : Exit := { code := if isClean then 0 else 1, out }

namespace Invocation

/-- The end of a check. -/
def checkExit (form : OutputForm) (template : Text) : CheckResult → Exit
  | .error e => (e.failure ["checking ".toList ++ template]).exit form
  | .ok ds =>
    .found ds.isEmpty (match form with
      | .json => Report.jsonText (.array (ds.map Diagnostic.toJson))
      | .text => Report.findingsText ds)

/-- The end of a search for stale callers. -/
def staleExit (form : OutputForm) (l : Ledger) : Except PathError (List Text) → Exit
  | .error (path, e) =>
    ((AnalysisError.io path e).failure ["reading ".toList ++ l.path]).exit form
  | .ok callers =>
    .found callers.isEmpty (match form with
      | .json => Report.jsonText (.array (callers.map .string))
      | .text => Report.staleText callers)

/-- Does what is asked under given settings. -/
def perform (steps : Nat) (fs : FileStore) (c : Config) (form : OutputForm) :
    Request → Option (Exit × FileStore)
  | .check template isExpression explicit merge caller records =>
    match c.analyser records with
    | .error f => some (f.exit form, fs)
    | .ok a => do
      let r : CheckRequest := { template, explicit, merge, caller }
      let o ← if isExpression then a.checkExpression steps fs r else a.check steps fs r
      return (checkExit form template o.result, o.files)
  | .stale =>
    let l := Ledger.inDirectory c.scratchDir
    some (staleExit form l (l.staleCallers fs), fs)

/-- Does what is asked, unless the steps of an expansion run out. -/
def run (steps : Nat) (fs : FileStore) (i : Invocation) : Option (Exit × FileStore) :=
  match Config.load fs (Config.file? fs i.settings) with
  | .error e => some (Failure.exit i.form (e.message :: e.causes), fs)
  | .ok c => perform steps fs c i.form i.request

end Invocation

/-- The end of a run whose arguments make no request. -/
def Stop.exit : Stop → Exit
  | .wrong e => { code := 2, complaint := e.message ++ ['\n'] }
  | .version => { code := 0, out := UsageError.program ++ " 0.1.0\n".toList }
  | .help => { code := 0, out := UsageError.about ++ ['\n'] }

/-- The whole program: what it prints and the files that it leaves, given the arguments, the
settings file that the environment names, and the files that it finds. -/
def commandLine (steps : Nat) (fs : FileStore) (environment : Option Text) (arguments : List Text) :
    Option (Exit × FileStore) :=
  match Invocation.read environment arguments with
  | .error s => some (s.exit, fs)
  | .ok i => i.run steps fs

end TemplateTrace
