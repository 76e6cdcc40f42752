import TemplateTrace.Analysis.Ledger
import TemplateTrace.Code.Loop
import TemplateTrace.Files.Scratch
import TemplateTrace.Include.Expansion
import TemplateTrace.Pattern.Reader

/-!
# Checking templates

A call site asks for a template to be checked. The template is expanded with all it includes, cut
into code lines, put into a checker file behind the declarations of its variables, and given to the
checker; what the checker finds is positioned in the templates. A template that cannot be found and
one without code have no findings, and the checker is not run for them.

- `CheckRequest`: a call site.
- `Tools`: the compiler, the checker and the way to find templates.
- `Analyser`: the tools with the settings, and `Analyser.of`, which reads the ignore patterns.
- `Analyser.check`: the outcome of one request.
- `Analyser.checkAll`: the outcomes of several, one after another; a failed one ends only itself.
-/

namespace TemplateTrace

/-- A call site that asks for a template to be checked. -/
structure CheckRequest where
  template : Text
  /-- The types of what the call site passes. -/
  explicit : TypeBindings := {}
  /-- Types for the names that are not passed. -/
  merge : TypeBindings := {}
  /-- The calling file and line. -/
  caller : Frame
  deriving DecidableEq, Repr

/-- What a check works with besides the settings. Each tool may look at the files. -/
structure Tools where
  compile : FileStore → Text → Except CommandError Text
  /-- The findings about the file at a path. -/
  check : FileStore → Text → Except CommandError (List RawDiagnostic)
  locate : FileStore → Text → Option Text

/-- The tools and settings of checks. -/
structure Analyser where
  tools : Tools
  config : Config
  /-- Findings whose message a pattern occurs in are dropped. -/
  ignored : List Pattern := []
  /-- Where it is recorded which caller reached which template. -/
  ledger : Option Ledger := none

/-- The findings of a check, or why there are none. -/
abbrev CheckResult := Except AnalysisError (List Diagnostic)

/-- What a check leaves behind. -/
structure CheckOutcome where
  result : CheckResult
  /-- The file that the checker was given, if it was run. -/
  scratch : Option Text := none
  files : FileStore

namespace Analyser

/-- An ignore pattern. -/
def readPattern (p : Text) : Except AnalysisError Pattern :=
  (Pattern.parse p).mapError (.ignorePattern p)

/-- The analyser with the given tools and settings, without a ledger. -/
def of (tools : Tools) (config : Config) : Except AnalysisError Analyser := do
  return { tools, config, ignored := ← config.ignoreErrors.mapM readPattern }

/-- The expansion of templates over the files of a store. -/
def expander (a : Analyser) (fs : FileStore) : Expander :=
  { source := fs.readText, compile := a.tools.compile fs, locate := a.tools.locate fs
    maxDepth := a.config.maxIncludeDepth }

/-- Records that a caller reaches a template, if there is a ledger. -/
def record (a : Analyser) (fs : FileStore) (caller template : Text) :
    Attempt AnalysisError Unit :=
  match a.ledger with
  | some l =>
    match l.record fs caller template with
    | (.error (path, e), fs) => (.error (.io path e), fs)
    | (.ok (), fs) => (.ok (), fs)
  | none => (.ok (), fs)

/-- The code lines of a template and all that it includes, exposed to the checker. -/
def codeLines (a : Analyser) (steps : Nat) (fs : FileStore) (name path : Text)
    (stack : List Frame) : Bounded (List CodeLine) := do
  let text ← (a.expander fs).render steps name path stack
  Expander.ended (((CodeLine.split text).bind
    (CodeLine.expose a.config.loopVariableType)).mapError (.template name))

/-- The declared variables of a request: those passed, then those merged, then those that every
template can see. -/
def bindings (a : Analyser) (r : CheckRequest) : TypeBindings :=
  (TypeBindings.merge r.explicit r.merge).withAmbient a.config.ambientBindings

/-- Whether the message of a finding is to be ignored. -/
def ignores (a : Analyser) (d : Diagnostic) : Bool := a.ignored.any (·.occursIn d.message)

/-- The findings of the checker, positioned and without those to be ignored. -/
def position (a : Analyser) (file : CheckerFile) (scratch : Text)
    (found : Except CommandError (List RawDiagnostic)) : CheckResult := do
  let raw ← found.mapError (AnalysisError.checker scratch)
  let ds ← (RawDiagnostic.resolveAll raw file scratch).mapError AnalysisError.map
  return ds.filter (!a.ignores ·)

/-- Gives code lines to the checker. -/
def checkLines (a : Analyser) (fs : FileStore) (r : CheckRequest) (path : Text)
    (lines : List CodeLine) : CheckOutcome :=
  if lines = [] then { result := .ok [], files := fs }
  else
    let file := CheckerFile.synthesize (a.bindings r) lines
    match fs.writeScratch a.config.scratchDir path [r.caller] file.text with
    | (.error (path, e), fs) => { result := .error (.io path e), files := fs }
    | (.ok scratch, fs) =>
      { result := a.position file scratch (a.tools.check fs scratch), scratch := some scratch
        files := fs }

/-- The outcome of a request, unless the steps of the expansion run out. -/
def check (a : Analyser) (steps : Nat) (fs : FileStore) (r : CheckRequest) : Option CheckOutcome :=
  match a.tools.locate fs r.template with
  | none => some { result := .ok [], files := fs }
  | some path =>
    match a.record fs r.caller.file path with
    | (.error e, fs) => some { result := .error e, files := fs }
    | (.ok (), fs) =>
      (a.codeLines steps fs r.template path [r.caller]).run.map fun
        | .error e => { result := .error e, files := fs }
        | .ok lines => a.checkLines fs r path lines

/-- The outcome of a request whose template is named by an expression of host code. A computed name
cannot be followed and has no findings. -/
def checkExpression (a : Analyser) (steps : Nat) (fs : FileStore) (r : CheckRequest) :
    Option CheckOutcome :=
  match IncludeTarget.classify r.template with
  | .literal name => a.check steps fs { r with template := name }
  | .dynamic _ => some { result := .ok [], files := fs }

/-- The outcomes of requests, each with the files that the one before it left. -/
def checkAll (a : Analyser) (steps : Nat) (fs : FileStore) :
    List CheckRequest → Option (List CheckOutcome)
  | [] => some []
  | r :: rs => do
    let o ← a.check steps fs r
    return o :: (← a.checkAll steps o.files rs)

end Analyser

end TemplateTrace
