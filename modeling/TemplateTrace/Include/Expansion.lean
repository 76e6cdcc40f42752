import TemplateTrace.Include.Call
import TemplateTrace.Include.Shadow
import TemplateTrace.Analysis.Error

/-!
# Include expansion

The compiled code of a template is made to hold the code of the templates that it includes. Each
include call is replaced: by nothing if its target is unknown or cannot be found, and else by the
statements that shadow the call's data, the rendered target, and the statements that restore the
caller's variables, led by the caller's marker. The replacement is searched for calls again.

A deleted call can join the code around it into a call that only an outer level meets, so that
expansion need not end. It is given a number of steps; an expansion that ends with some number of
steps has the same end with every larger one.

- `Expander`: the templates, the compiler, the locator and the depth limit.
- `Expander.render`: the expanded code of a template, or `none` if the steps run out.
-/

namespace TemplateTrace

/-- What expansion works with. -/
structure Expander where
  /-- The text of a template file. -/
  source : Text → Except FileError Text
  compile : Text → Except CommandError Text
  locate : Text → Option Text
  maxDepth : Nat

/-- A computation that fails with an analysis error or runs out of steps. -/
abbrev Bounded (α : Type) := ExceptT AnalysisError Option α

namespace Expander

/-- What runs when the steps are used up. -/
def outOfSteps {α : Type} : Bounded α := ExceptT.mk none

/-- A computation that ends in no step. -/
def ended {α : Type} (r : Except AnalysisError α) : Bounded α := ExceptT.mk (some r)

/-- A fragment on lines of its own inside host code: between two runs of statements, the second one
led by the marker of the code around it. -/
def enclosed (enter fragment : Text) (parent : Marker) (leave : Text) : Text :=
  enter ++ " ?>\n".toList ++ fragment ++ '\n' :: parent.encode ++ "<?php ".toList ++ leave

/-- The code that stands in the place of a call: the fragment between the statements that shadow
and restore the caller's variables. -/
def spliced (shadow : Shadow) (fragment : Text) (parent : Marker) : Text :=
  enclosed (statementsCode shadow.enter) fragment parent (statementsCode shadow.leave)

/-- Whether including `name` would go round in a circle or deeper than the limit. -/
def refuses (x : Expander) (chain : List Text) (name : Text) : Bool :=
  chain.contains name || decide (x.maxDepth < chain.length)

/-- The marker that governs a call, given the text in front of it. -/
def parentOf (chain : List Text) (before call : Text) : Except AnalysisError Marker :=
  match lastMarker? before with
  | some m => .ok m
  | none =>
    .error (.template (chain.getLastD []) (.missingMarker (before.count '\n' + 1) call))

mutual

/-- The expanded code of a template. The chain holds the templates being expanded, outermost
first. -/
def renderIn (x : Expander) (chain : List Text) (name path : Text) (stack : List Frame) :
    Nat → Bounded Text
  | 0 => outOfSteps
  | steps + 1 => do
    let source ← ended ((x.source path).mapError (AnalysisError.io path))
    let compiled ← ended ((x.compile (tagLines source name path stack)).mapError
      (AnalysisError.compiler name))
    x.expand (chain ++ [name]) [] compiled steps

/-- Expands the calls in `rest`, the part of a text behind `done`. -/
def expand (x : Expander) (chain : List Text) (done rest : Text) : Nat → Bounded Text
  | 0 => outOfSteps
  | steps + 1 => do
    match ← ended ((IncludeSite.find (Text.lastOr none done) rest).mapError
        (AnalysisError.template (chain.getLastD []))) with
    | none => return done ++ rest
    | some site =>
      let before := done ++ site.before
      let replacement ← match site.call.target with
        | .dynamic _ => pure []
        | .literal name => x.splice chain before site name steps
      x.expand chain before (replacement ++ site.rest) steps

/-- The replacement of a call that names a template. -/
def splice (x : Expander) (chain : List Text) (before : Text) (site : IncludeSite) (name : Text) :
    Nat → Bounded Text
  | 0 => outOfSteps
  | steps + 1 => do
    if x.refuses chain name then throw (.includeCycle (chain ++ [name]))
    let parent ← ended (parentOf chain before site.text)
    match x.locate name with
    | none => return []
    | some path =>
      let fragment ← x.renderIn chain name path (parent.stack ++ [parent.frame]) steps
      return spliced (.of chain.length site.call.dataPairs) fragment parent

end

/-- The expanded code of a template, within a number of steps. -/
def render (x : Expander) (steps : Nat) (name path : Text) (stack : List Frame) : Bounded Text :=
  x.renderIn [] name path stack steps

end Expander

end TemplateTrace
