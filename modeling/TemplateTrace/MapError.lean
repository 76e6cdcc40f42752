import TemplateTrace.Text.Quoted
import TemplateTrace.Text.Decimal
import TemplateTrace.Text.Blank

/-!
# Mapping errors

What can be wrong with compiled code or with a checker's answer, so that positions cannot be
mapped. None of these is a finding about a template: each one ends the work on its entry point.

- `CallFault`: how an include call deviates from the known shape.
- `MapError`: the errors, and `MapError.message`, their wording.
-/

namespace TemplateTrace

/-- How an include call deviates from the known shape. -/
inductive CallFault where
  | unbalancedArguments
  | noRender
  | argumentCount (found : Nat)
  | localsNotLast
  | thirdNotLocals
  | unbalancedData
  | entryNotKeyed
  | exclusionsNotArray
  | unbalancedExclusions
  | exclusionNotLiteral
  deriving DecidableEq, Repr

/-- The wording of a fault. -/
def CallFault.message : CallFault → Text
  | unbalancedArguments => "unbalanced argument list".toList
  | noRender => "make(...) is not followed by ->render();".toList
  | argumentCount n => "expected 1 to 3 arguments, found ".toList ++ Text.decimal n
  | localsNotLast => "the caller's locals must be the last argument".toList
  | thirdNotLocals => "third argument must pass the caller's locals".toList
  | unbalancedData => "unbalanced data array".toList
  | entryNotKeyed => "data array entry is not a 'key' => value pair".toList
  | exclusionsNotArray => "exclusion list is not an array literal".toList
  | unbalancedExclusions => "unbalanced exclusion list".toList
  | exclusionNotLiteral => "exclusion list entry is not a literal".toList

/-- Why positions cannot be mapped. -/
inductive MapError where
  /-- Host code opens on a line with no marker on or above it. -/
  | missingMarker (line : Nat) (content : Text)
  /-- A diagnostic has no marker above its line. -/
  | orphanDiagnostic (path : Text) (line : UInt32) (message content : Text)
  /-- An include call deviates from the known shape. -/
  | malformedInclude (fault : CallFault) (snippet : Text)
  /-- A loop iterates data that nothing was assigned to. -/
  | unboundLoopData (path : Text) (line : UInt32)
  deriving DecidableEq, Repr

namespace MapError

/-- A fault of an include call, with the call on one line and cut at 160 characters. -/
def malformed (fault : CallFault) (call : Text) : MapError :=
  .malformedInclude fault ((Text.joinWith [' '] (Text.words call)).take 160)

/-- The wording of an error. -/
def message : MapError → Text
  | missingMarker line content =>
    "host code on compiled line ".toList ++ Text.decimal line ++
      " appears before any template marker: ".toList ++ Text.quoted content
  | orphanDiagnostic path line message content =>
    "no template marker precedes line ".toList ++ Text.decimal line.toNat ++ " of ".toList ++
      path ++ " for diagnostic ".toList ++ Text.quoted message ++ " (line content: ".toList ++
      Text.quoted content ++ ")".toList
  | malformedInclude fault snippet =>
    "malformed include call: ".toList ++ fault.message ++ " in `".toList ++ snippet ++ "`".toList
  | unboundLoopData path line =>
    "loop over $__currentLoopData without a preceding assignment at ".toList ++ path ++
      ":".toList ++ Text.decimal line.toNat

end MapError

end TemplateTrace
