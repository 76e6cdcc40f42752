import TemplateTrace.MapError
import TemplateTrace.Pattern.Reader
import TemplateTrace.Process.Command

/-!
# Analysis errors

What ends the check of one entry point.

- `AnalysisError`: the errors.
- `AnalysisError.message`: the wording of an error.
- `AnalysisError.causes`: the wording of the errors behind it, which a report adds.
-/

namespace TemplateTrace

/-- Why the check of an entry point ends without findings. -/
inductive AnalysisError where
  /-- The code of a template cannot be mapped. -/
  | template (name : Text) (cause : MapError)
  /-- The checker's findings cannot be mapped. -/
  | map (cause : MapError)
  /-- Includes go round in a circle or too deep: the names on the way, outermost first. -/
  | includeCycle (chain : List Text)
  | compiler (template : Text) (cause : CommandError)
  | checker (path : Text) (cause : CommandError)
  | io (path : Text) (cause : FileError)
  /-- A pattern of messages to ignore cannot be read. -/
  | ignorePattern (pattern : Text) (cause : PatternError)
  deriving DecidableEq, Repr

namespace AnalysisError

/-- The wording of an error. -/
def message : AnalysisError → Text
  | template name cause => "template '".toList ++ name ++ "': ".toList ++ cause.message
  | map cause => cause.message
  | includeCycle chain =>
    "include cycle or depth limit: ".toList ++ Text.joinWith " -> ".toList chain
  | compiler name cause => "compiling template '".toList ++ name ++ "': ".toList ++ cause.message
  | checker path cause =>
    "type checking ".toList ++ path ++ " (see that file): ".toList ++ cause.message
  | io path cause => path ++ ": ".toList ++ cause.message
  | ignorePattern pattern cause =>
    "invalid ignore pattern ".toList ++ Text.quoted pattern ++ ": ".toList ++ cause.message

/-- The wording of what is behind a command error. -/
def commandCauses : CommandError → List Text
  | .spawn _ cause => [cause.message]
  | _ => []

/-- The wording of the errors behind an error, from the nearest on. -/
def causes : AnalysisError → List Text
  | template _ cause => [cause.message]
  | compiler _ cause => cause.message :: commandCauses cause
  | checker _ cause => cause.message :: commandCauses cause
  | io _ cause => [cause.message]
  | _ => []

end AnalysisError

end TemplateTrace
