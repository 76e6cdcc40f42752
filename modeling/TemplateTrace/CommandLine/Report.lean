import TemplateTrace.Check.Diagnostic

/-!
# Reports

How findings and stale callers are shown: as JSON for programs, or as text, in which findings in one
file from one caller stand below one heading.

- `Exit`: what the program prints and returns.
- `findingsText`, `staleText`: the reports as text.
-/

namespace TemplateTrace

/-- What the program prints and returns. -/
structure Exit where
  code : Nat
  out : Text := []
  complaint : Text := []
  deriving DecidableEq, Repr

namespace Report

/-- The heading of findings in one file from one caller. -/
def heading (file : Text) (caller : Option Frame) : Text :=
  file ++ (caller.map fun f =>
    " (from ".toList ++ f.file ++ ":".toList ++ Text.decimal f.line.toNat ++ ")".toList).getD []

/-- A number at the end of a field. -/
def rightAligned (width n : Nat) : Text :=
  let ds := Text.decimal n
  List.replicate (width - ds.length) ' ' ++ ds

/-- A place on the way to a template, by the name of the template that it stands in if it has
one. -/
def stepText (f : Frame) : Text := f.name.getD f.file ++ ":".toList ++ Text.decimal f.line.toNat

/-- The lines of a finding: its line and message, and the includes that led to it. -/
def findingLines (d : Diagnostic) : List Text :=
  let found := "  ".toList ++ rightAligned 5 d.position.line.toNat ++ "  ".toList ++ d.message
  match d.position.stack with
  | _ :: f :: fs =>
    [found, "         via ".toList ++ Text.joinWith " -> ".toList ((f :: fs).map stepText)]
  | _ => [found]

/-- What findings below one heading have in common. -/
def group (d : Diagnostic) : Text × Option Frame := (d.position.path, d.caller?)

/-- The lines of findings below the heading that was shown last. -/
def findingsBelow (shown : Option (Text × Option Frame)) : List Diagnostic → List Text
  | [] => []
  | d :: ds =>
    (if shown = some (group d) then [] else [heading d.position.path d.caller?]) ++
      findingLines d ++ findingsBelow (some (group d)) ds

/-- Lines, each of them ended. -/
def ended (lines : List Text) : Text := lines.flatMap (· ++ ['\n'])

/-- Findings as text. -/
def findingsText (ds : List Diagnostic) : Text :=
  if ds = [] then "OK no errors\n".toList
  else ended (findingsBelow none ds ++
    ["FAIL ".toList ++ Text.decimal ds.length ++ " error(s)".toList])

/-- Stale callers as text. -/
def staleText (callers : List Text) : Text :=
  if callers = [] then "OK nothing stale\n".toList
  else ended (callers.map ("stale ".toList ++ ·))

/-- A JSON value over several lines. -/
def jsonText (v : Json) : Text := v.pretty ++ ['\n']

end Report

end TemplateTrace
