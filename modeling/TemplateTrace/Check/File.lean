import TemplateTrace.Check.Bindings
import TemplateTrace.Code.Line

/-!
# Checker files

The file that the type checker is given: host code opened once, a declaration per binding, and then
each code line below a line that holds its marker. So every line below the first marker has a
marker above it.

- `CheckerFile`: the file as lines, with `CheckerFile.text` and 1-based `CheckerFile.line?`.
- `CheckerFile.synthesize`: the file for bindings and code lines.
-/

namespace TemplateTrace

/-- A checker file as lines. -/
structure CheckerFile where
  lines : List Text := []
  deriving DecidableEq, Repr

namespace CheckerFile

/-- The text of a file, which ends in a line feed. -/
def text (f : CheckerFile) : Text := Text.joinWith ['\n'] f.lines ++ ['\n']

/-- The line with a 1-based number. -/
def line? (f : CheckerFile) (n : Nat) : Option Text := if n = 0 then none else f.lines[n - 1]?

/-- The two lines of a code line: its marker, and its code. -/
def rows (line : CodeLine) : List Text := [line.marker.encode, line.code]

/-- The checker file for bindings and code lines. -/
def synthesize (bindings : TypeBindings) (lines : List CodeLine) : CheckerFile :=
  { lines := codeOpen :: bindings.declarations ++ lines.flatMap rows }

end CheckerFile

end TemplateTrace
