import TemplateTrace.Text.Basic

/-!
# Paths

A path is a text of names between slashes. Nothing is normalised: two spellings of one file stay
two paths, and a report shows the spelling that was put together.

- `Path.join`: a path behind a base path; an absolute path stands for itself.
- `Path.parent?`: a path without its last name.
- `Path.parts`: the names of a path, as a walk through directories reads them.
-/

namespace TemplateTrace

namespace Path

/-- Whether a path starts at the root. -/
def isAbsolute (p : Text) : Bool := p.head? = some '/'

/-- A path behind a base path, with one slash between them. -/
def join (base p : Text) : Text :=
  if isAbsolute p then p
  else if base = [] ∨ base.getLast? = some '/' then base ++ p
  else base ++ '/' :: p

/-- The names of a path between its slashes. Empty names stand for doubled and closing slashes. -/
def parts (p : Text) : List Text := Text.splitOn '/' p

/-- The reversed body of a path without the empty names and the `.` names at its end. -/
def trimBack (rev : Text) : Text :=
  match rev with
  | [] => []
  | '/' :: r => trimBack r
  | '.' :: '/' :: r => trimBack r
  | ['.'] => []
  | r => r

/-- The part of a path that no name can be taken from: the root, or a `.` in front. -/
def splitStart (p : Text) : Text × Text :=
  match p with
  | '/' :: r => (['/'], r)
  | ['.'] => (['.'], [])
  | '.' :: '/' :: r => (['.'], '/' :: r)
  | r => ([], r)

/-- A path without its last name; the root and the empty path have no parent. -/
def parent? (p : Text) : Option Text :=
  let (start, body) := splitStart p
  match trimBack body.reverse with
  | [] => if start = ['.'] then some [] else none
  | rev => some (start ++ (trimBack (rev.dropWhile (· ≠ '/'))).reverse)

end Path

end TemplateTrace
