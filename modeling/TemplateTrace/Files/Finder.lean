import TemplateTrace.Config.Basic
import TemplateTrace.Files.Store

/-!
# Finding templates

A name such as `users.show` means a file below one of the view roots, `users/show` with one of the
known endings; `mail::layout` means the same below the roots registered for `mail`. The first
candidate that exists is taken, root by root and ending by ending. The absolute path of an existing
file is a name as well.

- `ViewFinder`: the roots and endings.
- `ViewFinder.candidates`: the paths that a name may mean, in order.
- `ViewFinder.locate?`: the file that a name means.
-/

namespace TemplateTrace

/-- Where templates are looked for. -/
structure ViewFinder where
  roots : List Text
  extensions : List Text
  namespaces : Index (List Text)
  deriving DecidableEq, Repr

/-- The roots and endings that the settings name. -/
def Config.finder (c : Config) : ViewFinder :=
  { roots := c.viewPaths, extensions := c.viewExtensions, namespaces := c.namespaces }

namespace ViewFinder

/-- The path of a name below a root: trimmed, with slashes for dots. -/
def relative (name : Text) : Text :=
  (Text.strip name).map fun c => if c = '.' then '/' else c

/-- The paths that a name may mean below the given roots. -/
def candidatesIn (f : ViewFinder) (roots : List Text) (name : Text) : List Text :=
  roots.flatMap fun root =>
    f.extensions.map fun ending => Path.join root (relative name ++ '.' :: ending)

/-- The roots registered for a namespace. -/
def rootsOf (f : ViewFinder) (ns : Text) : List Text :=
  (f.namespaces.get? ns).getD []

/-- The paths that a name may mean, in the order in which they are tried. -/
def candidates (f : ViewFinder) (name : Text) : List Text :=
  match Text.breakOn? "::".toList name with
  | some (ns, rest) => f.candidatesIn (f.rootsOf ns) rest
  | none => f.candidatesIn f.roots name

/-- The file that a name means. -/
def locate? (f : ViewFinder) (fs : FileStore) (name : Text) : Option Text :=
  if Path.isAbsolute name && fs.isFile name then some name
  else (f.candidates name).find? fs.isFile

end ViewFinder

end TemplateTrace
