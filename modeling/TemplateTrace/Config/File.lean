import TemplateTrace.Config.Reader
import TemplateTrace.Files.Store

/-!
# The settings file

The settings come from the file that the user names, or else from `blade-lens.yaml` in the working
directory if it exists, or else they are the defaults. Relative view roots in the file are relative
to its directory.

- `ConfigError`: why settings cannot be had, and its wording.
- `Config.file?`: the file that the settings come from.
- `Config.rebase`: settings with their view roots below a directory.
- `Config.load`: the settings in a file.
-/

namespace TemplateTrace

/-- Why settings cannot be had. -/
inductive ConfigError where
  | unreadable (path : Text) (cause : FileError)
  | malformed (path : Text)
  deriving DecidableEq, Repr

namespace ConfigError

/-- The wording of the error for settings of the wrong form. -/
def malformedSettings : Text := "Failed to parse blade-lens configuration".toList

/-- The wording of an error. -/
def message : ConfigError → Text
  | unreadable path _ => "Failed to read ".toList ++ path
  | malformed path => "Failed to parse ".toList ++ path

/-- The wording of the errors behind an error, from the nearest on. -/
def causes : ConfigError → List Text
  | unreadable _ cause => [cause.message]
  | malformed _ => [malformedSettings]

end ConfigError

namespace Config

/-- The file that is looked for in the working directory. -/
def defaultFile : Text := "blade-lens.yaml".toList

/-- The file that the settings come from, given the one that the user names. -/
def file? (fs : FileStore) (named : Option Text) : Option Text :=
  named <|> if fs.holds defaultFile then some defaultFile else none

/-- Settings with their relative view roots taken from a directory. -/
def rebase (dir : Text) (c : Config) : Config :=
  { c with
    viewPaths := c.viewPaths.map (Path.join dir)
    namespaces := c.namespaces.mapValues (·.map (Path.join dir)) }

/-- The settings in a file. -/
def loadFile (fs : FileStore) (path : Text) : Except ConfigError Config :=
  match fs.readText path with
  | .error e => .error (.unreadable path e)
  | .ok text =>
    match ofYaml? text with
    | none => .error (.malformed path)
    | some c =>
      match Path.parent? path with
      | some (d :: ds) => .ok (c.rebase (d :: ds))
      | _ => .ok c

/-- The settings in a file, or the defaults if there is none. -/
def load (fs : FileStore) (file : Option Text) : Except ConfigError Config :=
  match file with
  | some path => loadFile fs path
  | none => .ok {}

end Config

end TemplateTrace
