import TemplateTrace.Check.Bindings
import TemplateTrace.Text.Index

/-!
# Configuration

What a project sets: where templates are found, where checker files go, how deep includes nest,
what every template can see, which findings are dropped, and the two external programs.

- `CommandSpec`: a program and its leading arguments.
- `Config`: the settings, with their defaults.
- `Config.toJson`: the settings as a JSON object.
-/

namespace TemplateTrace

/-- An external program and its leading arguments. -/
structure CommandSpec where
  program : Text
  args : List Text := []
  deriving DecidableEq, Repr

/-- The variables that every template can see: the view environment, the error bag and the
anonymous component. -/
def defaultAmbient : List TypeBinding := [
  .of "__env".toList "\\Illuminate\\View\\Factory".toList,
  .of "errors".toList "\\Illuminate\\Support\\ViewErrorBag".toList,
  .of "component".toList "\\Illuminate\\View\\AnonymousComponent".toList]

/-- The settings of a project. -/
structure Config where
  /-- Roots searched for template names, in order. -/
  viewPaths : List Text := ["resources/views".toList]
  /-- File endings tried for each name, in order. -/
  viewExtensions : List Text := ["blade.php".toList, "php".toList]
  /-- Roots of the names written `namespace::name`, by namespace. -/
  namespaces : Index (List Text) := {}
  scratchDir : Text := "/tmp/blade-lens".toList
  maxIncludeDepth : Nat := 16
  /-- The type declared for the loop helper. -/
  loopVariableType : Text := "\\Illuminate\\View\\Loop".toList
  ambientBindings : List TypeBinding := defaultAmbient
  /-- Patterns of the messages that are dropped. -/
  ignoreErrors : List Text := []
  compiler : Option CommandSpec := none
  checker : Option CommandSpec := none
  deriving DecidableEq, Repr

/-- A command as a JSON object. -/
def CommandSpec.toJson (c : CommandSpec) : Json :=
  .object [("program".toList, .string c.program), ("args".toList, .array (c.args.map .string))]

/-- The settings as a JSON object. -/
def Config.toJson (c : Config) : Json :=
  let texts (l : List Text) : Json := .array (l.map .string)
  .object [
    ("view_paths".toList, texts c.viewPaths),
    ("view_extensions".toList, texts c.viewExtensions),
    ("namespaces".toList, .object (c.namespaces.mapValues texts).entries),
    ("scratch_dir".toList, .string c.scratchDir),
    ("max_include_depth".toList, .nat c.maxIncludeDepth),
    ("loop_variable_type".toList, .string c.loopVariableType),
    ("ambient_bindings".toList, .array (c.ambientBindings.map TypeBinding.toJson)),
    ("ignore_errors".toList, texts c.ignoreErrors),
    ("compiler".toList, (c.compiler.map CommandSpec.toJson).getD .null),
    ("checker".toList, (c.checker.map CommandSpec.toJson).getD .null)]

end TemplateTrace
