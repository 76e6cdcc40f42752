import TemplateTrace.Config.Basic
import TemplateTrace.Yaml.Document

/-!
# Reading settings

Settings are written in YAML by users and in JSON by programs. Both formats offer the same readings
of a value, so that the settings are read once for both. Every field may be left out; fields that
are not known are skipped.

- `FallibleMonad`: readings that may fail.
- `SettingFormat`: the readings that a format offers, with `SettingFormat.json` and
  `SettingFormat.yaml`.
- `Config.read?`: settings, with given ones for the fields left out.
- `Config.ofYaml?`, `Config.ofJson?`: the settings that a text or a value describes.
-/

namespace TemplateTrace

/-- A monad whose computations may fail. -/
class FallibleMonad (m : Type → Type) extends Alternative m, Monad m

instance : FallibleMonad Option where

instance {σ : Type} {m : Type → Type} [FallibleMonad m] : FallibleMonad (StateT σ m) where

/-- The readings of a value that settings need. A reading may fail, and may have a state. -/
structure SettingFormat (m : Type → Type) (V : Type) where
  /-- A value, unless it stands for nothing. -/
  present? : V → m (Option V)
  text? : V → m Text
  /-- A number below 2^64. -/
  word64? : V → m Nat
  items? : V → m (List V)
  fields? : V → m (List (Text × V))
  /-- The known fields of a record in declared order. -/
  record? : List Text → V → m (List (Option V))

namespace SettingFormat

/-- Settings in JSON. -/
def json : SettingFormat Option Json where
  present? v := match v with
    | .null => some none
    | v => some (some v)
  text? := Json.toText?
  word64? v := match v with
    | .nat n => if n < UInt64.size then some n else none
    | _ => none
  items? v := match v with
    | .array vs => some vs
    | _ => none
  fields? v := match v with
    | .object fs => some fs
    | _ => none
  record? := Json.record?

/-- Settings in a YAML document. -/
def yaml (doc : Yaml.Document) : SettingFormat Yaml.Document.Reading Yaml where
  present? := doc.present?
  text? := doc.toText
  word64? := doc.word64
  items? := doc.items
  fields? := doc.fields
  record? keys v := do (Fields.known? keys (← doc.fields v)).getM

variable {m : Type → Type} [FallibleMonad m] {V α : Type} (f : SettingFormat m V)

/-- A list, item by item. -/
def listOf? (item? : V → m α) (v : V) : m (List α) := do (← f.items? v).mapM item?

/-- A list of texts. -/
def texts? : V → m (List Text) := f.listOf? f.text?

/-- A value that may stand for nothing. -/
def optional? (read? : V → m α) (v : V) : m (Option α) := do
  match ← f.present? v with
  | none => return none
  | some v => return some (← read? v)

/-- A table by text keys; of equal keys the last one counts. -/
def index? (value? : V → m α) (v : V) : m (Index α) := do
  return .ofList (← (← f.fields? v).mapM fun (k, v) => do return (k, ← value? v))

/-- A binding. -/
def binding? (v : V) : m TypeBinding := do
  match ← f.record? ["name".toList, "type_descriptor".toList] v with
  | [some name, some type] => return .of (← f.text? name) (← f.text? type)
  | _ => failure

/-- A command; its arguments may be missing. -/
def command? (v : V) : m CommandSpec := do
  match ← f.record? ["program".toList, "args".toList] v with
  | [some program, args] =>
    return { program := ← f.text? program, args := ← Fields.orElse? f.texts? [] args }
  | _ => failure

end SettingFormat

namespace Config

/-- The names of the settings. -/
def fieldNames : List Text := [
  "view_paths".toList, "view_extensions".toList, "namespaces".toList, "scratch_dir".toList,
  "max_include_depth".toList, "loop_variable_type".toList, "ambient_bindings".toList,
  "ignore_errors".toList, "compiler".toList, "checker".toList]

/-- The settings that a value describes, those left out being as in `rest`. -/
def read? {m : Type → Type} [FallibleMonad m] {V : Type} (f : SettingFormat m V)
    (rest : Config) (v : V) : m Config := do
  match ← f.record? fieldNames v with
  | [viewPaths, viewExtensions, namespaces, scratchDir, maxIncludeDepth, loopVariableType,
      ambientBindings, ignoreErrors, compiler, checker] =>
    return {
      viewPaths := ← Fields.orElse? f.texts? rest.viewPaths viewPaths
      viewExtensions := ← Fields.orElse? f.texts? rest.viewExtensions viewExtensions
      namespaces := ← Fields.orElse? (f.index? f.texts?) rest.namespaces namespaces
      scratchDir := ← Fields.orElse? f.text? rest.scratchDir scratchDir
      maxIncludeDepth := ← Fields.orElse? f.word64? rest.maxIncludeDepth maxIncludeDepth
      loopVariableType := ← Fields.orElse? f.text? rest.loopVariableType loopVariableType
      ambientBindings :=
        ← Fields.orElse? (f.listOf? f.binding?) rest.ambientBindings ambientBindings
      ignoreErrors := ← Fields.orElse? f.texts? rest.ignoreErrors ignoreErrors
      compiler := ← Fields.orElse? (f.optional? f.command?) rest.compiler compiler
      checker := ← Fields.orElse? (f.optional? f.command?) rest.checker checker }
  | _ => failure

/-- The settings that a YAML text describes. -/
def ofYaml? (s : Text) : Option Config :=
  (Yaml.Document.parse? s).bind fun doc => doc.read? (read? (.yaml doc) {})

/-- The settings that a JSON value describes, those left out being as in `rest`. -/
def ofJson? (rest : Config) (v : Json) : Option Config := read? .json rest v

end Config

end TemplateTrace
