import TemplateTrace.Json.Record

/-!
# Type bindings

The variables that a template may use, each with the type that the checker is told. The order is
kept, so that equal input gives equal checker files.

- `TypeBinding`: a variable and its type, and `TypeBinding.declaration`, its doc comment.
- `TypeBindings`: bindings in order, with `insert`, which replaces the type of a bound name in its
  place, and `fill`, which leaves a bound name alone.
- `TypeBindings.merge`, `TypeBindings.withAmbient`: bindings that fill the gaps of others.
-/

namespace TemplateTrace

/-- The name of a variable without white space around it and without the `$` signs in front. -/
def variableName (name : Text) : Text := (Text.strip name).dropWhile (· == '$')

/-- A variable and its type. -/
structure TypeBinding where
  name : Text
  type : Text
  deriving DecidableEq, Repr

namespace TypeBinding

/-- A binding of a variable whose name may be written with a `$`. -/
def of (name type : Text) : TypeBinding := { name := variableName name, type }

/-- The doc comment that declares a variable. -/
def declaration (b : TypeBinding) : Text :=
  "/** @var ".toList ++ b.type ++ " $".toList ++ b.name ++ " */".toList

/-- A binding as a JSON object. -/
def toJson (b : TypeBinding) : Json :=
  .object [("name".toList, .string b.name), ("type_descriptor".toList, .string b.type)]

/-- The binding that a JSON record describes. -/
def ofJson? (v : Json) : Option TypeBinding := do
  match ← v.record? ["name".toList, "type_descriptor".toList] with
  | [some name, some type] => return of (← name.toText?) (← type.toText?)
  | _ => none

end TypeBinding

/-- Bindings in order. -/
structure TypeBindings where
  entries : List TypeBinding := []
  deriving DecidableEq, Repr

namespace TypeBindings

/-- The type bound to a name, which may be written with a `$`. -/
def get? (bs : TypeBindings) (name : Text) : Option Text :=
  (bs.entries.find? (·.name == variableName name)).map (·.type)

/-- Replaces the type of the first entry with the name of `b`, or adds `b` at the end. -/
def insertEntry (b : TypeBinding) : List TypeBinding → List TypeBinding
  | [] => [b]
  | e :: es => if e.name = b.name then { e with type := b.type } :: es else e :: insertEntry b es

/-- Binds a name to a type, in its place if the name is bound and at the end if not. -/
def insert (bs : TypeBindings) (b : TypeBinding) : TypeBindings :=
  { entries := insertEntry b bs.entries }

/-- Adds a binding at the end unless its name, read once more as a variable's name, is bound. -/
def fill (bs : TypeBindings) (b : TypeBinding) : TypeBindings :=
  if (bs.get? b.name).isNone then { entries := bs.entries ++ [b] } else bs

/-- The bindings of a list, a later one replacing the type of an earlier one of its name. -/
def ofList (l : List TypeBinding) : TypeBindings := l.foldl insert {}

/-- Fills the gaps of `bs` with bindings one after another. -/
def withAmbient (bs : TypeBindings) (ambient : List TypeBinding) : TypeBindings :=
  ambient.foldl fill bs

/-- The explicit bindings in their order, then those of `others` whose names they leave free. -/
def merge (explicit others : TypeBindings) : TypeBindings := explicit.withAmbient others.entries

/-- One doc comment per binding, in order. -/
def declarations (bs : TypeBindings) : List Text := bs.entries.map TypeBinding.declaration

/-- The bindings that a JSON array describes, taken as they come. -/
def ofJson? (v : Json) : Option TypeBindings :=
  (v.listOf? TypeBinding.ofJson?).map ({ entries := · })

end TypeBindings

end TemplateTrace
