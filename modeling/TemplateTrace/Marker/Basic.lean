import TemplateTrace.Json.Record

/-!
# Markers

A marker says where a piece of compiled code comes from: the template's name and file, the line in
it, and the stack of places through which the template was reached, outermost first. It is written
as a comment of host code on one line, with its strings as JSON:

`/** template_name="a", template_path="/a", line=3, stack=[] */`

- `Frame`, `Marker`: a place on the way to a template, and the position of a template line.
- `stackJson`: a stack as JSON.
- `Marker.encode`: a marker as a comment. Inside it `*/` is written `*\/`, which JSON reads as the
  same text, so that nothing closes the comment early.
- `Frame.ofJson?`, `Marker.ofJson?`: the same data as JSON records.
-/

namespace TemplateTrace

/-- A place from which a template was reached: a file, a line in it, and the template's name if
the file is a template itself. -/
structure Frame where
  file : Text
  line : UInt32
  name : Option Text := none
  deriving DecidableEq, Repr

/-- The position of one template line. -/
structure Marker where
  template : Text
  path : Text
  line : UInt32
  stack : List Frame
  deriving DecidableEq, Repr

namespace Frame

/-- A frame as a JSON object. -/
def toJson (f : Frame) : Json :=
  .object [("file".toList, .string f.file), ("line".toList, .nat f.line.toNat),
    ("name".toList, Json.ofText? f.name)]

/-- The frame that a JSON record describes; the name may be missing. -/
def ofJson? (v : Json) : Option Frame := do
  match ← v.record? ["file".toList, "line".toList, "name".toList] with
  | [some file, some line, name] =>
    return { file := ← file.toText?, line := ← line.word32?
             name := ← Fields.orElse? Json.optionalText? none name }
  | _ => none

end Frame

/-- A stack as a JSON array. -/
def stackToJson (stack : List Frame) : Json := .array (stack.map Frame.toJson)

/-- A stack as JSON text. -/
def stackJson (stack : List Frame) : Text := (stackToJson stack).compact

/-- The stack that a JSON array describes. -/
def stackOfJson? (v : Json) : Option (List Frame) := v.listOf? Frame.ofJson?

/-- JSON text in which `*/` is written `*\/`. -/
def commentSafe : Text → Text
  | '*' :: '/' :: s => '*' :: '\\' :: '/' :: commentSafe s
  | c :: s => c :: commentSafe s
  | [] => []

namespace Marker

/-- The frame of a call that stands at the position of a marker. -/
def frame (m : Marker) : Frame := { file := m.path, line := m.line, name := some m.template }

/-- A marker as a comment of host code. -/
def encode (m : Marker) : Text :=
  "/** template_name=".toList ++ commentSafe (Json.quote m.template) ++
    ", template_path=".toList ++ commentSafe (Json.quote m.path) ++
    ", line=".toList ++ Text.decimal m.line.toNat ++
    ", stack=".toList ++ commentSafe (stackJson m.stack) ++ " */".toList

/-- The fields of a marker as JSON. -/
def jsonFields (m : Marker) : List (Text × Json) :=
  [("template_name".toList, .string m.template), ("template_path".toList, .string m.path),
    ("line".toList, .nat m.line.toNat), ("stack".toList, stackToJson m.stack)]

/-- The marker that a JSON record describes. -/
def ofJson? (v : Json) : Option Marker := do
  match ← v.record? ["template_name".toList, "template_path".toList, "line".toList,
      "stack".toList] with
  | [some name, some path, some line, some stack] =>
    return { template := ← name.toText?, path := ← path.toText?, line := ← line.word32?
             stack := ← stackOfJson? stack }
  | _ => none

end Marker

end TemplateTrace
