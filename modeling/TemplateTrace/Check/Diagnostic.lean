import TemplateTrace.Check.File

/-!
# Diagnostics

The checker reports a message and a line of the checker file. The marker nearest above that line
says which template line the message is about. A diagnostic that comes with its template position
keeps it.

- `RawDiagnostic`: what the checker reports, and `RawDiagnostic.ofJson?`.
- `Diagnostic`: a message at a template position.
- `RawDiagnostic.resolve`: the position of one diagnostic, by the lines of the checker file.
- `RawDiagnostic.resolveAll`: the positions of all, in order, none dropped.
-/

namespace TemplateTrace

/-- Whether a diagnostic still needs a template position. -/
inductive Origin where
  /-- Positioned in the checker file. -/
  | pending
  /-- Positioned in a template. -/
  | resolved (marker : Marker)
  deriving DecidableEq, Repr

/-- A diagnostic as the checker reports it. -/
structure RawDiagnostic where
  message : Text
  /-- The 1-based line in the checker file. -/
  line : UInt32
  identifier : Option Text := none
  origin : Origin := .pending
  deriving DecidableEq, Repr

/-- A diagnostic positioned in a template. -/
structure Diagnostic where
  message : Text
  identifier : Option Text
  position : Marker
  deriving DecidableEq, Repr

/-! ## JSON -/

namespace Origin

/-- An origin as a JSON object, told apart by its `kind`. -/
def toJson : Origin → Json
  | pending => .object [("kind".toList, .string "pending".toList)]
  | resolved m => .object (("kind".toList, .string "resolved".toList) :: m.jsonFields)

/-- The origin of a kind, from the record without its kind. -/
def ofKind? (kind rest : Json) : Option Origin := do
  let kind ← kind.toText?
  if kind = "pending".toList then
    match rest with
    | .array (_ :: _) => none
    | _ => some .pending
  else if kind = "resolved".toList then (Marker.ofJson? rest).map .resolved
  else none

/-- The origin that a JSON value describes: an object with one `kind`, or an array that starts with
it. The value is kept whole before its kind is known, so that all of it must be well valued and
nest at most `room` deep. -/
def ofJson? (room : Nat) (v : Json) : Option Origin :=
  if v.wellValued ∧ v.depth ≤ room then
    match v with
    | .object fs =>
      match Fields.valuesOf "kind".toList fs with
      | [kind] => ofKind? kind (.object (fs.filter fun f => f.1 ≠ "kind".toList))
      | _ => none
    | .array (kind :: vs) => ofKind? kind (.array vs)
    | _ => none
  else none

end Origin

namespace RawDiagnostic

/-- A raw diagnostic as a JSON object, all fields written. -/
def toJson (d : RawDiagnostic) : Json :=
  .object [("message".toList, .string d.message), ("line".toList, .nat d.line.toNat),
    ("identifier".toList, Json.ofText? d.identifier), ("origin".toList, d.origin.toJson)]

/-- The diagnostic that a JSON record describes, when `room` levels of nesting are left for its
origin. Identifier and origin may be missing. -/
def ofJson? (room : Nat) (v : Json) : Option RawDiagnostic := do
  match ← v.record? ["message".toList, "line".toList, "identifier".toList, "origin".toList] with
  | [some message, some line, identifier, origin] =>
    return { message := ← message.toText?, line := ← line.word32?
             identifier := ← Fields.orElse? Json.optionalText? none identifier
             origin := ← Fields.orElse? (Origin.ofJson? room) .pending origin }
  | _ => none

end RawDiagnostic

namespace Diagnostic

/-- The frame that first reached the template, if any. -/
def caller? (d : Diagnostic) : Option Frame := d.position.stack.head?

/-- A diagnostic as a JSON object; a missing identifier is left out. -/
def toJson (d : Diagnostic) : Json :=
  .object ([("message".toList, .string d.message), ("file".toList, .string d.position.path),
      ("line".toList, .nat d.position.line.toNat)] ++
    (d.identifier.map fun i => ("identifier".toList, Json.string i)).toList ++
    [("metadata".toList, .object [("template_name".toList, .string d.position.template),
      ("stack".toList, stackToJson d.position.stack)])])

/-- The diagnostic that a JSON record describes. -/
def ofJson? (v : Json) : Option Diagnostic := do
  match ← v.record? ["message".toList, "file".toList, "line".toList, "identifier".toList,
      "metadata".toList] with
  | [some message, some file, some line, identifier, some metadata] =>
    match ← metadata.record? ["template_name".toList, "stack".toList] with
    | [some template, some stack] =>
      return { message := ← message.toText?
               identifier := ← Fields.orElse? Json.optionalText? none identifier
               position := { template := ← template.toText?, path := ← file.toText?
                             line := ← line.word32?, stack := ← stackOfJson? stack } }
    | _ => none
  | _ => none

end Diagnostic

/-! ## Template positions -/

namespace RawDiagnostic

/-- The marker nearest above a 1-based line of a checker file; blanks may precede it. -/
def markerAbove? (lines : List Text) (line : Nat) : Option Marker :=
  (lines.take (line - 1)).reverse.findSome? fun l =>
    (Marker.decode? (Text.stripStart l)).map (·.1)

/-- The content of a 1-based line; a line that does not exist is empty. -/
def contentOf (lines : List Text) (line : Nat) : Text :=
  if line = 0 then [] else lines.getD (line - 1) []

/-- A diagnostic with its template position. The path names the checker file in errors. -/
def resolve (d : RawDiagnostic) (lines : List Text) (path : Text) : Except MapError Diagnostic :=
  match d.origin with
  | .resolved m => .ok ⟨d.message, d.identifier, m⟩
  | .pending =>
    match markerAbove? lines d.line.toNat with
    | some m => .ok ⟨d.message, d.identifier, m⟩
    | none =>
      .error (.orphanDiagnostic path d.line d.message (contentOf lines d.line.toNat))

/-- All diagnostics of a checker file with their template positions, in order. -/
def resolveAll (ds : List RawDiagnostic) (file : CheckerFile) (path : Text) :
    Except MapError (List Diagnostic) :=
  ds.mapM (·.resolve file.lines path)

end RawDiagnostic

end TemplateTrace
