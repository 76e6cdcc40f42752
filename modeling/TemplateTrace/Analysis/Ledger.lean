import TemplateTrace.Files.Store
import TemplateTrace.Json.Record
import TemplateTrace.Text.Index

/-!
# The dependency ledger

A file that remembers which callers reached which templates, and when each template had last been
changed at that time. Every check adds one line, a JSON record, and nothing is ever taken out. A
line that holds no record is passed over, so that a damaged line costs no other one.

- `DependencyRecord`: one line, with `DependencyRecord.line` and `DependencyRecord.read?`.
- `Dependencies`: the time per caller and template; `Dependencies.ofRecords` lets the last record
  win.
- `Ledger.record`: adds a record.
- `Ledger.dependencies`: what the records say together.
- `Ledger.staleCallers`: the callers with a template that is gone or was changed since.
-/

namespace TemplateTrace

/-! ## Records -/

/-- A template that a caller reached. -/
structure DependencyRecord where
  caller : Text
  template : Text
  /-- When the template had last been changed. -/
  modified : Instant
  recordedAt : Instant
  deriving DecidableEq, Repr

namespace DependencyRecord

/-- A record as a JSON object. -/
def toJson (r : DependencyRecord) : Json :=
  .object [("caller".toList, .string r.caller), ("template".toList, .string r.template),
    ("mtime".toList, .string r.modified.write),
    ("recorded_at".toList, .string r.recordedAt.write)]

/-- The line of a record. -/
def line (r : DependencyRecord) : Text := r.toJson.compact ++ ['\n']

/-- The record that a JSON value describes. -/
def ofJson? (v : Json) : Option DependencyRecord := do
  match ← v.record? ["caller".toList, "template".toList, "mtime".toList,
      "recorded_at".toList] with
  | [some caller, some template, some modified, some recordedAt] =>
    return { caller := ← caller.toText?, template := ← template.toText?
             modified := ← modified.toText? >>= Instant.read?
             recordedAt := ← recordedAt.toText? >>= Instant.read? }
  | _ => none

/-- The record that a line holds. -/
def read? (line : Text) : Option DependencyRecord := (Json.parse? line).bind ofJson?

/-- The records in the text of a ledger, in order. -/
def readAll (text : Text) : List DependencyRecord := (Text.endedLines text).filterMap read?

end DependencyRecord

/-! ## Dependencies -/

/-- The time of the last change per caller and template. -/
abbrev Dependencies := Index (Index Instant)

namespace Dependencies

/-- The dependencies with those of one record more. -/
def add (d : Dependencies) (r : DependencyRecord) : Dependencies :=
  d.insert r.caller (((d.get? r.caller).getD {}).insert r.template r.modified)

/-- What records say together: of two about one caller and template, the last one counts. -/
def ofRecords (rs : List DependencyRecord) : Dependencies := rs.foldl add {}

/-- The time recorded for a caller and a template. -/
def time? (d : Dependencies) (caller template : Text) : Option Instant :=
  (d.get? caller).bind (·.get? template)

/-- A record is seen under its caller and template, and nowhere else. -/
theorem time?_add (d : Dependencies) (r : DependencyRecord) (caller template : Text) :
    time? (add d r) caller template =
      if r.caller = caller ∧ r.template = template then some r.modified
      else time? d caller template := by
  simp only [time?, add, Index.get?_insert]
  by_cases hc : r.caller = caller
  · subst hc
    rw [if_pos rfl, Option.bind_some, Index.get?_insert]
    by_cases ht : r.template = template
    · simp [ht]
    · cases h : d.get? r.caller <;> simp [ht, Index.get?]
  · simp [hc]

end Dependencies

/-! ## The file -/

/-- A ledger, by the path of its file. -/
structure Ledger where
  path : Text
  deriving DecidableEq, Repr

namespace Ledger

/-- The ledger in a directory. -/
def inDirectory (dir : Text) : Ledger := ⟨Path.join dir "dependencies.jsonl".toList⟩

/-- Makes the directory of a ledger, if its path has one. -/
def makeDirectory (l : Ledger) (fs : FileStore) : Attempt PathError Unit :=
  match Path.parent? l.path with
  | some dir =>
    match fs.createDirAll dir with
    | (.error e, fs) => (.error (dir, e), fs)
    | (.ok (), fs) => (.ok (), fs)
  | none => (.ok (), fs)

/-- Adds that a caller reached a template, with the time of the template's last change. -/
def record (l : Ledger) (fs : FileStore) (caller template : Text) : Attempt PathError Unit :=
  match fs.modified template with
  | .error e => (.error (template, e), fs)
  | .ok modified =>
    match l.makeDirectory fs with
    | (.error e, fs) => (.error e, fs)
    | (.ok (), fs) =>
      let line := DependencyRecord.line { caller, template, modified, recordedAt := fs.clock }
      match fs.append l.path (.text line) with
      | .error e => (.error (l.path, e), fs)
      | .ok fs => (.ok (), fs)

/-- What the records of a ledger say together. A ledger whose file is missing is empty. -/
def dependencies (l : Ledger) (fs : FileStore) : Except PathError Dependencies :=
  match fs.readText l.path with
  | .ok text => .ok (.ofRecords (DependencyRecord.readAll text))
  | .error .notFound => .ok {}
  | .error e => .error (l.path, e)

/-- Whether a template is gone or was changed after the recorded time. -/
def isStale (fs : FileStore) (template : Text) (recorded : Instant) : Bool :=
  match fs.modified template with
  | .ok current => recorded.before current
  | .error _ => true

/-- The callers with a stale template, in ascending order. -/
def staleCallers (l : Ledger) (fs : FileStore) : Except PathError (List Text) := do
  let d ← l.dependencies fs
  return (d.entries.filter fun (_, templates) =>
    templates.entries.any fun (template, recorded) => isStale fs template recorded).map (·.1)

end Ledger

end TemplateTrace
