import TemplateTrace.Yaml.Event

/-!
# YAML documents

A document is a value in which aliases stand for values elsewhere in it. An anchor gets the number
of names that are known in front of it, so that one number may be given to several values: then it
stands for the last of them, everywhere in the document. How often aliases may be followed while a
document is read is limited.

- `Document`: the documents, and `Document.ofEvents?`.
- `Document.parse?`: the document that a text writes.
- `Reading`: readings of a document, which follow aliases.
- `Document.toText`, `Document.items`, `Document.fields`: what a value reads as.
-/

namespace TemplateTrace

namespace Yaml

/-- A value that an alias can stand for. -/
structure Anchored where
  number : Nat
  /-- How many anchors stand in front of its own. -/
  order : Nat
  value : Yaml

/-- A document. -/
structure Document where
  root : Yaml := .empty
  anchored : List Anchored := []
  /-- The number of its events. -/
  size : Nat := 1

namespace Document

/-! ## Events -/

/-- The number and the order of an anchor. -/
abbrev Mark := Nat × Nat

/-- A collection of which a part has been read, the latest part first. -/
inductive Partial where
  | sequence (mark : Option Mark) (items : List Yaml)
  | mapping (mark : Option Mark) (entries : List (Yaml × Yaml)) (key : Option Yaml)

/-- What has been read of a document. -/
structure Builder where
  /-- The open collections, the innermost first. -/
  stack : List Partial := []
  /-- The numbers of the names. -/
  names : List (Text × Nat) := []
  /-- The number of anchors. -/
  marks : Nat := 0
  anchored : List Anchored := []
  root : Option Yaml := none

namespace Builder

/-- Gives a number to an anchor, if there is one. -/
def mark (b : Builder) : Option Text → Builder × Option Mark
  | none => (b, none)
  | some name =>
    let number := b.names.length
    let names := (name, number) :: b.names.filter (·.1 ≠ name)
    ({ b with names, marks := b.marks + 1 }, some (number, b.marks))

/-- Adds a value to the innermost collection. -/
def put (b : Builder) (m : Option Mark) (v : Yaml) : Builder :=
  let b := match m with
    | some (number, order) => { b with anchored := ⟨number, order, v⟩ :: b.anchored }
    | none => b
  match b.stack with
  | [] => { b with root := some v }
  | .sequence m vs :: rest => { b with stack := .sequence m (v :: vs) :: rest }
  | .mapping m es none :: rest => { b with stack := .mapping m es (some v) :: rest }
  | .mapping m es (some k) :: rest => { b with stack := .mapping m ((k, v) :: es) none :: rest }

/-- Adds an event. -/
def add? (b : Builder) : Event → Option Builder
  | .scalar anchor tag style text =>
    let (b, m) := b.mark anchor
    some (b.put m (.scalar text style tag))
  | .alias name => (b.names.find? (·.1 = name)).map fun (_, number) => b.put none (.alias number)
  | .sequenceStart anchor =>
    let (b, m) := b.mark anchor
    some { b with stack := .sequence m [] :: b.stack }
  | .mappingStart anchor =>
    let (b, m) := b.mark anchor
    some { b with stack := .mapping m [] none :: b.stack }
  | .sequenceEnd | .mappingEnd =>
    match b.stack with
    | .sequence m vs :: rest => some ({ b with stack := rest }.put m (.sequence vs.reverse))
    | .mapping m es _ :: rest => some ({ b with stack := rest }.put m (.mapping es.reverse))
    | [] => none

end Builder

/-- The document that events write; that of none is empty. -/
def ofEvents? (es : List Event) : Option Document :=
  if es = [] then some {}
  else do
    let b ← es.foldlM Builder.add? {}
    return { root := ← b.root, anchored := b.anchored, size := es.length }

/-- The document that a text writes. -/
def parse? (s : Text) : Option Document :=
  ((Token.scan? s).bind Event.ofTokens?).bind ofEvents?

/-! ## Readings -/

/-- A reading of a document, which may follow a number of aliases, or fails. -/
abbrev Reading := StateT Nat Option

variable (doc : Document)

/-- The value with a number: the last one in the document that it was given to. -/
def target? (number : Nat) : Option Yaml :=
  let last := doc.anchored.foldl (fun (last : Option Anchored) a =>
    if a.number = number ∧ last.all (·.order < a.order) then some a else last) none
  last.map (·.value)

/-- A value, or the one that it stands for. -/
def resolve : Yaml → Reading Yaml
  | .alias number => do
    match ← get with
    | 0 => failure
    | n + 1 =>
      set n
      (doc.target? number).getM
  | v => return v

/-- The text of a scalar, whatever it looks like. -/
def toText (v : Yaml) : Reading Text := do
  match ← doc.resolve v with
  | .scalar s _ _ => return s
  | _ => failure

/-- The number below 2^64 that a scalar writes. -/
def word64 (v : Yaml) : Reading Nat := do (← doc.resolve v).word64?.getM

/-- A value, unless it stands for nothing. -/
def present? (v : Yaml) : Reading (Option Yaml) := do
  let v ← doc.resolve v
  return if v.isNull then none else some v

/-- The items of a sequence; an empty place is an empty sequence. -/
def items (v : Yaml) : Reading (List Yaml) := do
  match ← doc.resolve v with
  | .sequence vs => return vs
  | v => if v.isEmpty then return [] else failure

/-- The entries of a mapping whose keys are scalars; an empty place is an empty mapping. -/
def fields (v : Yaml) : Reading (List (Text × Yaml)) := do
  match ← doc.resolve v with
  | .mapping es => es.mapM fun (k, v) => do return (← doc.toText k, v)
  | v => if v.isEmpty then return [] else failure

/-- What a reading of the whole document answers. Aliases may be followed a hundred times as often
as the document has events. -/
def read? {α : Type} (reading : Yaml → Reading α) : Option α :=
  ((reading doc.root).run (100 * doc.size)).map (·.1)

end Document

end Yaml

end TemplateTrace
