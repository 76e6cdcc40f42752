import TemplateTrace.Files.Path
import TemplateTrace.Files.Instant
import TemplateTrace.Text.Utf8

/-!
# File stores

The files that a run sees, as a value: directories and files by the names that lead to them from
the root, each with the time of its last change, and a working directory for relative paths. A path
is walked name by name; `..` leads out of a directory that must exist.

- `Content`, `Node`, `FileStore`: what a file holds, what a name stands for, and the whole.
- `FileStore.locate`: the place that a path leads to.
- `FileStore.readText`, `modified`, `isFile`, `holds`: what can be asked.
- `FileStore.write`, `append`, `createDirAll`, `touch`, `remove`: what can be changed.
- `Attempt`: a request that may fail on its way, with the files that it leaves.
- `FileError`: why a request fails, and `FileError.message`, the system's wording.
-/

namespace TemplateTrace

/-- Why a request to the file store fails. -/
inductive FileError where
  | notFound
  | fileExists
  | notADirectory
  | isADirectory
  | notUtf8
  | nulInPath
  deriving DecidableEq, Repr

/-- The wording of an error. -/
def FileError.message : FileError → Text
  | notFound => "No such file or directory (os error 2)".toList
  | fileExists => "File exists (os error 17)".toList
  | notADirectory => "Not a directory (os error 20)".toList
  | isADirectory => "Is a directory (os error 21)".toList
  | notUtf8 => "stream did not contain valid UTF-8".toList
  | nulInPath => "file name contained an unexpected NUL byte".toList

/-- A path that is at fault, and its fault. -/
abbrev PathError := Text × FileError

/-- What a file holds: text, or bytes that are no UTF-8. -/
inductive Content where
  | text (s : Text)
  | bytes (b : List UInt8)
  deriving DecidableEq, Repr

namespace Content

/-- The content that bytes make up. -/
def ofBytes (b : List UInt8) : Content :=
  match Utf8.decode? b with
  | some s => text s
  | none => bytes b

/-- The bytes of a content. -/
def toBytes : Content → List UInt8
  | text s => Utf8.encode s
  | bytes b => b

/-- One content behind another. -/
def append : Content → Content → Content
  | text a, text b => text (a ++ b)
  | a, b => ofBytes (a.toBytes ++ b.toBytes)

end Content

/-- What a name stands for. -/
inductive Node where
  | directory
  | file (content : Content)
  deriving DecidableEq, Repr

/-- A file or directory with the time of its last change. -/
structure Entry where
  node : Node
  modified : Instant
  deriving DecidableEq, Repr

/-- A place in a file store: the names that lead to it from the root. -/
abbrev Place := List Text

/-- The files that a run sees. -/
structure FileStore where
  entries : List (Place × Entry) := []
  /-- Where relative paths start. -/
  workingDirectory : Place := []
  /-- The time that changes are given. -/
  clock : Instant
  deriving Repr

/-- The answer to a request that takes several changes, and the files that it leaves. A request that
fails on its way leaves what was changed by then. -/
abbrev Attempt (ε α : Type) := Except ε α × FileStore

namespace FileStore

/-- What stands at a place. The root is always a directory. -/
def at? (fs : FileStore) (place : Place) : Option Entry :=
  if place = [] then some ⟨.directory, fs.clock⟩
  else (fs.entries.find? (·.1 == place)).map (·.2)

/-- Whether a directory stands at a place. -/
def requireDirectory (fs : FileStore) (place : Place) : Except FileError Unit :=
  match fs.at? place with
  | some ⟨.directory, _⟩ => .ok ()
  | some ⟨.file _, _⟩ => .error .notADirectory
  | none => .error .notFound

/-- Follows the names of a path from a place. -/
def walk (fs : FileStore) (place : Place) : List Text → Except FileError Place
  | [] => .ok place
  | name :: names => do
    fs.requireDirectory place
    if name = [] ∨ name = ['.'] then fs.walk place names
    else if name = ['.', '.'] then fs.walk place.dropLast names
    else fs.walk (place ++ [name]) names

/-- The place that a path leads to. Nothing has to stand there, but what the path goes through must
be directories; a path that ends in a slash goes through its last name. -/
def locate (fs : FileStore) (path : Text) : Except FileError Place :=
  if path = [] then .error .notFound
  else if path.contains '\x00' then .error .nulInPath
  else match path with
    | '/' :: rest => fs.walk [] (Path.parts rest)
    | _ => fs.walk fs.workingDirectory (Path.parts path)

/-- The entry at a path. -/
def entry (fs : FileStore) (path : Text) : Except FileError Entry := do
  match fs.at? (← fs.locate path) with
  | some e => .ok e
  | none => .error .notFound

/-! ## Questions -/

/-- Whether something stands at a path. -/
def holds (fs : FileStore) (path : Text) : Bool := (fs.entry path).toOption.isSome

/-- Whether a file stands at a path. -/
def isFile (fs : FileStore) (path : Text) : Bool :=
  match fs.entry path with
  | .ok ⟨.file _, _⟩ => true
  | _ => false

/-- Whether a directory stands at a path. -/
def isDirectory (fs : FileStore) (path : Text) : Bool :=
  match fs.entry path with
  | .ok ⟨.directory, _⟩ => true
  | _ => false

/-- When the entry at a path was last changed. -/
def modified (fs : FileStore) (path : Text) : Except FileError Instant :=
  (fs.entry path).map (·.modified)

/-- What the file at a path holds. -/
def read (fs : FileStore) (path : Text) : Except FileError Content := do
  match (← fs.entry path).node with
  | .directory => .error .isADirectory
  | .file c => .ok c

/-- The text of the file at a path. -/
def readText (fs : FileStore) (path : Text) : Except FileError Text := do
  match ← fs.read path with
  | .text s => .ok s
  | .bytes _ => .error .notUtf8

/-! ## Changes -/

/-- Puts an entry at a place, in the stead of the one that stands there. -/
def set (fs : FileStore) (place : Place) (e : Entry) : FileStore :=
  { fs with entries := (place, e) :: fs.entries.filter (·.1 ≠ place) }

/-- A path without the slashes at its end. -/
def withoutEndSlash (path : Text) : Text :=
  if path.all (· == '/') then path else Text.trimEnd (· == '/') path

/-- Makes a directory; its parent must be one. -/
def createDir (fs : FileStore) (path : Text) : Except FileError FileStore := do
  let place ← fs.locate (withoutEndSlash path)
  match fs.at? place with
  | some _ => .error .fileExists
  | none => .ok (fs.set place ⟨.directory, fs.clock⟩)

/-- The answer when a directory cannot be made: a directory that is there already will do. -/
def makingFailed (fs : FileStore) (path : Text) (e : FileError) : Except FileError Unit :=
  if fs.isDirectory path then .ok () else .error e

/-- Makes a directory and the ones above it that are missing; `steps` bounds how many are made. -/
def createDirs (fs : FileStore) : Nat → Text → Attempt FileError Unit
  | 0, _ => (.error .notFound, fs)
  | steps + 1, path =>
    if path = [] then (.ok (), fs)
    else match fs.createDir path with
      | .ok fs => (.ok (), fs)
      | .error .notFound =>
        match Path.parent? path with
        | none => (.error .notFound, fs)
        | some parent =>
          match fs.createDirs steps parent with
          | (.error e, fs) => (.error e, fs)
          | (.ok (), fs) =>
            match fs.createDir path with
            | .ok fs => (.ok (), fs)
            | .error e => (fs.makingFailed path e, fs)
      | .error e => (fs.makingFailed path e, fs)

/-- Makes a directory and the ones above it that are missing. -/
def createDirAll (fs : FileStore) (path : Text) : Attempt FileError Unit :=
  fs.createDirs (path.length + 1) path

/-- Puts a content into a file, which is made if it is missing. A path that ends in a slash can only
mean a directory. -/
def update (fs : FileStore) (path : Text) (f : Option Content → Content) :
    Except FileError FileStore := do
  let place ← fs.locate (withoutEndSlash path)
  if path.getLast? = some '/' then throw .isADirectory
  match fs.at? place with
  | some ⟨.directory, _⟩ => .error .isADirectory
  | some ⟨.file c, _⟩ => .ok (fs.set place ⟨.file (f (some c)), fs.clock⟩)
  | none => .ok (fs.set place ⟨.file (f none), fs.clock⟩)

/-- Writes a file, in the stead of what it held. -/
def write (fs : FileStore) (path : Text) (c : Content) : Except FileError FileStore :=
  fs.update path fun _ => c

/-- Adds to the end of a file, which is made if it is missing. -/
def append (fs : FileStore) (path : Text) (c : Content) : Except FileError FileStore :=
  fs.update path fun old => (old.getD (.text [])).append c

/-- Sets the time of the last change of an entry. -/
def touch (fs : FileStore) (path : Text) (t : Instant) : Except FileError FileStore := do
  let place ← fs.locate path
  match fs.at? place with
  | some e => .ok (fs.set place { e with modified := t })
  | none => .error .notFound

/-- Takes a file out of the store. -/
def remove (fs : FileStore) (path : Text) : Except FileError FileStore := do
  let place ← fs.locate path
  match fs.at? place with
  | some ⟨.file _, _⟩ => .ok { fs with entries := fs.entries.filter (·.1 ≠ place) }
  | some ⟨.directory, _⟩ => .error .isADirectory
  | none => .error .notFound

end FileStore

end TemplateTrace
