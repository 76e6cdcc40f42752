import TemplateTrace.CommandLine.Run

/-!
# The program

The outer layer: it takes the files that a run can see into a store, runs the command line on them,
prints, and writes the changed files back.

- `Files.load`, `Files.save`: between the system's files and a store.
- `main`: the program.
-/

namespace TemplateTrace

namespace Files

/-- The time of a change. -/
def instantOf (t : IO.FS.SystemTime) : Instant := ⟨t.sec, t.nsec.toNat⟩

/-- The present time, by a file that is made and taken away again. -/
def now : IO Instant := do
  let (_, path) ← IO.FS.createTempFile
  let time := instantOf (← path.metadata).modified
  IO.FS.removeFile path
  return time

/-- The path of a place. -/
def pathOf (place : Place) : String := String.ofList ('/' :: Text.joinWith ['/'] place)

/-- Adds an entry that the store does not have yet. -/
def add (fs : FileStore) (place : Place) (e : Entry) : FileStore :=
  if (fs.at? place).isSome then fs else { fs with entries := (place, e) :: fs.entries }

/-- Adds what stands at a place, with all that is below it. -/
partial def loadPlace (fs : FileStore) (place : Place) : IO FileStore := do
  try
    let here ← IO.FS.realPath (pathOf place)
    let data ← here.metadata
    let time := instantOf data.modified
    match data.type with
    | .dir =>
      let mut fs := add fs place ⟨.directory, time⟩
      for e in ← here.readDir do
        fs ← loadPlace fs (place ++ [e.fileName.toList])
      return fs
    | .file => return add fs place ⟨.file (.ofBytes (← IO.FS.readBinFile here).toList), time⟩
    | _ => return fs
  catch _ => return fs

/-- Adds what stands at a path, with all that is below it and the directories above it. -/
def load (fs : FileStore) (path : Text) : IO FileStore := do
  let place := ((Path.parts path).filter (· ≠ []))
  let place := if Path.isAbsolute path then place else fs.workingDirectory ++ place
  let above := (List.range place.length).foldl
    (fun fs n => add fs (place.take n) ⟨.directory, fs.clock⟩) fs
  loadPlace above place

/-- Writes the entries that were changed since `before`. -/
def save (before after : FileStore) : IO Unit := do
  for (place, e) in after.entries.reverse do
    if before.at? place != some e then
      match e.node with
      | .directory => IO.FS.createDirAll (pathOf place)
      | .file c =>
        IO.FS.createDirAll (pathOf place.dropLast)
        IO.FS.writeBinFile (pathOf place) (ByteArray.mk c.toBytes.toArray)

end Files

/-- The paths outside the working directory that settings name. -/
def Config.outerPaths (c : Config) : List Text :=
  (c.scratchDir :: c.viewPaths ++ c.namespaces.entries.flatMap (·.2)).filter Path.isAbsolute

/-- Runs with more and more steps until the run ends. -/
partial def runToEnd (steps : Nat) (fs : FileStore) (environment : Option Text)
    (arguments : List Text) : IO (Exit × FileStore) := do
  match commandLine steps fs environment arguments with
  | some r => return r
  | none => runToEnd (4 * steps) fs environment arguments

/-- The files that a run with the given arguments can see. -/
def visibleFiles (environment : Option Text) (arguments : List Text) : IO FileStore := do
  let here := (← IO.currentDir).toString.toList
  let fs : FileStore :=
    { clock := ← Files.now, workingDirectory := (Path.parts here).filter (· ≠ []) }
  let fs ← Files.load fs here
  match Invocation.read environment arguments with
  | .error _ => return fs
  | .ok i =>
    let file := Config.file? fs i.settings
    let fs ← (file.toList.filter Path.isAbsolute).foldlM Files.load fs
    match Config.load fs file with
    | .error _ => return fs
    | .ok c => c.outerPaths.foldlM Files.load fs

end TemplateTrace

open TemplateTrace in
/-- The program. -/
def main (arguments : List String) : IO UInt32 := do
  let arguments := arguments.map String.toList
  let environment := (← IO.getEnv "BLADE_LENS_CONFIG").map String.toList
  let fs ← visibleFiles environment arguments
  let (exit, after) ← runToEnd 100000 fs environment arguments
  Files.save fs after
  (← IO.getStdout).putStr (String.ofList exit.out)
  (← IO.getStderr).putStr (String.ofList exit.complaint)
  return UInt32.ofNat exit.code
