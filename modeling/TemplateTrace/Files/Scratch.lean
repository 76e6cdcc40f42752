import TemplateTrace.Marker.Basic
import TemplateTrace.Files.Store
import TemplateTrace.Digest.Sha256

/-!
# Scratch files

The checker is given its file below a scratch directory. The file is named by a digest of the
template's path and the stack through which the template was reached, so that two ways to one
template do not share a file. A file is overwritten by every run and left behind.

- `scratchKey`: what the digest is taken of.
- `scratchPath`: the path of a scratch file.
- `FileStore.writeScratch`: writes a scratch file, and makes its directory.
-/

namespace TemplateTrace

/-- What names a scratch file: the template's path, and the stack behind it. -/
def scratchKey (templatePath : Text) (stack : List Frame) : Text := templatePath ++ stackJson stack

/-- The path of a scratch file. -/
def scratchPath (dir templatePath : Text) (stack : List Frame) : Text :=
  Path.join dir
    (Sha256.hex (Utf8.encode (scratchKey templatePath stack)) ++ "-blade-compiled.php".toList)

/-- Writes a scratch file. The answer is its path. -/
def FileStore.writeScratch (fs : FileStore) (dir templatePath : Text) (stack : List Frame)
    (text : Text) : Attempt PathError Text :=
  match fs.createDirAll dir with
  | (.error e, fs) => (.error (dir, e), fs)
  | (.ok (), fs) =>
    let path := scratchPath dir templatePath stack
    match fs.write path (.text text) with
    | .error e => (.error (path, e), fs)
    | .ok fs => (.ok path, fs)

end TemplateTrace
