import TemplateTrace.Yaml.Scalar

/-!
# YAML properties

A value may be given a name, its anchor, by which aliases refer to it, and a tag, which names its
type. A tag has a handle, which stands for the start of a longer name, and a suffix. Directives in
front of a document name the version of the language and the meanings of handles.

- `name?`: the name of an anchor or alias.
- `uri?`: the name of a type, in which octets may be written by their numbers.
- `tag?`: a tag.
- `Directive`, `directive?`: a directive.
-/

namespace TemplateTrace

namespace Yaml

/-- A character of a name. -/
def isNameChar (c : Char) : Bool := c.isAlphanum || c == '-' || c == '_'

/-- The name of an anchor or alias, read from behind its sign. -/
def name? (s : Text) : Option (Text × Text) :=
  let name := s.takeWhile isNameChar
  let r := s.dropWhile isNameChar
  if name ≠ [] ∧ (isApart r ∨ r.head?.any "?:,]\x7d%@`".toList.contains) then some (name, r)
  else none

/-! ## Tags -/

/-- A character of a tag that stands for itself; between angle brackets there are some more. -/
def isTagChar (isVerbatim : Bool) (c : Char) : Bool :=
  isNameChar c || ";/?:@&=+$.!~*'()".toList.contains c || (isVerbatim && ",[]".toList.contains c)

/-- How many octets are owed behind an octet, when `owed` were owed in front of it: an octet starts
a character in UTF-8 or goes on with one. -/
def owedBehind? (owed octet : Nat) : Option Nat :=
  if 0 < owed then if 0x80 ≤ octet ∧ octet < 0xc0 then some (owed - 1) else none
  else if octet < 0x80 then some 0
  else if 0xc0 ≤ octet ∧ octet < 0xe0 then some 1
  else if 0xe0 ≤ octet ∧ octet < 0xf0 then some 2
  else if 0xf0 ≤ octet ∧ octet < 0xf8 then some 3
  else none

/-- The characters of a tag at the start of a text, and the text behind them. A percent sign and
two digits write an octet. -/
def uriFrom (isVerbatim : Bool) (owed : Nat) : Text → Option (Text × Text)
  | [] => if owed = 0 then some ([], []) else none
  | '%' :: a :: b :: s => do
    let octet := (← Text.hexValue? a) * 16 + (← Text.hexValue? b)
    let (t, r) ← uriFrom isVerbatim (← owedBehind? owed octet) s
    return (Char.ofNat octet :: t, r)
  | c :: s =>
    if owed ≠ 0 ∨ c = '%' then none
    else if isTagChar isVerbatim c then
      (uriFrom isVerbatim 0 s).map fun (t, r) => (c :: t, r)
    else some ([], c :: s)

/-- The name of a type, which may not be empty. -/
def uri? (isVerbatim : Bool) (s : Text) : Option (Text × Text) :=
  (uriFrom isVerbatim 0 s).filter (·.1 ≠ [])

/-- The handle and the suffix of a tag, read from behind its exclamation mark. A name between angle
brackets has no handle, nor has a tag that is an exclamation mark alone. -/
def tag? (inFlow : Bool) (s : Text) : Option ((Text × Text) × Text) := do
  let (tag, r) ← match s with
    | '<' :: s => do
      let (uri, r) ← uri? true s
      match r with
      | '>' :: r => some (([], uri), r)
      | _ => none
    | s =>
      let word := s.takeWhile isNameChar
      match s.dropWhile isNameChar with
      | '!' :: r => (uri? false r).map fun (uri, r) => (('!' :: word ++ ['!'], uri), r)
      | r => do
        let (uri, r) ← uriFrom false 0 r
        some (if word ++ uri = [] then ([], ['!']) else (['!'], word ++ uri), r)
  if isApart r ∨ (inFlow ∧ r.head? = some ',') then some (tag, r) else none

/-! ## Directives -/

/-- What stands in front of a document. -/
inductive Directive where
  | version (major minor : Nat)
  | handle (name uri : Text)
  deriving DecidableEq, Repr

/-- A part of a version, of nine digits at most. -/
def versionPart? (s : Text) : Option (Nat × Text) :=
  let ds := s.takeWhile Char.isDigit
  if ds = [] ∨ 9 < ds.length then none
  else some (Text.appendDigits 0 ds, s.dropWhile Char.isDigit)

/-- The version of the language, behind the name of its directive. -/
def version? (s : Text) : Option (Directive × Text) := do
  let (major, r) ← versionPart? (s.dropWhile isSpace)
  let r ← Text.after? ['.'] r
  let (minor, r) ← versionPart? r
  return (.version major minor, r)

/-- A handle and its meaning, behind the name of their directive. -/
def handle? (s : Text) : Option (Directive × Text) := do
  let r ← Text.after? ['!'] (s.dropWhile isSpace)
  let word := r.takeWhile isNameChar
  let r := r.dropWhile isNameChar
  let (handle, r) ← match r with
    | '!' :: r => some ('!' :: word ++ ['!'], r)
    | r => if word = [] then some (['!'], r) else none
  if r.head?.any isSpace then
    let (uri, r) ← uri? true (r.dropWhile isSpace)
    if isApart r then some (.handle handle uri, r) else none
  else none

/-- A directive, read from behind its percent sign, and the text below it. -/
def directive? (s : Text) : Option (Directive × Text) := do
  let name := s.takeWhile isNameChar
  let r := s.dropWhile isNameChar
  let (d, r) ←
    if !isApart r then none
    else match String.ofList name with
      | "YAML" => version? r
      | "TAG" => handle? r
      | _ => none
  return (d, ← nextLine? r)

end Yaml

end TemplateTrace
