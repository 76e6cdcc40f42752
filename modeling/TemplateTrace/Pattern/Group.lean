import TemplateTrace.Pattern.Flags
import TemplateTrace.Unicode.Binary

/-!
# Starts of groups

A group may have a name, or flags that are in force inside it only. Flags in brackets without
anything else are no group, and are in force up to the end of the group around them.

- `isNameStart`, `isNamePart`: the characters of names.
- `GroupStart.read?`: what an opening bracket starts.
-/

namespace TemplateTrace

namespace Pattern

/-- The letters that Unicode 17 adds. -/
def laterLetters : CodeSet := .ofText
  "88f c5c cdc a7ce-a7cf a7d2 a7d4 a7f1 10940-10959 10ec5-10ec7 10efa-10efb 11b60-11b67
  11db0-11ddb 16ea0-16eb8 16ebb-16ed3 16ff2-16ff6 187f8-187ff 18d09-18d1e 18d80-18df2
  1e6c0-1e6de 1e6e0-1e6f5 1e6fe-1e6ff 2b73a-2b73f 2cea2-2cead 323b0-33479"

/-- The digits that Unicode 17 adds. -/
def laterDigits : CodeSet := .ofText "11de0-11de9"

/-- A character that a name can start with: a letter of any script or a low line. -/
def isNameStart (c : Char) : Bool :=
  c.isAlpha || c == '_' ||
    (128 ≤ c.toNat && (Unicode.alphabetic.has c || laterLetters.has c))

/-- A character that a name can go on with: a letter, a number, a low line, a point or a square
bracket. -/
def isNamePart (c : Char) : Bool :=
  isNameStart c || c.isDigit || c == '.' || c == '[' || c == ']' ||
    (128 ≤ c.toNat && ((Unicode.inCategories ["nd", "nl", "no"]).has c || laterDigits.has c))

/-- A name, and the text behind the closing bracket that follows it. -/
def groupName? (s : Text) : Option (Text × Text) :=
  match s.takeWhile (· != '>'), s.dropWhile (· != '>') with
  | c :: t, _ :: r => if isNameStart c && t.all isNamePart then some (c :: t, r) else none
  | _, _ => none

/-- What an opening bracket starts. -/
inductive GroupStart where
  /-- Nothing but flags. -/
  | flags (f : Flags)
  /-- A group that is not numbered, with its flags. -/
  | plain (f : Flags)
  /-- A group with a number and, maybe, a name. -/
  | numbered (name : Option Text)
  deriving DecidableEq, Repr

/-- What a text behind an opening bracket starts, and the text behind that. -/
def GroupStart.read? (f : Flags) (s : Text) : Option (GroupStart × Text) :=
  match f.skip s with
  | '?' :: 'P' :: '<' :: r => (groupName? r).map fun (name, r) => (numbered (some name), r)
  | '?' :: '<' :: r => (groupName? r).map fun (name, r) => (numbered (some name), r)
  | '?' :: r =>
    (f.read? [] r).map fun (g, ending, r) => (if ending = ':' then plain g else flags g, r)
  | r => some (numbered none, r)

end Pattern

end TemplateTrace
