import TemplateTrace.Pattern.Compose
import TemplateTrace.Text.Blank
import TemplateTrace.Unicode.Fold

/-!
# Flags

Flags say how the notation of patterns is read from a place on: which characters a letter, a dot or
a class stands for, and whether blanks and comments are passed over.

- `Flags`: the flags in force at a place.
- `Flags.skip`, `Flags.gather`, `Flags.take?`: reading on without what is passed over.
- `Flags.finish?`, `Flags.letter`, `Flags.dot?`, `Flags.class?`: what the notation stands for.
- `Flags.read?`: flags switched on and off.
-/

namespace TemplateTrace

namespace Pattern

/-- The flags in force at a place. -/
structure Flags where
  anyCase : Bool := false
  /-- Whether `^` and `$` stand at each line, and not for the whole text. -/
  multiLine : Bool := false
  /-- Whether a dot stands for the ends of lines, too. -/
  dotAll : Bool := false
  /-- Whether carriage returns end lines, too. -/
  withReturns : Bool := false
  /-- Whether classes, words and the case of letters are those of ASCII. -/
  isAscii : Bool := false
  /-- Whether blanks and comments are passed over. -/
  isVerbose : Bool := false
  deriving DecidableEq, Repr

namespace Flags

/-! ## Blanks and comments -/

/-- A text without the blanks and comments that verbose notation has at its start. A comment goes
from a number sign to the end of a line. -/
def skipFrom (isComment : Bool) : Text → Text
  | [] => []
  | c :: s =>
    if isComment then skipFrom (c != '\n') s
    else if c = '#' then skipFrom true s
    else if Text.isBlank c then skipFrom false s
    else c :: s

/-- A text without the blanks and comments at its start that are passed over. -/
def skip (f : Flags) (s : Text) : Text := if f.isVerbose then skipFrom false s else s

/-- The characters at the start of a text that satisfy `p`, without the blanks and comments that
are passed over, and the text behind. -/
def gatherFrom (f : Flags) (p : Char → Bool) (isComment : Bool) : Text → Text × Text
  | [] => ([], [])
  | c :: s =>
    if isComment then gatherFrom f p (c != '\n') s
    else if f.isVerbose && c == '#' then gatherFrom f p true s
    else if f.isVerbose && Text.isBlank c then gatherFrom f p false s
    else if p c then
      let (t, r) := gatherFrom f p false s
      (c :: t, r)
    else ([], c :: s)

/-- The characters at the start of a text that satisfy `p`, and the text behind. -/
def gather (f : Flags) (p : Char → Bool) (s : Text) : Text × Text := gatherFrom f p false s

/-- The next `n` characters of a text, and the text behind. -/
def take? (f : Flags) : Nat → Text → Option (Text × Text)
  | 0, s => some ([], f.skip s)
  | n + 1, s =>
    match f.skip s with
    | [] => none
    | c :: r => (f.take? n r).map fun (t, r) => (c :: t, r)

/-! ## Sets -/

/-- A set with what differs from its members by case, if case does not matter. -/
def fold (f : Flags) (k : CodeSet) : CodeSet :=
  if f.anyCase then if f.isAscii then k.anyAsciiCase else k.anyCase else k

/-- The set that a class stands for. A class is negated after case has been taken care of; without
Unicode there are no negated classes, since bytes outside ASCII are parts of characters. -/
def finish? (f : Flags) (isNegated : Bool) (k : CodeSet) : Option CodeSet :=
  if isNegated then if f.isAscii then none else some (f.fold k).compl else some (f.fold k)

/-- The pattern of a letter that stands for itself. -/
def letter (f : Flags) (c : Char) : Pattern := ofSet (f.fold (.single c))

/-- What a dot stands for. -/
def dot? (f : Flags) : Option CodeSet :=
  if f.isAscii then none
  else if f.dotAll then some .all
  else if f.withReturns then some (CodeSet.ofText "a d").compl
  else some (CodeSet.ofText "a").compl

/-- The decimal digits. -/
def digits : CodeSet := .ofRanges ((CodeSet.ofText "30-39").ranges ++ Text.digitRanges)

/-- The characters of words. -/
def wordCharacters : CodeSet :=
  .ofRanges ((CodeSet.ofText "30-39 41-5a 5f 61-7a").ranges ++ Text.wordRanges)

/-- The blanks. -/
def blanks : CodeSet := .ofText "9-d 20 85 a0 1680 2000-200a 2028-2029 202f 205f 3000"

/-- The class of a letter behind a backslash, in its lower case. -/
def positive? (f : Flags) : Char → Option CodeSet
  | 'd' => some (if f.isAscii then .ofText "30-39" else digits)
  | 's' => some (if f.isAscii then .ofText "9-d 20" else blanks)
  | 'w' => some (if f.isAscii then .ofText "30-39 41-5a 5f 61-7a" else wordCharacters)
  | _ => none

/-- The class of a letter behind a backslash, negated if the letter is a capital; case does not
matter to it. -/
def class? (f : Flags) (c : Char) : Option CodeSet :=
  (f.positive? c.toLower).bind fun k => { f with anyCase := false }.finish? c.isUpper k

/-! ## Switching flags -/

/-- The flags after one of them is switched on or off. The flag `U`, which swaps the preference of
repetitions for long and for short matches, does not change where a pattern occurs. -/
def switch? (f : Flags) (isOn : Bool) : Char → Option Flags
  | 'i' => some { f with anyCase := isOn }
  | 'm' => some { f with multiLine := isOn }
  | 's' => some { f with dotAll := isOn }
  | 'R' => some { f with withReturns := isOn }
  | 'u' => some { f with isAscii := !isOn }
  | 'x' => some { f with isVerbose := isOn }
  | 'U' => some f
  | _ => none

/-- The flags after those that a text switches, up to a closing bracket or a colon, which of the two
it is, and the text behind it. Each flag is named once, those behind a hyphen are switched off, and
flags alone are not empty; `seen` holds what has been read, the latest first. -/
def read? (f : Flags) (seen : Text) : Text → Option (Flags × Char × Text)
  | [] => none
  | c :: s =>
    if c = ')' ∨ c = ':' then
      if seen.head? = some '-' ∨ c = ')' ∧ seen = [] then none else some (f, c, s)
    else if seen.contains c then none
    else if c = '-' then f.read? (c :: seen) s
    else (f.switch? (!seen.contains '-') c).bind fun f => f.read? (c :: seen) s

end Flags

end Pattern

end TemplateTrace
