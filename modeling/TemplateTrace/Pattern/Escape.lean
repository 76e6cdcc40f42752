import TemplateTrace.Pattern.Flags
import TemplateTrace.Unicode.Property

/-!
# Escapes

A backslash gives letters a meaning of their own and takes it from punctuation.

- `Escape`: what an escape can stand for.
- `Escape.read?`: the escape at the start of a text.
-/

namespace TemplateTrace

namespace Pattern

/-- What an escape stands for. -/
inductive Escape where
  | letter (c : Char)
  | set (k : CodeSet)
  | assert (a : Assertion)
  deriving DecidableEq, Repr

/-- The character with a number. -/
def charOf? (n : Nat) : Option Char := if n.isValidChar then some (Char.ofNat n) else none

namespace Escape

/-- A character by its number: in braces, or with `width` digits. Without Unicode, two digits stand
for a byte, and no byte beyond ASCII is a character. -/
def numbered? (f : Flags) (width : Nat) (s : Text) : Option (Escape × Text) :=
  match f.skip s with
  | '{' :: r =>
    match f.gather (· != '}') r with
    | (ds, '}' :: r) => ((Text.hexNumber? ds).bind charOf?).map fun c => (letter c, r)
    | _ => none
  | r => do
    let (ds, r) ← f.take? width r
    let n ← Text.hexNumber? ds
    if f.isAscii ∧ width = 2 ∧ 128 ≤ n then none
    return (letter (← charOf? n), r)

/-- Whether the set of a property is negated, and the set. Between a property and its value stands
`=`, `:` or, for all characters with other values, `!=`. -/
def property? (name : Text) : Option (Bool × CodeSet) :=
  match Text.breakOn? "!=".toList name with
  | some (name, value) => (Unicode.valued? name value).map (true, ·)
  | none =>
    match Text.breakOn? [':'] name <|> Text.breakOn? ['='] name with
    | some (name, value) => (Unicode.valued? name value).map (false, ·)
    | none => (Unicode.named? name).map (false, ·)

/-- The characters of a property: a letter, or a name in braces. -/
def propertySet? (f : Flags) (isNegated : Bool) (s : Text) : Option (Escape × Text) := do
  let (name, r) ← match f.skip s with
    | '{' :: r =>
      match f.gather (· != '}') r with
      | (name, '}' :: r) => some (name, r)
      | _ => none
    | '\\' :: _ => none
    | c :: r => some ([c], r)
    | [] => none
  if f.isAscii then none
  let (isOther, k) ← property? name
  return (set (← f.finish? (isNegated != isOther) k), r)

/-- The edge of a word with a name. -/
def edge? (name : Text) : Option WordEdge :=
  match String.ofList name with
  | "start" => some .start
  | "end" => some .finish
  | "start-half" => some .startHalf
  | "end-half" => some .endHalf
  | _ => none

/-- An edge of a word, whose name may follow in braces. Braces around anything but letters and
hyphens repeat. -/
def wordEdge? (f : Flags) (s : Text) : Option (WordEdge × Text) :=
  let isNameChar (c : Char) : Bool := c.isAlpha || c == '-'
  match s with
  | '{' :: r =>
    match f.skip r with
    | [] => none
    | c :: _ =>
      if isNameChar c then
        match f.gather isNameChar r with
        | (name, '}' :: r) => (edge? name).map (·, r)
        | _ => none
      else some (.boundary, s)
  | _ => some (.boundary, s)

/-- The escape at the start of a text, behind its backslash. -/
def read? (f : Flags) : Text → Option (Escape × Text)
  | [] => none
  | c :: s =>
    let word (edge : WordEdge) : Escape := assert (.word edge f.isAscii)
    match c with
    | 'x' => numbered? f 2 s
    | 'u' => numbered? f 4 s
    | 'U' => numbered? f 8 s
    | 'p' => propertySet? f false s
    | 'P' => propertySet? f true s
    | 'a' => some (letter '\x07', s)
    | 'f' => some (letter '\x0c', s)
    | 't' => some (letter '\t', s)
    | 'n' => some (letter '\n', s)
    | 'r' => some (letter '\r', s)
    | 'v' => some (letter '\x0b', s)
    | 'A' => some (assert .textStart, s)
    | 'z' => some (assert .textEnd, s)
    | 'b' => (wordEdge? f s).map fun (edge, r) => (word edge, r)
    | 'B' => some (word .noBoundary, s)
    | '<' => some (word .start, s)
    | '>' => some (word .finish, s)
    | c =>
      if "dswDSW".toList.contains c then (f.class? c).map fun k => (set k, s)
      else if c.toNat < 128 ∧ ¬ c.isAlphanum then some (letter c, s)
      else none

end Escape

end Pattern

end TemplateTrace
