import TemplateTrace.Text.Decimal
import TemplateTrace.Text.Hexadecimal

/-!
# YAML values

A YAML value keeps of its scalars what readers can tell apart: the text, the style in which it was
written, and its tag. Only a plain scalar can stand for nothing, and only a plain one, or a block
with a tag that says so, for a number. An alias stays in the value as the number of what it stands
for.

- `Yaml`: the values.
- `Yaml.isNull`, `Yaml.word64?`: the scalars that stand for nothing and for a number.
-/

namespace TemplateTrace

namespace Yaml

/-- How a scalar is written. -/
inductive Style where
  | plain
  | quoted
  /-- A block that keeps its lines. -/
  | literal
  /-- A block that joins its lines. -/
  | folded
  deriving DecidableEq, Repr

end Yaml

/-- A YAML value. The octets of a tag are kept as the first 256 characters. -/
inductive Yaml where
  | scalar (text : Text) (style : Yaml.Style) (tag : Option Text)
  | sequence (items : List Yaml)
  | mapping (entries : List (Yaml × Yaml))
  /-- What stands for the value with a number. -/
  | alias (number : Nat)
  deriving Inhabited, Repr

namespace Yaml

/-- The scalar that stands where nothing is written. -/
def empty : Yaml := scalar [] .plain none

/-- Whether a value is a plain scalar without text. -/
def isEmpty : Yaml → Bool
  | scalar [] .plain _ => true
  | _ => false

/-- The tag of a type that the language itself knows. -/
def coreTag (name : String) : Text := "tag:yaml.org,2002:".toList ++ name.toList

/-- Whether a value stands for nothing. -/
def isNull : Yaml → Bool
  | scalar s .plain tag =>
    let isWord := s == "~".toList || s == "null".toList || s == "Null".toList || s == "NULL".toList
    match tag with
    | none => s == [] || isWord
    | some t => t == coreTag "null" && isWord
  | _ => false

/-! ## Numbers -/

/-- The number that a non-empty text of digits in a base up to 16 writes. -/
def digits? (base : Nat) (s : Text) : Option Nat :=
  if s = [] then none
  else s.foldlM (fun n c => ((Text.hexValue? c).filter (· < base)).map (n * base + ·)) 0

/-- The number that a text writes, with or without a plus sign: decimal without leading zeros, or
in the base that `0x`, `0o` or `0b` says. -/
def number? (s : Text) : Option Nat :=
  let s := if s.head? = some '+' then s.tail else s
  match s with
  | '0' :: 'x' :: r => digits? 16 r
  | '0' :: 'o' :: r => digits? 8 r
  | '0' :: 'b' :: r => digits? 2 r
  | '0' :: _ :: _ => none
  | s => digits? 10 s

/-- The number below 2^64 that a scalar writes, plainly or as a block with the tag of integers. -/
def word64? : Yaml → Option Nat
  | scalar s style tag =>
    if style = .plain ∨ (style = .literal ∧ tag = some (coreTag "int")) then
      (number? s).filter (· < UInt64.size)
    else none
  | _ => none

end Yaml

end TemplateTrace
