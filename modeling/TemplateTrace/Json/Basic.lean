import TemplateTrace.Text.Decimal

/-!
# JSON values

A JSON value keeps what its readers can tell apart: the fields of an object in order and with
repeated names, a number in plain digits apart from any other number, and what is well formed and
yet writes no text, because it holds half of a surrogate pair.

- `Json`: the values.
- `Json.compact`: a value on one line without blanks.
- `Json.pretty`: a value over several lines, indented by two blanks a level.
- `Json.quote`: a text as a JSON string.
-/

namespace TemplateTrace

/-- A JSON value. -/
inductive Json where
  | null
  | bool (b : Bool)
  /-- A number written in digits alone. -/
  | nat (n : Nat)
  /-- Any other number, as it is written. -/
  | number (literal : Text)
  | string (s : Text)
  /-- A string with half of a surrogate pair, or an object with such a name. -/
  | broken
  | array (items : List Json)
  | object (fields : List (Text × Json))
  deriving Inhabited, Repr

namespace Json

/-! ## Strings -/

/-- The hexadecimal digits of a number, lower case, padded to four. -/
def hex4 (n : Nat) : Text :=
  let ds := Nat.toDigits 16 n
  List.replicate (4 - ds.length) '0' ++ ds

/-- A character inside a JSON string: quotes, backslashes and controls are escaped, and nothing
else is. -/
def escape (c : Char) : Text :=
  match c with
  | '"' => ['\\', '"']
  | '\\' => ['\\', '\\']
  | '\n' => ['\\', 'n']
  | '\r' => ['\\', 'r']
  | '\t' => ['\\', 't']
  | '\x08' => ['\\', 'b']
  | '\x0c' => ['\\', 'f']
  | c => if c.toNat < 32 then '\\' :: 'u' :: hex4 c.toNat else [c]

/-- A text as a JSON string. -/
def quote (s : Text) : Text := '"' :: s.flatMap escape ++ ['"']

/-! ## Values -/

mutual

/-- A value on one line without blanks. -/
def compact : Json → Text
  | null => "null".toList
  | bool true => "true".toList
  | bool false => "false".toList
  | nat n => Text.decimal n
  | number l => l
  | string s => quote s
  | broken => quote []
  | array vs => '[' :: compactItems vs ++ [']']
  | object fs => '{' :: compactFields fs ++ ['}']

/-- Values with commas between them. -/
def compactItems : List Json → Text
  | [] => []
  | [v] => compact v
  | v :: vs => compact v ++ ',' :: compactItems vs

/-- Fields with commas between them. -/
def compactFields : List (Text × Json) → Text
  | [] => []
  | [(k, v)] => quote k ++ ':' :: compact v
  | (k, v) :: fs => quote k ++ ':' :: compact v ++ ',' :: compactFields fs

end

/-- The start of a line at an indentation level. -/
def indentation (level : Nat) : Text := '\n' :: List.replicate (2 * level) ' '

mutual

/-- A value over several lines at an indentation level; empty arrays and objects stay closed. -/
def prettyAt (level : Nat) : Json → Text
  | array (v :: vs) =>
    '[' :: prettyItems (level + 1) (v :: vs) ++ indentation level ++ [']']
  | object (f :: fs) =>
    '{' :: prettyFields (level + 1) (f :: fs) ++ indentation level ++ ['}']
  | v => compact v

/-- Values on lines of their own. -/
def prettyItems (level : Nat) : List Json → Text
  | [] => []
  | [v] => indentation level ++ prettyAt level v
  | v :: vs => indentation level ++ prettyAt level v ++ ',' :: prettyItems level vs

/-- Fields on lines of their own. -/
def prettyFields (level : Nat) : List (Text × Json) → Text
  | [] => []
  | [(k, v)] => indentation level ++ quote k ++ ": ".toList ++ prettyAt level v
  | (k, v) :: fs =>
    indentation level ++ quote k ++ ": ".toList ++ prettyAt level v ++
      ',' :: prettyFields level fs

end

/-- A value over several lines. -/
def pretty (v : Json) : Text := prettyAt 0 v

/-- The string of a text, or `null`. -/
def ofText? : Option Text → Json
  | some s => string s
  | none => null

end Json

end TemplateTrace
