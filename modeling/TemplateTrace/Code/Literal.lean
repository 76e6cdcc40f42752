import TemplateTrace.Code.Bracket
import TemplateTrace.Text.Blank

/-!
# Literals of host code

String literals are decoded, and array literals are opened.

- `string?`: the value of a text that is exactly one string literal.
- `array?`: the inside of a text that is exactly one array literal, `[…]` or `array(…)`.
- `keyed?`: the key and the value expression of an array item `'key' => value`.
- `quoteSingle`, `quoteDouble`: a text written as a string literal.
-/

namespace TemplateTrace

namespace Code

/-! ## String literals -/

/-- The value of a single-quoted literal and the text behind its closing quote, read from behind
the opening one. Only `\'` and `\\` are escapes; any other backslash stands for itself. -/
def singleQuoted? : Text → Option (Text × Text)
  | [] => none
  | '\'' :: s => some ([], s)
  | '\\' :: '\'' :: s => (singleQuoted? s).map fun (v, r) => ('\'' :: v, r)
  | '\\' :: '\\' :: s => (singleQuoted? s).map fun (v, r) => ('\\' :: v, r)
  | c :: s => (singleQuoted? s).map fun (v, r) => (c :: v, r)

/-- The character that an escape in a double-quoted literal stands for. -/
def escaped? : Char → Option Char
  | 'n' => some '\n'
  | 'r' => some '\r'
  | 't' => some '\t'
  | '\\' => some '\\'
  | '"' => some '"'
  | '$' => some '$'
  | _ => none

/-- The value of a double-quoted literal and the text behind its closing quote, read from behind
the opening one. A backslash in front of anything but an escape stands for itself, and a bare `$`
would start an interpolation, so that the text is no literal. -/
def doubleQuoted? : Text → Option (Text × Text)
  | [] => none
  | '"' :: s => some ([], s)
  | '$' :: _ => none
  | '\\' :: c :: s =>
    match escaped? c with
    | some d => (doubleQuoted? s).map fun (v, r) => (d :: v, r)
    | none => (doubleQuoted? s).map fun (v, r) => ('\\' :: c :: v, r)
  | c :: s => (doubleQuoted? s).map fun (v, r) => (c :: v, r)

/-- The value of the string literal at the start of a text, and the text behind it. -/
def stringAt? : Text → Option (Text × Text)
  | '\'' :: s => singleQuoted? s
  | '"' :: s => doubleQuoted? s
  | _ => none

/-- A text without the ASCII blanks at its start. -/
abbrev skipBlanks (s : Text) : Text := s.dropWhile Text.isAsciiBlank

/-- The value of a text that is exactly one string literal, with ASCII blanks around it. A text
that joins literals, interpolates or calls has no value here. -/
def string? (s : Text) : Option Text := do
  let (v, r) ← stringAt? (skipBlanks s)
  if skipBlanks r = [] then some v else none

/-- A text as a single-quoted literal. -/
def quoteSingle (s : Text) : Text :=
  '\'' :: s.flatMap (fun c => if c == '\'' || c == '\\' then ['\\', c] else [c]) ++ ['\'']

/-- A text as a double-quoted literal. -/
def quoteDouble (s : Text) : Text :=
  '"' :: s.flatMap (fun c => if c == '"' || c == '\\' || c == '$' then ['\\', c] else [c]) ++ ['"']

/-! ## Array literals -/

/-- What follows the word `array` in any case. -/
def afterArrayWord? (s : Text) : Option Text :=
  if (s.take 5).map Char.toLower = "array".toList then some (s.drop 5) else none

/-- The inside of the array literal at the start of a text, and the text behind it. -/
def arrayAt? (s : Text) : Option (Text × Text) :=
  match s with
  | '[' :: _ => enclosed? s
  | _ => do
    let r := skipBlanks (← afterArrayWord? s)
    match r with
    | '(' :: _ => enclosed? r
    | _ => none

/-- The inside of a text that is exactly one array literal, with ASCII blanks around it. -/
def array? (s : Text) : Option Text := do
  let (inner, r) ← arrayAt? (skipBlanks s)
  if skipBlanks r = [] then some inner else none

/-- The literal key and the trimmed value expression of an array item. -/
def keyed? (s : Text) : Option (Text × Text) := do
  let (key, r) ← stringAt? (skipBlanks s)
  let value ← Text.after? "=>".toList (skipBlanks r)
  return (key, Text.strip value)

end Code

end TemplateTrace
