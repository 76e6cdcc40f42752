import TemplateTrace.Json.Basic
import TemplateTrace.Text.Blank
import TemplateTrace.Text.Hexadecimal

/-!
# Reading JSON

The strict grammar: no comments, no trailing commas, no leading zeros, no raw controls in strings.

- `Json.stringParts?`: the characters and the escaped UTF-16 units of a string.
- `Json.joinParts?`: the text that they write, when no surrogate stands alone.
- `Json.value?`: the value at the start of a text, and the text behind it.
- `Json.parse?`: the value that a whole text writes.
-/

namespace TemplateTrace

namespace Json

/-! ## Strings -/

/-- A part of a string: a character, or a UTF-16 unit written `\uXXXX`. -/
inductive StringPart where
  | char (c : Char)
  | unit (n : Nat)

/-- The character behind a one-letter escape. -/
def unescape? : Char → Option Char
  | '"' => some '"'
  | '\\' => some '\\'
  | '/' => some '/'
  | 'b' => some '\x08'
  | 'f' => some '\x0c'
  | 'n' => some '\n'
  | 'r' => some '\r'
  | 't' => some '\t'
  | _ => none

/-- The parts of a string and the text behind its closing quote, read from behind the opening
one. -/
def stringParts? : Text → Option (List StringPart × Text)
  | [] => none
  | '"' :: s => some ([], s)
  | '\\' :: 'u' :: a :: b :: c :: d :: s => do
    let n ← Text.hexNumber? [a, b, c, d]
    let (ps, r) ← stringParts? s
    return (.unit n :: ps, r)
  | '\\' :: e :: s => do
    let c ← unescape? e
    let (ps, r) ← stringParts? s
    return (.char c :: ps, r)
  | c :: s =>
    if c.toNat < 32 then none
    else (stringParts? s).map fun (ps, r) => (.char c :: ps, r)

/-- A first half of a surrogate pair. -/
def isHighSurrogate (n : Nat) : Bool := 0xd800 ≤ n && n < 0xdc00

/-- A second half of a surrogate pair. -/
def isLowSurrogate (n : Nat) : Bool := 0xdc00 ≤ n && n < 0xe000

/-- The text that the parts of a string write. Surrogates count in pairs only. -/
def joinParts? : List StringPart → Option Text
  | [] => some []
  | .char c :: ps => (joinParts? ps).map (c :: ·)
  | .unit n :: ps =>
    if isHighSurrogate n then
      match ps with
      | .unit m :: qs =>
        if isLowSurrogate m then
          (joinParts? qs).map (Char.ofNat (0x10000 + (n - 0xd800) * 0x400 + (m - 0xdc00)) :: ·)
        else none
      | _ => none
    else if isLowSurrogate n then none
    else (joinParts? ps).map (Char.ofNat n :: ·)

/-! ## Numbers -/

/-- The digits at the start of a text, at least one, and the text behind them. -/
def digits? (s : Text) : Option (Text × Text) :=
  match s.takeWhile Char.isDigit with
  | [] => none
  | ds => some (ds, s.dropWhile Char.isDigit)

/-- The fraction at the start of a text, if there is a point. -/
def fraction? : Text → Option (Text × Text)
  | '.' :: s => (digits? s).map fun (ds, r) => ('.' :: ds, r)
  | s => some ([], s)

/-- The exponent at the start of a text, if there is an `e`. -/
def exponent? : Text → Option (Text × Text)
  | [] => some ([], [])
  | e :: s =>
    if e = 'e' ∨ e = 'E' then
      match s with
      | '+' :: s => (digits? s).map fun (ds, r) => (e :: '+' :: ds, r)
      | '-' :: s => (digits? s).map fun (ds, r) => (e :: '-' :: ds, r)
      | s => (digits? s).map fun (ds, r) => (e :: ds, r)
    else some ([], e :: s)

/-- The number without a sign at the start of a text: its digits, the rest of its literal, and
the text behind it. -/
def unsigned? (s : Text) : Option (Text × Text × Text) := do
  let (ds, r) ← match s with
    | '0' :: r => some (['0'], r)
    | _ => digits? s
  let (f, r) ← fraction? r
  let (e, r) ← exponent? r
  return (ds, f ++ e, r)

/-- The number at the start of a text. -/
def number? : Text → Option (Json × Text)
  | '-' :: s => (unsigned? s).map fun (ds, l, r) => (.number ('-' :: ds ++ l), r)
  | s => (unsigned? s).map fun (ds, l, r) =>
    (if l = [] then .nat (Text.appendDigits 0 ds) else .number (ds ++ l), r)

/-! ## Values -/

/-- The object with the given fields, if all their names are texts. -/
def ofFields (fs : List (Option Text × Json)) : Json :=
  (fs.mapM fun (f : Option Text × Json) => f.1.map (·, f.2)).elim broken object

/-- A text without the blanks at its start. -/
abbrev skip (s : Text) : Text := s.dropWhile Text.isAsciiBlank

mutual

/-- The value at the start of a text, and the text behind it. The first argument bounds the
calls; twice the length of the text suffices. -/
def value? : Nat → Text → Option (Json × Text)
  | 0, _ => none
  | n + 1, s =>
    match s with
    | 'n' :: 'u' :: 'l' :: 'l' :: r => some (.null, r)
    | 't' :: 'r' :: 'u' :: 'e' :: r => some (.bool true, r)
    | 'f' :: 'a' :: 'l' :: 's' :: 'e' :: r => some (.bool false, r)
    | '"' :: r =>
      (stringParts? r).map fun (ps, r) => ((joinParts? ps).elim broken string, r)
    | '[' :: r =>
      match skip r with
      | ']' :: r => some (.array [], r)
      | r => (items? n r).map fun (vs, r) => (.array vs, r)
    | '{' :: r =>
      match skip r with
      | '}' :: r => some (.object [], r)
      | r => (fields? n r).map fun (fs, r) => (ofFields fs, r)
    | s => number? s

/-- The items of an array up to its closing bracket, at least one. -/
def items? : Nat → Text → Option (List Json × Text)
  | 0, _ => none
  | n + 1, s => do
    let (v, r) ← value? n (skip s)
    match skip r with
    | ',' :: r =>
      let (vs, r) ← items? n r
      some (v :: vs, r)
    | ']' :: r => some ([v], r)
    | _ => none

/-- The fields of an object up to its closing brace, at least one. -/
def fields? : Nat → Text → Option (List (Option Text × Json) × Text)
  | 0, _ => none
  | n + 1, s =>
    match skip s with
    | '"' :: r => do
      let (ps, r) ← stringParts? r
      let k := joinParts? ps
      match skip r with
      | ':' :: r =>
        let (v, r) ← value? n (skip r)
        match skip r with
        | ',' :: r =>
          let (fs, r) ← fields? n r
          some ((k, v) :: fs, r)
        | '}' :: r => some ([(k, v)], r)
        | _ => none
      | _ => none
    | _ => none

end

/-- The value that a whole text writes, with blanks around it. -/
def parse? (s : Text) : Option Json := do
  let (v, r) ← value? (2 * s.length + 1) (skip s)
  if skip r = [] then some v else none

end Json

end TemplateTrace
