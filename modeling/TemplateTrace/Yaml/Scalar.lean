import TemplateTrace.Yaml.Basic

/-!
# YAML scalars

A scalar is written plainly, between quotes, or as a block of lines. Plain and quoted scalars may go
over several lines: the blanks around a line break are dropped, a single break reads as a space, and
of several breaks all but the first are kept. The line and paragraph separators of Unicode are line
breaks that are never read as a space.

- `Gap`: the blanks and line breaks between two words of a scalar, and `Gap.text`, their meaning.
- `singleQuoted?`, `doubleQuoted?`, `plain?`: the scalar at the start of a text, and the text
  behind it.
- `block?`: the block at the start of a text, read from behind its `|` or `>`.
-/

namespace TemplateTrace

namespace Yaml

/-- A space or tab. -/
def isSpace (c : Char) : Bool := c == ' ' || c == '\t'

/-- A line break. -/
def isBreak (c : Char) : Bool := c == '\n' || c == '\u2028' || c == '\u2029'

/-- Whether a text ends, or goes on with a space, a tab or a line break. -/
def isApart : Text → Bool
  | [] => true
  | c :: _ => isSpace c || isBreak c

/-- Whether a line starts or ends a document. -/
def isDocumentMark : Text → Bool
  | '-' :: '-' :: '-' :: r => isApart r
  | '.' :: '.' :: '.' :: r => isApart r
  | _ => false

/-! ## Gaps -/

/-- What stands between two words of a scalar. -/
inductive Gap where
  | blanks (s : Text)
  /-- Line breaks; the first one is missing if a backslash takes it away. -/
  | broken (first : Option Char) (more : Text)
  deriving DecidableEq, Repr

namespace Gap

/-- No gap. -/
def none : Gap := blanks []

/-- A gap with one blank more. -/
def addBlank (c : Char) : Gap → Gap
  | blanks s => blanks (s ++ [c])
  | g => g

/-- A gap with one line break more. -/
def addBreak (c : Char) : Gap → Gap
  | blanks _ => broken (some c) []
  | broken first more => broken first (more ++ [c])

/-- What a gap reads as. -/
def text : Gap → Text
  | blanks s => s
  | broken first more =>
    if first = some '\n' then if more = [] then [' '] else more else first.toList ++ more

/-- Whether a gap has a line break. -/
def isBroken : Gap → Bool
  | blanks _ => false
  | broken _ _ => true

end Gap

/-! ## Quoted scalars -/

/-- A single-quoted scalar behind the gap before it. A quote inside is written twice. -/
def singleFrom (gap : Gap) : Text → Option (Text × Text)
  | [] => none
  | '\'' :: '\'' :: s => (singleFrom .none s).map fun (t, r) => (gap.text ++ '\'' :: t, r)
  | '\'' :: s => some (gap.text, s)
  | c :: s =>
    if isBreak c then if isDocumentMark s then none else singleFrom (gap.addBreak c) s
    else if isSpace c then singleFrom (gap.addBlank c) s
    else (singleFrom .none s).map fun (t, r) => (gap.text ++ c :: t, r)

/-- A single-quoted scalar, read from behind its opening quote. -/
def singleQuoted? (s : Text) : Option (Text × Text) := singleFrom .none s

/-- The character behind a one-letter escape. -/
def escaped? : Char → Option Char
  | '0' => some '\x00'
  | 'a' => some '\x07'
  | 'b' => some '\x08'
  | 't' => some '\t'
  | '\t' => some '\t'
  | 'n' => some '\n'
  | 'v' => some '\x0b'
  | 'f' => some '\x0c'
  | 'r' => some '\r'
  | 'e' => some '\x1b'
  | ' ' => some ' '
  | '"' => some '"'
  | '/' => some '/'
  | '\\' => some '\\'
  | 'N' => some '\u0085'
  | '_' => some '\u00a0'
  | 'L' => some '\u2028'
  | 'P' => some '\u2029'
  | _ => none

/-- The character with a hexadecimal number, if there is one. -/
def charOf? (digits : Text) : Option Char := do
  let n ← Text.hexNumber? digits
  if n < 0xd800 ∨ (0xe000 ≤ n ∧ n ≤ 0x10ffff) then some (Char.ofNat n) else none

/-- A double-quoted scalar behind the gap before it. -/
def doubleFrom (gap : Gap) : Text → Option (Text × Text)
  | [] => none
  | '"' :: s => some (gap.text, s)
  | '\\' :: 'x' :: a :: b :: s => do
    let c ← charOf? [a, b]
    let (t, r) ← doubleFrom .none s
    return (gap.text ++ c :: t, r)
  | '\\' :: 'u' :: a :: b :: c :: d :: s => do
    let c ← charOf? [a, b, c, d]
    let (t, r) ← doubleFrom .none s
    return (gap.text ++ c :: t, r)
  | '\\' :: 'U' :: a :: b :: c :: d :: e :: f :: g :: h :: s => do
    let c ← charOf? [a, b, c, d, e, f, g, h]
    let (t, r) ← doubleFrom .none s
    return (gap.text ++ c :: t, r)
  | '\\' :: e :: s =>
    if isBreak e then
      if isDocumentMark s then none
      else (doubleFrom (.broken .none []) s).map fun (t, r) => (gap.text ++ t, r)
    else do
      let c ← escaped? e
      let (t, r) ← doubleFrom .none s
      return (gap.text ++ c :: t, r)
  | c :: s =>
    if isBreak c then if isDocumentMark s then none else doubleFrom (gap.addBreak c) s
    else if isSpace c then doubleFrom (gap.addBlank c) s
    else (doubleFrom .none s).map fun (t, r) => (gap.text ++ c :: t, r)

/-- A double-quoted scalar, read from behind its opening quote. -/
def doubleQuoted? (s : Text) : Option (Text × Text) := doubleFrom .none s

/-! ## Plain scalars -/

/-- A character that ends a plain scalar inside brackets. -/
def isFlowMark (c : Char) : Bool := ",[]\x7b\x7d".toList.contains c

/-- A plain scalar behind the gap before it, whether the gap behind it has a line break, and the
text behind that gap. Outside brackets a continuation line starts at column `least` or later. -/
def plainFrom (inFlow : Bool) (least : Nat) (gap : Gap) (column : Nat) :
    Text → Option (Text × Bool × Text)
  | [] => some ([], gap.isBroken, [])
  | c :: s =>
    if isBreak c then plainFrom inFlow least (gap.addBreak c) 0 s
    else if isSpace c then
      if c = '\t' ∧ gap.isBroken ∧ column < least then none
      else plainFrom inFlow least (gap.addBlank c) (column + 1) s
    else if gap.isBroken ∧
        ((!inFlow ∧ column < least) ∨ (column = 0 ∧ isDocumentMark (c :: s))) then
      some ([], true, c :: s)
    else if (c = '#' ∧ gap ≠ .none) ∨ (c = ':' ∧ isApart s) ∨ (inFlow ∧ isFlowMark c) then
      some ([], gap.isBroken, c :: s)
    else if inFlow ∧ c = ':' ∧ s.head?.any (fun d => isFlowMark d || d == '?') then none
    else
      (plainFrom inFlow least .none (column + 1) s).map fun (t, r) => (gap.text ++ c :: t, r)

/-- A plain scalar that starts at a column, whether a line break follows it, and the text behind the
blanks and line breaks that follow it. -/
def plain? (inFlow : Bool) (least column : Nat) (s : Text) : Option (Text × Bool × Text) :=
  plainFrom inFlow least .none column s

/-- Whether a plain scalar can start here. -/
def startsPlain (inFlow : Bool) : Text → Bool
  | [] => false
  | '-' :: s => !isApart s
  | '?' :: s => !inFlow && !isApart s
  | ':' :: s => !inFlow && !isApart s
  | c :: _ => !(isSpace c || isBreak c || ",[]\x7b\x7d#&*!|>'\"%@`".toList.contains c)

/-! ## Blocks -/

/-- What becomes of the line breaks at the end of a block. -/
inductive Chomping where
  | strip
  | clip
  | keep
  deriving DecidableEq, Repr

/-- The sign that says what becomes of the last line breaks. -/
def chomping? : Text → Option (Chomping × Text)
  | '+' :: s => some (.keep, s)
  | '-' :: s => some (.strip, s)
  | _ => none

/-- The digit that says how far a block is indented. -/
def indentation? : Text → Option (Nat × Text)
  | c :: s => if '1' ≤ c ∧ c ≤ '9' then some (c.toNat - '0'.toNat, s) else none
  | [] => none

/-- The text below a line on which nothing but blanks and a comment follows. -/
def nextLine? (s : Text) : Option Text :=
  let r := s.dropWhile isSpace
  let r := if r.head? = some '#' then r.dropWhile (!isBreak ·) else r
  match r with
  | [] => some []
  | c :: r => if isBreak c then some r else none

/-- The signs of a block and the text below its first line. -/
def blockHead? (s : Text) : Option (Chomping × Option Nat × Text) := do
  let (chomping, indent, r) :=
    match chomping? s, indentation? s with
    | some (c, r), _ =>
      match indentation? r with
      | some (n, r) => (c, some n, r)
      | none => (c, none, r)
    | none, some (n, r) =>
      match chomping? r with
      | some (c, r) => (c, some n, r)
      | none => (.clip, some n, r)
    | none, none => (.clip, none, s)
  return (chomping, indent, ← nextLine? r)

/-- A line and the line break at its end; the last line of a text has none. -/
abbrev Line := Text × Option Char

/-- The lines of a text. -/
def linesOf (s : Text) : List Line :=
  s.foldr (fun c ls =>
    if isBreak c then ([], some c) :: ls
    else match ls with
      | (l, e) :: ls => (c :: l, e) :: ls
      | [] => [([c], none)])
    [([], none)]

/-- The text of lines. -/
def ofLines (ls : List Line) : Text := ls.flatMap fun (l, e) => l ++ e.toList

/-- The number of spaces at the start of a line. -/
def spaces (l : Text) : Nat := (l.takeWhile (· = ' ')).length

/-- The indentation of a block by its lines: that of the first line with content or of a longer
empty line above it, and at least `most`. -/
def blockIndent? (most : Nat) : List Line → Option Nat
  | [] => some most
  | (l, ending) :: ls =>
    let most := max most (spaces l)
    match l.drop (spaces l), ending with
    | '\t' :: _, _ => none
    | [], some _ => blockIndent? most ls
    | _, _ => some most

/-- What has been read of a block. -/
structure BlockState where
  /-- The line break of the last line with content, which is still to be written. -/
  pending : Option Char := none
  /-- Whether that line started with a blank. -/
  isIndented : Bool := false
  /-- The line breaks of the empty lines below it. -/
  breaks : Text := []

/-- What stands between the content read and a line of content; `folds` joins lines by spaces. -/
def BlockState.between (st : BlockState) (folds : Bool) (line : Text) : Text :=
  if folds ∧ st.pending = some '\n' ∧ !st.isIndented ∧ !line.head?.any isSpace then
    if st.breaks = [] then [' '] else st.breaks
  else st.pending.toList ++ st.breaks

/-- The line breaks at the end of a block. -/
def BlockState.ending (st : BlockState) : Chomping → Text
  | .strip => []
  | .clip => st.pending.toList
  | .keep => st.pending.toList ++ st.breaks

/-- The content of a block and the lines below it. -/
def blockLines? (folds : Bool) (chomping : Chomping) (indent : Nat) (st : BlockState) :
    List Line → Option (Text × List Line)
  | [] => some (st.ending chomping, [])
  | (l, ending) :: ls =>
    let r := l.drop (min (spaces l) indent)
    match r, ending with
    | [], some c => blockLines? folds chomping indent { st with breaks := st.breaks ++ [c] } ls
    | [], none => some (st.ending chomping, [])
    | d :: _, _ =>
      if spaces l < indent then
        if d = '\t' then none else some (st.ending chomping, (l, ending) :: ls)
      else
        (blockLines? folds chomping indent ⟨ending, isSpace d, []⟩ ls).map
          fun (t, below) => (st.between folds r ++ r ++ t, below)

/-- The block behind a `|`, or behind a `>`, which folds; what is indented to column `least` or
further belongs to it. -/
def block? (folds : Bool) (least : Nat) (s : Text) : Option (Text × Text) := do
  let (chomping, indent, r) ← blockHead? s
  let lines := linesOf r
  let indent ← match indent with
    | some n => some (least - 1 + n)
    | none => blockIndent? (max least 1) lines
  let (t, below) ← blockLines? folds chomping indent {} lines
  return (t, ofLines below)

end Yaml

end TemplateTrace
