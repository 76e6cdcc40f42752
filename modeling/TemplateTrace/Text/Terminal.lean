import TemplateTrace.Text.Utf8

/-!
# Text without terminal controls

A message that repeats what a user typed must not move the cursor or change colours. Control
characters and escape sequences are taken out as a terminal would read them: a sequence starts with
an escape and ends with its final byte, a string of commands ends with a terminator, and both are
cut off by the controls `0x18` and `0x1a`. Blanks stay, inside a sequence too.

- `Terminal.Mode`: what a terminal is reading, and `Terminal.next`, how a byte changes it.
- `Terminal.printed`: a text without controls.
-/

namespace TemplateTrace

namespace Terminal

/-- What a terminal is reading. -/
inductive Mode where
  | ground
  | escape
  | escapeIntermediate
  | sequenceStart
  | sequenceParameter
  | sequenceIntermediate
  | sequenceIgnored
  | deviceStart
  | deviceParameter
  | deviceIntermediate
  | deviceIgnored
  | deviceString
  | ignoredString
  | commandString
  /-- A character of which some bytes are missing. -/
  | character (missing : Nat)
  deriving DecidableEq, Repr

/-- Whether a string is read whose controls do nothing. -/
def Mode.isString : Mode → Bool
  | deviceStart | deviceParameter | deviceIntermediate | deviceIgnored | deviceString
  | ignoredString | commandString => true
  | _ => false

/-- Whether a byte is a blank of ASCII. -/
def isBlank (b : UInt8) : Bool := b == 0x20 || b == 0x09 || b == 0x0a || b == 0x0c || b == 0x0d

/-- The mode behind the escape byte and the byte `b`. -/
def afterEscape (b : UInt8) : Option Mode :=
  if b = 0x5b then some .sequenceStart
  else if b = 0x5d then some .commandString
  else if b = 0x50 then some .deviceStart
  else if b = 0x58 ∨ b = 0x5e ∨ b = 0x5f then some .ignoredString
  else if b < 0x30 then some .escapeIntermediate
  else if b < 0x7f then some .ground
  else none

/-- The mode behind a byte that prints in the ground mode, if it changes. -/
def afterPrintable (m : Mode) (b : UInt8) : Option Mode :=
  let isIntermediate := b < 0x30
  let isParameter := b < 0x3c
  let isMarker := b < 0x40
  let isFinal := b < 0x7f
  match m with
  | .ground | .deviceIgnored | .deviceString | .ignoredString | .commandString
  | .character _ => none
  | .escape => afterEscape b
  | .escapeIntermediate =>
    if isIntermediate then none else if isFinal then some .ground else none
  | .sequenceStart =>
    if isIntermediate then some .sequenceIntermediate
    else if isMarker then some .sequenceParameter
    else if isFinal then some .ground else none
  | .sequenceParameter =>
    if isIntermediate then some .sequenceIntermediate
    else if isParameter then none
    else if isMarker then some .sequenceIgnored
    else if isFinal then some .ground else none
  | .sequenceIntermediate =>
    if isIntermediate then none
    else if isMarker then some .sequenceIgnored
    else if isFinal then some .ground else none
  | .sequenceIgnored =>
    if isMarker then none else if isFinal then some .ground else none
  | .deviceStart =>
    if isIntermediate then some .deviceIntermediate
    else if isMarker then some .deviceParameter
    else if isFinal then some .deviceString else none
  | .deviceParameter =>
    if isIntermediate then some .deviceIntermediate
    else if isParameter then none
    else if isMarker then some .deviceIgnored
    else if isFinal then some .deviceString else none
  | .deviceIntermediate =>
    if isIntermediate then none
    else if isMarker then some .deviceIgnored
    else if isFinal then some .deviceString else none

/-- The mode behind a byte, if it changes, and whether the byte prints. -/
def next (m : Mode) (b : UInt8) : Option Mode × Bool :=
  if b = 0x18 ∨ b = 0x1a then (some .ground, false)
  else if b = 0x1b then (some .escape, false)
  else if b < 0x20 then
    (if m = .commandString ∧ b = 0x07 then some .ground else none, !m.isString && isBlank b)
  else if b < 0x80 then (afterPrintable m b, m == .ground && b != 0x7f)
  else if m = .ground then
    match Utf8.tail? b with
    | some (_, _, n) => (some (.character (n + 2)), true)
    | none => (none, false)
  else
    let endsString := m = .deviceIgnored ∨ m = .deviceString ∨ m = .ignoredString
    (if b = 0x9c ∧ endsString then some .ground else none, false)

/-- The mode behind a byte of a character. -/
def Mode.advance : Mode → Mode
  | character n => if n ≤ 1 then ground else character (n - 1)
  | m => m

/-- The bytes that print, given the mode and whether the byte before was printed. While bytes are
printed they are read in the ground mode, and a mode that a blank has interrupted waits for the next
byte that does not print. -/
def printedBytes (m : Mode) (isPrinting : Bool) : List UInt8 → List UInt8
  | [] => []
  | b :: r =>
    match m with
    | .character _ => b :: printedBytes m.advance true r
    | _ =>
      let (change, prints) := next (if isPrinting then .ground else m) b
      let m := change.getD m
      if prints then b :: printedBytes m.advance true r
      else printedBytes (if isPrinting then (next m b).1.getD m else m) false r

/-- A text without control characters and escape sequences. -/
def printed (s : Text) : Text := Utf8.lossy (printedBytes .ground false (Utf8.encode s))

end Terminal

end TemplateTrace
