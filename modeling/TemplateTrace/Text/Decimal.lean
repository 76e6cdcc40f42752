import TemplateTrace.Text.Basic

/-!
# Decimal numbers

Natural numbers as texts of ASCII digits.

- `decimal`: the digits of a number, without leading zeros.
- `toNat?`: the number that a non-empty text of digits writes, leading zeros allowed.
- `readWord32`: a 32-bit number as a user types it, and what is wrong with any other text.
-/

namespace TemplateTrace

namespace Text

/-- The decimal digits of a number. -/
def decimal (n : Nat) : Text := Nat.toDigits 10 n

/-- The value of a decimal digit. -/
def digitValue (c : Char) : Nat := c.toNat - '0'.toNat

/-- The number that digits write after the number `n`. -/
def appendDigits (n : Nat) (ds : Text) : Nat := ds.foldl (fun n c => n * 10 + digitValue c) n

/-- The number that a non-empty text of ASCII digits writes. -/
def toNat? (s : Text) : Option Nat :=
  if s ≠ [] ∧ s.all Char.isDigit then some (appendDigits 0 s) else none

/-- What is wrong with a text that writes no 32-bit number. -/
inductive NumberFault where
  | empty
  | invalidDigit
  | tooLarge
  deriving DecidableEq, Repr

/-- The wording of a fault. -/
def NumberFault.message : NumberFault → String
  | empty => "cannot parse integer from empty string"
  | invalidDigit => "invalid digit found in string"
  | tooLarge => "number too large to fit in target type"

/-- Reads digits one after another behind the number `n`; the first fault met is the answer. -/
def readDigits (n : Nat) : Text → Except NumberFault Nat
  | [] => .ok n
  | c :: s =>
    if c.isDigit then
      let m := n * 10 + digitValue c
      if m < UInt32.size then readDigits m s else .error .tooLarge
    else .error .invalidDigit

/-- Reads a number below 2^32, with or without a plus sign in front. -/
def readWord32 (s : Text) : Except NumberFault UInt32 :=
  match s with
  | [] => .error .empty
  | ['+'] => .error .invalidDigit
  | '+' :: ds => (readDigits 0 ds).map UInt32.ofNat
  | ds => (readDigits 0 ds).map UInt32.ofNat

/-- The number below 2^32 that a text of digits writes. -/
def toWord32? (s : Text) : Option UInt32 :=
  (toNat? s).bind fun n => if n < UInt32.size then some (UInt32.ofNat n) else none

end Text

end TemplateTrace
