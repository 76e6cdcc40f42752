import TemplateTrace.Text.Basic

/-!
# Hexadecimal numbers

Natural numbers as texts of hexadecimal digits of either case.

- `hexValue?`: the value of a digit.
- `hexNumber?`: the number that a non-empty text of digits writes.
-/

namespace TemplateTrace

namespace Text

/-- The value of a hexadecimal digit of either case. -/
def hexValue? (c : Char) : Option Nat :=
  if c.isDigit then some (c.toNat - '0'.toNat)
  else if 'a' ≤ c ∧ c ≤ 'f' then some (c.toNat - 'a'.toNat + 10)
  else if 'A' ≤ c ∧ c ≤ 'F' then some (c.toNat - 'A'.toNat + 10)
  else none

/-- The number that a non-empty text of hexadecimal digits writes. -/
def hexNumber? (s : Text) : Option Nat :=
  if s = [] then none else s.foldlM (fun n c => (hexValue? c).map (n * 16 + ·)) 0

end Text

end TemplateTrace
