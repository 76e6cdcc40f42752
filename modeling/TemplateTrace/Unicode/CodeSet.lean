import TemplateTrace.Text.Blank
import TemplateTrace.Text.Hexadecimal

/-!
# Sets of characters

A set of characters is kept as the ranges of their numbers, apart from each other and in ascending
order, so that a set has one form only. A property of characters is written down as a text of
ranges.

- `CodeSet`: the sets, with `CodeSet.has`.
- `CodeSet.union`, `CodeSet.diff`, `CodeSet.inter`, `CodeSet.symmDiff`, `CodeSet.compl`.
- `CodeSet.ofText`: the set that a text of ranges describes.
- `PropertyTable`: properties by their names, and `PropertyTable.find?`.
-/

namespace TemplateTrace

/-- The numbers from the first to the second. -/
abbrev CodeRange := Nat × Nat

/-- A set of characters, as ranges of their numbers. -/
structure CodeSet where
  ranges : List CodeRange := []
  deriving DecidableEq, Repr

namespace CodeSet

/-- Whether a character is in a set. -/
def has (k : CodeSet) (c : Char) : Bool :=
  k.ranges.any fun (lo, hi) => lo ≤ c.toNat && c.toNat ≤ hi

/-- Whether no character is in a set. -/
def isEmpty (k : CodeSet) : Bool := k.ranges.isEmpty

/-- Whether only ASCII characters are in a set. -/
def isAscii (k : CodeSet) : Bool := k.ranges.all (·.2 < 128)

/-- The set of one character. -/
def single (c : Char) : CodeSet := ⟨[(c.toNat, c.toNat)]⟩

/-- The only character of a set, if it has one character only. -/
def single? (k : CodeSet) : Option Char :=
  match k.ranges with
  | [(lo, hi)] => if lo = hi then some (Char.ofNat lo) else none
  | _ => none

/-- The set of all characters. -/
def all : CodeSet := ⟨[(0, 0xd7ff), (0xe000, 0x10ffff)]⟩

/-! ## Operations -/

/-- Joins a range and ranges behind its start, in ascending order of their starts, where they
touch. -/
def joinFrom (r : CodeRange) : List CodeRange → List CodeRange
  | [] => [r]
  | s :: rs =>
    if s.1 ≤ r.2 + 1 then joinFrom (r.1, max r.2 s.2) rs else r :: joinFrom s rs

/-- The set of the characters in any of the ranges. -/
def ofRanges (rs : List CodeRange) : CodeSet :=
  match rs.mergeSort (fun r s => r.1 ≤ s.1) with
  | [] => ⟨[]⟩
  | r :: rs => ⟨joinFrom r rs⟩

/-- The characters of either set. -/
def union (k l : CodeSet) : CodeSet := ofRanges (k.ranges ++ l.ranges)

/-- The parts of a range outside ranges in ascending order. -/
def outside (lo hi : Nat) : List CodeRange → List CodeRange
  | [] => [(lo, hi)]
  | (a, b) :: rs =>
    if hi < a then [(lo, hi)]
    else if b < lo then outside lo hi rs
    else
      (if lo < a then [(lo, a - 1)] else []) ++ if b < hi then outside (b + 1) hi rs else []

/-- The characters of the first set that are not in the second one. -/
def diff (k l : CodeSet) : CodeSet := ⟨k.ranges.flatMap fun (lo, hi) => outside lo hi l.ranges⟩

/-- The characters outside a set. -/
def compl (k : CodeSet) : CodeSet := all.diff k

/-- The characters of both sets. -/
def inter (k l : CodeSet) : CodeSet := k.diff l.compl

/-- The characters of one set but not of the other. -/
def symmDiff (k l : CodeSet) : CodeSet := (k.diff l).union (l.diff k)

/-- The characters from one to another. -/
def between (lo hi : Char) : CodeSet := all.inter ⟨[(lo.toNat, hi.toNat)]⟩

/-- The characters of any of the sets. -/
def unions (ks : List CodeSet) : CodeSet := ofRanges (ks.flatMap (·.ranges))

/-! ## Texts of ranges -/

/-- The number at the start of a text, and the text behind its digits. -/
def leadingNumber (t : Text) : Nat × Text :=
  let ds := t.takeWhile fun c => (Text.hexValue? c).isSome
  ((Text.hexNumber? ds).getD 0, t.drop ds.length)

/-- The ranges that a part of a text writes: a number, two numbers with a hyphen between them for
a range, or with a slash for every second number from one to the other. -/
def rangesOf (t : Text) : List CodeRange :=
  let (a, r) := leadingNumber t
  match r with
  | '-' :: r => [(a, (leadingNumber r).1)]
  | '/' :: r =>
    (List.range (((leadingNumber r).1 - a) / 2 + 1)).map fun k => (a + 2 * k, a + 2 * k)
  | _ => [(a, a)]

/-- The set that a text of ranges in ascending order describes. -/
def ofText (s : String) : CodeSet :=
  match (Text.words s.toList).flatMap rangesOf with
  | [] => ⟨[]⟩
  | r :: rs => ⟨joinFrom r rs⟩

end CodeSet

/-- Properties: the names of each, with spaces between them, and its characters. -/
abbrev PropertyTable := List (String × String)

/-- The characters that have the property with a name. -/
def PropertyTable.find? (table : PropertyTable) (name : Text) : Option CodeSet :=
  (List.find? (fun row => (Text.words row.1.toList).contains name) table).map
    fun row => CodeSet.ofText row.2

end TemplateTrace
