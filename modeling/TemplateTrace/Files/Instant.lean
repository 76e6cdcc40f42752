import TemplateTrace.Text.Decimal
import TemplateTrace.Text.Blank

/-!
# Instants

Points of time in UTC, to the nanosecond, as file times and ledger entries give them. They are
written in the calendar form `2024-01-31T08:00:00.5Z` with as few groups of three fraction digits as
the value needs. A leap second is the second 59 with more than 10^9 nanoseconds.

- `Instant`: seconds since 1970 and nanoseconds, in order of time.
- `Calendar.daysFrom`, `Calendar.ofDays`: the proleptic Gregorian calendar.
- `Instant.write`, `Instant.read?`: the calendar form. Reading is lenient: blanks may stand in front
  of every number and separator, a blank may replace the `T`, and any offset from UTC is allowed.
-/

namespace TemplateTrace

/-- A point of time. -/
structure Instant where
  /-- Seconds since the start of 1970. -/
  seconds : Int
  /-- Nanoseconds; from 10^9 on, in a leap second. -/
  nanos : Nat
  deriving DecidableEq, Repr

namespace Instant

/-- Whether one point of time comes before another. -/
def before (a b : Instant) : Bool :=
  a.seconds < b.seconds || (a.seconds == b.seconds && a.nanos < b.nanos)

end Instant

/-! ## The calendar -/

namespace Calendar

/-- A leap year. -/
def isLeap (y : Int) : Bool := y % 4 == 0 && (y % 100 != 0 || y % 400 == 0)

/-- The number of days in a month, counted from 1. -/
def daysInMonth (y : Int) (m : Nat) : Nat :=
  match m with
  | 2 => if isLeap y then 29 else 28
  | 4 | 6 | 9 | 11 => 30
  | _ => 31

/-- The number of days from the start of 1970 to a date. The year is counted from March, so that
the leap day comes last. -/
def daysFrom (y : Int) (m d : Nat) : Int :=
  let y' := if m ≤ 2 then y - 1 else y
  let m' := (m + 9) % 12
  let era := y' / 400
  let ofEra := y' - era * 400
  let ofYear : Int := ((153 * m' + 2) / 5 + d - 1 : Nat)
  era * 146097 + (ofEra * 365 + ofEra / 4 - ofEra / 100 + ofYear) - 719468

/-- The year, month and day of a number of days since the start of 1970. -/
def ofDays (days : Int) : Int × Nat × Nat :=
  let z := days + 719468
  let era := z / 146097
  let ofEra := z - era * 146097
  let year := (ofEra - ofEra / 1460 + ofEra / 36524 - ofEra / 146096) / 365
  let ofYear := (ofEra - (365 * year + year / 4 - year / 100)).toNat
  let m' := (5 * ofYear + 2) / 153
  let d := ofYear - (153 * m' + 2) / 5 + 1
  let m := if m' < 10 then m' + 3 else m' - 9
  (year + era * 400 + (if m ≤ 2 then 1 else 0), m, d)

end Calendar

namespace Instant

/-! ## Writing -/

/-- The digits of a number, padded with zeros. -/
def padded (width n : Nat) : Text :=
  let ds := Text.decimal n
  List.replicate (width - ds.length) '0' ++ ds

/-- The year of a date: four digits from 0 to 9999, and beyond that with a sign. -/
def writeYear (y : Int) : Text :=
  if 0 ≤ y ∧ y ≤ 9999 then padded 4 y.toNat
  else (if y < 0 then '-' else '+') :: padded 4 y.natAbs

/-- The fraction of a second in groups of three digits, as many as needed. -/
def writeFraction (nanos : Nat) : Text :=
  if nanos = 0 then []
  else if nanos % 1000000 = 0 then '.' :: padded 3 (nanos / 1000000)
  else if nanos % 1000 = 0 then '.' :: padded 6 (nanos / 1000)
  else '.' :: padded 9 nanos

/-- An instant in calendar form. -/
def write (t : Instant) : Text :=
  let (y, m, d) := Calendar.ofDays (t.seconds / 86400)
  let s := (t.seconds % 86400).toNat
  let leap := t.nanos / 1000000000
  writeYear y ++ '-' :: padded 2 m ++ '-' :: padded 2 d ++ 'T' :: padded 2 (s / 3600) ++
    ':' :: padded 2 (s / 60 % 60) ++ ':' :: padded 2 (s % 60 + leap) ++
    writeFraction (t.nanos % 1000000000) ++ ['Z']

/-! ## Reading -/

/-- One to `width` digits at the start of a text, and the text behind them. -/
def digitsUpTo? (width : Nat) (s : Text) : Option (Nat × Text) :=
  let ds := (s.take width).takeWhile Char.isDigit
  if ds = [] then none else some (Text.appendDigits 0 ds, s.drop ds.length)

/-- A number of at most `width` digits, with white space in front. -/
def number? (width : Nat) (s : Text) : Option (Nat × Text) := digitsUpTo? width (Text.stripStart s)

/-- A year: up to four digits, or any number of digits behind a sign. -/
def year? (s : Text) : Option (Int × Text) :=
  match Text.stripStart s with
  | '-' :: r => (digitsUpTo? r.length r).map fun (n, r) => (-(n : Int), r)
  | '+' :: r => (digitsUpTo? r.length r).map fun (n, r) => ((n : Int), r)
  | r => (digitsUpTo? 4 r).map fun (n, r) => ((n : Int), r)

/-- A separator, with white space in front. -/
def separator? (c : Char) (s : Text) : Option Text := Text.after? [c] (Text.stripStart s)

/-- The nanoseconds behind a decimal point, if there is one; digits beyond the ninth are dropped. -/
def fraction? (s : Text) : Option (Nat × Text) :=
  match s with
  | '.' :: r =>
    match digitsUpTo? 9 r with
    | none => none
    | some (n, r') => some (n * Nat.pow 10 (9 - (r.length - r'.length)), r'.dropWhile Char.isDigit)
  | r => some (0, r)

/-- Two digits at the start of a text. -/
def twoDigits? : Text → Option (Nat × Text)
  | a :: b :: r =>
    if a.isDigit ∧ b.isDigit then some (Text.appendDigits 0 [a, b], r) else none
  | _ => none

/-- The offset from UTC in seconds. -/
def offset? (s : Text) : Option (Int × Text) :=
  match Text.stripStart s with
  | 'Z' :: r => some (0, r)
  | 'z' :: r => some (0, r)
  | sign :: r =>
    if ((sign :: r).take 3).map Char.toUpper = "UTC".toList then some (0, r.drop 2)
    else if sign = '+' ∨ sign = '-' ∨ sign = '\u2212' then do
      let (h, r) ← twoDigits? r
      let (m, r) ← twoDigits? (r.dropWhile fun c => c == ':' || Text.isBlank c)
      if m < 60 then
        let n : Int := (h * 3600 + m * 60 : Nat)
        some (if sign = '+' then n else -n, r)
      else none
    else none
  | [] => none

/-- The instant that a text in calendar form writes. -/
def read? (s : Text) : Option Instant := do
  let (y, s) ← year? s
  let s ← separator? '-' s
  let (m, s) ← number? 2 s
  let s ← separator? '-' s
  let (d, s) ← number? 2 s
  let s ← match s with
    | 'T' :: r => some r
    | 't' :: r => some r
    | ' ' :: r => some r
    | _ => none
  let (hour, s) ← number? 2 s
  let s ← separator? ':' s
  let (minute, s) ← number? 2 s
  let s ← separator? ':' s
  let (second, s) ← number? 2 s
  let (nanos, s) ← fraction? s
  let (offset, s) ← offset? s
  if Text.stripStart s = [] ∧ -262143 ≤ y ∧ y ≤ 262142 ∧ 1 ≤ m ∧ m ≤ 12 ∧ 1 ≤ d ∧
      d ≤ Calendar.daysInMonth y m ∧ hour < 24 ∧ minute < 60 ∧ second ≤ 60 ∧
      -86400 < offset ∧ offset < 86400 then
    let s := min second 59
    let seconds := Calendar.daysFrom y m d * 86400 + (hour * 3600 + minute * 60 + s : Nat) - offset
    if Calendar.daysFrom (-262143) 1 1 ≤ seconds / 86400 ∧
        seconds / 86400 ≤ Calendar.daysFrom 262142 12 31 then
      some { seconds, nanos := nanos + (second - s) * 1000000000 }
    else none
  else none

end Instant

end TemplateTrace
