import TemplateTrace.Json.Reader
import TemplateTrace.Text.Fields

/-!
# Records in JSON

A record is an object of named fields, or an array of the fields in their declared order, in which
fields at the end may be missing. Fields that the record does not know are skipped; a known field
that occurs twice is a fault.

- `Json.record?`: the fields of a record by position, each of them present or missing.
- `Json.toText?`, `Json.word32?`, `Json.optionalText?`, `Json.listOf?`: readers of single fields.
- `Json.finiteLiteral`, `Json.wellValued`, `Json.depth`: what a reader that keeps unknown fields also
  checks.
-/

namespace TemplateTrace

namespace Json

/-- The known fields of a record, in declared order. -/
def record? (keys : List Text) : Json → Option (List (Option Json))
  | object fs => Fields.known? keys fs
  | array vs =>
    if vs.length ≤ keys.length then
      some (vs.map some ++ List.replicate (keys.length - vs.length) none)
    else none
  | _ => none

/-- A string. -/
def toText? : Json → Option Text
  | string s => some s
  | _ => none

/-- A number below 2^32 in plain digits. -/
def word32? : Json → Option UInt32
  | nat n => if n < UInt32.size then some (UInt32.ofNat n) else none
  | _ => none

/-- A string or `null`. -/
def optionalText? : Json → Option (Option Text)
  | null => some none
  | string s => some (some s)
  | _ => none

/-- An array, item by item. -/
def listOf? {α : Type} (item? : Json → Option α) : Json → Option (List α)
  | array vs => vs.mapM item?
  | _ => none

/-! ## Checks on kept values -/

mutual

/-- How deep arrays and objects nest in a value. -/
def depth : Json → Nat
  | array vs => depthItems vs + 1
  | object fs => depthFields fs + 1
  | _ => 0

/-- The greatest depth of an item. -/
def depthItems : List Json → Nat
  | [] => 0
  | v :: vs => max (depth v) (depthItems vs)

/-- The greatest depth of a field. -/
def depthFields : List (Text × Json) → Nat
  | [] => 0
  | (_, v) :: fs => max (depth v) (depthFields fs)

end

/-- A number rounded to 53 binary digits, a half to the even neighbour. -/
def round53 (n : Nat) : Nat :=
  let k := n.log2 + 1 - 53
  let unit := Nat.pow 2 k
  let low := n / unit
  let twice := 2 * (n % unit)
  if unit < twice ∨ (twice = unit ∧ low % 2 = 1) then (low + 1) * unit else low * unit

/-- Whether the product of `m` and `10^e`, each rounded to a double, is rounded to a finite one. -/
def fitsDouble (m : Nat) (e : Int) : Bool :=
  m == 0 || decide (e ≤ 0) ||
    (decide (e ≤ 308) &&
      decide (round53 m * round53 (Nat.pow 10 e.toNat) < Nat.pow 2 1024 - Nat.pow 2 970))

/-- The number that leading digits write below 2^64, with the digits behind `m`, and how many digits
are left over. -/
def leadingDigits (m : Nat) : Text → Nat × Nat
  | [] => (m, 0)
  | c :: s =>
    let next := m * 10 + (c.toNat - '0'.toNat)
    if next < UInt64.size then leadingDigits next s else (m, s.length + 1)

/-- Whether a literal writes a finite double. Of its digits only the leading ones count that fit 64
bits. -/
def finiteLiteral (l : Text) : Bool :=
  let l := if l.head? = some '-' then l.drop 1 else l
  let whole := l.takeWhile Char.isDigit
  let r := l.dropWhile Char.isDigit
  let (frac, r) := match r with
    | '.' :: r => (r.takeWhile Char.isDigit, r.dropWhile Char.isDigit)
    | r => ([], r)
  let e : Int := match r with
    | _ :: '-' :: ds => -(Text.appendDigits 0 ds : Int)
    | _ :: '+' :: ds => Text.appendDigits 0 ds
    | _ :: ds => Text.appendDigits 0 ds
    | [] => 0
  let (m, beyond) := leadingDigits 0 whole
  let (m, unused) := leadingDigits m frac
  fitsDouble m (e + beyond - (frac.length - unused : Nat))

mutual

/-- Whether every string of a value writes a text and every number is finite. -/
def wellValued : Json → Bool
  | broken => false
  | nat n => finiteLiteral (Text.decimal n)
  | number l => finiteLiteral l
  | array vs => wellValuedItems vs
  | object fs => wellValuedFields fs
  | _ => true

/-- Whether every item is well valued. -/
def wellValuedItems : List Json → Bool
  | [] => true
  | v :: vs => wellValued v && wellValuedItems vs

/-- Whether every field is well valued. -/
def wellValuedFields : List (Text × Json) → Bool
  | [] => true
  | (_, v) :: fs => wellValued v && wellValuedFields fs

end

end Json

end TemplateTrace
