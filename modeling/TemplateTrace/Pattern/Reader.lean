import TemplateTrace.Pattern.Class
import TemplateTrace.Pattern.Group
import TemplateTrace.Pattern.Room
import TemplateTrace.Text.Decimal

/-!
# Reading patterns

The usual notation: alternatives, groups with names and flags, classes with operators, escapes,
assertions, and repetitions, lazy ones included. There are no back references and no look-around.
What is nested too deep, or takes too much room, is no pattern.

- `PatternError`: why a text is no pattern.
- `counted?`: a counted repetition.
- `Reading`: a text that has been read in part, and `Reading.next?`.
- `Pattern.parse`: the pattern that a text writes.
-/

namespace TemplateTrace

/-- Why a text is no pattern. -/
inductive PatternError where
  | malformed
  | tooLarge
  deriving DecidableEq, Repr

/-- The wording of an error. -/
def PatternError.message : PatternError → Text
  | malformed => "regex parse error:".toList
  | tooLarge => "Compiled regex exceeds size limit of 10485760 bytes.".toList

namespace Pattern

/-! ## Repetitions -/

/-- A number in a counted repetition, and the text behind it and the blanks around it. -/
def count? (f : Flags) (s : Text) : Option (Nat × Text) :=
  match f.gather Char.isDigit (Text.stripStart s) with
  | ([], _) => none
  | (ds, r) =>
    let n := Text.appendDigits 0 ds
    if n < UInt32.size then some (n, Text.stripStart r) else none

/-- A counted repetition behind its opening brace, and the text behind it. -/
def counted? (f : Flags) (s : Text) : Option ((Nat × Option Nat) × Text) := do
  let (lo, s) ← count? f (f.skip s)
  match s with
  | '}' :: r => return ((lo, some lo), f.skip r)
  | ',' :: r =>
    match f.skip r with
    | '}' :: r => return ((lo, none), f.skip r)
    | r => do
      let (hi, r) ← count? f r
      match r with
      | '}' :: r => if hi < lo then none else return ((lo, some hi), f.skip r)
      | _ => none
  | _ => none

/-- A text without a question mark at its start, which asks for matches as short as possible and
does not change where a pattern occurs. -/
def dropLazy : Text → Text
  | '?' :: r => r
  | r => r

/-! ## Items, sequences and alternatives -/

/-- An item of a sequence: flags, or a pattern with its nesting. -/
inductive Item where
  | flags
  | piece (p : Pattern) (nesting : Nat)
  deriving DecidableEq, Repr

/-- The pattern of an item. Flags match nothing. -/
def Item.pattern : Item → Pattern
  | flags => empty
  | piece p _ => p

/-- How deep an item is nested. -/
def Item.nesting : Item → Nat
  | flags => 0
  | piece _ n => n

/-- The levels that a pattern may have. -/
def mostNesting : Nat := 250

/-- A pattern as an item, unless it is nested too deep. -/
def Item.of? (p : Pattern) (nesting : Nat) : Option Item :=
  if nesting ≤ mostNesting then some (piece p nesting) else none

/-- Alternatives: the items of the last one and the others with their nesting, the latest first. -/
structure Alternatives where
  items : List Item := []
  others : List (Pattern × Nat) := []
  deriving DecidableEq, Repr

namespace Alternatives

/-- The last alternative and its nesting: several items are a level of their own. -/
def last (x : Alternatives) : Pattern × Nat :=
  let depth := x.items.foldl (fun n item => max n item.nesting) 0
  (inSequence (x.items.reverse.map Item.pattern),
    if x.items.length < 2 then depth else depth + 1)

/-- The pattern of alternatives and its nesting: several alternatives are a level of their own. -/
def whole (x : Alternatives) : Pattern × Nat :=
  match x.others with
  | [] => x.last
  | others =>
    let all := (x.last :: others).reverse
    (anyOf (all.map (·.1)), (all.map (·.2)).foldl max 0 + 1)

/-- Alternatives with one more item. -/
def add (x : Alternatives) (item : Item) : Alternatives := { x with items := item :: x.items }

/-- Alternatives with an empty one behind them. -/
def next (x : Alternatives) : Alternatives := { others := x.last :: x.others }

/-- Alternatives whose last item is repeated. -/
def repeatLast? (x : Alternatives) (lo : Nat) (hi : Option Nat) : Option Alternatives :=
  match x.items with
  | .piece p n :: items => do
    return { x with items := (← Item.of? (times p lo hi) (n + 1)) :: items }
  | _ => none

end Alternatives

/-! ## Groups -/

/-- An open group: its number, if it has one, the flags and the alternatives around it. -/
structure OpenGroup where
  number : Option Nat
  flags : Flags
  around : Alternatives

/-- A text that has been read in part: the open groups, the innermost first, the flags and the
alternatives inside it, the number of the next group, the names of groups, and the text behind. -/
structure Reading where
  flags : Flags := {}
  content : Alternatives := {}
  groups : List OpenGroup := []
  nextNumber : Nat := 1
  names : List Text := []
  rest : Text

namespace Reading

/-- The reading with one more item, if that is not nested too deep. -/
def add? (x : Reading) (p : Pattern) (nesting : Nat) (rest : Text) : Option Reading :=
  (Item.of? p nesting).map fun item => { x with content := x.content.add item, rest }

/-- The reading with its last item repeated. -/
def repeatLast? (x : Reading) (lo : Nat) (hi : Option Nat) (rest : Text) : Option Reading :=
  (x.content.repeatLast? lo hi).map fun content => { x with content, rest }

/-- The reading inside a group with its flags. -/
def enter (x : Reading) (number : Option Nat) (flags : Flags) (rest : Text) : Reading :=
  { x with
    flags, content := {}, rest
    groups := { number, flags := x.flags, around := x.content } :: x.groups }

/-- The reading behind an opening bracket. Two groups do not have the same name. -/
def open? (x : Reading) (s : Text) : Option Reading := do
  let (start, r) ← GroupStart.read? x.flags s
  match start with
  | .flags f => return { x with flags := f, content := x.content.add .flags, rest := r }
  | .plain f => return x.enter none f r
  | .numbered name =>
    if name.any x.names.contains then none
    else
      return { x.enter (some x.nextNumber) x.flags r with
        nextNumber := x.nextNumber + 1, names := name.toList ++ x.names }

/-- The reading behind a closing bracket. -/
def close? (x : Reading) (rest : Text) : Option Reading :=
  match x.groups with
  | [] => none
  | g :: groups =>
    let (p, n) := x.content.whole
    let p := match g.number with
      | some number => group number p
      | none => p
    { x with flags := g.flags, content := g.around, groups }.add? p (n + 1) rest

/-- The reading behind the next item `c`, and behind what belongs to it in the text `r`. -/
def next? (x : Reading) (c : Char) (r : Text) : Option Reading :=
  let f := x.flags
  match c with
  | '(' => x.open? r
  | ')' => x.close? r
  | '|' => some { x with content := x.content.next, rest := r }
  | '[' => (class? f r).bind fun (k, n, r) => x.add? (ofSet k) n r
  | '*' => x.repeatLast? 0 none (dropLazy r)
  | '+' => x.repeatLast? 1 none (dropLazy r)
  | '?' => x.repeatLast? 0 (some 1) (dropLazy r)
  | '{' => (counted? f r).bind fun ((lo, hi), r) => x.repeatLast? lo hi (dropLazy r)
  | '.' => f.dot?.bind fun k => x.add? (ofSet k) 0 r
  | '^' => x.add? (assert (if f.multiLine then .lineStart f.withReturns else .textStart)) 0 r
  | '$' => x.add? (assert (if f.multiLine then .lineEnd f.withReturns else .textEnd)) 0 r
  | '\\' => (Escape.read? f r).bind fun (e, r) =>
    match e with
    | .letter c => x.add? (f.letter c) 0 r
    | .set k => x.add? (ofSet k) 0 r
    | .assert a => x.add? (assert a) 0 r
  | c => x.add? (f.letter c) 0 r

/-- Reads to the end of the text, at most `n` items. All groups are closed there. -/
def run? : Nat → Reading → Option Pattern
  | 0, _ => none
  | n + 1, x =>
    match x.flags.skip x.rest with
    | [] =>
      let (p, nesting) := x.content.whole
      if x.groups.isEmpty && nesting ≤ mostNesting then some p else none
    | c :: r =>
      match x.next? c r with
      | some x => x.run? n
      | none => none

end Reading

/-- The pattern that a text writes, if it is small enough. -/
def parse (s : Text) : Except PatternError Pattern :=
  match ({ rest := s : Reading }).run? (s.length + 1) with
  | none => .error .malformed
  | some p => if p.fits then .ok p else .error .tooLarge

end Pattern

end TemplateTrace
