import TemplateTrace.Pattern.Escape

/-!
# Classes

A class is written in brackets, with characters, ranges, escapes, named classes and other classes
side by side, and with the operators `&&`, `--` and `~~` between such unions. Operators are taken
from left to right.

- `SetOp`: the operators.
- `ClassReading`: a class that has been read in part, and `ClassReading.step?`.
- `class?`: a class at the start of a text.
-/

namespace TemplateTrace

namespace Pattern

/-- An operator between sets. -/
inductive SetOp where
  | both
  | except
  | either
  deriving DecidableEq, Repr

/-- The set that an operator makes of two. -/
def SetOp.apply : SetOp → CodeSet → CodeSet → CodeSet
  | both => CodeSet.inter
  | except => CodeSet.diff
  | either => CodeSet.symmDiff

/-- Items side by side: what they stand for, how many they are, and how deep they are nested. -/
structure Union where
  set : CodeSet := {}
  size : Nat := 0
  nesting : Nat := 0
  deriving DecidableEq, Repr

namespace Union

/-- One more item. -/
def add (u : Union) (k : CodeSet) (nesting : Nat) : Union :=
  { set := u.set.union k, size := u.size + 1, nesting := max u.nesting nesting }

/-- How deep items are nested as a whole: several of them are a level of their own. -/
def depth (u : Union) : Nat := if u.size < 2 then u.nesting else u.nesting + 1

end Union

/-- A class that is open: whether it is negated, the set and the nesting of what has been read in
front of its last operator, and the items around it. -/
structure OpenClass where
  isNegated : Bool
  left : Option (SetOp × CodeSet × Nat) := none
  around : Union := {}

/-- The set and the nesting of an open class whose last items are `u`. -/
def OpenClass.content (b : OpenClass) (f : Flags) (u : Union) : CodeSet × Nat :=
  match b.left with
  | none => (u.set, u.depth)
  | some (op, k, nesting) => (op.apply (f.fold k) (f.fold u.set), max nesting u.depth + 1)

/-- The named ASCII classes. -/
def namedClass? (name : Text) : Option CodeSet :=
  match String.ofList name with
  | "alnum" => some (.ofText "30-39 41-5a 61-7a")
  | "alpha" => some (.ofText "41-5a 61-7a")
  | "ascii" => some (.ofText "0-7f")
  | "blank" => some (.ofText "9 20")
  | "cntrl" => some (.ofText "0-1f 7f")
  | "digit" => some (.ofText "30-39")
  | "graph" => some (.ofText "21-7e")
  | "lower" => some (.ofText "61-7a")
  | "print" => some (.ofText "20-7e")
  | "punct" => some (.ofText "21-2f 3a-40 5b-60 7b-7e")
  | "space" => some (.ofText "9-d 20")
  | "upper" => some (.ofText "41-5a")
  | "word" => some (.ofText "30-39 41-5a 5f 61-7a")
  | "xdigit" => some (.ofText "30-39 41-46 61-66")
  | _ => none

/-- A named class behind `[`: whether it is negated, its characters, and the text behind. -/
def bracketName? : Text → Option (Bool × CodeSet × Text)
  | ':' :: s => do
    let (isNegated, s) := match s with
      | '^' :: r => (true, r)
      | r => (false, r)
    let name := s.takeWhile (· != ':')
    let r ← Text.after? ":]".toList (s.drop name.length)
    return (isNegated, ← namedClass? name, r)
  | _ => none

/-- A character or an escape of a class. -/
def classAtom? (f : Flags) : Text → Option (Escape × Text)
  | [] => none
  | '\\' :: s => Escape.read? f s
  | c :: s => some (.letter c, s)

/-- What an atom of a class stands for. -/
def Escape.toSet? (f : Flags) : Escape → Option CodeSet
  | letter c => if f.isAscii ∧ 128 ≤ c.toNat then none else some (.single c)
  | set k => some k
  | assert _ => none

/-- What follows a hyphen, by which it is told whether the hyphen makes a range. A number sign that
is passed over counts for nothing but itself. -/
def Flags.peek? (f : Flags) (s : Text) : Option Char :=
  if f.isVerbose then
    match Text.stripStart s with
    | '#' :: r => (Text.stripStart r).head?
    | r => r.head?
  else s.head?

/-- An item of a class that is not in brackets itself: an atom or a range. -/
def classItem? (f : Flags) (s : Text) : Option (CodeSet × Text) := do
  let (a, r) ← classAtom? f s
  match f.skip r with
  | '-' :: r' =>
    if f.peek? r' = some ']' ∨ f.peek? r' = some '-' then return (← a.toSet? f, '-' :: r')
    else do
      let (b, r) ← classAtom? f (f.skip r')
      match a, b with
      | .letter lo, .letter hi =>
        if hi < lo ∨ f.isAscii ∧ 128 ≤ hi.toNat then none
        else return (.between lo hi, r)
      | _, _ => none
  | r => return (← a.toSet? f, r)

/-- The start of a class behind its opening bracket: whether it is negated, the items that stand for
themselves there, and the text behind. Hyphens do so, and a closing bracket behind none of them. -/
def classStart (f : Flags) (s : Text) : Bool × Union × Text :=
  let (isNegated, s) := match f.skip s with
    | '^' :: r => (true, r)
    | r => (false, r)
  match f.gather (· == '-') s with
  | ([], ']' :: r) => (isNegated, { set := .single ']', size := 1 }, r)
  | ([], r) => (isNegated, {}, r)
  | (hs, r) => (isNegated, { set := .single '-', size := hs.length }, r)

/-- A class that has been read in part: the open classes, the innermost first, the items behind the
last operator, and the text behind them. -/
structure ClassReading where
  innermost : OpenClass
  outer : List OpenClass
  items : Union
  rest : Text

namespace ClassReading

/-- The reading behind the opening bracket of a class, among the items `around`. -/
def start (f : Flags) (outer : List OpenClass) (around : Union) (s : Text) : ClassReading :=
  let (isNegated, items, rest) := classStart f s
  { innermost := { isNegated, around }, outer, items, rest }

/-- The reading with one more item. -/
def add (x : ClassReading) (k : CodeSet) (nesting : Nat) (rest : Text) : ClassReading :=
  { x with items := x.items.add k nesting, rest }

/-- The reading behind an operator. -/
def operator (x : ClassReading) (f : Flags) (op : SetOp) (rest : Text) : ClassReading :=
  let left := x.innermost.content f x.items
  { x with innermost := { x.innermost with left := some (op, left) }, items := {}, rest }

/-- The reading behind the next item, operator or bracket, or the set of the whole class, its
nesting and the text behind it. -/
def step? (f : Flags) (x : ClassReading) : Option (ClassReading ⊕ (CodeSet × Nat × Text)) :=
  match f.skip x.rest with
  | [] => none
  | '[' :: r =>
    match bracketName? r with
    | some (isNegated, k, r) => do return .inl (x.add (← f.finish? isNegated k) 0 r)
    | none => some (.inl (start f (x.innermost :: x.outer) x.items r))
  | ']' :: r => do
    let (k, nesting) := x.innermost.content f x.items
    let k ← f.finish? x.innermost.isNegated k
    match x.outer with
    | [] => return .inr (k, nesting + 1, r)
    | b :: bs =>
      return .inl { innermost := b, outer := bs
                    items := x.innermost.around.add k (nesting + 1), rest := r }
  | '&' :: '&' :: r => some (.inl (x.operator f .both r))
  | '-' :: '-' :: r => some (.inl (x.operator f .except r))
  | '~' :: '~' :: r => some (.inl (x.operator f .either r))
  | s => (classItem? f s).map fun (k, r) => .inl (x.add k 0 r)

/-- Steps to the end of the class, at most `n` of them. -/
def run? (f : Flags) : Nat → ClassReading → Option (CodeSet × Nat × Text)
  | 0, _ => none
  | n + 1, x =>
    match x.step? f with
    | none => none
    | some (.inl x) => x.run? f n
    | some (.inr answer) => some answer

end ClassReading

/-- The class behind an opening bracket: its set, its nesting and the text behind it. -/
def class? (f : Flags) (s : Text) : Option (CodeSet × Nat × Text) :=
  (ClassReading.start f [] {} s).run? f (s.length + 1)

end Pattern

end TemplateTrace
