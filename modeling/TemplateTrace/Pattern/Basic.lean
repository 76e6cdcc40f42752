import TemplateTrace.Text.Word
import TemplateTrace.Unicode.CodeSet

/-!
# Patterns

Regular expressions, as a project writes them to say which messages to drop. Only whether a pattern
occurs in a text matters, so that a pattern is read as a map of places: from those at which a match
may start to those at which it may end.

- `Assertion`: conditions on a place, and `Assertion.holds`.
- `Pattern`: the expressions.
- `Pattern.reach`: the places at which matches can end.
- `Pattern.occursIn`: whether a pattern matches somewhere in a text.
-/

namespace TemplateTrace

/-- A place in a text: the character in front of it, and the text from there on with its length. -/
structure Spot where
  before : Option Char
  rest : Text
  left : Nat
  left_eq : left = rest.length

namespace Spot

/-- The character behind a place, and the place behind that character. -/
def next? : Spot → Option (Char × Spot)
  | ⟨_, [], _, _⟩ => none
  | ⟨_, c :: s, n, h⟩ => some (c, ⟨some c, s, n - 1, by simp [h]⟩)

/-- The place behind a text that stands at a place. -/
def pass? : Text → Spot → Option Spot
  | [], x => some x
  | c :: s, x => x.next?.bind fun (d, y) => if c = d then pass? s y else none

/-- The place behind a character of a set. -/
def step? (k : CodeSet) (x : Spot) : Option Spot :=
  x.next?.bind fun (c, y) => if k.has c then some y else none

/-- The places of a text in their order, when `before` stands in front of it. -/
def placesFrom (before : Option Char) : (s : Text) → (n : Nat) → n = s.length → List Spot
  | [], n, h => [⟨before, [], n, h⟩]
  | c :: s, n, h =>
    ⟨before, c :: s, n, h⟩ :: placesFrom (some c) s (n - 1) (by simp [h])

/-- The places of a text in their order. -/
def places (s : Text) : List Spot := placesFrom none s s.length rfl

/-- The places of two lists, each of them in order. -/
def join : List Spot → List Spot → List Spot
  | [], ys => ys
  | xs, [] => xs
  | x :: xs, y :: ys =>
    if x.left = y.left then x :: join xs ys
    else if y.left < x.left then x :: join xs (y :: ys)
    else y :: join (x :: xs) ys
  termination_by xs ys => xs.length + ys.length

/-- The places of the first list that are not in the second one, each of them in order. -/
def without : List Spot → List Spot → List Spot
  | [], _ => []
  | xs, [] => xs
  | x :: xs, y :: ys =>
    if x.left = y.left then without xs ys
    else if y.left < x.left then x :: without xs (y :: ys)
    else without (x :: xs) ys
  termination_by xs ys => xs.length + ys.length

/-- The length of what follows the first of some places. -/
def farthest (xs : List Spot) : Nat := xs.foldl (fun n x => max n x.left) 0

end Spot

/-- What words do at a place: one starts or ends there or not, and what is on one side of it. -/
inductive WordEdge where
  | boundary
  | noBoundary
  | start
  | finish
  /-- No word character is in front. -/
  | startHalf
  /-- No word character follows. -/
  | endHalf
  deriving DecidableEq, Repr

/-- A condition on a place. -/
inductive Assertion where
  | textStart
  | textEnd
  /-- A line starts; the flag says whether carriage returns end lines, too. -/
  | lineStart (withReturns : Bool)
  | lineEnd (withReturns : Bool)
  /-- An edge of a word; the flag says whether only ASCII characters make words. -/
  | word (edge : WordEdge) (isAscii : Bool)
  deriving DecidableEq, Repr

/-- A character of a word, if only ASCII characters make words. -/
def isAsciiWord (c : Char) : Bool := c.isAlphanum || c == '_'

/-- Whether a condition on words holds between two characters, if there are any. -/
def WordEdge.holds (edge : WordEdge) (isWord : Char → Bool) (before after : Option Char) : Bool :=
  let b := before.any isWord
  let a := after.any isWord
  match edge with
  | boundary => b != a
  | noBoundary => b == a
  | start => !b && a
  | finish => b && !a
  | startHalf => !b
  | endHalf => !a

/-- Whether a condition holds at a place. Where carriage returns end lines, nothing starts or ends
between a carriage return and a line feed. -/
def Assertion.holds (a : Assertion) (x : Spot) : Bool :=
  let after := x.rest.head?
  match a with
  | textStart => x.before.isNone
  | textEnd => after.isNone
  | lineStart false => x.before.isNone || x.before == some '\n'
  | lineStart true =>
    x.before.isNone || x.before == some '\n' || x.before == some '\r' && after != some '\n'
  | lineEnd false => after.isNone || after == some '\n'
  | lineEnd true =>
    after.isNone || after == some '\r' || after == some '\n' && x.before != some '\r'
  | word edge isAscii => edge.holds (if isAscii then isAsciiWord else Text.isWord) x.before after

/-- A regular expression. -/
inductive Pattern where
  | empty
  | literal (s : Text)
  | one (k : CodeSet)
  | assert (a : Assertion)
  | seq (p q : Pattern)
  | alt (p q : Pattern)
  /-- At least `lo` and, if given, at most `hi` times. -/
  | repeated (p : Pattern) (lo : Nat) (hi : Option Nat)
  /-- A group with a number of its own. -/
  | group (number : Nat) (p : Pattern)
  deriving DecidableEq, Repr

namespace Pattern

/-- The places reached from places by `n` steps. -/
def iterate (step : List Spot → List Spot) : Nat → List Spot → List Spot
  | 0, xs => xs
  | n + 1, xs => iterate step n (step xs)

/-- The places `seen` and those reached from `fresh` by at most `n` steps. -/
def spread (step : List Spot → List Spot) : Nat → List Spot → List Spot → List Spot
  | 0, seen, _ => seen
  | n + 1, seen, fresh =>
    match Spot.without (step fresh) seen with
    | [] => seen
    | new => spread step n (Spot.join seen new) new

/-- The places at which matches from some places can end. With `n` characters left, only `n` rounds
of a repetition can lead to new places; and where more than `n` rounds are asked for, one more of
them matches nothing and changes nothing. -/
def reach : Pattern → List Spot → List Spot
  | empty, xs => xs
  | literal s, xs => xs.filterMap (Spot.pass? s)
  | one k, xs => xs.filterMap (Spot.step? k)
  | assert a, xs => xs.filter a.holds
  | seq p q, xs => q.reach (p.reach xs)
  | alt p q, xs => Spot.join (p.reach xs) (q.reach xs)
  | repeated p lo hi, xs =>
    let n := Spot.farthest xs
    let rounds := match hi with
      | some hi => min (hi - lo) n
      | none => n
    let first := iterate p.reach (min lo (n + 1)) xs
    spread p.reach rounds first first
  | group _ p, xs => p.reach xs

/-- Whether a pattern matches somewhere in a text. -/
def occursIn (p : Pattern) (s : Text) : Bool := !(p.reach (Spot.places s)).isEmpty

end Pattern

end TemplateTrace
