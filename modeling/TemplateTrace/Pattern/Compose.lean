import TemplateTrace.Pattern.Basic

/-!
# Composing patterns

Patterns are put together in a normal form: a sequence is chained to the right, with literals side
by side made one and without empty parts; alternatives that are sets of characters are one set, and
what alternatives have in front in common stands once in front of them.

- `Pattern.ofSet`, `Pattern.inSequence`, `Pattern.anyOf`, `Pattern.times`: the operations.
- `Pattern.takesNothing`, `Pattern.takesSome`: whether matches are empty, or never are.
-/

namespace TemplateTrace

namespace Pattern

/-! ## What matches take -/

/-- Whether each match is empty, whatever a pattern is matched with. -/
def takesNothing : Pattern → Bool
  | empty => true
  | literal s => s.isEmpty
  | one _ => false
  | assert _ => true
  | seq p q => p.takesNothing && q.takesNothing
  | alt p q => p.takesNothing && q.takesNothing
  | repeated p _ hi => p.takesNothing && hi.isSome
  | group _ p => p.takesNothing

/-- Whether every set in a pattern has a member. -/
def isLive : Pattern → Bool
  | empty => true
  | literal _ => true
  | one k => !k.isEmpty
  | assert _ => true
  | seq p q => p.isLive && q.isLive
  | alt p q => p.isLive && q.isLive
  | repeated p _ _ => p.isLive
  | group _ p => p.isLive

/-- Whether no match is empty, as far as live patterns go. -/
def takesSome : Pattern → Bool
  | empty => false
  | literal s => !s.isEmpty
  | one k => !k.isEmpty
  | assert _ => false
  | seq p q => p.isLive && q.isLive && (p.takesSome || q.takesSome)
  | alt p q => p.takesSome && q.takesSome
  | repeated p lo _ => 0 < lo && p.takesSome
  | group _ p => p.takesSome

/-! ## Sets and sequences -/

/-- A character of a set, literally if there is only one. -/
def ofSet (k : CodeSet) : Pattern :=
  match k.single? with
  | some c => literal [c]
  | none => one k

/-- The parts of a sequence. -/
def parts : Pattern → List Pattern
  | empty => []
  | seq p q => p :: q.parts
  | p => [p]

/-- A part in front of a sequence. -/
def cons : Pattern → Pattern → Pattern
  | literal s, literal t => literal (s ++ t)
  | literal s, seq (literal t) q => seq (literal (s ++ t)) q
  | p, empty => p
  | p, q => seq p q

/-- Patterns one after another. -/
def inSequence (ps : List Pattern) : Pattern := (ps.flatMap parts).foldr cons empty

/-! ## Alternatives -/

/-- The alternatives of a pattern. -/
def choices : Pattern → List Pattern
  | alt p q => p :: q.choices
  | p => [p]

/-- The set of the only character that a literal has. -/
def letter? : Pattern → Option CodeSet
  | literal [c] => some (.single c)
  | _ => none

/-- The set that a pattern is. -/
def set? : Pattern → Option CodeSet
  | one k => some k
  | _ => none

/-- Alternatives side by side. -/
def chain : List Pattern → Pattern
  | [] => one {}
  | [p] => p
  | p :: ps => alt p (chain ps)

/-- Alternatives, as one set if they are single characters, or sets of characters throughout. -/
def merged (ps : List Pattern) : Pattern :=
  match ps with
  | [p] => p
  | ps =>
    match ps.mapM letter? <|> ps.mapM set? with
    | some ks => ofSet (.unions ks)
    | none => chain ps

/-- What two lists have in front in common. -/
def common : List Pattern → List Pattern → List Pattern
  | p :: ps, q :: qs => if p = q then p :: common ps qs else []
  | _, _ => []

/-- The parts with which all of several sequences start. -/
def commonStart : List Pattern → List Pattern
  | seq p q :: ps =>
    ps.foldl (fun start r => match r with
      | seq _ _ => common start r.parts
      | _ => []) (seq p q).parts
  | _ => []

/-- One of several patterns. -/
def anyOf (ps : List Pattern) : Pattern :=
  let ps := ps.flatMap choices
  match ps.mapM letter? <|> ps.mapM set?, commonStart ps with
  | none, p :: start =>
    let rests := ps.map fun q => inSequence (q.parts.drop (start.length + 1))
    inSequence (p :: start ++ [merged (rests.flatMap choices)])
  | _, _ => merged ps

/-! ## Repetitions -/

/-- A pattern repeated at least `lo` and, if given, at most `hi` times. To match nothing more than
once is to match nothing once. -/
def times (p : Pattern) (lo : Nat) (hi : Option Nat) : Pattern :=
  let (lo, hi) := if p.takesNothing then (min lo 1, some (min (hi.getD 1) 1)) else (lo, hi)
  if hi = some 0 then empty
  else if lo = 1 ∧ hi = some 1 then p
  else repeated p lo hi

end Pattern

end TemplateTrace
