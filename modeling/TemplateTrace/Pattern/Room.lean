import TemplateTrace.Pattern.Compose
import TemplateTrace.Text.Utf8

/-!
# The room that a pattern takes

A pattern is too large if an automaton for it takes more than ten mebibytes, with each round of a
counted repetition as states of its own. The automaton reads bytes, forwards or backwards. A state
takes 32 bytes, each of its labelled transitions 8 and each of its plain ones 4.

- `CodeSet.byteRanges`: the characters of a set as sequences of ranges of bytes.
- `Room.ofSet`, `Room.ofLiterals`: the room of sets and of literal alternatives.
- `Pattern.room`, `Pattern.fits`: the room of a pattern, and whether it is small enough.
-/

namespace TemplateTrace

namespace CodeSet

/-- Where to cut a range of characters so that its parts come nearer to being ranges byte by byte:
the last character of the first part. -/
def cut? (lo hi : Nat) : Option Nat :=
  [0x7f, 0x7ff, 0xffff].find? (fun m => lo ≤ m && m < hi) <|>
  if hi ≤ 0x7f then none
  else [0x40, 0x1000, 0x40000].findSome? fun unit =>
    if lo / unit = hi / unit then none
    else if lo % unit ≠ 0 then some (lo - lo % unit + (unit - 1))
    else if hi % unit ≠ unit - 1 then some (hi - hi % unit - 1)
    else none

/-- The characters of a range as sequences of ranges of bytes. -/
def rangeBytes (lo hi : Nat) : List (List CodeRange) :=
  match cut? lo hi with
  | some m => if _ : lo ≤ m ∧ m < hi then rangeBytes lo m ++ rangeBytes (m + 1) hi else []
  | none =>
    let bytes (n : Nat) : List Nat := (Utf8.encode [Char.ofNat n]).map (·.toNat)
    [(bytes lo).zip (bytes hi)]
  termination_by hi - lo

/-- The characters of a set as sequences of ranges of bytes. -/
def byteRanges (k : CodeSet) : List (List CodeRange) :=
  k.ranges.flatMap fun (lo, hi) => rangeBytes lo hi

end CodeSet

namespace Room

/-- A state with its transitions: ranges of bytes and the numbers of the states they lead to. -/
abbrev Node := List (CodeRange × Nat)

/-- The number of the state that reads some sequences, which are sorted, and all states so far, the
latest first. Equal states are one; number 0 is the state behind all sequences. -/
def settle : Nat → List (List CodeRange) → List Node → Nat × List Node
  | 0, _, nodes => (0, nodes)
  | n + 1, seqs, nodes =>
    let groups := (seqs.filter (· ≠ [])).splitBy fun r s => r.head? == s.head?
    if groups = [] then (0, nodes)
    else
      let (node, nodes) := groups.foldl (fun (node, nodes) group =>
        let (next, nodes) := settle n (group.map List.tail) nodes
        ((((group.head?.bind List.head?).getD (0, 0)), next) :: node, nodes)) ([], nodes)
      match nodes.idxOf? node with
      | some i => (nodes.length - i, nodes)
      | none => (nodes.length + 1, node :: nodes)

/-- The rooms of parts taken together. -/
def total (rooms : List Nat) : Nat := rooms.foldl (· + ·) 0

/-- The room of sequences of bytes that are read forwards, with common endings shared. -/
def forwards (seqs : List (List CodeRange)) : Nat :=
  32 + total ((settle 5 seqs []).2.map fun node => 32 + 8 * node.length)

/-- How many elements of the second list come behind what the lists have in front in common. -/
def behindCommon : List CodeRange → List CodeRange → Nat
  | r :: rs, s :: ss => if r = s then behindCommon rs ss else (s :: ss).length
  | _, ss => ss.length

/-- The room of sequences of bytes that are read backwards, with common beginnings shared. -/
def backwards (seqs : List (List CodeRange)) : Nat :=
  64 + 4 * seqs.length + 32 * total ((([] :: seqs).zip seqs).map fun (r, s) => behindCommon r s)

/-- The room of a set of characters. -/
def ofSet (isForward : Bool) (k : CodeSet) : Nat :=
  if k.isAscii then 64 + 8 * k.ranges.length
  else if isForward then forwards k.byteRanges
  else backwards k.byteRanges

/-- The room of a tree of the texts `ts`, without the state behind them: at a node, the texts
between two that end there have their transitions in one state. -/
def ofTree : Nat → List (List UInt8) → Nat
  | 0, _ => 0
  | n + 1, ts =>
    if ts.all (·.isEmpty) then 0
    else
      let ts := match ts with
        | [] :: ts => [] :: ts.dropWhile (·.isEmpty)
        | ts => ts
      let ends := ts.countP (·.isEmpty)
      let chunks := ((ts.splitBy fun s t => !s.isEmpty && !t.isEmpty).map
        (·.filter (!·.isEmpty))).filter (!·.isEmpty)
      let rooms := chunks.map fun chunk =>
        let heads := (chunk.filterMap List.head?).eraseDups
        let own := if heads.length = 1 then 32 else 32 + 8 * heads.length
        own + total (heads.map fun b =>
          ofTree n ((chunk.filter (·.head? == some b)).map List.tail))
      32 + 4 * (ends + chunks.length) + total rooms

/-- The room of literal alternatives. -/
def ofLiterals (isForward : Bool) (ts : List Text) : Nat :=
  let ts := ts.map fun t => if isForward then Utf8.encode t else (Utf8.encode t).reverse
  32 + ofTree ((ts.map List.length).foldl max 0 + 1) ts

/-- The room of a repetition of something that takes `n`. -/
def ofTimes (n : Nat) (takesSome : Bool) : Nat → Option Nat → Nat
  | 0, some 1 => 72 + n
  | 0, none => if takesSome then 40 + n else 112 + n
  | lo, none => lo * n + 40
  | lo, some hi =>
    if lo = hi then lo * n
    else (if lo = 0 then 32 else lo * n) + 32 + (hi - lo) * (40 + n)

end Room

namespace Pattern

/-- The text of a literal. -/
def literal? : Pattern → Option Text
  | literal s => some s
  | _ => none

/-- The room of a pattern: of its own, and as a part of alternatives. -/
def room (isForward : Bool) : Pattern → Nat × Nat
  | empty => (32, 36)
  | literal s =>
    let n := 32 * Text.bytes s
    (n, n + 4)
  | one k =>
    let n := Room.ofSet isForward k
    (n, n + 4)
  | assert _ => (32, 36)
  | seq p q =>
    let n := (p.room isForward).1 + (q.room isForward).1
    (n, n + 4)
  | alt p q =>
    let n := (p.room isForward).2 + (q.room isForward).2
    match (alt p q).choices.mapM literal? with
    | some ts => (Room.ofLiterals isForward ts, n)
    | none => (64 + n, n)
  | repeated p lo hi =>
    let n := Room.ofTimes (p.room isForward).1 p.takesSome lo hi
    (n, n + 4)
  | group _ p =>
    let n := (p.room isForward).1 + if isForward then 64 else 0
    (n, n + 4)

/-- Whether each match starts where the text does. -/
def opensText : Pattern → Bool
  | assert a => a == .textStart
  | seq p q => p.opensText || p.takesNothing && q.opensText
  | alt p q => p.opensText && q.opensText
  | repeated p lo _ => 0 < lo && p.opensText
  | group _ p => p.opensText
  | _ => false

/-- Whether each match ends where the text does. -/
def closesText : Pattern → Bool
  | assert a => a == .textEnd
  | seq p q => q.closesText || q.takesNothing && p.closesText
  | alt p q => p.closesText && q.closesText
  | repeated p lo _ => 0 < lo && p.closesText
  | group _ p => p.closesText
  | _ => false

/-- The room that no pattern may exceed: ten mebibytes. -/
def mostRoom : Nat := 10 * 1024 * 1024

/-- Whether a pattern is small enough, read forwards and backwards. A pattern that may match
anywhere takes a loop in front of it, and reading forwards takes notes of where a match starts and
ends. -/
def fits (p : Pattern) : Bool :=
  (p.room true).1 + (if p.opensText then 32 else 112) + 96 ≤ mostRoom &&
    (p.room false).1 + (if p.closesText then 32 else 112) + 32 ≤ mostRoom

end Pattern

end TemplateTrace
