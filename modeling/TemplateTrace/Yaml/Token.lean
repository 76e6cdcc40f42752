import TemplateTrace.Yaml.Property

/-!
# YAML tokens

The signs and scalars of a text, in order. Collections that are nested by the columns in which their
entries start get tokens for their start and end as well. That a scalar is a key shows only at the
colon behind it, and so the token that says so is put in front of it afterwards. A key stands on one
line with its colon, with at most 1024 bytes before it; tabs do not indent.

- `Token`: the tokens.
- `Place`: a place in the text.
- `Scanner`: what has been read of a text, and `Scanner.step?`, the next token.
- `Token.scan?`: the tokens of a text.
-/

namespace TemplateTrace

namespace Yaml

/-- A part of a text. -/
inductive Token where
  | directive (d : Directive)
  | documentStart
  | documentEnd
  | blockSequenceStart
  | blockMappingStart
  | blockEnd
  | flowSequenceStart
  | flowSequenceEnd
  | flowMappingStart
  | flowMappingEnd
  | flowEntry
  | blockEntry
  | key
  | value
  | alias (name : Text)
  | anchor (name : Text)
  | tag (handle suffix : Text)
  | scalar (style : Style) (text : Text)
  deriving DecidableEq, Repr

/-! ## Places -/

/-- A place in a text. -/
structure Place where
  rest : Text
  /-- The bytes in front of the place. -/
  bytes : Nat := 0
  line : Nat := 0
  column : Nat := 0

namespace Place

/-- The place behind the next `n` characters. -/
def pass (p : Place) : Nat → Place
  | 0 => p
  | n + 1 =>
    match p.rest with
    | [] => p
    | c :: s =>
      let bytes := p.bytes + c.utf8Size
      if isBreak c then pass ⟨s, bytes, p.line + 1, 0⟩ n
      else pass ⟨s, bytes, p.line, p.column + 1⟩ n

/-- The place at which only `r` is left. -/
def moveTo (p : Place) (r : Text) : Place := p.pass (p.rest.length - r.length)

/-- The place behind blanks, comments and line breaks, and whether a key may start there. Where a
key may start, tabs are not passed; a mark of the byte order is, at the start of a line. -/
def skipFrom (inFlow inComment mayStart : Bool) (p : Place) : Text → Place × Bool
  | [] => (p, mayStart)
  | c :: s =>
    if isBreak c then skipFrom inFlow false (mayStart || !inFlow) (p.pass 1) s
    else if inComment ∨ (c = '\ufeff' ∧ p.column = 0) ∨ c = ' ' ∨
        (c = '\t' ∧ (inFlow ∨ !mayStart)) then
      skipFrom inFlow inComment mayStart (p.pass 1) s
    else if c = '#' then skipFrom inFlow true mayStart (p.pass 1) s
    else (p, mayStart)

end Place

/-! ## Scanners -/

/-- A place at which a key may have started. -/
structure KeyStart where
  /-- The number of tokens in front of the key. -/
  number : Nat
  place : Place
  /-- Whether nothing but a key can stand there. -/
  isRequired : Bool

/-- What has been read of a text. -/
structure Scanner where
  place : Place
  /-- The tokens, the latest first. -/
  tokens : List Token := []
  count : Nat := 0
  /-- The collections nested by columns that are open, the innermost first: for each one the least
  column of what belongs to an entry of it. -/
  levels : List Nat := []
  /-- The start of the last possible key between the innermost brackets. -/
  keyStart : Option KeyStart := none
  /-- The same between each of the brackets around them. -/
  outerStarts : List (Option KeyStart) := []
  /-- Whether a key may start here. -/
  mayStart : Bool := true

namespace Scanner

/-- Whether a scanner is between brackets. -/
def inFlow (sc : Scanner) : Bool := !sc.outerStarts.isEmpty

/-- The least column of what belongs to the innermost entry. -/
def least (sc : Scanner) : Nat := sc.levels.headD 0

/-- Puts a token in front of the token with a number. -/
def insert (sc : Scanner) (number : Nat) (t : Token) : Scanner :=
  let later := sc.count - number
  { sc with tokens := sc.tokens.take later ++ t :: sc.tokens.drop later, count := sc.count + 1 }

/-- Adds a token and goes on where only `r` is left. -/
def emit (sc : Scanner) (t : Token) (r : Text) : Scanner :=
  { sc with tokens := t :: sc.tokens, count := sc.count + 1, place := sc.place.moveTo r }

/-- Passes blanks, comments and line breaks. -/
def skip (sc : Scanner) : Scanner :=
  let (place, mayStart) := sc.place.skipFrom sc.inFlow false sc.mayStart sc.place.rest
  { sc with place, mayStart }

/-! ### Collections nested by columns -/

/-- Ends the collections whose entries would have to stand at column `bound` or later. -/
def closeAbove (sc : Scanner) (bound : Nat) : Scanner :=
  if sc.inFlow then sc
  else
    let closed := sc.levels.takeWhile (bound < ·)
    { sc with
      levels := sc.levels.drop closed.length
      tokens := closed.map (fun _ => .blockEnd) ++ sc.tokens
      count := sc.count + closed.length }

/-- Starts a collection at a column, in front of the token with a number, unless the column belongs
to an entry of an open one. -/
def openAt (sc : Scanner) (column number : Nat) (t : Token) : Scanner :=
  if sc.inFlow ∨ column < sc.least then sc
  else { sc.insert number t with levels := (column + 1) :: sc.levels }

/-! ### Keys -/

/-- Whether the start of a key is too far away for its colon to stand here. -/
def isOver (here : Place) (k : KeyStart) : Bool :=
  k.place.line < here.line || k.place.bytes + 1024 < here.bytes

/-- The start of a key that can still have its colon here. -/
def current? (here : Place) : Option KeyStart → Option (Option KeyStart)
  | none => some none
  | some k => if isOver here k then if k.isRequired then none else some none else some (some k)

/-- Forgets the starts of keys that have become too far away. -/
def expire? (sc : Scanner) : Option Scanner := do
  return { sc with
    keyStart := ← current? sc.place sc.keyStart
    outerStarts := ← sc.outerStarts.mapM (current? sc.place) }

/-- Forgets the start of the last possible key. -/
def dropStart? (sc : Scanner) : Option Scanner :=
  if sc.keyStart.any (·.isRequired) then none else some { sc with keyStart := none }

/-- Notes that a key may start here, if it may. -/
def noteStart? (sc : Scanner) : Option Scanner :=
  if sc.mayStart then do
    let isRequired := !sc.inFlow && sc.least == sc.place.column + 1
    return { ← sc.dropStart? with keyStart := some ⟨sc.count, sc.place, isRequired⟩ }
  else some sc

/-! ### Signs and scalars -/

/-- A mark that starts or ends a document, or a directive. -/
def outside? (sc : Scanner) (t : Token) (r : Text) : Option Scanner := do
  let sc ← (sc.closeAbove 0).dropStart?
  return { sc.emit t r with mayStart := false }

/-- An opening bracket. -/
def openFlow? (sc : Scanner) (t : Token) (r : Text) : Option Scanner := do
  let sc ← sc.noteStart?
  return { sc.emit t r with
    keyStart := none, outerStarts := sc.keyStart :: sc.outerStarts, mayStart := true }

/-- A closing bracket. -/
def closeFlow? (sc : Scanner) (t : Token) (r : Text) : Option Scanner := do
  let sc := { ← sc.dropStart? with mayStart := false }
  match sc.outerStarts with
  | k :: ks => return { sc.emit t r with keyStart := k, outerStarts := ks }
  | [] => return sc.emit t r

/-- The sign of an entry or of a key, which outside brackets may start a collection. -/
def entry? (sc : Scanner) (start t : Token) (mayStart : Bool) (r : Text) : Option Scanner := do
  if !sc.inFlow ∧ !sc.mayStart then none
  else
    let sc ← (sc.openAt sc.place.column sc.count start).dropStart?
    return { sc.emit t r with mayStart }

/-- The colon in front of a value. -/
def value? (sc : Scanner) (r : Text) : Option Scanner :=
  match sc.keyStart with
  | some k =>
    let sc := (sc.insert k.number .key).openAt k.place.column k.number .blockMappingStart
    some { sc.emit .value r with keyStart := none, mayStart := false }
  | none => do
    if !sc.inFlow ∧ !sc.mayStart then none
    else
      let sc := sc.openAt sc.place.column sc.count .blockMappingStart
      return { sc.emit .value r with mayStart := !sc.inFlow }

/-- A token with which a key may start. -/
def keyPart? (sc : Scanner) (t : Token) (r : Text) : Option Scanner := do
  return { (← sc.noteStart?).emit t r with mayStart := false }

/-- The next token, which starts with the character `c`. -/
def token? (sc : Scanner) (c : Char) (s : Text) : Option Scanner := do
  let starts := c :: s
  if sc.place.column = 0 ∧ c = '%' then
    let (d, r) ← directive? s
    sc.outside? (.directive d) r
  else if sc.place.column = 0 ∧ isDocumentMark starts then
    sc.outside? (if c = '-' then .documentStart else .documentEnd) (s.drop 2)
  else if c = '[' then sc.openFlow? .flowSequenceStart s
  else if c = '\x7b' then sc.openFlow? .flowMappingStart s
  else if c = ']' then sc.closeFlow? .flowSequenceEnd s
  else if c = '\x7d' then sc.closeFlow? .flowMappingEnd s
  else if c = ',' then
    return { (← sc.dropStart?).emit .flowEntry s with mayStart := true }
  else if c = '-' ∧ isApart s then
    if sc.inFlow then return { (← sc.dropStart?).emit .blockEntry s with mayStart := true }
    else sc.entry? .blockSequenceStart .blockEntry true s
  else if c = '?' ∧ (sc.inFlow ∨ isApart s) then
    sc.entry? .blockMappingStart .key (!sc.inFlow) s
  else if c = ':' ∧ (sc.inFlow ∨ isApart s) then sc.value? s
  else if c = '*' then
    let (name, r) ← name? s
    sc.keyPart? (.alias name) r
  else if c = '&' then
    let (name, r) ← name? s
    sc.keyPart? (.anchor name) r
  else if c = '!' then
    let ((handle, suffix), r) ← tag? sc.inFlow s
    sc.keyPart? (.tag handle suffix) r
  else if (c = '|' ∨ c = '>') ∧ !sc.inFlow then
    let (t, r) ← block? (c = '>') sc.least s
    let sc ← sc.dropStart?
    return { sc.emit (.scalar (if c = '>' then .folded else .literal) t) r with mayStart := true }
  else if c = '\'' then
    let (t, r) ← singleQuoted? s
    sc.keyPart? (.scalar .quoted t) r
  else if c = '"' then
    let (t, r) ← doubleQuoted? s
    sc.keyPart? (.scalar .quoted t) r
  else if startsPlain sc.inFlow starts then
    let (t, isBroken, r) ← plain? sc.inFlow sc.least sc.place.column starts
    let sc ← sc.keyPart? (.scalar .plain t) r
    return { sc with mayStart := isBroken }
  else none

/-- Reads the next token, or ends the collections that are open at the end of the text. -/
def step? (sc : Scanner) : Option (Scanner × Bool) := do
  let sc ← sc.skip.expire?
  let sc := sc.closeAbove (sc.place.column + 1)
  match sc.place.rest with
  | [] => return (← (sc.closeAbove 0).dropStart?, true)
  | c :: s => return (← sc.token? c s, false)

/-- Reads to the end of the text, in at most `n` steps. -/
def run? : Nat → Scanner → Option Scanner
  | 0, _ => none
  | n + 1, sc =>
    match sc.step? with
    | none => none
    | some (sc, true) => some sc
    | some (sc, false) => run? n sc

end Scanner

/-! ## Texts -/

/-- A text with line feeds for all line breaks that need no sign of their own. -/
def plainBreaks : Text → Text
  | '\r' :: '\n' :: s => '\n' :: plainBreaks s
  | c :: s => (if c = '\r' ∨ c = '\u0085' then '\n' else c) :: plainBreaks s
  | [] => []

/-- A character that may stand in a text. -/
def isAllowed (c : Char) : Bool :=
  let n := c.toNat
  c == '\t' || c == '\n' || c == '\r' || (0x20 ≤ n && n ≤ 0x7e) || n == 0x85 ||
    (0xa0 ≤ n && n ≤ 0xd7ff) || (0xe000 ≤ n && n ≤ 0xfffd) || 0x10000 ≤ n

/-- The tokens of a text. Each takes a character at least. -/
def Token.scan? (s : Text) : Option (List Token) :=
  if s.all isAllowed then
    let s := plainBreaks s
    (Scanner.run? (s.length + 1) { place := ⟨s, 0, 0, 0⟩ }).map (·.tokens.reverse)
  else none

end Yaml

end TemplateTrace
