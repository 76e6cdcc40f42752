import TemplateTrace.Yaml.Token

/-!
# YAML events

The tokens of a document are read as events: its scalars and aliases, and the starts and ends of its
collections. Places where nothing is written become empty scalars.

- `Event`: the events.
- `Expected`: what may come next.
- `Event.ofTokens?`: the events of the only document that a text holds.
-/

namespace TemplateTrace

namespace Yaml

/-- A part of a document. -/
inductive Event where
  | scalar (anchor tag : Option Text) (style : Style) (text : Text)
  | alias (name : Text)
  | sequenceStart (anchor : Option Text)
  | sequenceEnd
  | mappingStart (anchor : Option Text)
  | mappingEnd
  deriving DecidableEq, Repr

namespace Event

/-- The scalar that stands where nothing is written. -/
def empty : Event := scalar none none .plain []

/-! ## Values -/

/-- What may come next. -/
inductive Expected where
  | node
  | blockItem
  /-- An item of a sequence right below the key that it belongs to. -/
  | indentlessItem
  | blockKey
  | blockValue
  | flowItem (isFirst : Bool)
  | flowKey (isFirst : Bool)
  | flowValue
  /-- The value of a key without a colon. -/
  | missingValue
  /-- The key, the value and the end of a mapping that is an item without brackets. -/
  | pairKey
  | pairValue
  | pairEnd
  deriving DecidableEq, Repr

/-- An event, what is expected behind it, and the tokens behind it. -/
abbrev Step := Event × List Expected × List Token

/-- The meanings of handles. -/
abbrev Handles := List (Text × Text)

/-- The name that a tag stands for. -/
def tagName? (handles : Handles) (handle suffix : Text) : Option Text :=
  if handle = [] then some suffix
  else (handles.find? (·.1 = handle)).map (·.2 ++ suffix)

/-- The anchor and the tag of a value, in either order, and the tokens behind them. -/
def properties? (handles : Handles) :
    List Token → Option (Option Text × Option Text × List Token)
  | .anchor a :: .tag h s :: ts => (tagName? handles h s).map fun t => (some a, some t, ts)
  | .tag h s :: .anchor a :: ts => (tagName? handles h s).map fun t => (some a, some t, ts)
  | .anchor a :: ts => some (some a, none, ts)
  | .tag h s :: ts => (tagName? handles h s).map fun t => (none, some t, ts)
  | ts => some (none, none, ts)

/-- A value, or its start if it is a collection; `next` is expected behind the value. Collections
nested by columns may stand here if `isBlock` says so, and among them sequences whose items stand
right below the key if `isIndentless` says so. A value that has an anchor or a tag may be empty. -/
def node? (handles : Handles) (isBlock isIndentless : Bool) (next : List Expected)
    (ts : List Token) : Option Step :=
  match ts with
  | .alias name :: ts => some (.alias name, next, ts)
  | ts => do
    let (anchor, tag, ts) ← properties? handles ts
    let missing : Option Step :=
      if anchor.isSome ∨ tag.isSome then some (scalar anchor tag .plain [], next, ts) else none
    match ts with
    | .scalar style text :: ts => some (scalar anchor tag style text, next, ts)
    | .flowSequenceStart :: ts => some (sequenceStart anchor, .flowItem true :: next, ts)
    | .flowMappingStart :: ts => some (mappingStart anchor, .flowKey true :: next, ts)
    | .blockEntry :: _ =>
      if isIndentless then some (sequenceStart anchor, .indentlessItem :: next, ts) else missing
    | .blockSequenceStart :: r =>
      if isBlock then some (sequenceStart anchor, .blockItem :: next, r) else missing
    | .blockMappingStart :: r =>
      if isBlock then some (mappingStart anchor, .blockKey :: next, r) else missing
    | _ => missing

/-- A value, unless one of the tokens `ends` shows that nothing is written. -/
def nodeUnless? (handles : Handles) (isBlock isIndentless : Bool) (ends : List Token)
    (next : List Expected) (ts : List Token) : Option Step :=
  if ts.head?.any ends.contains then some (empty, next, ts)
  else node? handles isBlock isIndentless next ts

/-- The tokens behind the comma in front of an item or entry between brackets; the first one has no
comma, and a closing bracket needs none. -/
def afterComma? (isFirst : Bool) (close : Token) : List Token → Option (List Token)
  | ts =>
    if isFirst ∨ ts.head? = some close then some ts
    else match ts with
      | .flowEntry :: ts => some ts
      | _ => none

/-- An item of a sequence between brackets, or the end of the sequence. -/
def flowItem? (handles : Handles) (next : List Expected) : List Token → Option Step
  | .flowSequenceEnd :: ts => some (sequenceEnd, next, ts)
  | .key :: ts => some (mappingStart none, .pairKey :: .flowItem false :: next, ts)
  | ts => node? handles false false (.flowItem false :: next) ts

/-- A key between brackets, or the end of the mapping. -/
def flowKey? (handles : Handles) (next : List Expected) : List Token → Option Step
  | .flowMappingEnd :: ts => some (mappingEnd, next, ts)
  | .key :: ts =>
    nodeUnless? handles false false [.value, .flowEntry, .flowMappingEnd]
      (.flowValue :: .flowKey false :: next) ts
  | ts => node? handles false false (.missingValue :: .flowKey false :: next) ts

/-- The next event, given what is expected. The key of a mapping that is an item without brackets
takes the token behind it along when the key is left out. -/
def next? (handles : Handles) : List Expected → List Token → Option Step
  | .node :: next, ts => node? handles true false next ts
  | .blockItem :: next, .blockEntry :: ts =>
    nodeUnless? handles true false [.blockEntry, .blockEnd] (.blockItem :: next) ts
  | .blockItem :: next, .blockEnd :: ts => some (sequenceEnd, next, ts)
  | .indentlessItem :: next, .blockEntry :: ts =>
    nodeUnless? handles true false [.blockEntry, .key, .value, .blockEnd]
      (.indentlessItem :: next) ts
  | .indentlessItem :: next, ts => some (sequenceEnd, next, ts)
  | .blockKey :: next, .key :: ts =>
    nodeUnless? handles true true [.key, .value, .blockEnd] (.blockValue :: .blockKey :: next) ts
  | .blockKey :: next, .blockEnd :: ts => some (mappingEnd, next, ts)
  | .blockValue :: next, .value :: ts =>
    nodeUnless? handles true true [.key, .value, .blockEnd] next ts
  | .blockValue :: next, ts => some (empty, next, ts)
  | .flowItem isFirst :: next, ts =>
    (afterComma? isFirst .flowSequenceEnd ts).bind (flowItem? handles next)
  | .flowKey isFirst :: next, ts =>
    (afterComma? isFirst .flowMappingEnd ts).bind (flowKey? handles next)
  | .flowValue :: next, .value :: ts =>
    nodeUnless? handles false false [.flowEntry, .flowMappingEnd] next ts
  | .flowValue :: next, ts => some (empty, next, ts)
  | .missingValue :: next, ts => some (empty, next, ts)
  | .pairKey :: next, ts =>
    if ts.head?.any [.value, .flowEntry, .flowSequenceEnd].contains then
      some (empty, .pairValue :: next, ts.tail)
    else node? handles false false (.pairValue :: next) ts
  | .pairValue :: next, .value :: ts =>
    nodeUnless? handles false false [.flowEntry, .flowSequenceEnd] (.pairEnd :: next) ts
  | .pairValue :: next, ts => some (empty, .pairEnd :: next, ts)
  | .pairEnd :: next, ts => some (mappingEnd, next, ts)
  | _, _ => none

/-- The events up to the place where nothing is expected any more, put in front of `done`, the
latest first, in at most `n` steps; and the tokens behind them. -/
def run? (handles : Handles) (done : List Event) :
    Nat → List Expected → List Token → Option (List Event × List Token)
  | _, [], ts => some (done, ts)
  | 0, _, _ => none
  | n + 1, es, ts =>
    match next? handles es ts with
    | none => none
    | some (e, es, ts) => run? handles (e :: done) n es ts

/-! ## Documents -/

/-- The handles that are known without a directive. -/
def coreHandles : Handles := [(['!'], ['!']), (['!', '!'], coreTag "")]

/-- The meanings of handles by directives, none of which may be given twice. -/
def handles? (ds : List Directive) : Option Handles := do
  let versions := ds.filterMap fun
    | .version major minor => some (major, minor)
    | .handle _ _ => none
  let handles := ds.filterMap fun
    | .version _ _ => none
    | .handle name uri => some (name, uri)
  if versions.length ≤ 1 ∧ versions.all (fun v => v == (1, 1) || v == (1, 2)) ∧
      (handles.map (·.1)).eraseDups.length = handles.length then
    some (handles ++ coreHandles)
  else none

/-- The directives in front of a document, and the tokens behind them. -/
def directives : List Token → List Directive × List Token
  | .directive d :: ts => let (ds, ts) := directives ts; (d :: ds, ts)
  | ts => ([], ts)

/-- What is known and expected at the start of a document, and the tokens behind the start. A
document that starts with directives has a mark, and what has a mark may be empty. -/
def start? (ts : List Token) : Option (Handles × List Token × Bool) := do
  let (ds, ts) := directives ts
  let handles ← handles? ds
  match ts with
  | .documentStart :: ts =>
    return (handles, ts, ts.head?.all fun
      | .directive _ => true
      | .documentStart => true
      | .documentEnd => true
      | _ => false)
  | ts => if ds = [] then return (handles, ts, false) else none

/-- The events of the only document that tokens write; there are none if nothing is written. -/
def ofTokens? (ts : List Token) : Option (List Event) :=
  if ts = [] then some []
  else do
    let (handles, ts, isEmpty) ← start? ts
    let (events, ts) ←
      if isEmpty then some ([empty], ts) else run? handles [] (4 * ts.length + 8) [.node] ts
    if ts.all (· = .documentEnd) then some events.reverse else none

end Event

end Yaml

end TemplateTrace
