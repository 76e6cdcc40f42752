import TemplateTrace.Code.Head
import TemplateTrace.Code.Literal
import TemplateTrace.Marker.Tagging
import TemplateTrace.MapError

/-!
# Include calls

Compiled code renders another template by a statement of one shape:

`echo $__env->make(name, data, locals)->render();`

The name is a string literal, or an expression that cannot be followed. The data argument is an
array literal of keyed entries, or an expression whose keys are unknown. The last argument passes
the caller's local variables, less an exclusion list. Data and locals may be left out. A call over
several template lines carries the markers of its later lines, which are taken out before the
arguments are read.

- `IncludeCall`: what a call renders and what it passes.
- `IncludeCall.ofArguments`: the call that an argument list describes.
- `IncludeSite.find`: the next call in a text, with the text around it.
- `IncludeSite.findFrom`, `IncludeSite.findAll`: the same by byte offset, once and repeatedly.
-/

namespace TemplateTrace

/-- Which template a call renders. -/
inductive IncludeTarget where
  /-- A template named in the code. -/
  | literal (name : Text)
  /-- A template that is known at run time only. -/
  | dynamic (expression : Text)
  deriving DecidableEq, Repr

/-- The data that a call passes. -/
inductive IncludeData where
  /-- Keys and value expressions, as written. -/
  | pairs (entries : List (Text × Text))
  /-- An expression whose keys are unknown. -/
  | expression (e : Text)
  deriving DecidableEq, Repr

/-- What an include call renders and what it passes. -/
structure IncludeCall where
  target : IncludeTarget
  data : Option IncludeData
  /-- The names left out when the caller's locals are passed. -/
  excluded : Option (List Text)
  deriving DecidableEq, Repr

/-- The target that an expression names. -/
def IncludeTarget.classify (e : Text) : IncludeTarget :=
  match Code.string? e with
  | some name => .literal name
  | none => .dynamic (Text.strip e)

/-- Sets the value of a key, in its place if the key is there and at the end if not. -/
def setEntry (entries : List (Text × Text)) (entry : Text × Text) : List (Text × Text) :=
  match entries with
  | [] => [entry]
  | e :: es => if e.1 = entry.1 then entry :: es else e :: setEntry es entry

namespace IncludeCall

/-- The keyed data of a call, each key once: in the place of its first entry, with the value of
its last. -/
def dataPairs (call : IncludeCall) : List (Text × Text) :=
  match call.data with
  | some (.pairs entries) => entries.foldl setEntry []
  | _ => []

/-! ## Arguments -/

/-- An expression on one line: its lines trimmed, with a blank between them. -/
def singleLine (e : Text) : Text :=
  Text.joinWith [' '] ((Text.endedLines (Text.strip e)).map Text.strip)

/-- The key and the expression of one item of a data array. -/
def readEntry (item : Text) : Except CallFault (Text × Text) :=
  match Code.keyed? item with
  | some (key, e) => .ok (key, singleLine e)
  | none => .error .entryNotKeyed

/-- The data that an argument passes. -/
def readData (argument : Text) : Except CallFault IncludeData :=
  match Code.array? argument with
  | none => .ok (.expression (singleLine argument))
  | some inner =>
    match Code.items? inner with
    | none => .error .unbalancedData
    | some items => do
      return .pairs (← (items.filter (Text.strip · ≠ [])).mapM readEntry)

/-- The exclusion list in an argument that passes the caller's locals. -/
def localsList? (argument : Text) : Option Text := do
  let s := (Text.after? ['\\'] argument).getD argument
  let r ← Code.Head.rest? [.word "Illuminate\\Support\\Arr::except".toList, .blanks,
    .word "(".toList, .blanks, .word "get_defined_vars".toList, .blanks, .word "(".toList, .blanks,
    .word ")".toList, .blanks, .word ",".toList] s
  if r.getLast? = some ')' then some r.dropLast else none

/-- The name that one item of an exclusion list writes. -/
def readExclusion (item : Text) : Except CallFault Text :=
  match Code.string? item with
  | some name => .ok name
  | none => .error .exclusionNotLiteral

/-- The names in an exclusion list. -/
def readExclusions (list : Text) : Except CallFault (List Text) :=
  match Code.array? list with
  | none => .error .exclusionsNotArray
  | some inner =>
    match Code.items? inner with
    | none => .error .unbalancedExclusions
    | some items => ((items.map Text.strip).filter (· ≠ [])).mapM readExclusion

/-- The call that an argument list describes. One comma may follow the last argument. -/
def ofArguments (arguments : Text) : Except CallFault IncludeCall :=
  match Code.items? arguments with
  | none => .error .unbalancedArguments
  | some items =>
    let items := items.map Text.strip
    let items := if items.getLast? = some [] then items.dropLast else items
    if items.any (·.isEmpty) then .error (.argumentCount items.length)
    else match items with
      | [target] => .ok ⟨.classify target, none, none⟩
      | [target, last] =>
        match localsList? last with
        | some list => do return ⟨.classify target, none, ← readExclusions list⟩
        | none => do return ⟨.classify target, ← readData last, none⟩
      | [target, second, last] =>
        match localsList? second with
        | some _ => .error .localsNotLast
        | none => do
          let data ← readData second
          match localsList? last with
          | some list => return ⟨.classify target, data, ← readExclusions list⟩
          | none => .error .thirdNotLocals
      | _ => .error (.argumentCount items.length)

end IncludeCall

/-! ## Finding calls -/

/-- An include call in a text, with the text on both sides. -/
structure IncludeSite where
  before : Text
  /-- The statement as written, up to its `;`. -/
  text : Text
  call : IncludeCall
  rest : Text
  deriving DecidableEq, Repr

namespace IncludeSite

/-- How a call starts, up to its opening bracket. -/
def head : Code.Head := [.word "echo".toList, .someBlanks, .word "$__env".toList, .blanks,
  .word "->".toList, .blanks, .word "make".toList, .blanks, .word "(".toList]

/-- How a call goes on behind its closing bracket. -/
def tail : Code.Head := [.blanks, .word "->".toList, .blanks, .word "render".toList, .blanks,
  .word "(".toList, .blanks, .word ")".toList, .blanks, .word ";".toList]

/-- The next call in a text, given the character in front of the text. -/
def find (prev : Option Char) (s : Text) : Except MapError (Option IncludeSite) :=
  match Text.search head.wordRest? prev s with
  | none => .ok none
  | some (before, arguments) =>
    let start := s.drop before.length
    match Code.enclosed? ('(' :: arguments) with
    | none => .error (.malformed .unbalancedArguments start)
    | some (arguments, after) =>
      let made := Text.upTo start after
      match tail.rest? after with
      | none => .error (.malformed .noRender made)
      | some rest =>
        match IncludeCall.ofArguments (stripMarkers arguments) with
        | .error fault => .error (.malformed fault made)
        | .ok call => .ok (some { before, text := Text.upTo start rest, call, rest })

/-- A call consumes something: what follows it is shorter than the text that was searched. -/
theorem length_rest_lt {prev : Option Char} {s : Text} {site : IncludeSite}
    (h : find prev s = .ok (some site)) : site.rest.length < s.length := by
  unfold find at h
  split at h
  · simp at h
  next before arguments hs =>
  obtain ⟨p, t, rfl, ht⟩ := Text.search_eq_some hs
  have ht : arguments.length < t.length := by
    unfold Code.Head.wordRest? at ht
    split at ht
    · exact Code.Head.length_rest?_lt (by decide) ht
    · simp at ht
  dsimp only at h
  split at h
  · simp at h
  next inner after he =>
  have he := Code.length_enclosed?_lt he
  split at h
  · simp at h
  next rest hr =>
  have hr := Code.Head.length_rest?_le hr
  split at h
  · simp at h
  · simp only [Except.ok.injEq, Option.some.injEq] at h
    simp only [← h, List.length_append, List.length_cons] at *
    omega

/-- A call with the byte offsets at which it starts and ends. -/
structure Located where
  start : Nat
  stop : Nat
  call : IncludeCall
  deriving DecidableEq, Repr

/-- The place of a call in a text, when `offset` bytes precede the text that was searched. -/
def located (site : IncludeSite) (offset : Nat) : Located :=
  let start := offset + Text.bytes site.before
  { start, stop := start + Text.bytes site.text, call := site.call }

/-- The next call that starts at or after the byte offset `i`. -/
def findFrom (s : Text) (i : Nat) : Except MapError (Option Located) :=
  let (a, b) := Text.cutFrom s i
  (find (Text.lastOr none a) b).map (·.map (·.located (Text.bytes a)))

/-- The calls of a text one after another, given the character in front of it and the number of
bytes before it, and the error that ended the search, if one did. -/
def findAll (prev : Option Char) (offset : Nat) (s : Text) : List Located × Option MapError :=
  match h : find prev s with
  | .error e => ([], some e)
  | .ok none => ([], none)
  | .ok (some site) =>
    have := length_rest_lt h
    let here := site.located offset
    let (calls, fault) := findAll (Text.lastOr prev site.text) here.stop site.rest
    (here :: calls, fault)
termination_by s.length

end IncludeSite

end TemplateTrace
