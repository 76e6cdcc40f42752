import TemplateTrace.Text.Basic

/-!
# Balanced code

Nothing in the library understands host code further than its brackets and its quoted strings.
Three kinds of bracket nest, and a quoted string is skipped as a unit, so that a bracket or a
separator inside it never counts. Comments are not recognised.

- `afterString?`: what follows the quoted string at the start of a text.
- `afterGroup?`, `afterRun`: what follows a balanced group, and what follows the longest run of
  strings, groups and plain characters up to a stop.
- `enclosed?`: the text inside the group at the start of a text, and the text after it.
- `statement`: a text cut at the first `;` outside strings and groups.
- `items?`: the pieces of a text between commas outside strings and groups.
- `closeAt?`: the byte offset of the bracket that closes the one at a given offset.
-/

namespace TemplateTrace

namespace Code

/-! ## Quoted strings -/

/-- What follows the closing quote `q`, read from behind the opening one. A backslash hides the
character after it. -/
def afterQuote? (q : Char) : Text → Option Text
  | [] => none
  | '\\' :: s =>
    match s with
    | [] => none
    | _ :: s => afterQuote? q s
  | c :: s => if c = q then some s else afterQuote? q s

/-- What follows the quoted string at the start of a text. -/
def afterString? : Text → Option Text
  | '\'' :: s => afterQuote? '\'' s
  | '"' :: s => afterQuote? '"' s
  | _ => none

theorem length_afterQuote?_lt {q : Char} {s r : Text} (h : afterQuote? q s = some r) :
    r.length < s.length := by
  fun_induction afterQuote? q s with
  | case1 => simp at h
  | case2 => simp at h
  | case3 c s ih => simpa using Nat.lt_succ_of_lt (Nat.lt_succ_of_lt (ih h))
  | case4 s => simp_all
  | case5 c s _ hc ih => simpa using Nat.lt_succ_of_lt (ih h)

theorem length_afterString?_lt {s r : Text} (h : afterString? s = some r) :
    r.length < s.length := by
  unfold afterString? at h
  split at h
  · simpa using Nat.lt_succ_of_lt (length_afterQuote?_lt h)
  · simpa using Nat.lt_succ_of_lt (length_afterQuote?_lt h)
  · simp at h

/-! ## Groups and runs -/

/-- The bracket that closes an opening one. -/
def closer? : Char → Option Char
  | '(' => some ')'
  | '[' => some ']'
  | '{' => some '}'
  | _ => none

/-- How far a run of code extends: over the inside of a group, over one item of a list, or over
one statement. -/
inductive Extent where
  | group
  | item
  | statement
  deriving DecidableEq, Repr

/-- A bracket or a quote, open or closed. -/
def isBracketOrQuote (c : Char) : Bool := "()[]\x7b\x7d'\"".toList.contains c

/-- The plain characters at which a run stops. -/
def Extent.stops : Extent → Char → Bool
  | group, c => isBracketOrQuote c
  | item, c => isBracketOrQuote c || c == ','
  | statement, c => isBracketOrQuote c || c == ';'

mutual

/-- What follows the balanced group at the start of a text. -/
def afterGroup? (s : Text) : Option { r : Text // r.length < s.length } :=
  match s with
  | [] => none
  | o :: t =>
    match closer? o with
    | none => none
    | some c =>
      match afterRun .group t with
      | ⟨[], _⟩ => none
      | ⟨d :: r, h⟩ =>
        if d = c then some ⟨r, by simp only [List.length_cons] at h ⊢; omega⟩ else none
termination_by 2 * s.length

/-- What follows the longest run of strings, groups and plain characters at the start of a text.
A string or a group that does not end stops the run in front of it. -/
def afterRun (e : Extent) (s : Text) : { r : Text // r.length ≤ s.length } :=
  match hs : afterString? s with
  | some t =>
    have := length_afterString?_lt hs
    let ⟨r, h⟩ := afterRun e t
    ⟨r, by omega⟩
  | none =>
    match afterGroup? s with
    | some ⟨t, ht⟩ =>
      let ⟨r, h⟩ := afterRun e t
      ⟨r, by omega⟩
    | none =>
      match s with
      | [] => ⟨[], Nat.le_refl _⟩
      | c :: t =>
        if e.stops c then ⟨c :: t, Nat.le_refl _⟩
        else
          let ⟨r, h⟩ := afterRun e t
          ⟨r, by simp only [List.length_cons]; omega⟩
termination_by 2 * s.length + 1

end

/-! ## The readers -/

/-- The text inside the group at the start of a text, and the text after it. -/
def enclosed? (s : Text) : Option (Text × Text) :=
  match s, afterGroup? s with
  | _ :: t, some ⟨r, _⟩ => some ((Text.upTo t r).dropLast, r)
  | _, _ => none

/-- What follows a group is shorter than the text that starts with it. -/
theorem length_enclosed?_lt {s inner r : Text} (h : enclosed? s = some (inner, r)) :
    r.length < s.length := by
  unfold enclosed? at h
  split at h
  next o t r' hr heq =>
    simp only [Option.some.injEq, Prod.mk.injEq] at h
    exact h.2 ▸ hr
  · simp at h

/-- A text cut at the end of its first statement: at a `;` outside strings and groups, or at
whatever else stops a run. -/
def statement (s : Text) : Text × Text :=
  let r := (afterRun .statement s).1
  (Text.upTo s r, r)

/-- The pieces of a text between commas outside strings and groups, when its brackets and quotes
balance. -/
def items? (s : Text) : Option (List Text) :=
  match afterRun .item s with
  | ⟨[], _⟩ => some [s]
  | ⟨c :: t, h⟩ =>
    if c = ',' then
      have : t.length < s.length := by simp only [List.length_cons] at h; omega
      (items? t).map (Text.upTo s (c :: t) :: ·)
    else none
termination_by s.length

/-- The byte offset of the bracket that closes the one at byte offset `i`. -/
def closeAt? (s : Text) (i : Nat) : Option Nat := do
  let (_, t) ← Text.cut? s i
  let ⟨r, _⟩ ← afterGroup? t
  return i + Text.bytes (Text.upTo t r) - 1

/-- The length in bytes of the first statement of a text. -/
def statementLength (s : Text) : Nat := Text.bytes (statement s).1

end Code

end TemplateTrace
