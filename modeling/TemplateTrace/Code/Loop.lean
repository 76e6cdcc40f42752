import TemplateTrace.Code.Escape
import TemplateTrace.Code.Line

/-!
# Loops

A template loop is compiled to an assignment `$__currentLoopData = x;` and a loop over that
variable, which the checker cannot see through. The loop's header is made to iterate `x`. The
outermost template loop declares the type of the `$loop` helper in its header, and unsets the
helper where the loop closes. Plain loops in the alternative notation nest with template loops and
are told apart from them; loops with braces never reach an `endforeach;`.

- `LoopScopes`: the loops open between two code lines.
- `LoopEvent`: what the search for loops stops at.
- `exposeLoops`: one code line with its loops over what they iterate.
- `CodeLine.expose`: a list of code lines with escapes unwrapped and loops exposed.
-/

namespace TemplateTrace

namespace Code

/-- What is known about loops between two code lines. -/
structure LoopScopes where
  /-- The expression last assigned to the loop data, until a loop takes it. -/
  pending : Option Text := none
  /-- The open loops, innermost first: a template loop with what it iterates, or a plain one. -/
  opened : List (Option Text) := []
  deriving DecidableEq, Repr

/-- Whether a template loop is open. -/
def LoopScopes.inTemplateLoop (scopes : LoopScopes) : Bool := scopes.opened.any (·.isSome)

/-- What the search for loops stops at. -/
inductive LoopEvent where
  /-- An assignment of loop data, up to its `=`. -/
  | assign
  /-- The header of a template loop, up to its `as`. -/
  | templateLoop
  /-- The header of another loop, up to its bracket. -/
  | plainLoop
  | endLoop
  deriving DecidableEq, Repr

/-- The variable that holds the data of a template loop. -/
def loopData : Text := "$__currentLoopData".toList

/-- The event at the start of a text and the text behind it, given the character in front. -/
def LoopEvent.at? (prev : Option Char) (s : Text) : Option (LoopEvent × Text) :=
  match Head.rest? [.word loopData, .blanks, .word "=".toList] s with
  | some (c :: r) => if c = '=' ∨ c = '>' then none else some (.assign, c :: r)
  | some [] => none
  | none =>
    match Head.wordRest? [.word "foreach".toList, .blanks, .word "(".toList, .blanks,
        .word loopData, .someBlanks, .word "as".toList] prev s with
    | some r => if Text.endsWord r then some (.templateLoop, r) else plain
    | none => plain
where
  /-- The event at the start of the text when it is no template loop. -/
  plain : Option (LoopEvent × Text) :=
    match Head.wordRest? [.word "foreach".toList, .blanks, .word "(".toList] prev s with
    | some r => some (.plainLoop, r)
    | none =>
      (Head.wordRest? [.word "endforeach".toList, .blanks, .word ";".toList] prev s).map
        (.endLoop, ·)

/-- A loop header up to the `:` of the alternative notation, and the text behind it, read from
inside the header's brackets. -/
def header? (s : Text) : Option (Text × Text) :=
  match (afterRun .group s).1 with
  | ')' :: r =>
    match Text.stripStart r with
    | ':' :: r => some (Text.upTo s r, r)
    | _ => none
  | _ => none

/-- The declaration of the loop helper's type. -/
def loopDeclaration (loopType : Text) : Text :=
  " /** @var ".toList ++ loopType ++ " $loop */".toList

/-- The statement that ends the life of the loop helper. -/
def loopUnset : Text := "unset($loop); ".toList

/-! ## What an event consumes -/

/-- Every event takes something off the text, so that a search from event to event ends. -/
theorem LoopEvent.length_lt {prev : Option Char} {s r : Text} {e : LoopEvent}
    (h : LoopEvent.at? prev s = some (e, r)) : r.length < s.length := by
  -- every event starts with a word, and no word is empty
  have word {h : Head} {w : Text} {ps : Head} {r : Text} (hw : w ≠ [])
      (hr : Head.wordRest? (.word w :: ps) prev s = some r) : r.length < s.length := by
    unfold Head.wordRest? at hr
    split at hr
    · exact Head.length_rest?_lt hw hr
    · simp at hr
  have plain {r : Text} (hr : LoopEvent.at?.plain prev s = some (e, r)) : r.length < s.length := by
    unfold LoopEvent.at?.plain at hr
    split at hr
    next r' hp =>
      obtain ⟨-, rfl⟩ := by simpa using hr
      exact word (h := []) (by decide) hp
    · obtain ⟨r', hr', heq⟩ := Option.map_eq_some_iff.1 hr
      obtain ⟨-, rfl⟩ := by simpa using heq
      exact word (h := []) (by decide) hr'
  unfold LoopEvent.at? at h
  split at h
  next c r' hr =>
    split at h
    · simp at h
    · obtain ⟨-, rfl⟩ := by simpa using h
      exact Head.length_rest?_lt (by decide) hr
  · simp at h
  · split at h
    next r' hr =>
      split at h
      · obtain ⟨-, rfl⟩ := by simpa using h
        exact word (h := []) (by decide) hr
      · exact plain h
    · exact plain h

/-- A header takes off one character at least, its closing bracket. -/
theorem length_header?_lt {s a r : Text} (h : header? s = some (a, r)) : r.length < s.length := by
  unfold header? at h
  have hrun := (afterRun .group s).2
  split at h
  next r' heq =>
    rw [heq] at hrun
    split at h
    next r'' hc =>
      obtain ⟨-, rfl⟩ := by simpa using h
      have := (List.dropWhile_suffix Text.isBlank (l := r')).length_le
      simp only [Text.stripStart, Text.trimStart] at hc
      simp only [hc, List.length_cons] at this hrun
      omega
    · simp at h
  · simp at h

/-! ## Exposing loops -/

/-- Exposes the loops of a code text to the checker, given the character in front of it and the
error of a loop that has no data. The answer comes with the scopes behind the text. -/
def exposeLoops (loopType : Text) (unbound : MapError) (prev : Option Char) (scopes : LoopScopes)
    (s : Text) : Except MapError (Text × LoopScopes) :=
  match h : Text.search LoopEvent.at? prev s with
  | none => .ok (s, scopes)
  | some (before, event, rest) =>
    have hlt : rest.length < s.length := by
      obtain ⟨p, t, rfl, ht⟩ := Text.search_eq_some h
      have := LoopEvent.length_lt ht
      simp only [List.length_append]
      omega
    let continueWith (done : Text) (scopes : LoopScopes) (rest : Text)
        (_ : rest.length < s.length) :=
      (exposeLoops loopType unbound (Text.lastOr prev done) scopes rest).map
        fun (t, scopes) => (done ++ t, scopes)
    match event with
    | .assign =>
      let expression := statement rest
      continueWith (Text.upTo s rest ++ expression.1)
        { scopes with pending := some (Text.strip expression.1) } expression.2
        (Nat.lt_of_le_of_lt (afterRun .statement rest).2 hlt)
    | .templateLoop =>
      match scopes.pending with
      | none => .error unbound
      | some source =>
        let start := before ++ "foreach(".toList ++ source ++ " as".toList
        let inside := { scopes with pending := none, opened := some source :: scopes.opened }
        if scopes.inTemplateLoop then continueWith start inside rest hlt
        else
          match hh : header? rest with
          | some (header, rest') =>
            continueWith (start ++ header ++ loopDeclaration loopType) inside rest'
              (Nat.lt_trans (length_header?_lt hh) hlt)
          | none => continueWith start inside rest hlt
    | .plainLoop =>
      let opened := if (header? rest).isSome then none :: scopes.opened else scopes.opened
      continueWith (Text.upTo s rest) { scopes with opened } rest hlt
    | .endLoop =>
      let outer := { scopes with opened := scopes.opened.tail }
      if (scopes.opened.head?.bind id).isSome && !outer.inTemplateLoop then
        continueWith (before ++ loopUnset ++ Text.upTo (s.drop before.length) rest) outer rest hlt
      else continueWith (Text.upTo s rest) outer rest hlt
termination_by s.length

end Code

namespace CodeLine

/-- Exposes code lines one after another from the given scopes. When a line fails, the lines
before it are exposed, its own escapes are unwrapped, and the lines behind it are as they were. -/
def exposeFrom (loopType : Text) (scopes : Code.LoopScopes) :
    List CodeLine → List CodeLine × Option MapError
  | [] => ([], none)
  | line :: lines =>
    let code := Code.unwrapEscapes line.code
    let unbound := .unboundLoopData line.marker.path line.marker.line
    match Code.exposeLoops loopType unbound none scopes code with
    | .error e => ({ line with code } :: lines, some e)
    | .ok (code, scopes) =>
      let (lines, fault) := exposeFrom loopType scopes lines
      ({ line with code } :: lines, fault)

/-- Code lines with escapes unwrapped and loops exposed. -/
def expose (loopType : Text) (lines : List CodeLine) : Except MapError (List CodeLine) :=
  match exposeFrom loopType {} lines with
  | (lines, none) => .ok lines
  | (_, some e) => .error e

end CodeLine

end TemplateTrace
