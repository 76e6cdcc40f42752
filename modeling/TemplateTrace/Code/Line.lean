import TemplateTrace.Marker.Reader
import TemplateTrace.MapError

/-!
# Code lines

Compiled output mixes markup and host code. It starts as markup; `<?php` opens code and `?>` closes
it again. Only the code is kept, cut into pieces that end at a line's end or at `?>`, each with the
marker that leads its line or, failing that, the nearest line above. A piece that `?>` closes is
given a `;`: `f();;` is host code, and `f()` alone is not.

- `CodeLine`: a piece of code and the template line it comes from.
- `Splitter`, `Splitter.feed`: the state between two lines, and one line more.
- `CodeLine.split`: the code lines of a compiled text.
-/

namespace TemplateTrace

/-- A piece of host code and the template line it comes from. -/
structure CodeLine where
  marker : Marker
  code : Text
  deriving DecidableEq, Repr

/-- What opens host code. -/
def codeOpen : Text := "<?php".toList

/-- What closes host code. -/
def codeClose : Text := "?>".toList

/-- The state between two compiled lines. -/
structure Splitter where
  insideCode : Bool := false
  /-- The last marker that led a line. -/
  current : Option Marker := none
  /-- The code lines so far. -/
  lines : List CodeLine := []
  deriving DecidableEq, Repr

namespace Splitter

/-- Adds a piece of code, trimmed and with `ending` behind it, unless it is blank. -/
def keep (st : Splitter) (marker : Marker) (code ending : Text) : Splitter :=
  if Text.strip code = [] then st
  else { st with lines := st.lines ++ [⟨marker, Text.strip code ++ ending⟩] }

/-- Walks over the rest of a line. The error is the one of a line on which code has no marker. -/
def walk (fault : MapError) (st : Splitter) (tail : Text) : Except MapError Splitter :=
  match st.insideCode with
  | true =>
    if tail = [] then .ok st
    else match st.current with
      | none => .error fault
      | some marker =>
        match h : Text.breakOn? codeClose tail with
        | none => .ok (st.keep marker tail [])
        | some (code, rest) =>
          have : rest.length < tail.length := by simp [Text.breakOn?_eq_some h, codeClose]; omega
          walk fault { st.keep marker code [';'] with insideCode := false } rest
  | false =>
    match h : Text.breakOn? codeOpen tail with
    | none => .ok st
    | some (_, rest) =>
      have : rest.length < tail.length := by simp [Text.breakOn?_eq_some h, codeOpen]; omega
      match st.current with
      | none => .error fault
      | some _ => walk fault { st with insideCode := true } rest
termination_by tail.length

/-- Takes in one compiled line. The 0-based index is used by the error only. -/
def feed (st : Splitter) (index : Nat) (line : Text) : Except MapError Splitter :=
  let fault := .missingMarker (index + 1) line
  match Marker.decode? line with
  | some (marker, rest) => walk fault { st with current := some marker } rest
  | none => walk fault st line

/-- Takes in lines one after another, the first one with the given index. -/
def feedAll (st : Splitter) (index : Nat) : List Text → Except MapError Splitter
  | [] => .ok st
  | line :: lines => do (← st.feed index line).feedAll (index + 1) lines

end Splitter

/-- The code lines of a compiled text. -/
def CodeLine.split (compiled : Text) : Except MapError (List CodeLine) :=
  (({} : Splitter).feedAll 0 (Text.lines compiled)).map (·.lines)

end TemplateTrace
