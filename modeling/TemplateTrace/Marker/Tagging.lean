import TemplateTrace.Marker.Reader

/-!
# Tagging template lines

Every line of a template is led by its own marker before the template is compiled.

- `tagLines`: a template with a marker in front of every line.
- `stripMarkers`: a text without the comments that have the shape of a marker.
- `lastMarkerBefore?`: the marker that governs a place in a text.
-/

namespace TemplateTrace

/-- The line with the 0-based index `i` of a template, behind its marker. -/
def tagLine (name path : Text) (stack : List Frame) (i : Nat) (line : Text) : Text :=
  Marker.encode { template := name, path, line := UInt32.ofNat (i + 1), stack } ++ line

/-- A template with a marker in front of every line. -/
def tagLines (source name path : Text) (stack : List Frame) : Text :=
  Text.joinWith ['\n'] ((Text.lines source).mapIdx (tagLine name path stack))

/-- A text without the comments that have the shape of a marker, wherever they stand. -/
def stripMarkers (s : Text) : Text :=
  match h : Marker.shape? s with
  | some (_, r) =>
    have := Marker.length_of_shape? h
    stripMarkers r
  | none =>
    match s with
    | [] => []
    | c :: t => c :: stripMarkers t
termination_by s.length

/-- The marker that leads the last line of a text which is led by one. -/
def lastMarker? (s : Text) : Option Marker :=
  (Text.lines s).reverse.findSome? fun line => (Marker.decode? line).map (·.1)

/-- The marker that governs the byte offset `i`: the one on its own line in front of it, or else
the nearest above. Offsets inside a character or past the end have no answer. -/
def lastMarkerBefore? (s : Text) (i : Nat) : Option (Option Marker) :=
  (Text.cut? s i).map fun (a, _) => lastMarker? a

end TemplateTrace
