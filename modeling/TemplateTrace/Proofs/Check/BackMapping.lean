import TemplateTrace.Check.Diagnostic
import TemplateTrace.Code.Loop
import TemplateTrace.Proofs.Code.Snippet
import TemplateTrace.Proofs.Marker.RoundTrip

/-!
# Back-mapping

The checker sees rows of the checker file, and a finding is about a template line. The way back is
exact: the row of a code line leads to the marker under which the line was cut out of the compiled
text, whatever the code of that line or of any other looks like.

- `CodeLine.map_marker_exposeFrom`: rewriting keeps the number, the order and the markers of lines.
- `CheckerFile.synthesize_lines_eq`: the rows above a code line end with its own marker.
- `CheckerFile.resolve_code_row`, `CheckerFile.resolve_header_row`: where a row leads.
- `CheckerFile.resolve_synthesize`: all of it, from the compiled text to the position.
-/

namespace TemplateTrace

/-! ## Rewriting keeps markers -/

namespace CodeLine

/-- Exposing loops changes the code of lines, and not their markers. -/
theorem map_marker_exposeFrom (loopType : Text) (scopes : Code.LoopScopes)
    (lines : List CodeLine) :
    (exposeFrom loopType scopes lines).1.map (·.marker) = lines.map (·.marker) := by
  induction lines generalizing scopes with
  | nil => rfl
  | cons line lines ih =>
    rw [exposeFrom]
    dsimp only
    split
    · rfl
    next code scopes' _ =>
      show line.marker :: _ = line.marker :: _
      rw [ih scopes']

theorem exposeFrom_of_expose {loopType : Text} {origin lines : List CodeLine}
    (h : expose loopType origin = .ok lines) : exposeFrom loopType {} origin = (lines, none) := by
  unfold expose at h
  split at h
  next lines' hfrom => rw [hfrom, Except.ok.inj h]
  · cases h

theorem map_marker_expose {loopType : Text} {origin lines : List CodeLine}
    (h : expose loopType origin = .ok lines) :
    lines.map (·.marker) = origin.map (·.marker) := by
  have hmap := map_marker_exposeFrom loopType {} origin
  rwa [exposeFrom_of_expose h] at hmap

end CodeLine

/-! ## Which rows hold a marker -/

namespace Marker

/-- A text that starts otherwise than a marker comment holds no marker. -/
theorem decode?_eq_none {s : Text} (h : Text.after? "/** template_name=".toList s = none) :
    decode? s = none := by
  unfold decode? shape?
  rw [h]
  rfl

theorem stripStart_encode (m : Marker) : Text.stripStart m.encode = m.encode := by
  rw [m.encode_eq_cons]
  exact List.dropWhile_cons_of_neg (by decide)

end Marker

namespace TypeBinding

/-- A declaration is a comment, but none of a marker. -/
theorem decode?_declaration (b : TypeBinding) :
    Marker.decode? (Text.stripStart b.declaration) = none := by
  have hcons : b.declaration = '/' :: '*' :: '*' :: ' ' :: '@' :: "var ".toList ++ b.type ++
      " $".toList ++ b.name ++ " */".toList := by
    unfold declaration
    rw [show "/** @var ".toList = '/' :: '*' :: '*' :: ' ' :: '@' :: "var ".toList by decide]
  have hmarker : "/** template_name=".toList = '/' :: '*' :: '*' :: ' ' :: 't' ::
      "emplate_name=".toList := by decide
  -- the two comments differ at the character behind the first blank
  rw [hcons]
  simp only [List.cons_append]
  rw [show Text.stripStart ('/' :: _) = _ from List.dropWhile_cons_of_neg (by decide)]
  refine Marker.decode?_eq_none ?_
  rw [hmarker]
  simp [Text.after?]

end TypeBinding

namespace CheckerFile

/-- The rows in front of the code lines: host code opened, and the declarations. -/
def header (bindings : TypeBindings) : List Text := codeOpen :: bindings.declarations

theorem length_header (bindings : TypeBindings) :
    (header bindings).length = bindings.entries.length + 1 := by
  simp [header, TypeBindings.declarations]

theorem synthesize_lines (bindings : TypeBindings) (lines : List CodeLine) :
    (synthesize bindings lines).lines = header bindings ++ lines.flatMap rows := rfl

theorem decode?_of_mem_header {bindings : TypeBindings} {l : Text} (h : l ∈ header bindings) :
    Marker.decode? (Text.stripStart l) = none := by
  rcases List.mem_cons.1 h with rfl | h
  · refine Marker.decode?_eq_none ?_
    decide
  · obtain ⟨b, -, rfl⟩ := List.mem_map.1 h
    exact b.decode?_declaration

theorem length_flatMap_rows (lines : List CodeLine) :
    (lines.flatMap rows).length = 2 * lines.length := by
  induction lines with
  | nil => rfl
  | cons line lines ih =>
    rw [List.flatMap_cons, List.length_append, ih, List.length_cons]
    show 2 + 2 * lines.length = _
    omega

/-- The two rows of the code line with index `k`, and the rows on both sides of them. -/
theorem flatMap_rows_eq {lines : List CodeLine} {k : Nat} (hk : k < lines.length) :
    lines.flatMap rows = (lines.take k).flatMap rows ++
      lines[k].marker.encode :: lines[k].code :: (lines.drop (k + 1)).flatMap rows := by
  conv => lhs; rw [← List.take_append_drop k lines, List.drop_eq_getElem_cons hk]
  rw [List.flatMap_append, List.flatMap_cons]
  rfl

/-- A checker file around the code line with index `k`: the rows up to its marker, its code, and
the rows behind. -/
theorem synthesize_lines_eq (bindings : TypeBindings) {lines : List CodeLine} {k : Nat}
    (hk : k < lines.length) :
    ∃ above behind, (synthesize bindings lines).lines =
        above ++ lines[k].marker.encode :: lines[k].code :: behind ∧
      above.length = bindings.entries.length + 2 * k + 1 := by
  refine ⟨header bindings ++ (lines.take k).flatMap rows, (lines.drop (k + 1)).flatMap rows, ?_, ?_⟩
  · rw [synthesize_lines, flatMap_rows_eq hk, List.append_assoc]
  · rw [List.length_append, length_header, length_flatMap_rows, List.length_take]
    omega

/-- The code line with index `k` is a row of the checker file. -/
theorem line?_synthesize (bindings : TypeBindings) {lines : List CodeLine} {k : Nat}
    (hk : k < lines.length) :
    (synthesize bindings lines).line? (bindings.entries.length + 2 * k + 3) =
      some lines[k].code := by
  obtain ⟨above, behind, hlines, hlength⟩ := synthesize_lines_eq bindings hk
  have hrow : bindings.entries.length + 2 * k + 3 - 1 = above.length + 1 := by omega
  rw [line?, if_neg (by omega), hlines, hrow, List.getElem?_append_right (by omega)]
  simp

/-- The marker nearest above the row of a code line is its own: it stands on the row above. -/
theorem markerAbove?_code_row (bindings : TypeBindings) {lines : List CodeLine} {k : Nat}
    (hk : k < lines.length) :
    RawDiagnostic.markerAbove? (synthesize bindings lines).lines
      (bindings.entries.length + 2 * k + 3) = some lines[k].marker := by
  obtain ⟨above, behind, hlines, hlength⟩ := synthesize_lines_eq bindings hk
  have htake : (above ++ lines[k].marker.encode :: lines[k].code :: behind).take
      (bindings.entries.length + 2 * k + 3 - 1) = above ++ [lines[k].marker.encode] := by
    have hrow : bindings.entries.length + 2 * k + 3 - 1 = above.length + 1 := by omega
    rw [hrow, List.take_length_add_append]
    rfl
  -- the search goes upwards, and meets the line's own marker first
  rw [RawDiagnostic.markerAbove?, hlines, htake, List.reverse_append]
  show List.findSome? _ (lines[k].marker.encode :: above.reverse) = _
  rw [List.findSome?_cons, Marker.stripStart_encode, Marker.decode?_encode]
  rfl

/-- No marker stands above the first code line's own marker. -/
theorem markerAbove?_header_row (bindings : TypeBindings) (lines : List CodeLine) {n : Nat}
    (hn : n ≤ bindings.entries.length + 2) :
    RawDiagnostic.markerAbove? (synthesize bindings lines).lines n = none := by
  have htake : (synthesize bindings lines).lines.take (n - 1) =
      (header bindings).take (n - 1) := by
    rw [synthesize_lines, List.take_append_of_le_length (by rw [length_header]; omega)]
  rw [RawDiagnostic.markerAbove?, htake, List.findSome?_eq_none_iff]
  intro l hl
  rw [decode?_of_mem_header (List.mem_of_mem_take (List.mem_reverse.1 hl))]
  rfl

/-! ## The way back -/

/-- A diagnostic on the row of a code line gets the marker of that line. -/
theorem resolve_code_row (bindings : TypeBindings) {lines : List CodeLine} {k : Nat}
    (hk : k < lines.length) (path : Text) {d : RawDiagnostic} (hd : d.origin = .pending)
    (hrow : d.line.toNat = bindings.entries.length + 2 * k + 3) :
    d.resolve (synthesize bindings lines).lines path =
      .ok ⟨d.message, d.identifier, lines[k].marker⟩ := by
  rw [RawDiagnostic.resolve, hd, hrow]
  dsimp only
  rw [markerAbove?_code_row bindings hk]

/-- A diagnostic above all code is an orphan. -/
theorem resolve_header_row (bindings : TypeBindings) (lines : List CodeLine) (path : Text)
    {d : RawDiagnostic} (hd : d.origin = .pending)
    (hrow : d.line.toNat ≤ bindings.entries.length + 2) :
    d.resolve (synthesize bindings lines).lines path =
      .error (.orphanDiagnostic path d.line d.message
        (RawDiagnostic.contentOf (synthesize bindings lines).lines d.line.toNat)) := by
  rw [RawDiagnostic.resolve, hd]
  dsimp only
  rw [markerAbove?_header_row bindings lines hrow]

/-- **Back-mapping recovers the attribution of the split.** With `b` bindings, the code line with
index `k` stands on row `b + 2 * k + 3` of the checker file. A diagnostic on that row is positioned
by the marker under which the line was cut out of the compiled text, which is the one that governs
the place of its piece there. Rewriting keeps all markers, and a diagnostic above the first code
line is an orphan. -/
theorem resolve_synthesize {compiled loopType : Text} {origin lines : List CodeLine}
    (hsplit : CodeLine.split compiled = .ok origin)
    (hexpose : CodeLine.expose loopType origin = .ok lines) (bindings : TypeBindings)
    (path : Text) :
    lines.map (·.marker) = origin.map (·.marker) ∧
    (∀ k (hk : k < lines.length) (hk' : k < origin.length),
      (∃ p, (Snippet.all compiled)[k]? = some p ∧ p.text = origin[k].code ∧
        lastMarker? (Text.upTo compiled (p.code ++ p.behind)) = some origin[k].marker) ∧
      (synthesize bindings lines).line? (bindings.entries.length + 2 * k + 3) =
        some lines[k].code ∧
      ∀ d : RawDiagnostic, d.origin = .pending →
        d.line.toNat = bindings.entries.length + 2 * k + 3 →
        d.resolve (synthesize bindings lines).lines path =
          .ok ⟨d.message, d.identifier, origin[k].marker⟩) ∧
    ∀ d : RawDiagnostic, d.origin = .pending → d.line.toNat ≤ bindings.entries.length + 2 →
      d.resolve (synthesize bindings lines).lines path =
        .error (.orphanDiagnostic path d.line d.message
          (RawDiagnostic.contentOf (synthesize bindings lines).lines d.line.toNat)) := by
  have hmarkers := CodeLine.map_marker_expose hexpose
  refine ⟨hmarkers, ?_, fun d hd hrow => resolve_header_row bindings lines path hd hrow⟩
  intro k hk hk'
  refine ⟨CodeLine.exists_snippet hsplit hk', line?_synthesize bindings hk, fun d hd hrow => ?_⟩
  have hmarker : lines[k].marker = origin[k].marker := by
    have hget := congrArg (·[k]?) hmarkers
    simpa [List.getElem?_eq_getElem hk, List.getElem?_eq_getElem hk'] using hget
  rw [resolve_code_row bindings hk path hd hrow, hmarker]

/-- A marker in the code of a later line does not take its place. -/
theorem resolve_synthesize_lookalike :
    let first : Marker := ⟨"a".toList, "/a".toList, 1, []⟩
    let second : Marker := ⟨"a".toList, "/a".toList, 2, []⟩
    let compiled := first.encode ++ "<?php foo(); ?>\n".toList ++ second.encode ++
      "<?php ".toList ++ first.encode
    let origin := [⟨first, "foo();;".toList⟩, ⟨second, first.encode⟩]
    CodeLine.split compiled = .ok origin ∧ CodeLine.expose [] origin = .ok origin ∧
      ∀ d : RawDiagnostic, d.origin = .pending → d.line.toNat = 5 →
        d.resolve (synthesize {} origin).lines [] = .ok ⟨d.message, d.identifier, second⟩ := by
  intro first second compiled origin
  have hsplit : CodeLine.split compiled = .ok origin := by decide +kernel
  have hexpose : CodeLine.expose [] origin = .ok origin := by decide +kernel
  refine ⟨hsplit, hexpose, fun d hd hrow => ?_⟩
  have hlength : 1 < origin.length := by decide
  exact ((resolve_synthesize hsplit hexpose {} []).2.1 1 hlength hlength).2.2 d hd hrow

end CheckerFile

end TemplateTrace
