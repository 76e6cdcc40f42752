import TemplateTrace.Marker.Tagging
import TemplateTrace.Proofs.Marker.Extent
import TemplateTrace.Proofs.Text.Lines

/-!
# Markers that lead lines

What counts in compiled code is the marker at the start of a line. It is on the line in front of a
place, or else it is the nearest one above.

- `Marker.bare`: a line without the marker that leads it.
- `Marker.lastOf`: the marker of the last line that is led by one.
- `Marker.Uncut`: a place in a text that no leading marker runs across.
- `Marker.lastMarker?_append`: the marker that governs a place behind such a place.
-/

namespace TemplateTrace

namespace Marker

/-- A line without the marker that leads it. -/
def bare (line : Text) : Text :=
  match decode? line with
  | some (_, rest) => rest
  | none => line

/-- The marker of the last line that is led by one. -/
def lastOf (lines : List Text) : Option Marker :=
  lines.reverse.findSome? fun line => (decode? line).map (·.1)

theorem lastMarker?_eq (s : Text) : lastMarker? s = lastOf (Text.lines s) := rfl

theorem lastOf_append (a b : List Text) : lastOf (a ++ b) = (lastOf b).or (lastOf a) := by
  rw [lastOf, List.reverse_append, List.findSome?_append]
  rfl

theorem lastOf_singleton (line : Text) : lastOf [line] = (decode? line).map (·.1) := by
  show List.findSome? _ [line] = _
  rw [List.findSome?_cons, List.findSome?_nil]
  cases decode? line <;> rfl

theorem lastOf_cons (line : Text) (lines : List Text) :
    lastOf (line :: lines) = (lastOf lines).or ((decode? line).map (·.1)) := by
  rw [← lastOf_singleton, ← lastOf_append]
  rfl

theorem lastOf_isSome_iff (lines : List Text) :
    (lastOf lines).isSome = true ↔ ∃ line ∈ lines, (decode? line).isSome = true := by
  simp [lastOf, List.findSome?_isSome_iff]

/-! ## Parts of a line -/

/-- A line is led by a marker as soon as a part at its start is. -/
theorem decode?_prefix {a line : Text} (h : a <+: line) (ha : (decode? a).isSome = true) :
    (decode? line).map (·.1) = (decode? a).map (·.1) := by
  obtain ⟨b, rfl⟩ := h
  obtain ⟨⟨m, r⟩, hm⟩ := Option.isSome_iff_exists.1 ha
  rw [decode?_append hm b, hm]
  rfl

/-- A line is the comment that leads it, if any, and the bare line; every start of the line that
holds the comment is led by the same marker. -/
theorem exists_comment (line : Text) :
    ∃ comment, line = comment ++ bare line ∧
      ∀ t, t <+: bare line → (decode? (comment ++ t)).map (·.1) = (decode? line).map (·.1) := by
  unfold bare
  cases h : decode? line with
  | none =>
    refine ⟨[], rfl, fun t ht => ?_⟩
    cases ha : decode? t with
    | none =>
      show (decode? t).map _ = none
      rw [ha]
      rfl
    | some p =>
      have hline := decode?_prefix ht (by rw [ha]; rfl)
      rw [h, ha] at hline
      cases hline
  | some p =>
    obtain ⟨m, r⟩ := p
    obtain ⟨v, hs, hlocal⟩ := decode?_local h
    exact ⟨v ++ " */".toList, hs, fun t _ => by rw [hlocal t]; rfl⟩

/-! ## Places that no marker runs across -/

/-- No leading marker runs across the place between two texts: if the line is led by a marker, then
the part of it in front of the place is. -/
def Uncut (a b : Text) : Prop :=
  decode? (Text.lastLine a) = none → decode? (Text.lastLine a ++ Text.firstLine b) = none

theorem uncut_of_isSome {a : Text} (h : (decode? (Text.lastLine a)).isSome = true) (b : Text) :
    Uncut a b := by
  intro hnone
  rw [hnone] at h
  cases h

/-- The marker of a line that is put together at an uncut place is the one in front of it. -/
theorem Uncut.decode? {a b : Text} (h : Uncut a b) :
    decode? (Text.lastLine a ++ Text.firstLine b) =
      (decode? (Text.lastLine a)).map fun p => (p.1, p.2 ++ Text.firstLine b) := by
  cases ha : Marker.decode? (Text.lastLine a) with
  | none => rw [h ha]; rfl
  | some p => rw [decode?_append ha]; rfl

theorem Uncut.bare {a b : Text} (h : Uncut a b) :
    bare (Text.lastLine a ++ Text.firstLine b) =
      Marker.bare (Text.lastLine a) ++ Text.firstLine b := by
  rw [Marker.bare, Marker.bare, h.decode?]
  cases Marker.decode? (Text.lastLine a) <;> rfl

/-- A shorter second part cuts no more markers. -/
theorem Uncut.of_append {a b c : Text} (h : Uncut a (b ++ c)) : Uncut a b := by
  intro ha
  have hline := h ha
  have hpre : Text.lastLine a ++ Text.firstLine b <+:
      Text.lastLine a ++ Text.firstLine (b ++ c) := by
    rw [List.prefix_append_right_inj, Text.firstLine_append]
    split
    · exact List.prefix_refl _
    next hb => rw [Text.firstLine_of_not_mem hb]; exact List.prefix_append _ _
  cases hs : Marker.decode? (Text.lastLine a ++ Text.firstLine b) with
  | none => rfl
  | some p =>
    have hmap := decode?_prefix hpre (by rw [hs]; rfl)
    rw [hline, hs] at hmap
    cases hmap

theorem lastOf_lines (s : Text) :
    lastMarker? s = (lastOf [Text.lastLine s]).or (lastOf (Text.lines s).dropLast) := by
  rw [← lastOf_append, Text.dropLast_lines_append_lastLine, lastMarker?_eq]

/-- The marker that governs a place leads a line of the text, whatever follows the place. -/
theorem exists_line_of_lastMarker? {a : Text} {m : Marker} (h : lastMarker? a = some m)
    (b : Text) : ∃ line ∈ Text.lines (a ++ b), ∃ r, Marker.decode? line = some (m, r) := by
  rw [Text.lines_append]
  rw [lastOf_lines, lastOf_singleton] at h
  cases hlast : Marker.decode? (Text.lastLine a) with
  | some p =>
    obtain ⟨m', r⟩ := p
    rw [hlast] at h
    obtain rfl : m' = m := Option.some.inj h
    exact ⟨_, List.mem_append_right _ List.mem_cons_self, _, decode?_append hlast _⟩
  | none =>
    rw [hlast] at h
    obtain ⟨line, hline, hmap⟩ := List.exists_of_findSome?_eq_some h
    obtain ⟨⟨m', r⟩, hdecode, rfl⟩ := Option.map_eq_some_iff.1 hmap
    exact ⟨line, List.mem_append_left _ (List.mem_reverse.1 hline), r, hdecode⟩

/-- The marker that governs a place behind an uncut place: one that leads a line in between, or
else the one that governs the uncut place. -/
theorem lastMarker?_append {a b : Text} (h : Uncut a b) :
    lastMarker? (a ++ b) = (lastOf (Text.lines b).tail).or (lastMarker? a) := by
  rw [lastMarker?_eq, Text.lines_append, lastOf_append, lastOf_cons, h.decode?, lastOf_lines a,
    lastOf_singleton, Option.or_assoc, Option.map_map]
  rfl

end Marker

end TemplateTrace
