import TemplateTrace.Proofs.Include.Spliced

/-!
# Lines that open as markers do

A comment that only looks like the start of a marker can become a marker when a line feed in it
goes, as it does when the data of a call are put on one line. So it is not enough that a text holds
no marker besides the known ones. What expansion keeps is more: a line that opens as markers do is
led by a known marker. Then a call on the line stands behind that marker, and no marker is made when
the call is replaced.

- `Marker.LedBy`, `Marker.Led`: a line, or a text, with known markers only.
- `Marker.LedBy.exists_front`: the front of a line in which a call starts.
- `Marker.Led.deleted`, `Marker.Led.spliced`: nothing, or a fragment, in the place of a call.
- `Marker.lastMarker?_append_of_ledBy`: the marker that governs the statements in front of it.
-/

namespace TemplateTrace

open IncludeSite

namespace Marker

/-- How the comment of a marker starts. -/
def opening : Text := "/** template_name=".toList

/-- If the line opens as markers do, it is led by a known marker, written as markers are. -/
def LedBy (P : Marker → Prop) (line : Text) : Prop :=
  opening <+: line → ∃ m r, P m ∧ line = m.encode ++ r

/-- Whether all lines of a text that open as markers do are led by known markers. -/
def Led (P : Marker → Prop) (text : Text) : Prop := ∀ line ∈ Text.lines text, LedBy P line

/-- A marker that leads a line is a known one, and it is written as markers are. -/
def Leads (P : Marker → Prop) (line : Text) : Prop :=
  ∀ m r, decode? line = some (m, r) → P m ∧ line = m.encode ++ r

variable {P : Marker → Prop}

theorem opening_prefix_of_decode? {line r : Text} {m : Marker} (h : decode? line = some (m, r)) :
    opening <+: line := by
  cases hafter : Text.after? opening line with
  | none =>
    rw [decode?, shape?, show Text.after? "/** template_name=".toList line = none from hafter] at h
    cases h
  | some t => exact ⟨t, (Text.after?_eq_some_iff.1 hafter).symm⟩

theorem ledBy_encode_append {m : Marker} (hm : P m) (r : Text) : LedBy P (m.encode ++ r) :=
  fun _ => ⟨m, r, hm, rfl⟩

theorem LedBy.leads {line : Text} (h : LedBy P line) : Leads P line := by
  intro m r hm
  obtain ⟨m', r', hP, rfl⟩ := h (opening_prefix_of_decode? hm)
  rw [decode?_encode_append] at hm
  obtain ⟨rfl, rfl⟩ := Prod.mk.inj (Option.some.inj hm)
  exact ⟨hP, rfl⟩

theorem Led.mono {Q : Marker → Prop} {text : Text} (h : Led P text) (hPQ : ∀ m, P m → Q m) :
    Led Q text := by
  intro line hline hopen
  obtain ⟨m, r, hP, rfl⟩ := h line hline hopen
  exact ⟨m, r, hPQ m hP, rfl⟩

/-! ## The line of a call -/

/-- In front of a call, a line that opens as markers do has its marker: no call starts inside. -/
theorem LedBy.exists_front {front s t : Text} (h : LedBy P (front ++ s))
    (hP : ∀ m, P m → Barred m.encode) (hcall : StartsAt front (s ++ t))
    (hopen : opening <+: front ++ s) : ∃ m r, P m ∧ front = m.encode ++ r := by
  obtain ⟨m, r, hm, heq⟩ := h hopen
  rcases List.append_eq_append_iff.1 heq with ⟨x, hencode, rfl⟩ | ⟨x, rfl, -⟩
  · cases x with
    | nil => exact ⟨m, [], hm, by rw [hencode, List.append_nil, List.append_nil]⟩
    | cons c x =>
      -- the place of the call would be inside the comment
      have hplace := starts_eq_zero_iff.1 (hP m hm [] (r ++ t)) front (c :: x) hencode
        (List.cons_ne_nil _ _)
      rw [List.nil_append, ← List.append_assoc] at hplace
      exact absurd hcall hplace
  · exact ⟨m, x, hm, rfl⟩

/-- Whether the opening of a marker cannot run into a text that follows a part of it. -/
def Apart (u : Text) : Prop := ∀ w, w ≠ [] → w <:+ opening → ¬ w <+: u

theorem Apart.mono {u v : Text} (h : Apart v) (huv : u <+: v) : Apart u :=
  fun w hne hw hu => h w hne hw (hu.trans huv)

/-- An opening across the place is one in front of it. -/
theorem Apart.opening_front {front u : Text} (h : Apart u) (hopen : opening <+: front ++ u) :
    opening <+: front := by
  obtain ⟨t, ht⟩ := hopen
  rcases List.append_eq_append_iff.1 ht with ⟨x, rfl, -⟩ | ⟨w, hw, rfl⟩
  · exact List.prefix_append opening x
  · cases w with
    | nil =>
      rw [List.append_nil] at hw
      exact ⟨[], by rw [hw, List.append_nil]⟩
    | cons c w =>
      exact absurd (List.prefix_append _ t) (h (c :: w) (List.cons_ne_nil _ _) ⟨front, hw.symm⟩)

/-- The opening of a marker cannot end in the statements in front of a fragment: they start with a
dollar sign, or the closing tag follows at once. -/
theorem apart_enter (depth : Nat) (pairs : List (Text × Text)) :
    Apart (statementsCode (Shadow.of depth pairs).enter ++ " ?>".toList) := by
  -- no end of the opening starts with a dollar sign or with a blank and a question mark
  have hends : ∀ i < opening.length, (opening.drop i).head? ≠ some '$' ∧
      ((opening.drop i).head? = some ' ' → ((opening.drop i).drop 1).head? ≠ none ∧
        ((opening.drop i).drop 1).head? ≠ some '?') := by
    decide
  intro w hne ⟨front, hw⟩ hu
  have hdrop : opening.drop front.length = w := by rw [← hw, List.drop_left]
  have hlt : front.length < opening.length := by
    have hpos := List.length_pos_iff.2 hne
    rw [← hw, List.length_append]
    omega
  obtain ⟨hdollar, hblank⟩ := hends front.length hlt
  rw [hdrop] at hdollar hblank
  rcases Expander.enter_cases depth pairs with henter | ⟨z, henter⟩
  · rw [henter, show [] ++ " ?>".toList = ' ' :: '?' :: ['>'] by decide] at hu
    match w, hne, hu with
    | c :: w, _, hu =>
      obtain ⟨rfl, htail⟩ := List.cons_prefix_cons.1 hu
      obtain ⟨hsome, hquestion⟩ := hblank rfl
      cases w with
      | nil => exact hsome rfl
      | cons d w =>
        obtain ⟨rfl, -⟩ := List.cons_prefix_cons.1 htail
        exact hquestion rfl
  · rw [henter] at hu
    match w, hne, hu with
    | c :: w, _, hu =>
      obtain ⟨rfl, -⟩ := List.cons_prefix_cons.1 hu
      exact hdollar rfl

/-- What stays on a line behind a place that is led is governed as the place is. -/
theorem lastMarker?_append_of_ledBy {a u : Text} (ha : LedBy P (Text.lastLine a)) (hu : Apart u)
    (hline : '\n' ∉ u) : lastMarker? (a ++ u) = lastMarker? a := by
  have huncut : Uncut a u := by
    intro hnone
    cases hm : decode? (Text.lastLine a ++ Text.firstLine u) with
    | none => rfl
    | some p =>
      obtain ⟨m, r⟩ := p
      rw [Text.firstLine_of_not_mem hline] at hm
      obtain ⟨m', r', -, heq⟩ := ha (hu.opening_front (opening_prefix_of_decode? hm))
      rw [heq, decode?_encode_append] at hnone
      cases hnone
  rw [lastMarker?_append huncut, Text.lines, Text.splitOn_of_not_mem hline]
  rfl

/-! ## A fragment in the place of a call -/

/-- A marker on the last line that is led by one leads the line that goes on behind the place. -/
theorem lastMarker?_append_of_lastOf {a b : Text} {m : Marker}
    (h : lastOf (Text.lines b).tail = some m) : lastMarker? (a ++ b) = some m := by
  rw [lastMarker?_eq, Text.lines_append, lastOf_append, lastOf_cons, h]
  rfl

theorem Led.of_lastMarker? {before s : Text} {m : Marker} (h : Led P (before ++ s))
    (hm : lastMarker? before = some m) : P m := by
  obtain ⟨line, hline, r, hdecode⟩ := exists_line_of_lastMarker? hm s
  exact ((h line hline).leads m r hdecode).1

section Place

variable {before call rest : Text}

theorem Led.above (h : Led P (before ++ (call ++ rest))) {line : Text}
    (hline : line ∈ (Text.lines before).dropLast) : LedBy P line := by
  refine h line ?_
  rw [Text.lines_append]
  exact List.mem_append_left _ hline

theorem Led.below (h : Led P (before ++ (call ++ rest))) {line : Text}
    (hline : line ∈ (Text.lines rest).tail) : LedBy P line := by
  refine h line ?_
  rw [← List.append_assoc, Text.lines_append]
  exact List.mem_append_right _ (List.mem_cons_of_mem _ hline)

/-- If the line of a call opens as markers do, then its marker is in front of the call. -/
theorem Led.exists_lastLine (h : Led P (before ++ (call ++ rest)))
    (hP : ∀ m, P m → Barred m.encode) (hcall : StartsAt before (call ++ rest))
    (hopen : opening <+: Text.lastLine before ++ Text.firstLine (call ++ rest)) :
    ∃ m r, P m ∧ Text.lastLine before = m.encode ++ r := by
  have hline : LedBy P (Text.lastLine before ++ Text.firstLine (call ++ rest)) := by
    refine h _ ?_
    rw [Text.lines_append]
    exact List.mem_append_right _ List.mem_cons_self
  refine hline.exists_front hP (t := Text.below (Text.lines (call ++ rest)).tail) ?_ hopen
  rw [Text.firstLine_append_below]
  exact startsAt_lastLine.2 hcall

theorem Led.ledBy_lastLine (h : Led P (before ++ (call ++ rest)))
    (hP : ∀ m, P m → Barred m.encode) (hcall : StartsAt before (call ++ rest)) :
    LedBy P (Text.lastLine before) := fun hopen =>
  h.exists_lastLine hP hcall (hopen.trans (List.prefix_append _ _))

/-- A text without a call that is deleted has known markers only, if the line that is left in its
place does not open as markers do where the call's line did not. -/
theorem Led.deleted (h : Led P (before ++ (call ++ rest))) (hP : ∀ m, P m → Barred m.encode)
    (hcall : StartsAt before (call ++ rest))
    (hkept : opening <+: Text.lastLine before ++ Text.firstLine rest →
      opening <+: Text.lastLine before ++ Text.firstLine (call ++ rest)) :
    Led P (before ++ rest) := by
  intro line hline
  rw [Text.lines_append, List.mem_append, List.mem_cons] at hline
  rcases hline with hline | rfl | hline
  · exact h.above hline
  · intro hopen
    obtain ⟨m, r, hm, heq⟩ := h.exists_lastLine hP hcall (hkept hopen)
    exact ⟨m, r ++ Text.firstLine rest, hm, by rw [heq, List.append_assoc]⟩
  · exact h.below hline

/-- A text with a fragment in the place of a call has known markers only. -/
theorem Led.spliced (h : Led P (before ++ (call ++ rest))) (hP : ∀ m, P m → Barred m.encode)
    (hcall : StartsAt before (call ++ rest)) {fragment : Text} {parent : Marker}
    (hfragment : Led P fragment) (hparent : P parent) (depth : Nat) {pairs : List (Text × Text)}
    (hpairs : ∀ entry ∈ pairs, '\n' ∉ entry.2) :
    Led P (before ++ (Expander.spliced (.of depth pairs) fragment parent ++ rest)) := by
  have hleave : '\n' ∉ statementsCode (Shadow.of depth pairs).leave :=
    not_mem_of_all_isStatementChar (Shadow.all_isStatementChar_leave depth pairs) (by decide)
  intro line hline
  rw [← List.append_assoc, Expander.spliced,
    Expander.mem_lines_enclosed (Shadow.not_mem_newline_enter hpairs) hleave] at hline
  rcases hline with hline | rfl | hline | rfl | hline
  · exact h.above hline
  · -- the line of the call goes on with statements, which do not complete an opening
    intro hopen
    obtain ⟨m, r, hm, heq⟩ := h.ledBy_lastLine hP hcall
      ((apart_enter depth pairs).opening_front hopen)
    exact ⟨m, r ++ _, hm, by rw [heq, List.append_assoc]⟩
  · exact hfragment line hline
  · -- the line behind the fragment starts with the marker of the call
    rw [List.append_assoc]
    exact ledBy_encode_append hparent _
  · exact h.below hline

end Place

end Marker

end TemplateTrace
