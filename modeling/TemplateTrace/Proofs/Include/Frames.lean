import Mathlib.Data.List.TakeWhile
import TemplateTrace.Proofs.Code.Feeding
import TemplateTrace.Proofs.Code.Resume
import TemplateTrace.Proofs.Code.Scan
import TemplateTrace.Proofs.Include.Evaluation
import TemplateTrace.Proofs.Include.Starts

/-!
# The frame of a call and the marker of its code

The marker of a call is looked for backwards, in the text that is cut in front of the call. A
splitter goes forward over whole lines, and it goes on behind a line that fails. Both know the same
marker, unless the text was cut in the comment of a marker; so the frame that a call gives to the
template that it includes is the template line of the code in which the call starts.

- `Marker.led`, `Splitter.feedAll_led`: lines that fail stand in front of the first marker, and
  leave nothing behind.
- `Marker.Behind`: a place that is not in front of the end of its line's marker.
- `Snippet.Holds`: the piece of code in which a text starts.
- `Splitter.marker_of_call`: calls are attributed as code is.
-/

namespace TemplateTrace

namespace Marker

/-! ## Lines behind the first marker -/

/-- The lines from the first one on that is led by a marker. -/
def led (lines : List Text) : List Text := lines.dropWhile fun line => (decode? line).isNone

/-- The lines from the first marker on are an end of the lines, with no marker in front of it. -/
theorem exists_led (lines : List Text) :
    ∃ before, lines = before ++ led lines ∧ lastOf before = none := by
  refine ⟨lines.takeWhile fun line => (decode? line).isNone,
    List.takeWhile_append_dropWhile.symm, ?_⟩
  refine List.findSome?_eq_none_iff.2 fun line hline => ?_
  have hnone := List.all_eq_true.1 List.all_takeWhile line (List.mem_reverse.1 hline)
  rw [Option.map_eq_none_iff]
  exact Option.isNone_iff_eq_none.1 hnone

/-- A line that goes on is behind the first marker if it was there before. -/
theorem exists_led_append {u : List Text} {l : Text} (h : led (u ++ [l]) ≠ []) (f : Text)
    (t : List Text) :
    ∃ w, led (u ++ [l]) = w ++ [l] ∧ led (u ++ (l ++ f) :: t) = w ++ (l ++ f) :: t := by
  unfold led at h ⊢
  rw [List.dropWhile_append] at h ⊢
  rw [List.dropWhile_append]
  split
  next hempty =>
    rw [if_pos hempty] at h
    cases hd : decode? l with
    | none => simp [hd] at h
    | some p => exact ⟨[], by simp [hd], by simp [decode?_append hd]⟩
  · exact ⟨_, rfl, rfl⟩

/-! ## Places behind a marker -/

/-- The place between two texts is not in front of the end of the marker that leads its line. -/
def Behind (a b : Text) : Prop :=
  ∀ m rest, decode? (Text.lastLine a ++ Text.firstLine b) = some (m, rest) →
    Text.firstLine b <:+ rest

theorem Behind.uncut {a b : Text} (h : Behind a b) : Uncut a b := by
  intro hnone
  rw [Option.eq_none_iff_forall_ne_some]
  rintro ⟨m, rest⟩ hline
  obtain ⟨r, rfl⟩ := h m rest hline
  obtain ⟨v, hv, hlocal⟩ := decode?_local hline
  rw [← List.append_assoc] at hv
  have hlast := hlocal r
  rw [← List.append_cancel_right hv, hnone] at hlast
  cases hlast

end Marker

namespace Splitter

open Marker

/-! ## Lines in front of the first marker -/

/-- What is taken in is what stands behind the first marker, and none of that fails. -/
theorem feedAll_led (lines : List Text) (index : Nat) :
    ∃ k, ({} : Splitter).feedAll k (led lines) = .ok (({} : Splitter).feedOnAll index lines) := by
  induction lines generalizing index with
  | nil => exact ⟨index, rfl⟩
  | cons line lines ih =>
    cases hd : decode? line with
    | none =>
      have hlead : ({} : Splitter).lead line = none := lead_eq_none_iff.2 ⟨hd, rfl⟩
      have hskip : led (line :: lines) = led lines := by simp [led, hd]
      obtain ⟨k, hk⟩ := ih (index + 1)
      rw [hskip, feedOnAll, feedOn_of_lead marked_init hlead]
      exact ⟨k, hk⟩
    | some p =>
      have hlead : ({} : Splitter).lead line = some p.1 := by
        rw [lead, hd]
        rfl
      have hkeep : led (line :: lines) = line :: lines := by simp [led, hd]
      obtain ⟨mid, hfeed, hcurrent⟩ : ∃ mid, ({} : Splitter).feed index line = .ok mid ∧
          mid.current = some p.1 := ⟨_, feed_eq _ index line [] hlead, rfl⟩
      obtain ⟨st', hst'⟩ := exists_feedAll (by rw [hcurrent]; rfl) (index + 1) lines
      have hall := feedAll_cons_eq_ok_iff.2 ⟨mid, hfeed, hst'⟩
      rw [hkeep, feedOnAll_of_feedAll hall]
      exact ⟨index, hall⟩

/-- The marker behind lines is the last one that leads one of them. -/
theorem current_feedOnAll (lines : List Text) (index : Nat) :
    (({} : Splitter).feedOnAll index lines).current = lastOf lines := by
  obtain ⟨k, hk⟩ := feedAll_led lines index
  obtain ⟨before, hlines, hbefore⟩ := exists_led lines
  obtain ⟨-, hcurrent, -⟩ := feedAll_state marked_init hk
  conv => rhs; rw [hlines]
  rw [hcurrent, lastOf_append, hbefore]

/-- Whether code is open behind lines. -/
theorem insideCode_feedOnAll (lines : List Text) (index : Nat) :
    (({} : Splitter).feedOnAll index lines).insideCode = Snippet.insideAfter false (led lines) := by
  obtain ⟨k, hk⟩ := feedAll_led lines index
  exact (feedAll_state marked_init hk).1

/-- The code lines of a text are its pieces behind the first marker, each under the marker that
governs its place. -/
theorem lines_feedOnAll (s : Text) (index : Nat) :
    (({} : Splitter).feedOnAll index (Text.lines s)).lines.map CodeLine.placed =
      (Snippet.ofLines false (led (Text.lines s))).map
        fun p => (lastMarker? (Text.upTo s (p.code ++ p.behind)), p.text) := by
  obtain ⟨k, hk⟩ := feedAll_led (Text.lines s) index
  obtain ⟨before, hlines, hbefore⟩ := exists_led (Text.lines s)
  exact feedAll_lines hlines marked_init hbefore.symm hk

end Splitter

namespace Snippet

/-! ## The piece in which a text starts -/

/-- The pieces of a text behind its first marker. -/
def led (s : Text) : List Snippet := ofLines false (Marker.led (Text.lines s))

/-- The text `b` starts in the code of the piece. -/
def Holds (p : Snippet) (b : Text) : Prop := ∃ k, k ≠ [] ∧ k <:+ p.code ∧ b = k ++ p.behind

/-- The marker of a piece governs each place in it. -/
theorem Holds.lastMarker? {a b : Text} {p : Snippet} (h : p.Holds b) (hp : p ∈ led (a ++ b)) :
    lastMarker? (Text.upTo (a ++ b) (p.code ++ p.behind)) = lastMarker? a := by
  obtain ⟨k, -, ⟨k', hcode⟩, rfl⟩ := h
  obtain ⟨before, hlines, -⟩ := Marker.exists_led (Text.lines (a ++ (k ++ p.behind)))
  obtain ⟨before', line, behind, hled, hscan⟩ := mem_ofLines hp
  have hlines' : Text.lines (a ++ (k ++ p.behind)) = before ++ before' ++ line :: behind := by
    rw [List.append_assoc, ← hled]
    exact hlines
  obtain ⟨front, hfront, hmarker⟩ := lastMarker?_of_mem_scan hlines' hscan
  have ha : a = front ++ k' := by
    rw [← hcode, List.append_assoc, ← List.append_assoc front] at hfront
    exact List.append_cancel_right hfront
  have hempty := hmarker [] List.nil_prefix
  rw [List.append_nil] at hempty
  rw [hfront, Text.upTo_append, hempty, ha, hmarker k' ⟨k, hcode⟩]

/-- A run of code is a piece in which each of its characters stands that is no blank. -/
theorem exists_holds_cut {c : Char} (hc : Text.isBlank c = false) (run y rest : Text)
    (closed : Bool) : ∃ p ∈ cut (run ++ c :: y) closed rest, p.Holds (c :: y ++ rest) := by
  have hstart : ∃ u, Text.stripStart (run ++ c :: y) = u ++ c :: y := by
    show ∃ u, List.dropWhile _ _ = _
    rw [List.dropWhile_append]
    split
    · exact ⟨[], List.dropWhile_cons_of_neg (by simp [hc])⟩
    · exact ⟨_, rfl⟩
  obtain ⟨u, hu⟩ := hstart
  have hne : Text.trimEnd Text.isBlank (c :: y) ≠ [] := by
    intro hnil
    have hblank := List.dropWhile_eq_nil_iff.1 (List.reverse_eq_nil_iff.1 hnil) c (by simp)
    rw [hc] at hblank
    cases hblank
  have hcode : Text.strip (run ++ c :: y) = u ++ Text.trimEnd Text.isBlank (c :: y) := by
    show Text.trimEnd Text.isBlank (Text.stripStart (run ++ c :: y)) = _
    rw [hu, trimEnd_append hne]
  have hcodene : Text.strip (run ++ c :: y) ≠ [] := by
    rw [hcode]
    exact List.append_ne_nil_of_right_ne_nil _ hne
  refine ⟨_, by rw [cut, if_neg hcodene]; exact List.mem_singleton_self _, ?_⟩
  refine ⟨Text.trimEnd Text.isBlank (c :: y), hne, ⟨u, hcode.symm⟩, ?_⟩
  show c :: y ++ rest = _ ++ (trailing (Text.stripStart (run ++ c :: y)) ++ rest)
  rw [hu, trailing_append hne, ← List.append_assoc, trimEnd_append_trailing]

/-- Code that goes on with a character that is no blank and no tag goes on in a piece. -/
theorem exists_holds_scan {c : Char} (hc : Text.isBlank c = false) (htag : c ≠ '?')
    (run y below : Text) : ∃ p ∈ scan (some run) (c :: y) below, p.Holds (c :: y ++ below) := by
  cases hbreak : Text.breakOn? codeClose (c :: y) with
  | none =>
    rw [scan_code_eq_cut hbreak]
    exact exists_holds_cut hc run y below false
  | some q =>
    obtain ⟨code, rest⟩ := q
    have hy : c :: y = code ++ codeClose ++ rest := Text.breakOn?_eq_some hbreak
    rw [scan_code_eq_append hbreak]
    cases code with
    | nil => exact absurd (List.cons.inj hy).1 htag
    | cons d code =>
      obtain ⟨rfl, htail⟩ := List.cons.inj hy
      have htail : y = code ++ codeClose ++ rest := htail
      obtain ⟨p, hp, hholds⟩ := exists_holds_cut hc run code (codeClose ++ rest ++ below) true
      refine ⟨p, List.mem_append_left _ hp, ?_⟩
      rw [htail]
      simpa only [List.cons_append, List.append_assoc] using hholds

/-- When code is open in front of a text, some piece holds the text. -/
theorem exists_holds_led {a y : Text} {c : Char} (hc : Text.isBlank c = false) (hopen : c ≠ '?')
    (hclose : c ≠ '>') (hcut : Marker.Uncut a (c :: y))
    (hin : insideAfter false (Marker.led (Text.lines a)) = true) :
    ∃ p ∈ led (a ++ c :: y), p.Holds (c :: y) := by
  have hbreak : ¬ c = '\n' := by
    rintro rfl
    cases hc
  have hfirst : Text.firstLine (c :: y) = c :: Text.firstLine y := by
    rw [Text.firstLine, Text.lines, Text.splitOn_cons_ne hbreak]
    rfl
  -- a line in front is led by a marker, since code is open there
  have hne : Marker.led ((Text.lines a).dropLast ++ [Text.lastLine a]) ≠ [] := by
    intro hnil
    rw [Text.dropLast_lines_append_lastLine] at hnil
    rw [hnil] at hin
    cases hin
  obtain ⟨w, hw, hline⟩ :=
    Marker.exists_led_append hne (Text.firstLine (c :: y)) (Text.lines (c :: y)).tail
  rw [Text.dropLast_lines_append_lastLine] at hw
  rw [hw, insideAfter_append] at hin
  obtain ⟨run, hrun⟩ := Option.isSome_iff_exists.1 hin
  -- no tag stands across the place, as the text does not start with the end of one
  have hcross : ¬ CloseAcross (Marker.bare (Text.lastLine a)) (Text.firstLine (c :: y)) := by
    rintro ⟨-, hhead⟩
    rw [hfirst] at hhead
    exact hclose (Option.some.inj hhead)
  obtain ⟨-, pieces, hscan, -⟩ :=
    scan_append hrun hcross (Text.below (Text.lines (c :: y)).tail)
  -- the first piece of the line behind the place holds the text
  obtain ⟨p, hp, hholds⟩ := exists_holds_scan hc hopen run (Text.firstLine y)
    (Text.below (Text.lines (c :: y)).tail)
  rw [← hfirst, Text.firstLine_append_below] at hholds
  refine ⟨p, ?_, hholds⟩
  rw [led, Text.lines_append, hline]
  refine mem_ofLines_append_right ?_
  rw [ofLines, hcut.bare, hscan, hfirst]
  exact List.mem_append_left _ (List.mem_append_right _ hp)

end Snippet

/-! ## Calls -/

/-- A call starts with the first letter of its head. -/
theorem IncludeSite.exists_text_cons {a s : Text} {site : IncludeSite}
    (h : find (Text.lastOr none a) s = .ok (some site)) :
    ∃ y, site.text ++ site.rest = 'e' :: y := by
  have hstarts := startsAt_site h
  cases htext : site.text ++ site.rest with
  | nil =>
    rw [htext] at hstarts
    exact absurd hstarts (not_startsAt_nil _)
  | cons c y =>
    rw [htext] at hstarts
    exact ⟨y, by rw [hstarts.head_eq]⟩

namespace Splitter

/-- **Calls are attributed as code is.** At a place that is not in front of the end of its line's
marker the marker that is looked for backwards is the one that a splitter has taken in with the line
of the place. So the last frame that an included template is given is the template line of the code
in which its call starts; and a call starts in code if the text in front of it leaves code open. (In
markup and in the comment of a marker there is no code that a call could start in.) -/
theorem marker_of_call :
    (∀ a b, Marker.Behind a b → lastMarkerBefore? (a ++ b) (Text.bytes a) =
      some (feedOnAll {} 0 ((Text.lines (a ++ b)).take (a.count '\n' + 1))).current) ∧
    (∀ (x : Expander) chain done rest site name path stack,
      IncludeSite.find (Text.lastOr none done) rest = .ok (some site) →
      x.Next (.expanding chain done rest) (.rendering chain name path stack) → ∀ p c,
      (p, c) ∈ (Snippet.led (done ++ rest)).zip (feedOnAll {} 0 (Text.lines (done ++ rest))).lines →
      p.Holds (site.text ++ site.rest) →
      c.code = p.text ∧ stack = c.marker.stack ++ [c.marker.frame]) ∧
    ∀ done rest site, IncludeSite.find (Text.lastOr none done) rest = .ok (some site) →
      Marker.Behind (done ++ site.before) (site.text ++ site.rest) →
      (feedOnAll {} 0 (Text.lines (done ++ site.before))).insideCode = true → ∃ p c,
      (p, c) ∈ (Snippet.led (done ++ rest)).zip (feedOnAll {} 0 (Text.lines (done ++ rest))).lines ∧
        p.Holds (site.text ++ site.rest) := by
  refine ⟨?place, ?frame, ?code⟩
  case place =>
    intro a b h
    -- the splitter keeps the last marker that it was fed, the one that the backward search meets
    have hcurrent : (feedOnAll {} 0 ((Text.lines (a ++ b)).take (a.count '\n' + 1))).current =
        lastMarker? a := by
      rw [current_feedOnAll, Text.take_lines_append, Marker.lastOf_append, Marker.lastOf_lines,
        Marker.lastOf_singleton, Marker.lastOf_singleton, h.uncut.decode?, Option.map_map]
      rfl
    rw [lastMarkerBefore?, Text.cut?_append, hcurrent]
    rfl
  case frame =>
    intro x chain done rest site name path stack hfind hnext p c hmem hholds
    cases hnext with
    | included hfind' hfate =>
      cases hfind.symm.trans hfind'
      obtain ⟨-, -, hparent, -⟩ := Expander.included_spec hfate
      -- a piece is kept with the marker above its place, which is the parent of the call
      obtain ⟨hmarker, hcode⟩ :=
        Prod.mk.inj (CodeLine.placed_of_mem_zip (lines_feedOnAll (done ++ rest) 0) hmem)
      have hp := (List.of_mem_zip hmem).1
      rw [IncludeSite.append_eq_of_find hfind done] at hp hmarker
      rw [hholds.lastMarker? hp, hparent] at hmarker
      obtain rfl := Option.some.inj hmarker
      exact ⟨hcode, rfl⟩
  case code =>
    intro done rest site hfind hbehind hopen
    -- a call starts with a letter, which neither ends a tag nor is cut off as a blank
    obtain ⟨y, hy⟩ := IncludeSite.exists_text_cons hfind
    rw [insideCode_feedOnAll] at hopen
    have hcut := hbehind.uncut
    rw [hy] at hcut ⊢
    obtain ⟨p, hp, hholds⟩ :=
      Snippet.exists_holds_led (by decide) (by decide) (by decide) hcut hopen
    rw [← hy, ← IncludeSite.append_eq_of_find hfind done] at hp
    obtain ⟨c, hc⟩ := CodeLine.exists_mem_zip_of_map (lines_feedOnAll (done ++ rest) 0) hp
    exact ⟨p, c, hc, hholds⟩

/-- A call on the second line of the code that is opened on the first one. -/
theorem marker_of_call_on_second_line :
    let a := "a".toList
    let b := "b".toList
    let source := "<?php\necho $__env->make('b')->render(); ?>".toList
    let x : Expander :=
      { source := fun p => .ok (if p = a then source else "hello".toList)
        compile := .ok, locate := some, maxDepth := 1 }
    let second : Marker := ⟨a, a, 2, []⟩
    let front := (⟨a, a, 1, []⟩ : Marker).encode ++ "<?php\n".toList ++ second.encode
    let call := "echo $__env->make('b')->render();".toList
    let rest := front ++ (call ++ " ?>".toList)
    x.Next (.expanding [a] [] rest) (.rendering [a] b b [second.frame]) ∧
      lastMarkerBefore? rest (Text.bytes front) =
        some (feedOnAll {} 0 ((Text.lines rest).take (front.count '\n' + 1))).current ∧
      ∃ p c, (p, c) ∈ (Snippet.led rest).zip (feedOnAll {} 0 (Text.lines rest)).lines ∧
        p.Holds (call ++ " ?>".toList) ∧ c.code = p.text ∧
        [second.frame] = c.marker.stack ++ [c.marker.frame] := by
  intro a b source x second front call rest
  let site : IncludeSite := ⟨front, call, ⟨.literal b, none, none⟩, " ?>".toList⟩
  have hfind : IncludeSite.find (Text.lastOr none []) rest = .ok (some site) := by decide +kernel
  have hfate : x.fate [a] ([] ++ site.before) site = .included b b second := by decide +kernel
  have hnext : x.Next (.expanding [a] [] rest) (.rendering [a] b b [second.frame]) :=
    .included hfind hfate
  -- the call is on a line with a marker, which ends in front of it
  have hbehind : Marker.Behind ([] ++ site.before) (site.text ++ site.rest) := by
    intro m behind hline
    have hsecond : Marker.decode? (Text.lastLine ([] ++ site.before) ++
        Text.firstLine (site.text ++ site.rest)) =
          some (second, Text.firstLine (site.text ++ site.rest)) := by decide +kernel
    cases hsecond.symm.trans hline
    exact List.suffix_refl _
  have hopen : (feedOnAll {} 0 (Text.lines ([] ++ site.before))).insideCode = true := by
    decide +kernel
  obtain ⟨place, frame, code⟩ := marker_of_call
  obtain ⟨p, c, hmem, hholds⟩ := code [] rest site hfind hbehind hopen
  exact ⟨hnext, place front _ hbehind, p, c, hmem, hholds,
    frame x [a] [] rest site b b _ hfind hnext p c hmem hholds⟩

end Splitter

end TemplateTrace
