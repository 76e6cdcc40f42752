import TemplateTrace.Proofs.Code.Resume
import TemplateTrace.Proofs.Include.Evaluation

/-!
# Attribution across a call

Replacing a call leaves the text behind it as it is, and the code in that text is cut up as before.
Its markers need not be the same. The replacement leads back to the marker of the line on which the
call starts, and a call over several lines takes the markers of its later lines away with it; so
the code that follows the call on its last line moves to the line on which the call starts. Code on
later lines that are led by a marker keeps it.

- `InHostCode`: a call inside host code.
- `CodeLine.isSome_lastMarker?_of_inside`, `CodeLine.exists_split_append`: code that is split has a
  marker, and then whatever follows it can be split.
- `Expander.replacement_resumes`: behind a replacement code is open, under the marker of the call.
- `Expander.marker_eq_iff_of_step`: which code lines keep their marker.
-/

namespace TemplateTrace

/-- A call inside host code: code is open on both sides of it, and no leading marker runs across
its ends, or across the place where it was when it is gone. -/
structure InHostCode (before call rest : Text) : Prop where
  opened : Snippet.inside before = true
  stillOpen : Snippet.inside (before ++ call) = true
  start : Marker.Uncut before (call ++ rest)
  stop : Marker.Uncut (before ++ call) rest
  join : Marker.Uncut before rest

/-! ## Code that is split has a marker -/

namespace CodeLine

/-- A split of two texts side by side runs over the lines in front of the one that they share, and
then over that one. -/
theorem exists_feedAll_dropLast {s t : Text} {lines : List CodeLine}
    (h : split (s ++ t) = .ok lines) :
    ∃ st st', ({} : Splitter).feedAll 0 (Text.lines s).dropLast = .ok st ∧
      st.feed (Text.lines s).dropLast.length (Text.lastLine s ++ Text.firstLine t) = .ok st' := by
  obtain ⟨final, hfinal, -⟩ := split_eq_ok_iff.1 h
  rw [Text.lines_append, Splitter.feedAll_append, Nat.zero_add] at hfinal
  cases hst : ({} : Splitter).feedAll 0 (Text.lines s).dropLast with
  | error e =>
    rw [hst] at hfinal
    cases hfinal
  | ok st =>
    rw [hst] at hfinal
    obtain ⟨st', hfeed, -⟩ := Splitter.feedAll_cons_eq_ok_iff.1 hfinal
    exact ⟨st, st', rfl, hfeed⟩

/-- Where code is open in a text that is split, a marker governs it. -/
theorem isSome_lastMarker?_of_inside {s t : Text} {lines : List CodeLine}
    (h : split (s ++ t) = .ok lines) (hcut : Marker.Uncut s t) (hin : Snippet.inside s = true) :
    (lastMarker? s).isSome = true := by
  obtain ⟨st, st', hst, hfeed⟩ := exists_feedAll_dropLast h
  obtain ⟨hmode, hcur, hmarked⟩ := Splitter.feedAll_state Splitter.marked_init hst
  have hcur : st.current = Marker.lastOf (Text.lines s).dropLast := by rw [hcur, Option.or_none]
  cases hlead : st.lead (Text.lastLine s ++ Text.firstLine t) with
  | some m =>
    have hlast : lastMarker? s = some m := by
      rw [← hlead, Splitter.lead, hcur, hcut.decode?, Option.map_map, Marker.lastOf_lines,
        Marker.lastOf_singleton]
      rfl
    rw [hlast]
    rfl
  | none =>
    -- then the line opens no code, and neither does its part in front of the place
    obtain ⟨-, hmarkup, hopen⟩ := (Splitter.feed_eq_ok_iff hmarked hlead).1 hfeed
    obtain ⟨run, hrun⟩ := Snippet.exists_runAfter_of_inside hin
    have hmode : st.insideCode = Snippet.insideAfter false (Text.lines s).dropLast := hmode
    rw [← hmode, hmarkup, Snippet.start_false] at hrun
    cases hbreak : Text.breakOn? codeOpen (Marker.bare (Text.lastLine s)) with
    | none =>
      rw [Snippet.runAfter_markup_eq_none hbreak] at hrun
      cases hrun
    | some p =>
      rw [hcut.bare, Text.breakOn?_append hbreak] at hopen
      cases hopen

/-- What is split up to a place with a marker can be split with anything behind that place. -/
theorem exists_split_append {s t : Text} {lines : List CodeLine}
    (h : split (s ++ t) = .ok lines) (hmarker : (lastMarker? s).isSome = true) (t' : Text) :
    ∃ lines', split (s ++ t') = .ok lines' := by
  obtain ⟨st, -, hst, -⟩ := exists_feedAll_dropLast h
  obtain ⟨-, hcur, -⟩ := Splitter.feedAll_state Splitter.marked_init hst
  have hcur : st.current = Marker.lastOf (Text.lines s).dropLast := by rw [hcur, Option.or_none]
  obtain ⟨m, hlead⟩ : ∃ m, st.lead (Text.lastLine s ++ Text.firstLine t') = some m := by
    rw [Marker.lastOf_lines, Marker.lastOf_singleton] at hmarker
    rw [← Option.isSome_iff_exists, Splitter.lead, hcur]
    cases hd : Marker.decode? (Text.lastLine s) with
    | none =>
      rw [hd] at hmarker
      rw [Option.isSome_or, show (Marker.lastOf _).isSome = true from hmarker, Bool.or_true]
    | some p =>
      rw [Marker.decode?_append hd]
      rfl
  obtain ⟨mid, hfeed, hmid⟩ : ∃ mid, st.feed (Text.lines s).dropLast.length
      (Text.lastLine s ++ Text.firstLine t') = .ok mid ∧ mid.current = some m :=
    ⟨_, Splitter.feed_eq st _ _ [] hlead, rfl⟩
  obtain ⟨final, hfinal⟩ := Splitter.exists_feedAll (by rw [hmid]; rfl)
    ((Text.lines s).dropLast.length + 1) (Text.lines t').tail
  refine ⟨final.lines, split_eq_ok_iff.2 ⟨final, ?_, rfl⟩⟩
  rw [Text.lines_append, Splitter.feedAll_append, hst, Nat.zero_add]
  exact Splitter.feedAll_cons_eq_ok_iff.2 ⟨mid, hfeed, hfinal⟩

end CodeLine

/-! ## Behind a replacement -/

namespace Expander

/-- The line behind a fragment leaves code open. -/
theorem inside_enclosed (before enter fragment : Text) (parent : Marker) {leave : Text}
    (hleave : leave.all isStatementChar = true) :
    Snippet.inside (before ++ enclosed enter fragment parent leave) = true := by
  have hnewline : '\n' ∉ leave := not_mem_of_all_isStatementChar hleave (by decide)
  have hgt : '>' ∉ ' ' :: leave := by
    rw [List.mem_cons, not_or]
    exact ⟨by decide, not_mem_of_all_isStatementChar hleave (by decide)⟩
  have hclose : ∀ s : Text, '>' ∉ s → Text.breakOn? codeClose s = none := by
    intro s hs
    cases hbreak : Text.breakOn? codeClose s with
    | none => rfl
    | some p =>
      rw [Text.breakOn?_eq_some hbreak] at hs
      exact absurd (by simp [codeClose]) hs
  have hbare : Marker.bare (parent.encode ++ ("<?php ".toList ++ leave)) =
      codeOpen ++ ' ' :: leave := by
    rw [Marker.bare, Marker.decode?_encode_append]
    show "<?php ".toList ++ leave = _
    rw [show "<?php ".toList = codeOpen ++ [' '] by decide, List.append_assoc]
    rfl
  -- the last line opens code, or leaves it open, and holds no closing tag
  rw [Snippet.inside, ← Text.dropLast_lines_append_lastLine,
    lastLine_enclosed before enter fragment parent hnewline, Snippet.insideAfter_append]
  show (Snippet.runAfter _ (Marker.bare _)).isSome = true
  rw [hbare]
  cases Snippet.insideAfter false _ with
  | false =>
    rw [Snippet.start_false,
      Snippet.runAfter_markup_eq_code (Text.breakOn?_append_self codeOpen (' ' :: leave)),
      Snippet.runAfter_code_eq_some (hclose _ hgt)]
    rfl
  | true =>
    have hgt' : '>' ∉ codeOpen ++ ' ' :: leave := by
      rw [List.mem_append, not_or]
      exact ⟨by decide, hgt⟩
    rw [Snippet.start_true, Snippet.runAfter_code_eq_some (hclose _ hgt')]
    rfl

/-- Behind a replacement code is open, no marker runs on, and the marker of the call governs. -/
theorem replacement_resumes {x : Expander} {chain : List Text} {before : Text} {site : IncludeSite}
    {steps : Nat} {r : Text} (hstands : InHostCode before site.text site.rest)
    (hr : x.replacement chain before site steps = ended (.ok r)) :
    Snippet.inside (before ++ r) = true ∧ Marker.Uncut (before ++ r) site.rest ∧
      lastMarker? (before ++ r) = lastMarker? before := by
  rcases replacement_eq_ok hr with ⟨-, rfl⟩ | ⟨_, _, parent, hfate, _, -, fragment, -, rfl⟩
  · rw [List.append_nil]
    exact ⟨hstands.opened, hstands.join, rfl⟩
  · obtain ⟨-, -, hparent, -⟩ := included_spec hfate
    have hleave := Shadow.all_isStatementChar_leave chain.length site.call.dataPairs
    have hnewline := not_mem_of_all_isStatementChar hleave (c := '\n') (by decide)
    refine ⟨inside_enclosed before _ fragment parent hleave, Marker.uncut_of_isSome ?_ _, ?_⟩
    · rw [spliced, lastLine_enclosed before _ fragment parent hnewline,
        Marker.decode?_encode_append]
      rfl
    · rw [spliced, lastMarker?_enclosed before _ fragment parent hnewline, hparent]

/-- **Which code keeps its marker when a call is replaced.** A step of expansion can be split again
when the text in front of it could, and every code line that lies wholly behind the call is the end
of a code line that was there before the step. The two have one marker just when a line between the
call and the code is led by a marker, or when the call has no marker of its own: code on the last
line of a call over several marked lines moves to the line on which the call starts. -/
theorem marker_eq_iff_of_step {x : Expander} {chain : List Text} {done rest : Text}
    {site : IncludeSite} {steps : Nat} {r : Text} {lines : List CodeLine}
    (hfind : IncludeSite.find (Text.lastOr none done) rest = .ok (some site))
    (hstands : InHostCode (done ++ site.before) site.text site.rest)
    (hsplit : CodeLine.split (done ++ rest) = .ok lines)
    (hr : x.replacement chain (done ++ site.before) site steps = ended (.ok r)) :
    x.expand chain done rest (steps + 1) =
        x.expand chain (done ++ site.before) (r ++ site.rest) steps ∧
      ∃ lines', CodeLine.split (done ++ site.before ++ r ++ site.rest) = .ok lines' ∧
        ∀ p c front, (p, c) ∈ (Snippet.all (done ++ site.before ++ r ++ site.rest)).zip lines' →
          site.rest = front ++ (p.code ++ p.behind) →
          ∃ q c₀, (q, c₀) ∈ (Snippet.all (done ++ rest)).zip lines ∧ q.Covers p ∧
            (c.marker = c₀.marker ↔
              (∃ line ∈ (Text.lines front).tail, (Marker.decode? line).isSome = true) ∨
                lastMarker? (done ++ site.before ++ site.text) =
                  lastMarker? (done ++ site.before)) := by
  obtain ⟨hrest, hlast, -, -⟩ := IncludeSite.find_spec hfind
  have htext : done ++ rest = done ++ site.before ++ site.text ++ site.rest := by
    conv => lhs; rw [hrest]
    simp only [List.append_assoc]
  obtain ⟨hin, hcut, hmarker⟩ := replacement_resumes hstands hr
  refine ⟨?_, ?_⟩
  · rw [expand_succ x chain hfind, hr]
    rfl
  have hsplit' := hsplit
  rw [htext, List.append_assoc] at hsplit'
  have hsome := CodeLine.isSome_lastMarker?_of_inside hsplit' hstands.start hstands.opened
  obtain ⟨lines', hlines'⟩ := CodeLine.exists_split_append hsplit' hsome (r ++ site.rest)
  rw [← List.append_assoc] at hlines'
  refine ⟨lines', hlines', ?_⟩
  intro p c front hmem hfront
  obtain ⟨-, hc⟩ := CodeLine.spec_of_mem_zip hlines' hmem
  have hp := (List.of_mem_zip hmem).1
  -- the call ends in `;`, so that no closing tag runs across its end
  have hquestion : (done ++ site.before ++ site.text).getLast? ≠ some '?' := by
    rw [List.getLast?_append, hlast]
    show some ';' ≠ some '?'
    decide
  obtain ⟨q, hq, hcovers⟩ := Snippet.exists_covers_of_mem_all hcut hin hp hfront hstands.stop
    hstands.stillOpen hquestion
  rw [← htext] at hq
  obtain ⟨c₀, hc₀⟩ := CodeLine.exists_mem_zip hsplit hq
  refine ⟨q, c₀, hc₀, hcovers, ?_⟩
  obtain ⟨-, hc₀⟩ := CodeLine.spec_of_mem_zip hsplit hc₀
  -- both markers are the last one between the call and the code, or else the one at the call's end
  have hplace : ∀ a : Text, Marker.Uncut a site.rest →
      lastMarker? (a ++ front) = (Marker.lastOf (Text.lines front).tail).or (lastMarker? a) := by
    intro a ha
    rw [hfront] at ha
    exact Marker.lastMarker?_append ha.of_append
  have hafter : some c.marker =
      (Marker.lastOf (Text.lines front).tail).or (lastMarker? (done ++ site.before)) := by
    rw [hc, ← hmarker, ← hplace _ hcut]
    conv => lhs; rw [hfront, ← List.append_assoc, Text.upTo_append]
  have hbefore : some c₀.marker =
      (Marker.lastOf (Text.lines front).tail).or
        (lastMarker? (done ++ site.before ++ site.text)) := by
    rw [hc₀, ← hplace _ hstands.stop]
    refine Snippet.lastMarker?_of_covers hq hcovers ?_
    rw [htext, List.append_assoc _ front, ← hfront]
  rw [← Option.some_inj, hafter, hbefore, ← Marker.lastOf_isSome_iff]
  cases Marker.lastOf (Text.lines front).tail with
  | some m => exact ⟨fun _ => .inl rfl, fun _ => rfl⟩
  | none =>
    rw [Option.none_or, Option.none_or]
    constructor
    · exact fun h => .inr h.symm
    · rintro (h | h)
      · cases h
      · exact h.symm

/-- A call on one line: the code behind it keeps its marker. -/
theorem marker_eq_of_one_line_step :
    let m : Marker := ⟨"a".toList, "/a".toList, 1, []⟩
    let before := m.encode ++ "<?php ".toList
    let call := "echo $__env->make($x)->render();".toList
    let rest := " foo(); ?>".toList
    let lines : List CodeLine := [⟨m, "echo $__env->make($x)->render(); foo();;".toList⟩]
    CodeLine.split (before ++ (call ++ rest)) = .ok lines ∧
      ∃ lines', CodeLine.split (before ++ rest) = .ok lines' ∧
        ∀ p c front, (p, c) ∈ (Snippet.all (before ++ rest)).zip lines' →
          rest = front ++ (p.code ++ p.behind) →
          ∃ q c₀, (q, c₀) ∈ (Snippet.all (before ++ (call ++ rest))).zip lines ∧ q.Covers p ∧
            c.marker = c₀.marker := by
  intro m before call rest lines
  let x : Expander := ⟨fun _ => .ok [], .ok, fun _ => none, 0⟩
  have hfind : IncludeSite.find (Text.lastOr none []) (before ++ (call ++ rest)) =
      .ok (some ⟨before, call, ⟨.dynamic "$x".toList, none, none⟩, rest⟩) := by decide +kernel
  have hled : (Marker.decode? (Text.lastLine before)).isSome = true := by decide +kernel
  have hstands : InHostCode before call rest :=
    ⟨by decide +kernel, by decide +kernel, Marker.uncut_of_isSome hled _,
      Marker.uncut_of_isSome (by decide +kernel) _, Marker.uncut_of_isSome hled _⟩
  have hsplit : CodeLine.split (before ++ (call ++ rest)) = .ok lines := by decide +kernel
  have hone : lastMarker? (before ++ call) = lastMarker? before := by decide +kernel
  -- the texts are only unfolded for what was decided above
  clear_value before call rest lines
  have hr : x.replacement [] before ⟨before, call, ⟨.dynamic "$x".toList, none, none⟩, rest⟩ 0 =
      ended (.ok []) := rfl
  obtain ⟨-, lines', hlines', hmarker⟩ :=
    marker_eq_iff_of_step hfind hstands hsplit hr
  rw [List.nil_append, List.append_nil] at hlines' hmarker
  refine ⟨hsplit, lines', hlines', ?_⟩
  intro p c front hmem hfront
  obtain ⟨q, c₀, hq, hcovers, hiff⟩ := hmarker p c front hmem hfront
  exact ⟨q, c₀, hq, hcovers, hiff.2 (.inr hone)⟩

/-- A call over two lines: the code behind it moves from the second line to the first. -/
theorem marker_moves_of_two_line_call :
    let first : Marker := ⟨"a".toList, "/a".toList, 1, []⟩
    let second : Marker := ⟨"a".toList, "/a".toList, 2, []⟩
    let compiled := first.encode ++ "<?php echo $__env->make(\n".toList ++ second.encode ++
      "$x)->render(); foo(); ?>".toList
    let expanded := first.encode ++ "<?php  foo(); ?>".toList
    let x : Expander := ⟨fun _ => .ok [], .ok, fun _ => none, 0⟩
    x.expand [] [] compiled 2 = ended (.ok expanded) ∧
      CodeLine.split compiled = .ok [⟨first, "echo $__env->make(".toList⟩,
        ⟨second, "$x)->render(); foo();;".toList⟩] ∧
      CodeLine.split expanded = .ok [⟨first, "foo();;".toList⟩] := by
  intro first second compiled expanded x
  refine ⟨?_, by decide +kernel, by decide +kernel⟩
  obtain ⟨site, hfind, hnone, hdynamic, htext⟩ : ∃ site : IncludeSite,
      IncludeSite.find (Text.lastOr none []) compiled = .ok (some site) ∧
      IncludeSite.find (Text.lastOr none site.before) site.rest = .ok none ∧
      site.call.target = .dynamic "$x".toList ∧ site.before ++ site.rest = expanded := by
    refine ⟨⟨first.encode ++ "<?php ".toList,
      "echo $__env->make(\n".toList ++ second.encode ++ "$x)->render();".toList,
      ⟨.dynamic "$x".toList, none, none⟩, " foo(); ?>".toList⟩, ?_⟩
    decide +kernel
  clear_value compiled expanded
  have hr : x.replacement [] site.before site 1 = ended (.ok []) := by
    rw [replacement, hdynamic]
    rfl
  rw [expand_succ x [] hfind, List.nil_append, hr, ← htext]
  exact expand_of_find_eq_none x [] hnone 0

end Expander

end TemplateTrace
