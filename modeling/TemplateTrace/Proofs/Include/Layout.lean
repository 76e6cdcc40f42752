import TemplateTrace.Proofs.Code.Resume
import TemplateTrace.Proofs.Include.Site

/-!
# The layout around a fragment

A fragment is spliced into its parent on lines of its own: the parent's code is closed in front of
it, and behind it a line led by the parent's marker opens code again. Whether the parent is cut up
as it would be without the fragment depends on one thing only, namely whether the fragment ends in
markup. A fragment that ends inside code, such as a plain file of host code without a closing tag,
leaves the opening tag of the next line in the middle of code.

- `Splitter.onto`: a state on top of an earlier one, and `Splitter.feedAll_onto`.
- `Snippet.inside_append_close`: a closing tag at the end closes code.
- `Snippet.map_text_ofLines_ne`: an opening tag inside code shows.
- `Expander.split_enclosed`: the code lines around a fragment.
-/

namespace TemplateTrace

/-! ## Running on top of an earlier state -/

namespace Splitter

/-- A state on top of an earlier one: the code lines behind those of the earlier one, and its marker
until there is another. -/
def onto (base st : Splitter) : Splitter :=
  { insideCode := st.insideCode, current := st.current.or base.current
    lines := base.lines ++ st.lines }

theorem lead_onto (base st : Splitter) (line : Text) :
    (base.onto st).lead line = (st.lead line).or base.current := by
  rw [lead, lead, onto, Option.or_assoc]

theorem marked_onto (base : Splitter) {st : Splitter} (hst : st.Marked) :
    (base.onto st).Marked := by
  intro hin
  rw [onto, Option.isSome_or, hst hin, Bool.true_or]

/-- A line that a state takes is taken on top of an earlier state too, with the same code lines
behind those that are there. -/
theorem feed_onto (base : Splitter) {st st' : Splitter} {index : Nat} {line : Text}
    (hst : st.Marked) (h : st.feed index line = .ok st') (index' : Nat) :
    (base.onto st).feed index' line = .ok (base.onto st') := by
  cases hlead : st.lead line with
  | none =>
    obtain ⟨rfl, hin, hbreak⟩ := (feed_eq_ok_iff hst hlead).1 h
    cases hbase : (base.onto st').lead line with
    | none => exact (feed_eq_ok_iff (marked_onto base hst) hbase).2 ⟨rfl, hin, hbreak⟩
    | some m =>
      have hcur : st'.current.or base.current = some m := by
        rw [lead_onto, hlead] at hbase
        rwa [(lead_eq_none_iff.1 hlead).2]
      rw [feed_eq _ index' line [] hbase]
      show Except.ok _ = Except.ok (Splitter.mk st'.insideCode _ _)
      rw [hcur, show (base.onto st').insideCode = false from hin, hin, Snippet.start_false,
        Snippet.runAfter_markup_eq_none hbreak, Snippet.scan_markup_eq_nil hbreak]
      show Except.ok (Splitter.mk false _ (_ ++ [])) = _
      rw [List.append_nil]
      rfl
  | some m =>
    have hbase : (base.onto st).lead line = some m := by rw [lead_onto, hlead]; rfl
    rw [feed_eq st index line [] hlead] at h
    rw [← Except.ok.inj h, feed_eq _ index' line [] hbase]
    show Except.ok (Splitter.mk _ _ (base.lines ++ st.lines ++ _)) = _
    rw [List.append_assoc]
    rfl

/-- A run does what it does, whatever code lines and marker were there before. -/
theorem feedAll_onto (base : Splitter) {st st' : Splitter} {index : Nat} {lines : List Text}
    (hst : st.Marked) (h : st.feedAll index lines = .ok st') (index' : Nat) :
    (base.onto st).feedAll index' lines = .ok (base.onto st') := by
  induction lines generalizing st index index' with
  | nil =>
    obtain rfl := Except.ok.inj h
    rfl
  | cons line lines ih =>
    obtain ⟨mid, hfeed, hrest⟩ := feedAll_cons_eq_ok_iff.1 h
    have hmid := (feed_spec hst hfeed []).2.2.1
    exact feedAll_cons_eq_ok_iff.2
      ⟨base.onto mid, feed_onto base hst hfeed index', ih hmid hrest (index' + 1)⟩

/-- A state without its code lines. -/
def fresh (st : Splitter) : Splitter := { st with lines := [] }

theorem onto_fresh (st : Splitter) : st.onto st.fresh = st := by
  rw [onto, fresh, List.append_nil, Option.or_self]

/-- A state in markup goes on like the first one. -/
theorem onto_init {st : Splitter} (h : st.insideCode = false) : st.onto {} = st := by
  rw [onto, List.append_nil]
  show Splitter.mk false st.current st.lines = st
  rw [← h]

end Splitter

/-! ## Closing and opening tags -/

namespace Snippet

/-- Where a text that ends in a closing tag can be cut, unless right inside the tag. -/
theorem close_cases {t a b : Text} (h : t ++ codeClose = a ++ b) (ha : a.getLast? ≠ some '?') :
    (∃ c, b = c ++ codeClose) ∨ b = [] ∧ a.getLast? = some '>' := by
  rcases List.append_eq_append_iff.1 h with ⟨a', rfl, hclose⟩ | ⟨c, -, rfl⟩
  · rw [show codeClose = ['?', '>'] by decide] at hclose
    match a', hclose with
    | [], hclose =>
      refine .inl ⟨[], ?_⟩
      rw [show codeClose = ['?', '>'] by decide]
      exact hclose.symm
    | [x], hclose =>
      obtain ⟨rfl, -⟩ := by simpa using hclose
      exact absurd (by simp) ha
    | [x, y], hclose =>
      obtain ⟨rfl, rfl, rfl⟩ := by simpa using hclose
      exact .inr ⟨rfl, by simp⟩
    | x :: y :: z :: l, hclose => simp at hclose
  · exact .inl ⟨c, rfl⟩

/-- A closing tag at the end closes code. -/
theorem runAfter_append_close (run : Option Text) (t : Text) :
    runAfter run (t ++ codeClose) = none := by
  have hempty : runAfter none [] = none := runAfter_markup_eq_none (by decide)
  generalize hs : t ++ codeClose = s
  fun_induction runAfter run s generalizing t with
  | case1 tail run hbreak =>
    subst hs
    have hne := Text.breakOn?_ne_none codeClose t []
    rw [List.append_nil, hbreak] at hne
    exact absurd rfl hne
  | case2 tail run code rest hbreak _ ih =>
    have hlast : (code ++ codeClose).getLast? = some '>' := by
      rw [List.getLast?_append]
      rfl
    have htail : t ++ codeClose = code ++ codeClose ++ rest :=
      hs.trans (Text.breakOn?_eq_some hbreak)
    rcases close_cases htail (by rw [hlast]; decide) with ⟨c, hc⟩ | ⟨rfl, -⟩
    · exact ih c hc.symm
    · exact hempty
  | case3 => rfl
  | case4 tail skipped rest hbreak _ ih =>
    have hlast : (skipped ++ codeOpen).getLast? = some 'p' := by
      rw [List.getLast?_append]
      rfl
    have htail : t ++ codeClose = skipped ++ codeOpen ++ rest :=
      hs.trans (Text.breakOn?_eq_some hbreak)
    rcases close_cases htail (by rw [hlast]; decide) with ⟨c, hc⟩ | ⟨-, hp⟩
    · exact ih c hc.symm
    · rw [hlast] at hp
      cases hp

/-- A closing tag at the end of a line stands behind the marker that leads it. -/
theorem exists_bare_append_close (line : Text) :
    ∃ t, Marker.bare (line ++ codeClose) = t ++ codeClose := by
  unfold Marker.bare
  split
  next m rest h =>
    obtain ⟨v, hline, -⟩ := Marker.decode?_local h
    have hlast : (v ++ " */".toList).getLast? = some '/' := by
      rw [List.getLast?_append]
      rfl
    rcases close_cases hline (by rw [hlast]; decide) with ⟨c, rfl⟩ | ⟨-, hslash⟩
    · exact ⟨c, rfl⟩
    · rw [hlast] at hslash
      cases hslash
  · exact ⟨line, rfl⟩

theorem inside_append_close (s : Text) : inside (s ++ codeClose) = false := by
  obtain ⟨t, ht⟩ := exists_bare_append_close (Text.lastLine s)
  rw [inside, Text.lines_append_line s (show '\n' ∉ codeClose by decide), insideAfter_append]
  show (runAfter _ (Marker.bare _)).isSome = false
  rw [ht, runAfter_append_close]
  rfl

/-! ## An opening tag inside code -/

/-- Code that starts with an opening tag is longer than what stands behind the tag. -/
theorem length_strip_open (run : Text) :
    (Text.strip run).length < (Text.strip (codeOpen ++ run)).length := by
  have hstart : Text.stripStart (codeOpen ++ run) = codeOpen ++ run := by
    rw [show codeOpen = '<' :: "?php".toList by decide]
    exact List.dropWhile_cons_of_neg (by decide)
  show _ < (Text.trimEnd Text.isBlank (Text.stripStart (codeOpen ++ run))).length
  rw [hstart]
  -- blank code is shorter than the tag, and other code keeps its length behind the tag
  by_cases hblank : Text.strip run = []
  · rw [hblank, List.length_nil, List.length_pos_iff, Text.trimEnd, Ne, List.reverse_eq_nil_iff,
      List.reverse_append, List.dropWhile_append]
    split
    · decide
    next hne => exact fun h => hne (by rw [(List.append_eq_nil_iff.1 h).1]; rfl)
  · have hrun : run.takeWhile Text.isBlank ++ Text.stripStart run = run :=
      List.takeWhile_append_dropWhile
    rw [show codeOpen ++ run = codeOpen ++ run.takeWhile Text.isBlank ++ Text.stripStart run by
      rw [List.append_assoc, hrun], trimEnd_append hblank, List.length_append,
      List.length_append]
    show _ < _ + (Text.strip run).length
    have hopen : 0 < codeOpen.length := by decide
    omega

/-- An opening tag in front of a run changes the pieces that it is cut to, whatever follows them. -/
theorem map_text_cut_ne (run : Text) (closed : Bool) (rest rest' : Text) (more : List Text) :
    (cut (codeOpen ++ run) closed rest).map text ++ more ≠
      (cut run closed rest').map text ++ more := by
  intro heq
  have heq := List.append_cancel_right heq
  have hlt := length_strip_open run
  -- both texts hold the tag's code or nothing, so that equal codes would have equal lengths
  unfold cut at heq
  rw [if_neg (by rw [← List.length_eq_zero_iff]; omega)] at heq
  split at heq
  · cases heq
  · have hcode := List.append_cancel_right (List.head_eq_of_cons_eq heq)
    have hcode : Text.strip (codeOpen ++ run) = Text.strip run := hcode
    rw [hcode] at hlt
    exact Nat.lt_irrefl _ hlt

/-- An opening tag inside code shows in the code lines. -/
theorem map_text_ofLines_ne {line tail : Text} (hline : Marker.bare line = codeOpen ++ tail)
    (lines : List Text) :
    (ofLines true (line :: lines)).map text ≠ (ofLines false (line :: lines)).map text := by
  have hopen : Text.breakOn? codeOpen (codeOpen ++ tail) = some ([], tail) :=
    Text.breakOn?_append_self codeOpen tail
  have hclose : Text.breakOn? codeClose (codeOpen ++ tail) =
      (Text.breakOn? codeClose tail).map fun p => (codeOpen ++ p.1, p.2) := by
    refine breakOn?_codeClose_append (by decide) ?_
    rintro ⟨hlast, -⟩
    exact absurd hlast (by decide)
  rw [ofLines, ofLines, hline, start_true, start_false, scan_markup_eq_scan hopen,
    runAfter_markup_eq_code hopen]
  cases hbreak : Text.breakOn? codeClose tail with
  | none =>
    rw [hbreak] at hclose
    rw [scan_code_eq_cut hbreak, scan_code_eq_cut hclose, runAfter_code_eq_some hbreak,
      runAfter_code_eq_some hclose, List.map_append, List.map_append]
    exact map_text_cut_ne tail false _ _ _
  | some p =>
    obtain ⟨code, rest⟩ := p
    rw [hbreak] at hclose
    rw [scan_code_eq_append hbreak, scan_code_eq_append hclose, runAfter_code_eq_markup hbreak,
      runAfter_code_eq_markup hclose, List.append_assoc, List.append_assoc (cut _ _ _)]
    simp only [List.map_append]
    exact map_text_cut_ne code true _ _ _

end Snippet

/-! ## The code lines around a fragment -/

namespace Splitter

/-- The texts of the code lines that lines add depend on the mode alone. -/
theorem map_code_feedAll {st st' : Splitter} {index : Nat} {lines : List Text} (hst : st.Marked)
    (h : st.feedAll index lines = .ok st') :
    st'.lines.map (·.code) =
      st.lines.map (·.code) ++ (Snippet.ofLines st.insideCode lines).map Snippet.text := by
  induction lines generalizing st index with
  | nil =>
    obtain rfl := Except.ok.inj h
    exact (List.append_nil _).symm
  | cons line lines ih =>
    obtain ⟨mid, hfeed, hrest⟩ := feedAll_cons_eq_ok_iff.1 h
    obtain ⟨hin, -, hmid, hadd⟩ := feed_spec hst hfeed (Text.below lines)
    have hcode := congrArg (List.map Prod.snd) hadd
    rw [List.map_append, List.map_map, List.map_map, List.map_map] at hcode
    have hcode : mid.lines.map (·.code) = st.lines.map (·.code) ++
      (Snippet.scan (Snippet.start st.insideCode) (Marker.bare line) (Text.below lines)).map
        Snippet.text := hcode
    rw [ih hmid hrest, hcode, hin, Snippet.ofLines, List.map_append, List.append_assoc]

end Splitter

namespace Expander

/-- The line behind a fragment opens code under the parent's marker. -/
theorem exists_lines_reopened (parent : Marker) (leave y : Text) :
    ∃ line lines tail, Text.lines (parent.encode ++ "<?php ".toList ++ leave ++ y) =
        line :: lines ∧
      Marker.decode? line = some (parent, codeOpen ++ tail) ∧
      Marker.bare line = codeOpen ++ tail := by
  have hopen : '\n' ∉ "<?php ".toList := by decide
  have hfirst : Text.firstLine ("<?php ".toList ++ (leave ++ y)) =
      codeOpen ++ ' ' :: Text.firstLine (leave ++ y) := by
    rw [Text.firstLine_append, if_neg hopen, show "<?php ".toList = codeOpen ++ [' '] by decide,
      List.append_assoc]
    rfl
  have hdecode := parent.decode?_encode_append (codeOpen ++ ' ' :: Text.firstLine (leave ++ y))
  refine ⟨_, (Text.lines ("<?php ".toList ++ (leave ++ y))).tail, _, ?_, hdecode, ?_⟩
  · rw [List.append_assoc, List.append_assoc,
      Text.lines_append_of_not_mem parent.not_mem_newline_encode, hfirst]
  · rw [Marker.bare, hdecode]

/-- **A fragment leaves the lines in front of it and its own as they are**, and it leaves the
parent's lines behind it as they are just when it ends in markup. -/
theorem split_enclosed {x enter fragment leave y : Text} {parent : Marker}
    {front inner rest : List CodeLine}
    (hfront : CodeLine.split (x ++ enter ++ " ?>".toList) = .ok front)
    (hinner : CodeLine.split fragment = .ok inner)
    (hrest : CodeLine.split (parent.encode ++ "<?php ".toList ++ leave ++ y) = .ok rest) :
    (CodeLine.split (x ++ enclosed enter fragment parent leave ++ y) =
        .ok (front ++ inner ++ rest) ↔ Snippet.inside fragment = false) ∧
      ∃ rest', CodeLine.split (x ++ enclosed enter fragment parent leave ++ y) =
        .ok (front ++ inner ++ rest') := by
  obtain ⟨st₁, h₁, rfl⟩ := CodeLine.split_eq_ok_iff.1 hfront
  obtain ⟨st₂, h₂, rfl⟩ := CodeLine.split_eq_ok_iff.1 hinner
  obtain ⟨st₃, h₃, rfl⟩ := CodeLine.split_eq_ok_iff.1 hrest
  obtain ⟨hin₁, -, -⟩ := Splitter.feedAll_state Splitter.marked_init h₁
  obtain ⟨hin₂, -, hmarked₂⟩ := Splitter.feedAll_state Splitter.marked_init h₂
  have hin₂ : st₂.insideCode = Snippet.inside fragment := hin₂
  have hmarkup : st₁.insideCode = false := by
    rw [show st₁.insideCode = Snippet.inside _ from hin₁,
      show " ?>".toList = [' '] ++ codeClose by decide, ← List.append_assoc]
    exact Snippet.inside_append_close _
  -- the fragment runs on top of the front as it runs alone
  have h₁₂ : ∀ index, st₁.feedAll index (Text.lines fragment) = .ok (st₁.onto st₂) := by
    intro index
    have honto := Splitter.feedAll_onto st₁ Splitter.marked_init h₂ index
    rwa [Splitter.onto_init hmarkup] at honto
  have hmarked : (st₁.onto st₂).fresh.Marked := Splitter.marked_onto st₁ hmarked₂
  obtain ⟨line, lines, tail, hlines, hdecode, hbare⟩ := exists_lines_reopened parent leave y
  -- and the rest runs on top of both as it runs from the mode that they leave
  obtain ⟨st, hst⟩ : ∃ st, (st₁.onto st₂).fresh.feedAll 0 (line :: lines) = .ok st := by
    have hlead : (st₁.onto st₂).fresh.lead line = some parent := by
      rw [Splitter.lead, hdecode]
      rfl
    obtain ⟨mid, hfeed, hcur⟩ : ∃ mid, (st₁.onto st₂).fresh.feed 0 line = .ok mid ∧
        mid.current = some parent := ⟨_, Splitter.feed_eq _ 0 line [] hlead, rfl⟩
    obtain ⟨st, hst⟩ := Splitter.exists_feedAll (by rw [hcur]; rfl) 1 lines
    exact ⟨st, Splitter.feedAll_cons_eq_ok_iff.2 ⟨mid, hfeed, hst⟩⟩
  have hall : ∀ index, (st₁.onto st₂).feedAll index (line :: lines) =
      .ok ((st₁.onto st₂).onto st) := by
    intro index
    have honto := Splitter.feedAll_onto (st₁.onto st₂) hmarked hst index
    rwa [Splitter.onto_fresh] at honto
  have hsplit : CodeLine.split (x ++ enclosed enter fragment parent leave ++ y) =
      .ok (st₁.lines ++ st₂.lines ++ st.lines) := by
    refine CodeLine.split_eq_ok_iff.2 ⟨(st₁.onto st₂).onto st, ?_, rfl⟩
    rw [lines_enclosed, hlines, Splitter.feedAll_append, h₁]
    show st₁.feedAll _ _ = _
    rw [Splitter.feedAll_append, h₁₂]
    exact hall _
  refine ⟨?_, st.lines, hsplit⟩
  rw [hsplit, ← hin₂]
  constructor
  · intro heq
    have hsame : st.lines = st₃.lines := List.append_cancel_left (Except.ok.inj heq)
    rw [hlines] at h₃
    have hcode := Splitter.map_code_feedAll hmarked hst
    have hcode₃ := Splitter.map_code_feedAll Splitter.marked_init h₃
    rw [hsame, hcode₃] at hcode
    cases hin : st₂.insideCode with
    | false => rfl
    | true =>
      have hmode : (st₁.onto st₂).fresh.insideCode = true := hin
      rw [hmode] at hcode
      exact absurd hcode.symm (Snippet.map_text_ofLines_ne hbare lines)
  · intro hin
    have honto := Splitter.feedAll_onto (st₁.onto st₂) Splitter.marked_init h₃ 0
    rw [Splitter.onto_init (show (st₁.onto st₂).insideCode = false from hin), hlines, hall]
      at honto
    have hlast := congrArg Splitter.lines (Except.ok.inj honto)
    exact congrArg Except.ok hlast

/-- A fragment of one statement that is closed again. -/
theorem split_enclosed_closed_fragment :
    let parent : Marker := ⟨"a".toList, "/a".toList, 1, []⟩
    let inner : Marker := ⟨"b".toList, "/b".toList, 1, [parent.frame]⟩
    let fragment := inner.encode ++ "<?php foo(); ?>".toList
    CodeLine.split (parent.encode ++ "<?php ".toList ++ enclosed [] fragment parent [] ++
        " bar();".toList) =
      .ok ([] ++ [⟨inner, "foo();;".toList⟩] ++ [⟨parent, "bar();".toList⟩]) := by
  intro parent inner fragment
  have hfront : CodeLine.split (parent.encode ++ "<?php ".toList ++ [] ++ " ?>".toList) =
      .ok [] := by decide +kernel
  have hinner : CodeLine.split fragment = .ok [⟨inner, "foo();;".toList⟩] := by decide +kernel
  have hrest : CodeLine.split (parent.encode ++ "<?php ".toList ++ [] ++ " bar();".toList) =
      .ok [⟨parent, "bar();".toList⟩] := by decide +kernel
  exact (split_enclosed hfront hinner hrest).1.2 (by decide +kernel)

/-- A fragment without a closing tag: the parent's next line shows its opening tag. -/
theorem split_enclosed_open_fragment :
    let parent : Marker := ⟨"a".toList, "/a".toList, 1, []⟩
    let inner : Marker := ⟨"b".toList, "/b".toList, 1, [parent.frame]⟩
    let fragment := inner.encode ++ "<?php foo();".toList
    CodeLine.split (parent.encode ++ "<?php ".toList ++ [] ++ " ?>".toList) = .ok [] ∧
      CodeLine.split fragment = .ok [⟨inner, "foo();".toList⟩] ∧
      CodeLine.split (parent.encode ++ "<?php ".toList ++ [] ++ " bar();".toList) =
        .ok [⟨parent, "bar();".toList⟩] ∧
      CodeLine.split (parent.encode ++ "<?php ".toList ++ enclosed [] fragment parent [] ++
          " bar();".toList) =
        .ok [⟨inner, "foo();".toList⟩, ⟨parent, "<?php  bar();".toList⟩] := by
  decide +kernel

end Expander

end TemplateTrace
