import TemplateTrace.Proofs.Include.Evaluation
import TemplateTrace.Proofs.Include.Opening

/-!
# Include paths

The stack in a marker is read back from the text: a fragment is tagged with the stack of the marker
that governs its call, and one frame more. So the stacks that expansion writes are the paths through
which templates are included, as long as the text holds no other markers. A compiler has to lead
every line that opens as a marker does by a tag, and deleting a call must not make a line open so.
Where a call stands on its line does not matter.

- `Expander.Tags`, `Expander.Reached`: the markers of a template's lines, and those that expansion
  can come to, by depth.
- `Expander.Reached.stack_eq`: a marker at depth `k` has `k` frames more than the entry.
- `Expander.Known`, `Expander.Stage.Traced`, `Expander.led_of_ends`: what expansion keeps.
- `Expander.exists_reached_of_render`: the markers of an expanded template are reached ones.
- `Expander.Copies`, `Expander.deletedComment`, `Expander.joinedComment`: compilers that only copy
  tags, and come to a marker that nobody wrote.
-/

namespace TemplateTrace

open IncludeSite

namespace Expander

/-! ## Include paths -/

/-- The markers of the lines of a template that is rendered with a stack. -/
def Tags (x : Expander) (name path : Text) (stack : List Frame) (m : Marker) : Prop :=
  ∃ source i, x.source path = .ok source ∧ i < (Text.lines source).length ∧
    m = { template := name, path, line := UInt32.ofNat (i + 1), stack }

/-- The markers that expansion can come to from an entry, with the depth of nesting: the tags of
the entry, and the tags of every template that is included at the position of such a marker. -/
inductive Reached (x : Expander) (name path : Text) (stack : List Frame) : Nat → Marker → Prop where
  | entry {m : Marker} (h : x.Tags name path stack m) : Reached x name path stack 0 m
  | call {k : Nat} {q m : Marker} {n p : Text} (hq : Reached x name path stack k q)
      (hp : x.locate n = some p) (h : x.Tags n p (q.stack ++ [q.frame]) m) :
      Reached x name path stack (k + 1) m

variable {x : Expander} {name path : Text} {stack : List Frame}

/-- A marker at depth `k` has `k` frames more than the entry, behind those of the entry. -/
theorem Reached.stack_eq {k : Nat} {m : Marker} (h : x.Reached name path stack k m) :
    ∃ frames, frames.length = k ∧ m.stack = stack ++ frames := by
  induction h with
  | entry h =>
    obtain ⟨source, i, -, -, rfl⟩ := h
    exact ⟨[], rfl, (List.append_nil stack).symm⟩
  | @call k q m n p _ _ h ih =>
    obtain ⟨source, i, -, -, rfl⟩ := h
    obtain ⟨frames, hlength, hstack⟩ := ih
    refine ⟨frames ++ [q.frame], ?_, ?_⟩
    · rw [List.length_append, hlength]
      rfl
    · show q.stack ++ [q.frame] = _
      rw [hstack, List.append_assoc]

/-- A template of one line is tagged once. -/
theorem tagLines_of_not_mem {source : Text} (h : '\n' ∉ source) (name path : Text)
    (stack : List Frame) :
    tagLines source name path stack = Marker.encode ⟨name, path, 1, stack⟩ ++ source := by
  rw [tagLines, Text.lines, Text.splitOn_of_not_mem h]
  rfl

/-- Every line of a tagged template is led by a tag. -/
theorem exists_tag_of_mem_lines {source : Text} (hsource : x.source path = .ok source)
    {line : Text} (hline : line ∈ Text.lines (tagLines source name path stack)) :
    ∃ m r, x.Tags name path stack m ∧ line = m.encode ++ r := by
  rw [lines_tagLines] at hline
  obtain ⟨i, hi, rfl⟩ := List.mem_mapIdx.1 hline
  exact ⟨_, _, ⟨source, i, hsource, hi, rfl⟩, rfl⟩

/-! ## What expansion keeps -/

/-- What is known of the markers in a text that is being expanded: no call starts in the comment of
one, and each of them is reached. -/
def Known (x : Expander) (name path : Text) (stack : List Frame) (m : Marker) : Prop :=
  Barred m.encode ∧ ∃ k, x.Reached name path stack k m

/-- Whether the tags of a template that is to be rendered are reached, and the markers of a text
that is being expanded are known. -/
def Stage.Traced (x : Expander) (name path : Text) (stack : List Frame) : Stage → Prop
  | rendering _ n p s => ∀ m, x.Tags n p s m → ∃ k, x.Reached name path stack k m
  | expanding _ done rest => Marker.Led (x.Known name path stack) (done ++ rest)

/-- Whether no deletion that is met makes a line open as a marker does that did not open so
before. -/
def Unopened (x : Expander) (start : Stage) : Prop :=
  ∀ chain done rest site, x.Visits start (.expanding chain done rest) →
    find (Text.lastOr none done) rest = .ok (some site) →
    x.fate chain (done ++ site.before) site = .deleted →
    Marker.opening <+: Text.lastLine (done ++ site.before) ++ Text.firstLine site.rest →
    Marker.opening <+: Text.lastLine (done ++ site.before) ++
      Text.firstLine (site.text ++ site.rest)

/-- Expansion keeps the markers of a text known, by induction on how a stage ends: a template is
rendered at a marker that governs a call, and that marker is read off a text whose markers are
known. -/
theorem led_of_ends {start stage : Stage} {r : Except AnalysisError Text}
    (hbarred : ∀ chain n p s, x.Visits start (.rendering chain n p s) →
      ∀ m, x.Tags n p s m → Barred m.encode)
    (htags : ∀ chain n p s source compiled, x.Visits start (.rendering chain n p s) →
      x.source p = .ok source → x.compile (tagLines source n p s) = .ok compiled →
      Marker.Led (x.Tags n p s) compiled)
    (hunopened : x.Unopened start) (h : x.Ends stage r) (hvisit : x.Visits start stage)
    (htraced : stage.Traced x name path stack) :
    ∀ text, r = .ok text → Marker.Led (x.Known name path stack) text := by
  induction h with
  | unread => rintro text ⟨⟩
  | uncompiled => rintro text ⟨⟩
  | @compiled chain n p source compiled s r hsource hcompile _ ih =>
    have hled := htags chain n p s source compiled hvisit hsource hcompile
    have hreached : ∀ m, x.Tags n p s m → ∃ k, x.Reached name path stack k m := htraced
    exact ih (hvisit.next (.compiled hsource hcompile))
      (hled.mono fun m hm => ⟨hbarred _ _ _ _ hvisit m hm, hreached m hm⟩)
  | malformed => rintro text ⟨⟩
  | complete =>
    rintro text ⟨⟩
    exact htraced
  | refused => rintro text ⟨⟩
  | unmarked => rintro text ⟨⟩
  | @deleted chain done rest site r hfind hfate _ ih =>
    have hled : Marker.Led (x.Known name path stack) (done ++ rest) := htraced
    rw [append_eq_of_find hfind] at hled
    exact ih (hvisit.next (.deleted hfind hfate))
      (hled.deleted (fun m hm => hm.1) (startsAt_site hfind)
        (hunopened chain done rest site hvisit hfind hfate))
  | failed => rintro text ⟨⟩
  | @spliced chain done rest n p fragment site parent r hfind hfate hfragment _ ihfragment ih =>
    have hled : Marker.Led (x.Known name path stack) (done ++ rest) := htraced
    rw [append_eq_of_find hfind] at hled
    obtain ⟨-, -, hparent, hp⟩ := included_spec hfate
    obtain ⟨-, -, honeLine, -⟩ := find_spec hfind
    -- the parent is read off the text, so that the tags of its fragment are reached
    have hknown := hled.of_lastMarker? hparent
    obtain ⟨k, hq⟩ := hknown.2
    have hinner := ihfragment (hvisit.next (.included hfind hfate))
      (fun m hm => ⟨k + 1, .call hq hp hm⟩) fragment rfl
    exact ih (hvisit.next (.spliced hfind hfate hfragment))
      (hled.spliced (fun m hm => hm.1) (startsAt_site hfind) hinner hknown chain.length honeLine)

/-- **Stacks are include paths.** Let the compiler lead every line that opens as a marker does by a
tag of its input, let no call start in the comment of a tag of a template that is rendered, and let
no deletion make a line open as a marker does. Then every marker that leads a line of an expanded
template is reached from the entry, and at depth `k` its stack is that of the entry and `k` frames
more. -/
theorem exists_reached_of_render {steps : Nat} {text : Text}
    (hbarred : ∀ chain n p s, x.Visits (.rendering [] name path stack) (.rendering chain n p s) →
      ∀ m, x.Tags n p s m → Barred m.encode)
    (htags : ∀ chain n p s source compiled,
      x.Visits (.rendering [] name path stack) (.rendering chain n p s) →
      x.source p = .ok source → x.compile (tagLines source n p s) = .ok compiled →
      Marker.Led (x.Tags n p s) compiled)
    (hunopened : x.Unopened (.rendering [] name path stack))
    (h : x.render steps name path stack = ended (.ok text)) :
    ∀ line ∈ Text.lines text, ∀ m r, Marker.decode? line = some (m, r) →
      ∃ k, x.Reached name path stack k m ∧
        ∃ frames, frames.length = k ∧ m.stack = stack ++ frames := by
  intro line hline m r hm
  have hends : x.Ends (.rendering [] name path stack) (.ok text) := ends_of_run h
  have hled := led_of_ends hbarred htags hunopened hends .start (fun m hm => ⟨0, .entry hm⟩)
    text rfl
  obtain ⟨⟨-, k, hk⟩, -⟩ := (hled line hline).leads m r hm
  exact ⟨k, hk, hk.stack_eq⟩

/-- Two templates, one included in the other by a compiler that writes each call on a line of its
own, behind blanks and without a tag. In front of the call there is one that is deleted. -/
theorem exists_reached_of_render_nested :
    let a := "a".toList
    let outer : Marker := ⟨a, a, 1, []⟩
    let inner : Marker := ⟨"b".toList, "b".toList, 1, [outer.frame]⟩
    let code := "<?php echo $__env->make($x)->render(); echo $__env->make('b')->render(); ?>".toList
    let laidOut := "<?php\n    echo $__env->make($x)->render();\n    ".toList ++
      "echo $__env->make('b')->render();\n?>".toList
    let x : Expander :=
      { source := fun p => .ok (if p = a then code else "hello".toList)
        compile := fun s => .ok (if s = outer.encode ++ code then outer.encode ++ laidOut else s)
        locate := some, maxDepth := 1 }
    let text := outer.encode ++ "<?php\n    \n     ?>\n".toList ++ inner.encode ++
      "hello\n".toList ++ outer.encode ++ "<?php \n?>".toList
    x.render 7 a a [] = ended (.ok text) ∧
      ∀ line ∈ Text.lines text, ∀ m r, Marker.decode? line = some (m, r) →
        ∃ k, x.Reached a a [] k m ∧ ∃ frames, frames.length = k ∧ m.stack = [] ++ frames := by
  intro a outer inner code laidOut x text
  let fragment := inner.encode ++ "hello".toList
  let dropped : IncludeSite := ⟨outer.encode ++ "<?php\n    ".toList,
    "echo $__env->make($x)->render();".toList, ⟨.dynamic "$x".toList, none, none⟩,
    "\n    echo $__env->make('b')->render();\n?>".toList⟩
  let site : IncludeSite := ⟨"\n    ".toList, "echo $__env->make('b')->render();".toList,
    ⟨.literal "b".toList, none, none⟩, "\n?>".toList⟩
  have hrun : x.render 7 a a [] = ended (.ok text) := by
    show (_ : Option (Except AnalysisError Text)) = _
    decide +kernel
  have hcompile : x.compile (tagLines code a a []) = .ok (outer.encode ++ laidOut) := by
    decide +kernel
  have hcompile' : x.compile (tagLines "hello".toList "b".toList "b".toList [outer.frame]) =
      .ok fragment := by
    decide +kernel
  have hdropped : find none (outer.encode ++ laidOut) = .ok (some dropped) := by decide +kernel
  have hone : OneCall x [a] dropped.before dropped.rest site "b".toList "b".toList outer fragment :=
    ⟨by decide +kernel, by decide +kernel, ⟨"hello".toList, rfl, hcompile'⟩, by decide +kernel,
      by decide +kernel⟩
  -- the call in front is deleted, and behind it there is one call
  have hvisits : ∀ s, x.Visits (.rendering [] a a []) s → s = .rendering [] a a [] ∨
      s = .expanding [a] [] (outer.encode ++ laidOut) ∨
      x.Visits (.expanding [a] dropped.before dropped.rest) s := fun s hs =>
    (hs.of_compiled rfl hcompile).imp_right fun hs => hs.of_deleted hdropped rfl
  have hrendered : ∀ chain n p s, x.Visits (.rendering [] a a []) (.rendering chain n p s) →
      n = a ∧ p = a ∧ s = [] ∨ n = "b".toList ∧ p = "b".toList ∧ s = [outer.frame] := by
    intro chain n p s hvisit
    rcases hvisits _ hvisit with heq | heq | hvisit
    · obtain ⟨-, rfl, rfl, rfl⟩ := Stage.rendering.inj heq
      exact .inl ⟨rfl, rfl, rfl⟩
    · cases heq
    · exact .inr (hone.rendered hvisit)
  have hname : CallFree a ∧ CallFree "b".toList := ⟨by decide, by decide⟩
  refine ⟨hrun, exists_reached_of_render ?_ ?_ ?_ hrun⟩
  · rintro chain n p s hvisit m ⟨source, i, -, -, rfl⟩
    rcases hrendered chain n p s hvisit with ⟨rfl, rfl, rfl⟩ | ⟨rfl, rfl, rfl⟩
    · exact Marker.barred_encode ⟨hname.1, hname.1, fun f hf => by cases hf⟩
    · have houter : outer.Plain := ⟨hname.1, hname.1, fun f hf => by cases hf⟩
      exact Marker.barred_encode ⟨hname.2, hname.2, houter.frames⟩
  · intro chain n p s source compiled hvisit hsource hcompiled
    rcases hrendered chain n p s hvisit with ⟨rfl, rfl, rfl⟩ | ⟨rfl, rfl, rfl⟩
    · -- the first line has the tag, and the lines of the calls open in blanks
      obtain rfl : code = source := Except.ok.inj hsource
      obtain rfl := Except.ok.inj (hcompile.symm.trans hcompiled)
      have hlines : Text.lines (outer.encode ++ laidOut) = [outer.encode ++ "<?php".toList,
          "    echo $__env->make($x)->render();".toList,
          "    echo $__env->make('b')->render();".toList, "?>".toList] := by
        decide +kernel
      intro line hline
      rw [hlines] at hline
      simp only [List.mem_cons, List.not_mem_nil, or_false] at hline
      rcases hline with rfl | rfl | rfl | rfl
      · exact Marker.ledBy_encode_append ⟨code, 0, rfl, by decide +kernel, rfl⟩ _
      · exact fun hopen => absurd hopen (by decide)
      · exact fun hopen => absurd hopen (by decide)
      · exact fun hopen => absurd hopen (by decide)
    · have hhello : "hello".toList = source := Except.ok.inj hsource
      rw [← hhello] at hsource hcompiled
      obtain rfl := Except.ok.inj (hcompile'.symm.trans hcompiled)
      exact fun line hline _ => exists_tag_of_mem_lines hsource hline
  · intro chain done rest site' hvisit hfind hdeleted hopen
    rcases hvisits _ hvisit with heq | heq | hvisit
    · cases heq
    · obtain ⟨rfl, rfl, rfl⟩ := Stage.expanding.inj heq
      obtain rfl := Option.some.inj (Except.ok.inj (hdropped.symm.trans hfind))
      exact absurd hopen (by decide +kernel)
    · obtain ⟨rfl, rfl, rfl⟩ := hone.met hvisit hfind
      cases hone.included.symm.trans hdeleted

/-! ## Markers that nobody wrote -/

/-- Whether the marker comments of a text are known markers in front of its lines: without them none
is left. -/
def Copied (P : Marker → Prop) (text : Text) : Prop :=
  ∃ rows : List (Option Marker × Text),
    Text.lines text = rows.map (fun row => row.1.elim [] Marker.encode ++ row.2) ∧
    (∀ row ∈ rows, ∀ m ∈ row.1, P m) ∧
    let bare := Text.joinWith ['\n'] (rows.map (·.2))
    stripMarkers bare = bare

/-- Whether the templates that are rendered hold no marker comments, and no calls in their names and
paths, and the compiler writes no marker comments but their tags, in front of lines. -/
def Copies (x : Expander) (start : Stage) : Prop :=
  ∀ chain n p s source compiled, x.Visits start (.rendering chain n p s) →
    x.source p = .ok source → x.compile (tagLines source n p s) = .ok compiled →
    CallFree n ∧ CallFree p ∧ stripMarkers source = source ∧ Copied (x.Tags n p s) compiled

/-- Whether a line of the expanded template is led by a marker that is not reached. -/
def Strays (x : Expander) (name path : Text) : Prop :=
  ∃ steps text line m r, x.render steps name path [] = ended (.ok text) ∧
    line ∈ Text.lines text ∧ Marker.decode? line = some (m, r) ∧
    ∀ k, ¬ x.Reached name path [] k m

/-- A compiler that writes a comment on a line of its own, without a tag. It does not open as a
marker does before the call in it is deleted. -/
def deletedComment : Expander :=
  let a := "a".toList
  let tag : Marker := ⟨a, a, 1, []⟩
  let comment := "/** echo $__env->make($x)->render();template_name=\"t\", ".toList ++
    "template_path=\"p\", line=9, stack=[] */ foo(); ?>".toList
  { source := fun _ => .ok ("<?php @nl".toList ++ comment)
    compile := fun s => .ok (if s = tag.encode ++ "<?php @nl".toList ++ comment then
      tag.encode ++ "<?php \n".toList ++ comment else s)
    locate := fun _ => none, maxDepth := 2 }

/-- A compiler that does the same with a comment that opens as a marker does and has a line feed in
it. The call in the comment passes the rest of it as data, which are put on one line. -/
def joinedComment : Expander :=
  let a := "a".toList
  let first : Marker := ⟨a, a, 1, []⟩
  let second : Marker := ⟨a, a, 2, []⟩
  let above := "/** template_name=\"echo $__env->make('b', ['k' => \", ".toList ++
    "template_path=\"p\", line=3,".toList
  let below := "stack=[] */ \"])->render(); ?>".toList
  { source := fun p => .ok (if p = a then "<?php @nl".toList ++ above ++ '\n' :: below
      else "hello".toList)
    compile := fun s => .ok (if s = first.encode ++ "<?php @nl".toList ++ above ++
        '\n' :: second.encode ++ below then
      first.encode ++ "<?php \n".toList ++ above ++ '\n' :: second.encode ++ below else s)
    locate := some, maxDepth := 1 }

/-- Without its call the comment is a marker, of a template that does not exist. -/
theorem strays_deletedComment :
    let entry : Stage := .rendering [] "a".toList "a".toList []
    deletedComment.Copies entry ∧
      (∀ chain n p s source compiled, deletedComment.Visits entry (.rendering chain n p s) →
        deletedComment.source p = .ok source →
        deletedComment.compile (tagLines source n p s) = .ok compiled →
        Marker.Led (deletedComment.Tags n p s) compiled) ∧
      deletedComment.Strays "a".toList "a".toList := by
  intro entry
  let tag : Marker := ⟨"a".toList, "a".toList, 1, []⟩
  let comment := "/** echo $__env->make($x)->render();template_name=\"t\", ".toList ++
    "template_path=\"p\", line=9, stack=[] */ foo(); ?>".toList
  let source := "<?php @nl".toList ++ comment
  let compiled := tag.encode ++ "<?php \n".toList ++ comment
  let site : IncludeSite := ⟨tag.encode ++ "<?php \n/** ".toList,
    "echo $__env->make($x)->render();".toList, ⟨.dynamic "$x".toList, none, none⟩,
    comment.drop 36⟩
  have hcompile : deletedComment.compile (tagLines source "a".toList "a".toList []) =
      .ok compiled := by
    decide +kernel
  have hfind : find none compiled = .ok (some site) := by decide +kernel
  have hnone : find (Text.lastOr none site.before) site.rest = .ok none := by decide +kernel
  -- the call names no template, so that nothing else is rendered
  have hrendered : ∀ {chain n p s source' compiled'},
      deletedComment.Visits entry (.rendering chain n p s) →
      deletedComment.source p = .ok source' →
      deletedComment.compile (tagLines source' n p s) = .ok compiled' →
      n = "a".toList ∧ p = "a".toList ∧ s = [] ∧ source' = source ∧ compiled' = compiled := by
    intro chain n p s source' compiled' hvisit hsource hcompiled
    obtain rfl : source = source' := Except.ok.inj hsource
    rcases hvisit.of_compiled rfl hcompile with heq | hvisit
    · obtain ⟨-, rfl, rfl, rfl⟩ := Stage.rendering.inj heq
      exact ⟨rfl, rfl, rfl, rfl, Except.ok.inj (hcompiled.symm.trans hcompile)⟩
    rcases hvisit.of_deleted hfind rfl with heq | hvisit
    · cases heq
    · cases hvisit.of_complete hnone
  have hlines : Text.lines compiled = [tag.encode ++ "<?php ".toList, comment] := by
    decide +kernel
  have htag : deletedComment.Tags "a".toList "a".toList [] tag :=
    ⟨source, 0, rfl, by decide +kernel, rfl⟩
  refine ⟨?_, ?_, ?_⟩
  · -- the compiler copies: one row for each of the two lines, and only the first one is tagged
    intro chain n p s source' compiled' hvisit hsource hcompiled
    obtain ⟨rfl, rfl, rfl, rfl, rfl⟩ := hrendered hvisit hsource hcompiled
    refine ⟨by decide, by decide, by decide +kernel,
      [(some tag, "<?php ".toList), (none, comment)], by rw [hlines]; rfl, ?_, by decide +kernel⟩
    intro row hrow m hm
    rcases List.mem_pair.1 hrow with rfl | rfl
    · obtain rfl := Option.some.inj hm
      exact htag
    · cases hm
  · -- only the line that is tagged opens as a marker does, as long as the call stands in the
    -- comment
    intro chain n p s source' compiled' hvisit hsource hcompiled
    obtain ⟨rfl, rfl, rfl, rfl, rfl⟩ := hrendered hvisit hsource hcompiled
    intro line hline
    rw [hlines] at hline
    rcases List.mem_pair.1 hline with rfl | rfl
    · exact Marker.ledBy_encode_append htag _
    · exact fun hopen => absurd hopen (by decide +kernel)
  · -- behind the deletion the comment closes up to a marker, of a template that was never rendered
    let stray : Marker := ⟨"t".toList, "p".toList, 9, []⟩
    let text := tag.encode ++ "<?php \n".toList ++ (stray.encode ++ " foo(); ?>".toList)
    have hrun : deletedComment.render 4 "a".toList "a".toList [] = ended (.ok text) := by
      show (_ : Option (Except AnalysisError Text)) = _
      decide +kernel
    refine ⟨4, text, _, stray, _, hrun, ?_, Marker.decode?_encode_append stray " foo(); ?>".toList,
      ?_⟩
    · decide +kernel
    · intro k hk
      cases hk with
      | entry h =>
        obtain ⟨source, i, -, -, heq⟩ := h
        have hname : "t".toList = "a".toList := congrArg Marker.template heq
        exact absurd hname (by decide)
      | call _ hp _ => cases hp

/-- On one line the data complete the comment to a marker, although no call is deleted. -/
theorem strays_joinedComment :
    let entry : Stage := .rendering [] "a".toList "a".toList []
    joinedComment.Copies entry ∧
      (∀ chain done rest site, joinedComment.Visits entry (.expanding chain done rest) →
        find (Text.lastOr none done) rest = .ok (some site) →
        ∃ n p, site.call.target = .literal n ∧ joinedComment.locate n = some p) ∧
      joinedComment.Strays "a".toList "a".toList := by
  intro entry
  let first : Marker := ⟨"a".toList, "a".toList, 1, []⟩
  let second : Marker := ⟨"a".toList, "a".toList, 2, []⟩
  let inner : Marker := ⟨"b".toList, "b".toList, 1, [first.frame]⟩
  let above := "/** template_name=\"echo $__env->make('b', ['k' => \", ".toList ++
    "template_path=\"p\", line=3,".toList
  let below := "stack=[] */ \"])->render(); ?>".toList
  let source := "<?php @nl".toList ++ above ++ '\n' :: below
  let compiled := first.encode ++ "<?php \n".toList ++ above ++ '\n' :: second.encode ++ below
  let fragment := inner.encode ++ "hello".toList
  let value := "\", template_path=\"p\", line=3, stack=[] */ \"".toList
  let site : IncludeSite :=
    { before := first.encode ++ "<?php \n/** template_name=\"".toList
      text := above.drop 19 ++ '\n' :: second.encode ++ below.take (below.length - 3)
      call := ⟨.literal "b".toList, some (.pairs [("k".toList, value)]), none⟩
      rest := " ?>".toList }
  have hcompile : joinedComment.compile (tagLines source "a".toList "a".toList []) =
      .ok compiled := by
    decide +kernel
  have hcompile' : joinedComment.compile (tagLines "hello".toList "b".toList "b".toList
      [first.frame]) = .ok fragment := by
    decide +kernel
  have hone : OneCall joinedComment ["a".toList] [] compiled site "b".toList "b".toList first
      fragment :=
    ⟨by decide +kernel, by decide +kernel, ⟨"hello".toList, rfl, hcompile'⟩, by decide +kernel,
      by decide +kernel⟩
  refine ⟨?_, ?_, ?_⟩
  · intro chain n p s source' compiled' hvisit hsource hcompiled
    rcases hvisit.of_compiled rfl hcompile with heq | hvisit
    · obtain ⟨-, rfl, rfl, rfl⟩ := Stage.rendering.inj heq
      obtain rfl : source = source' := Except.ok.inj hsource
      obtain rfl := Except.ok.inj (hcompile.symm.trans hcompiled)
      refine ⟨by decide, by decide, by decide +kernel, [(some first, "<?php ".toList),
        (none, above), (some second, below)], by decide +kernel, ?_, by decide +kernel⟩
      intro row hrow m hm
      simp only [List.mem_cons, List.not_mem_nil, or_false] at hrow
      rcases hrow with rfl | rfl | rfl
      · obtain rfl := Option.some.inj hm
        exact ⟨source, 0, rfl, by decide +kernel, rfl⟩
      · cases hm
      · obtain rfl := Option.some.inj hm
        exact ⟨source, 1, rfl, by decide +kernel, rfl⟩
    · obtain ⟨rfl, rfl, rfl⟩ := hone.rendered hvisit
      obtain rfl : "hello".toList = source' := Except.ok.inj hsource
      obtain rfl : fragment = compiled' := Except.ok.inj (hcompile'.symm.trans hcompiled)
      refine ⟨by decide, by decide, by decide +kernel, [(some inner, "hello".toList)],
        by decide +kernel, ?_, by decide +kernel⟩
      intro row hrow m hm
      obtain rfl := List.mem_singleton.1 hrow
      obtain rfl := Option.some.inj hm
      exact ⟨"hello".toList, 0, rfl, by decide, rfl⟩
  · intro chain done rest site' hvisit hfind
    rcases hvisit.of_compiled rfl hcompile with heq | hvisit
    · cases heq
    · obtain ⟨-, -, rfl⟩ := hone.met hvisit hfind
      exact ⟨_, _, rfl, rfl⟩
  · let stray : Marker := ⟨"$__lens_arg_1_k = ".toList, "p".toList, 3, []⟩
    let text := site.before ++ (spliced (.of 1 site.call.dataPairs) fragment first ++ site.rest)
    have hrun : joinedComment.render 6 "a".toList "a".toList [] = ended (.ok text) := by
      show (_ : Option (Except AnalysisError Text)) = _
      decide +kernel
    have hsecond : ((Text.lines text)[1]?.bind Marker.decode?).map (·.1) = some stray := by
      decide +kernel
    obtain ⟨⟨m, r⟩, hm, hstray⟩ := Option.map_eq_some_iff.1 hsecond
    obtain rfl : m = stray := hstray
    obtain ⟨line, hline, hdecode⟩ := Option.bind_eq_some_iff.1 hm
    refine ⟨6, text, line, _, r, hrun, List.mem_of_getElem? hline, hdecode, ?_⟩
    intro k hk
    cases hk with
    | entry h =>
      obtain ⟨source, i, -, -, heq⟩ := h
      have hname : "$__lens_arg_1_k = ".toList = "a".toList := congrArg Marker.template heq
      exact absurd hname (by decide)
    | @call k q m n p _ hp h =>
      -- a template stands at the path that is its name
      obtain rfl := Option.some.inj hp
      obtain ⟨source, i, -, -, heq⟩ := h
      have hname : "$__lens_arg_1_k = ".toList = n := congrArg Marker.template heq
      have hpath : "p".toList = n := congrArg Marker.path heq
      exact absurd (hname.trans hpath.symm) (by decide)

/-- Two compilers that copy tags only: a marker that nobody wrote comes of a deleted call, though
every line that opens as a marker does is led by a tag, and of a comment over two lines, though
every call is of a template that can be found. -/
theorem exists_unreached_of_call_in_comment :
    let entry : Stage := .rendering [] "a".toList "a".toList []
    (deletedComment.Copies entry ∧
      (∀ chain n p s source compiled, deletedComment.Visits entry (.rendering chain n p s) →
        deletedComment.source p = .ok source →
        deletedComment.compile (tagLines source n p s) = .ok compiled →
        Marker.Led (deletedComment.Tags n p s) compiled) ∧
      deletedComment.Strays "a".toList "a".toList) ∧
    joinedComment.Copies entry ∧
      (∀ chain done rest site, joinedComment.Visits entry (.expanding chain done rest) →
        find (Text.lastOr none done) rest = .ok (some site) →
        ∃ n p, site.call.target = .literal n ∧ joinedComment.locate n = some p) ∧
      joinedComment.Strays "a".toList "a".toList :=
  ⟨strays_deletedComment, strays_joinedComment⟩

end Expander

end TemplateTrace
