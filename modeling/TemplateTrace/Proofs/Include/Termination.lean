import TemplateTrace.Proofs.Code.Snippet
import TemplateTrace.Proofs.Include.Completeness
import TemplateTrace.Proofs.Include.Data
import TemplateTrace.Proofs.Include.Provenance

/-!
# Texts whose expansion ends

The guard bounds how deep templates are nested, and not how often a text is searched. A call that is
deleted can join the text around it into a call; in a fragment that call is left to the outer
template, whose chain does not have the name of the fragment's template, so that the guard lets it
through again and again. Where no call comes of a deletion, and the data of an included call hold
fewer calls than the call itself, every step leaves fewer calls in the rest of the text, and
expansion ends.

What is not claimed: the condition is one that is enough. There are texts without it whose expansion
ends as well, such as one in which a deletion joins a call of a template without calls.

- `Expander.starts_rest_lt_of_deleted`, `Expander.starts_rest_lt_of_spliced`: a step leaves fewer
  calls.
- `Expander.Lessening`, `Expander.dataCalls_lt_starts`: calls that hold more calls than their data.
- `Expander.exists_ends_expanding`: a text whose fragments end.
- `Expander.exists_run_of_separated`: a template whose expansion ends.
- `Expander.no_end_of_joined_call`: two templates whose expansion does not.
-/

namespace TemplateTrace

open IncludeSite

namespace Expander

variable {x : Expander} {done rest : Text} {site : IncludeSite}

/-! ## A step leaves fewer calls -/

/-- The calls from a call on, and those that are behind it. -/
theorem starts_rest_eq (hfind : find (Text.lastOr none done) rest = .ok (some site)) :
    starts done rest [] = starts (done ++ site.before) site.text site.rest +
      starts (done ++ site.before ++ site.text) site.rest [] := by
  obtain ⟨hrest, -⟩ := find_spec hfind
  conv => lhs; rw [hrest]
  rw [starts_append, starts_append, List.append_nil, List.append_nil, starts_before hfind,
    Nat.zero_add]

/-- Behind a call a word can start, so that no more calls start there in another place. -/
theorem starts_behind_le (hfind : find (Text.lastOr none done) rest = .ok (some site)) (a : Text) :
    starts a site.rest [] ≤ starts (done ++ site.before ++ site.text) site.rest [] :=
  starts_le_of_wordStart (fun _ => wordStart_text hfind _) _ _

theorem starts_rest_lt_of_deleted (hfind : find (Text.lastOr none done) rest = .ok (some site)) :
    starts (done ++ site.before) site.rest [] < starts done rest [] := by
  have hbehind := starts_behind_le hfind (done ++ site.before)
  have hcall := one_le_starts_text hfind
  rw [starts_rest_eq hfind]
  omega

/-- What replaces an included call holds the calls of its data: its fragment holds none. -/
theorem starts_rest_lt_of_spliced (hfind : find (Text.lastOr none done) rest = .ok (some site))
    (hdata : Shadow.dataCalls site.call.dataPairs <
      starts (done ++ site.before) site.text site.rest)
    {fragment : Text} {parent : Marker} (hfragment : CallFree fragment)
    (hparent : Barred parent.encode) (depth : Nat) :
    starts (done ++ site.before)
        (spliced (.of depth site.call.dataPairs) fragment parent ++ site.rest) [] <
      starts done rest [] := by
  obtain ⟨n, hn, hcounts⟩ := counts_spliced depth site.call.dataPairs hfragment hparent
  have hbehind := starts_behind_le hfind
    (done ++ site.before ++ spliced (.of depth site.call.dataPairs) fragment parent)
  rw [starts_append, hcounts, starts_rest_eq hfind]
  omega

/-! ## Expansion ends -/

/-- Whether the data of an included call hold fewer calls than the call, and no call starts in the
comment of the marker that governs it, at every stage that expansion comes to. -/
def Lessening (x : Expander) (start : Stage) : Prop :=
  ∀ chain done rest site n p parent, x.Visits start (.expanding chain done rest) →
    find (Text.lastOr none done) rest = .ok (some site) →
    x.fate chain (done ++ site.before) site = .included n p parent →
    Shadow.dataCalls site.call.dataPairs < starts (done ++ site.before) site.text site.rest ∧
      Barred parent.encode

/-- The data of a call hold fewer calls than the call when no marker stands in it, and when they
hold none: taking markers out of the arguments is all that can join a call there. -/
theorem dataCalls_lt_starts (hfind : find (Text.lastOr none done) rest = .ok (some site))
    (h : stripMarkers site.text = site.text ∨ Shadow.dataCalls site.call.dataPairs = 0) :
    Shadow.dataCalls site.call.dataPairs < starts (done ++ site.before) site.text site.rest := by
  rcases h with hstrip | hnone
  · exact dataCalls_lt hfind hstrip
  · rw [hnone]
    exact one_le_starts_text hfind

/-- A text ends when the templates end that are included in it, by induction on the number of calls
that are left. -/
theorem exists_ends_expanding {start : Stage} {chain : List Text}
    (hseparated : x.Separated start) (hlessening : x.Lessening start)
    (hinner : ∀ n p s, x.refuses chain n = false →
      x.Visits start (.rendering chain n p s) → ∃ r, x.Ends (.rendering chain n p s) r)
    {calls : Nat} {done rest : Text} (hcalls : starts done rest [] = calls)
    (hvisit : x.Visits start (.expanding chain done rest)) (hpassed : Passed done rest) :
    ∃ r, x.Ends (.expanding chain done rest) r := by
  induction calls using Nat.strongRecOn generalizing done rest with
  | ind calls ih =>
    subst hcalls
    cases hfind : find (Text.lastOr none done) rest with
    | error e => exact ⟨_, .malformed hfind⟩
    | ok found =>
      cases found with
      | none => exact ⟨_, .complete hfind⟩
      | some site =>
        cases hfate : x.fate chain (done ++ site.before) site with
        | deleted =>
          obtain ⟨r, hr⟩ := ih _ (starts_rest_lt_of_deleted hfind) rfl
            (hvisit.next (.deleted hfind hfate)) (hseparated _ _ _ _ hvisit hfind hfate)
          exact ⟨r, .deleted hfind hfate hr⟩
        | refused name => exact ⟨_, .refused hfind hfate⟩
        | unmarked e => exact ⟨_, .unmarked hfind hfate⟩
        | included name path parent =>
          obtain ⟨-, hrefuses, -⟩ := included_spec hfate
          have hincluded := hvisit.next (.included hfind hfate)
          obtain ⟨inner, hends⟩ := hinner _ _ _ hrefuses hincluded
          cases inner with
          | error e => exact ⟨_, .failed hfind hfate hends⟩
          | ok fragment =>
            -- the fragment holds no call, so that those of the data are all that is new
            have hfree := callFree_of_ends hseparated hends hincluded trivial fragment rfl
            obtain ⟨hdata, hparent⟩ := hlessening _ _ _ _ _ _ _ hvisit hfind hfate
            obtain ⟨r, hr⟩ := ih _ (starts_rest_lt_of_spliced hfind hdata hfree hparent _) rfl
              (hvisit.next (.spliced hfind hfate hends)) (passed_spliced hpassed hfind _ _ _ _)
            exact ⟨r, .spliced hfind hfate hends hr⟩

/-- A template ends, by induction on how many more levels the guard allows. -/
theorem exists_ends_rendering {start : Stage} (hseparated : x.Separated start)
    (hlessening : x.Lessening start) {levels : Nat} {chain : List Text} {name path : Text}
    {stack : List Frame} (hlevels : x.maxDepth + 1 - chain.length = levels)
    (hvisit : x.Visits start (.rendering chain name path stack)) :
    ∃ r, x.Ends (.rendering chain name path stack) r := by
  induction levels using Nat.strongRecOn generalizing chain name path stack with
  | ind levels ih =>
    cases hsource : x.source path with
    | error e => exact ⟨_, .unread hsource⟩
    | ok source =>
      cases hcompile : x.compile (tagLines source name path stack) with
      | error e => exact ⟨_, .uncompiled hsource hcompile⟩
      | ok compiled =>
        -- what the guard lets through is one level deeper
        have hinner : ∀ n p s, x.refuses (chain ++ [name]) n = false →
            x.Visits start (.rendering (chain ++ [name]) n p s) →
            ∃ r, x.Ends (.rendering (chain ++ [name]) n p s) r := by
          intro n p s hrefuses hincluded
          obtain ⟨-, hshort⟩ := refuses_eq_false_iff.1 hrefuses
          refine ih _ ?_ rfl hincluded
          rw [List.length_append, List.length_singleton] at hshort ⊢
          omega
        obtain ⟨r, hr⟩ := exists_ends_expanding hseparated hlessening hinner rfl
          (hvisit.next (.compiled hsource hcompile)) (passed_nil _)
        exact ⟨r, .compiled hsource hcompile hr⟩

/-- **Expansion that ends.** If no call that is deleted leaves a call in the text in front of it,
if the data of every included call hold fewer calls than the call, and if no call starts in the
comment of the marker that governs it, then expansion ends, with the same result for every number of
steps that is large enough. -/
theorem exists_run_of_separated {name path : Text} {stack : List Frame}
    (hseparated : x.Separated (.rendering [] name path stack))
    (hlessening : x.Lessening (.rendering [] name path stack)) :
    ∃ r k, ∀ steps ≥ k, x.render steps name path stack = ended r := by
  obtain ⟨r, hends⟩ := exists_ends_rendering hseparated hlessening rfl .start
  exact ⟨r, exists_run_of_ends hends⟩

/-- Two templates, one included in the other by a call over two lines with data, and a compiler that
leaves them as they are: the tag of the second line stands in the call. -/
theorem exists_run_of_one_call :
    let a := "a".toList
    let code := "<?php echo $__env->make('b',\n  ['k' => 1])->render(); ?>".toList
    let x : Expander :=
      { source := fun p => .ok (if p = a then code else "hello".toList)
        compile := .ok, locate := some, maxDepth := 1 }
    ∃ r k, ∀ steps ≥ k, x.render steps a a [] = ended r := by
  intro a code x
  let first : Marker := ⟨a, a, 1, []⟩
  let second : Marker := ⟨a, a, 2, []⟩
  let inner : Marker := ⟨"b".toList, "b".toList, 1, [first.frame]⟩
  let call := "echo $__env->make('b',\n".toList ++ second.encode ++
    "  ['k' => 1])->render();".toList
  let site : IncludeSite := ⟨first.encode ++ "<?php ".toList, call,
    ⟨.literal "b".toList, some (.pairs [("k".toList, "1".toList)]), none⟩, " ?>".toList⟩
  have hcompile : x.compile (tagLines code a a []) = .ok (site.before ++ call ++ " ?>".toList) := by
    decide +kernel
  -- one call is met, over two tagged lines, whose fragment calls nothing
  have hone : OneCall x [a] [] (site.before ++ call ++ " ?>".toList) site "b".toList "b".toList
      first (inner.encode ++ "hello".toList) :=
    ⟨by decide +kernel, by decide +kernel, ⟨"hello".toList, rfl, rfl⟩, by decide +kernel,
      by decide +kernel⟩
  refine exists_run_of_separated ?_ ?_
  · intro chain done rest site' hvisit hfind hdeleted
    rcases hvisit.of_compiled rfl hcompile with heq | hvisit
    · cases heq
    · obtain ⟨rfl, rfl, rfl⟩ := hone.met hvisit hfind
      cases hone.included.symm.trans hdeleted
  · intro chain done rest site' n p parent hvisit hfind hincluded
    rcases hvisit.of_compiled rfl hcompile with heq | hvisit
    · cases heq
    · obtain ⟨rfl, rfl, rfl⟩ := hone.met hvisit hfind
      obtain ⟨-, -, rfl⟩ := Fate.included.inj (hone.included.symm.trans hincluded)
      -- neither the data of the call nor its marker hold a call
      have hplain : first.Plain := ⟨by decide, by decide, fun f hf => by cases hf⟩
      exact ⟨dataCalls_lt_starts hfind (.inr (by decide +kernel)), Marker.barred_encode hplain⟩

/-! ## An expansion without an end -/

/-- A call of the template `b`. -/
def callCode : Text := "echo $__env->make('b')->render();".toList

/-- The code of the template `b`: the call of an unknown template, inside the start of another call
of `b`. -/
def joinedCode : Text :=
  "<?php echo echo $__env->make($x)->render();$__env->make('b')->render(); ?>".toList

/-- Two templates that a compiler leaves as they are: `a` is a call of `b`, and everything else
is `b`. -/
def endless (depth : Nat) : Expander where
  source path :=
    .ok (if path = "a".toList then "<?php ".toList ++ (callCode ++ " ?>".toList) else joinedCode)
  compile := .ok
  locate := some
  maxDepth := depth + 1

/-- The marker of the template `b` behind a stack. -/
def innerMarker (stack : List Frame) : Marker := ⟨"b".toList, "b".toList, 1, stack⟩

theorem plain_innerMarker {stack : List Frame} (h : ∀ f ∈ stack, f.Plain) :
    (innerMarker stack).Plain := by
  have hname : CallFree "b".toList := by decide
  exact ⟨hname, hname, h⟩

/-- The call that is deleted leaves the text around it as a call of `b`, in a text that is not
searched again. -/
theorem ends_joined (depth : Nat) {stack : List Frame} (hstack : ∀ f ∈ stack, f.Plain) :
    (endless depth).Ends (.rendering ["a".toList] "b".toList "b".toList stack)
      (.ok ((innerMarker stack).encode ++ ("<?php ".toList ++ (callCode ++ " ?>".toList)))) := by
  let front := (innerMarker stack).encode ++ "<?php echo ".toList
  let call := "echo $__env->make($x)->render();".toList
  let behind := "$__env->make('b')->render(); ?>".toList
  have hlast : Text.lastOr none ([] ++ front) = Text.lastOr none "<?php echo ".toList :=
    Text.lastOr_append_of_ne_nil (b := "<?php echo ".toList) _ _ (by decide)
  have hsite : find (Text.lastOr none ([] ++ front)) (call ++ behind) =
      .ok (some ⟨[], call, ⟨.dynamic "$x".toList, none, none⟩, behind⟩) := by
    rw [hlast]
    decide +kernel
  have hfront : starts [] front (call ++ behind ++ []) = 0 := by
    have hmarker := Marker.barred_encode (plain_innerMarker hstack)
    have hle : starts ([] ++ (innerMarker stack).encode) "<?php echo ".toList
        (call ++ behind ++ []) ≤ starts [] "<?php echo ".toList (call ++ behind ++ []) :=
      starts_le_of_wordStart (fun _ => rfl) _ _
    have hzero : starts [] "<?php echo ".toList (call ++ behind ++ []) = 0 := by decide +kernel
    rw [starts_append, hmarker]
    omega
  -- the search goes on behind the deleted call and never looks at the `echo` in front of it again
  have hnone : find (Text.lastOr none ([] ++ front)) (behind ++ []) = .ok none := by
    rw [hlast]
    decide +kernel
  have hend : (endless depth).Ends (.expanding ["a".toList, "b".toList] []
      (front ++ (call ++ behind ++ []))) (.ok (front ++ (behind ++ []))) :=
    .deleted (find_append hsite rfl hfront) rfl (.complete hnone)
  have hcode : front ++ (call ++ behind ++ []) = (innerMarker stack).encode ++ joinedCode :=
    (List.append_assoc _ _ _).trans (congrArg _ (by decide +kernel))
  have hjoined : front ++ (behind ++ []) =
      (innerMarker stack).encode ++ ("<?php ".toList ++ (callCode ++ " ?>".toList)) :=
    (List.append_assoc _ _ _).trans (congrArg _ (by decide +kernel))
  rw [hcode, hjoined] at hend
  refine .compiled rfl ?_ hend
  show Except.ok (tagLines joinedCode _ _ stack) = _
  rw [tagLines_of_not_mem (by decide +kernel)]
  rfl

/-- Whether a call of `b` is next in the code behind a text, and a marker governs it. -/
def AtCall (done rest : Text) (parent : Marker) : Prop :=
  parent.Plain ∧ ∃ front behind, Barred front ∧
    rest = front ++ "<?php ".toList ++ (callCode ++ behind) ∧
    lastMarker? (done ++ (front ++ "<?php ".toList)) = some parent

/-- In the template `a` the call is included, and the fragment in its place has the call that the
deletion has left. -/
theorem AtCall.next {parent : Marker} (h : AtCall done rest parent) (depth : Nat) :
    ∃ site fragment, find (Text.lastOr none done) rest = .ok (some site) ∧
      (endless depth).fate ["a".toList] (done ++ site.before) site =
        .included "b".toList "b".toList parent ∧
      (endless depth).Ends (.rendering ["a".toList] "b".toList "b".toList
        (parent.stack ++ [parent.frame])) (.ok fragment) ∧
      AtCall (done ++ site.before)
        (spliced (.of 1 site.call.dataPairs) fragment parent ++ site.rest)
        (innerMarker (parent.stack ++ [parent.frame])) := by
  obtain ⟨hplain, front, behind, hfront, rfl, hparent⟩ := h
  let call : IncludeCall := ⟨.literal "b".toList, none, none⟩
  let inner := innerMarker (parent.stack ++ [parent.frame])
  have hfind : find (Text.lastOr none done) (front ++ "<?php ".toList ++ (callCode ++ behind)) =
      .ok (some ⟨front ++ "<?php ".toList, callCode, call, behind⟩) := by
    have hsite : find (Text.lastOr none (done ++ (front ++ "<?php ".toList))) callCode =
        .ok (some ⟨[], callCode, call, []⟩) := by
      rw [← List.append_assoc, Text.lastOr_append_of_ne_nil (b := "<?php ".toList) _ _ (by decide)]
      decide +kernel
    have hquiet : Barred "<?php ".toList := barred_of_quiet (by decide)
    exact find_append hsite rfl (hfront.append hquiet _ _)
  -- the chain is that of `a`, however often `b` has been included in it
  have hrefuses : (endless depth).refuses ["a".toList] "b".toList = false :=
    refuses_eq_false_iff.2 ⟨by decide, Nat.succ_le_succ (Nat.zero_le depth)⟩
  have hinner : inner.Plain := plain_innerMarker hplain.frames
  have hopen : Barred " ?>\n".toList := barred_of_quiet (by decide)
  refine ⟨_, _, hfind, fate_eq_included rfl hrefuses hparent rfl, ends_joined depth hplain.frames,
    hinner, " ?>\n".toList ++ inner.encode,
    " ?>".toList ++ ('\n' :: parent.encode ++ "<?php ".toList ++ behind),
    hopen.append (Marker.barred_encode hinner), ?_, ?_⟩
  · show enclosed [] _ parent [] ++ behind = _
    unfold enclosed
    simp only [List.append_assoc, List.cons_append, List.nil_append, List.append_nil]
    rfl
  · refine lastMarker?_of_lastLine (y := "<?php ".toList) ?_
    have hline : '\n' ∉ inner.encode ++ "<?php ".toList := by
      rw [List.mem_append, not_or]
      exact ⟨inner.not_mem_newline_encode, by decide⟩
    have hcut : done ++ (front ++ "<?php ".toList) ++ (" ?>\n".toList ++ inner.encode ++
        "<?php ".toList) = (done ++ (front ++ "<?php ".toList) ++ " ?>".toList) ++
          '\n' :: (inner.encode ++ "<?php ".toList) := by
      rw [show " ?>\n".toList = " ?>".toList ++ ['\n'] by decide]
      simp only [List.append_assoc, List.cons_append, List.nil_append]
    rw [hcut, Text.lastLine_append_cons, Text.lastLine_of_not_mem hline]

/-- Where such a call is next no number of steps is enough: behind it one is next again. -/
theorem AtCall.not_ended {parent : Marker} (h : AtCall done rest parent) (depth steps : Nat)
    (r : Except AnalysisError Text) :
    (endless depth).expand ["a".toList] done rest steps ≠ ended r := by
  induction steps using Nat.strongRecOn generalizing done rest parent with
  | ind steps ih =>
    intro hrun
    obtain ⟨site, fragment, hfind, hfate, hfragment, hnext⟩ := h.next depth
    obtain ⟨steps', hlt, hrun⟩ := exists_run_of_included hfind hfate hfragment hrun
    exact ih steps' hlt hnext hrun

/-- The templates of `endless` are expanded for ever, whatever the limit of the depth. -/
theorem no_end_of_joined_call :
    ¬ ∃ depth steps r, (endless depth).render steps "a".toList "a".toList [] = ended r := by
  rintro ⟨depth, steps, r, hrun⟩
  cases steps with
  | zero => cases hrun
  | succ steps =>
    let entry : Marker := ⟨"a".toList, "a".toList, 1, []⟩
    have hname : CallFree "a".toList := by decide
    have hplain : entry.Plain := ⟨hname, hname, fun f hf => by cases hf⟩
    have hcode : tagLines ("<?php ".toList ++ (callCode ++ " ?>".toList)) "a".toList "a".toList [] =
        entry.encode ++ "<?php ".toList ++ (callCode ++ " ?>".toList) := by
      rw [tagLines_of_not_mem (by decide +kernel), List.append_assoc]
    have hat : AtCall [] (entry.encode ++ "<?php ".toList ++ (callCode ++ " ?>".toList)) entry :=
      ⟨hplain, entry.encode, _, Marker.barred_encode hplain, rfl, by decide +kernel⟩
    have hsource : (endless depth).source "a".toList =
        .ok ("<?php ".toList ++ (callCode ++ " ?>".toList)) := rfl
    have hrun : (endless depth).renderIn [] _ _ _ (steps + 1) = ended r := hrun
    rw [renderIn_of_compiled hsource (congrArg Except.ok hcode)] at hrun
    exact hat.not_ended depth steps r hrun

end Expander

end TemplateTrace
