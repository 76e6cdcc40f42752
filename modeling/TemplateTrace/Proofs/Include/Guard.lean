import TemplateTrace.Proofs.Include.Completeness
import TemplateTrace.Proofs.Include.Opening
import TemplateTrace.Proofs.Include.Provenance

/-!
# The guard against circles

Expansion keeps the names of the templates that it is in, and refuses a call of one of them, or of
any when there are too many. The stacks in the markers are read back from the text, and nothing but
the order of the work ties the two together: a call is met while its template is being expanded, and
it stands under a marker of that template. Then the names in a stack are the chain, and what the
guard says of chains holds of the markers.

- `Expander.Along`: a marker whose frames and name are those of a chain.
- `Expander.Nested`: the markers that the guard lets through.
- `Expander.Sound`: what holds of a text that is being expanded, and `Expander.Sound.spliced`.
- `Expander.Meets`, `Expander.Linked`: a chain in which each template is called by the one before.
- `Expander.guard_exact`: the markers of a finished text, and the chain of a refused one.
-/

namespace TemplateTrace

open IncludeSite

namespace Expander

/-! ## Markers along a chain -/

/-- Whether a stack has frames of the templates in a chain, on top of the stack of the entry. -/
def AlongStack (stack : List Frame) (chain : List Text) (s : List Frame) : Prop :=
  ∃ frames, s = stack ++ frames ∧ frames.map (·.name) = chain.map some

/-- Whether a marker lies along a chain: it is one of the last template, and the frames that it has
on top of the stack of the entry are of the templates in front. -/
def Along (stack : List Frame) (chain : List Text) (m : Marker) : Prop :=
  ∃ front, chain = front ++ [m.template] ∧ AlongStack stack front m.stack

/-- The markers that the guard lets through. -/
def Nested (x : Expander) (stack : List Frame) (m : Marker) : Prop :=
  m.Plain ∧ ∃ chain : List Text, Along stack chain m ∧ chain.Nodup ∧
    chain.length ≤ x.maxDepth + 1

variable {x : Expander} {stack : List Frame} {chain : List Text} {m : Marker}

/-- The stack of a template that is included at a marker lies along the marker's chain. -/
theorem Along.alongStack (h : Along stack chain m) :
    AlongStack stack chain (m.stack ++ [m.frame]) := by
  obtain ⟨front, rfl, frames, hstack, hframes⟩ := h
  refine ⟨frames ++ [m.frame], by rw [hstack, List.append_assoc], ?_⟩
  rw [List.map_append, List.map_append, hframes]
  rfl

theorem Nested.barred (h : x.Nested stack m) : Barred m.encode := Marker.barred_encode h.1

/-- The frames of such a marker are few, and its names are distinct. -/
theorem Nested.frames (h : x.Nested stack m) :
    ∃ frames, m.stack = stack ++ frames ∧ frames.length ≤ x.maxDepth ∧
      (frames.map (·.name) ++ [some m.template]).Nodup := by
  obtain ⟨-, chain, ⟨front, rfl, frames, hstack, hframes⟩, hnodup, hlength⟩ := h
  have hcount : frames.length = front.length := by
    have hmap := congrArg List.length hframes
    rwa [List.length_map, List.length_map] at hmap
  refine ⟨frames, hstack, ?_, ?_⟩
  · rw [List.length_append, List.length_singleton] at hlength
    omega
  · rw [hframes, show [some m.template] = [m.template].map some from rfl, ← List.map_append]
    exact List.Pairwise.map some (fun _ _ hne heq => hne (Option.some.inj heq)) hnodup

/-! ## What expansion keeps -/

/-- What holds of a text that is being expanded: no call starts in the part that is done, the
markers are those that the guard lets through, and a call is governed by a marker along the
chain. -/
structure Sound (x : Expander) (stack : List Frame) (chain : List Text) (done rest : Text) :
    Prop where
  nodup : chain.Nodup
  short : chain.length ≤ x.maxDepth + 1
  passed : Passed done rest
  led : Marker.Led (x.Nested stack) (done ++ rest)
  owned : ∀ a b, done ++ rest = a ++ b → StartsAt a b → ∀ m, lastMarker? a = some m →
    Along stack chain m

/-- What holds of a template that is to be rendered. -/
structure Ready (x : Expander) (stack : List Frame) (chain : List Text) (name : Text)
    (s : List Frame) : Prop where
  nodup : (chain ++ [name]).Nodup
  short : (chain ++ [name]).length ≤ x.maxDepth + 1
  along : AlongStack stack chain s
  plain : ∀ f ∈ s, f.Plain

/-- A compiled template whose lines are led by its tags. -/
theorem Ready.sound {n p compiled : Text} {s : List Frame} (h : x.Ready stack chain n s)
    (hn : CallFree n) (hp : CallFree p) (htags : Marker.Led (x.Tags n p s) compiled) :
    x.Sound stack (chain ++ [n]) [] compiled := by
  have htag : ∀ m, x.Tags n p s m → Along stack (chain ++ [n]) m ∧ x.Nested stack m := by
    rintro m ⟨source, i, -, -, rfl⟩
    have halong : Along stack (chain ++ [n]) ⟨n, p, UInt32.ofNat (i + 1), s⟩ :=
      ⟨chain, rfl, h.along⟩
    exact ⟨halong, ⟨hn, hp, h.plain⟩, _, halong, h.nodup, h.short⟩
  refine ⟨h.nodup, h.short, passed_nil _, htags.mono fun m hm => (htag m hm).2, ?_⟩
  rintro a b hab - m hm
  rw [List.nil_append] at hab
  rw [hab] at htags
  exact (htag m (htags.of_lastMarker? hm)).1

section Step

variable {done rest name path : Text} {site : IncludeSite} {parent : Marker}

/-- The marker that governs a call lies along the chain, and the guard has let it through. -/
theorem Sound.governed (h : x.Sound stack chain done rest)
    (hfind : find (Text.lastOr none done) rest = .ok (some site))
    (hparent : lastMarker? (done ++ site.before) = some parent) :
    Along stack chain parent ∧ x.Nested stack parent := by
  have htext := append_eq_of_find hfind done
  have hled := h.led
  rw [htext] at hled
  exact ⟨h.owned _ _ htext (startsAt_site hfind) _ hparent, hled.of_lastMarker? hparent⟩

/-- An included template is ready: the guard has let its name through. -/
theorem Sound.ready (h : x.Sound stack chain done rest)
    (hfind : find (Text.lastOr none done) rest = .ok (some site))
    (hfate : x.fate chain (done ++ site.before) site = .included name path parent) :
    x.Ready stack chain name (parent.stack ++ [parent.frame]) := by
  obtain ⟨-, hrefuses, hparent, -⟩ := included_spec hfate
  obtain ⟨halong, hnested⟩ := h.governed hfind hparent
  obtain ⟨hnew, hshort⟩ := refuses_eq_false_iff.1 hrefuses
  refine ⟨?_, ?_, halong.alongStack, hnested.1.frames⟩
  · refine List.nodup_append.2 ⟨h.nodup, List.pairwise_singleton _ _, fun a ha b hb heq => ?_⟩
    obtain rfl := List.mem_singleton.1 hb
    exact hnew (heq ▸ ha)
  · rw [List.length_append, List.length_singleton]
    exact Nat.succ_le_succ hshort

/-- Replacing a call by a sound fragment keeps a text sound. -/
theorem Sound.spliced (h : x.Sound stack chain done rest)
    (hfind : find (Text.lastOr none done) rest = .ok (some site))
    (hparent : lastMarker? (done ++ site.before) = some parent) {fragment : Text}
    (hfree : CallFree fragment) (hled : Marker.Led (x.Nested stack) fragment) :
    x.Sound stack chain (done ++ site.before)
      (spliced (.of chain.length site.call.dataPairs) fragment parent ++ site.rest) := by
  obtain ⟨-, -, honeLine, -⟩ := find_spec hfind
  have htext := append_eq_of_find hfind done
  have hcall := startsAt_site hfind
  obtain ⟨halong, hnested⟩ := h.governed hfind hparent
  have hpassed := passed_spliced h.passed hfind chain.length site.call.dataPairs fragment parent
  have hledText := h.led
  rw [htext] at hledText
  refine ⟨h.nodup, h.short, hpassed, hledText.spliced (fun m hm => hm.barred) hcall hled hnested
    _ honeLine, ?_⟩
  -- what is left is the marker that governs a call: the fragment has none
  intro a b hab hstarts m hm
  rcases startsAt_spliced_cases hpassed hfree hnested.barred hab hstarts with
    ⟨u, rfl, hu⟩ | ⟨w, rfl, hw⟩
  · -- in the statements, which stand on the line of the old call
    have hline : '\n' ∉ u := by
      intro hmem
      have hmem := hu.subset hmem
      rw [List.mem_append] at hmem
      rcases hmem with hmem | hmem
      · exact Shadow.not_mem_newline_enter honeLine hmem
      · exact absurd hmem (by decide)
    have hgoverned := hledText.ledBy_lastLine (fun m hm => hm.barred) hcall
    rw [Marker.lastMarker?_append_of_ledBy hgoverned ((Marker.apart_enter _ _).mono hu) hline,
      hparent] at hm
    obtain rfl := Option.some.inj hm
    exact halong
  · -- behind the replacement, where a call was before
    have hleave := Shadow.all_isStatementChar_leave chain.length site.call.dataPairs
    have hnewline := not_mem_of_all_isStatementChar hleave (c := '\n') (by decide)
    have huncut : Marker.Uncut (done ++ site.before ++
        Expander.spliced (.of chain.length site.call.dataPairs) fragment parent) w := by
      refine Marker.uncut_of_isSome ?_ _
      rw [Expander.spliced, lastLine_enclosed _ _ fragment parent hnewline,
        Marker.decode?_encode_append]
      rfl
    rw [Marker.lastMarker?_append huncut, Expander.spliced,
      lastMarker?_enclosed _ _ fragment parent hnewline] at hm
    cases hlower : Marker.lastOf (Text.lines w).tail with
    | none =>
      rw [hlower] at hm
      obtain rfl := Option.some.inj hm
      exact halong
    | some m' =>
      rw [hlower] at hm
      obtain rfl := Option.some.inj hm
      refine h.owned (done ++ site.before ++ site.text ++ w) b ?_
        (hstarts.transfer (wordStart_behind hfind _) fun _ he _ _ => he) m'
        (Marker.lastMarker?_append_of_lastOf hlower)
      rw [htext, hw]
      simp only [List.append_assoc]

end Step

/-! ## What a finished text holds -/

/-- What holds of a stage. -/
def Stage.Sound (x : Expander) (stack : List Frame) : Stage → Prop
  | rendering chain name _ s => x.Ready stack chain name s
  | expanding chain done rest => x.Sound stack chain done rest

/-- Expansion keeps a text sound, by induction on how a stage ends; so a finished text holds no
call, and only markers that the guard lets through. -/
theorem nested_of_ends {start stage : Stage} {r : Except AnalysisError Text}
    (hnames : ∀ chain n p s, x.Visits start (.rendering chain n p s) → CallFree n ∧ CallFree p)
    (htags : ∀ chain n p s source compiled, x.Visits start (.rendering chain n p s) →
      x.source p = .ok source → x.compile (tagLines source n p s) = .ok compiled →
      Marker.Led (x.Tags n p s) compiled)
    (hkept : ∀ chain done rest site, x.Visits start (.expanding chain done rest) →
      find (Text.lastOr none done) rest = .ok (some site) →
      x.fate chain (done ++ site.before) site ≠ .deleted)
    (h : x.Ends stage r) (hvisit : x.Visits start stage) (hsound : stage.Sound x stack) :
    ∀ text, r = .ok text → CallFree text ∧ Marker.Led (x.Nested stack) text := by
  induction h with
  | unread => rintro text ⟨⟩
  | uncompiled => rintro text ⟨⟩
  | compiled hsource hcompile _ ih =>
    obtain ⟨hn, hp⟩ := hnames _ _ _ _ hvisit
    have hready : x.Ready stack _ _ _ := hsound
    exact ih (hvisit.next (.compiled hsource hcompile))
      (hready.sound hn hp (htags _ _ _ _ _ _ hvisit hsource hcompile))
  | malformed => rintro text ⟨⟩
  | complete hfind =>
    rintro text ⟨⟩
    have hsound : x.Sound stack _ _ _ := hsound
    exact ⟨callFree_of_passed hsound.passed hfind, hsound.led⟩
  | refused => rintro text ⟨⟩
  | unmarked => rintro text ⟨⟩
  | deleted hfind hfate => exact absurd hfate (hkept _ _ _ _ hvisit hfind)
  | failed => rintro text ⟨⟩
  | spliced hfind hfate hfragment _ ihfragment ih =>
    have hsound : x.Sound stack _ _ _ := hsound
    -- the fragment is sound by itself, and so the text that it is put into
    obtain ⟨hfree, hled⟩ := ihfragment (hvisit.next (.included hfind hfate))
      (hsound.ready hfind hfate) _ rfl
    obtain ⟨-, -, hparent, -⟩ := included_spec hfate
    exact ih (hvisit.next (.spliced hfind hfate hfragment))
      (hsound.spliced hfind hparent hfree hled)

/-! ## The chain of a refused call -/

/-- Whether a call of a template is met while the last template of a chain is being expanded. -/
def Meets (x : Expander) (start : Stage) (chain : List Text) (name : Text) : Prop :=
  ∃ done rest site, x.Visits start (.expanding chain done rest) ∧
    find (Text.lastOr none done) rest = .ok (some site) ∧ site.call.target = .literal name

/-- A chain that starts with the entry and in which each template is called by the one before. -/
def Linked (x : Expander) (start : Stage) (entry : Text) (chain : List Text) : Prop :=
  chain.head? = some entry ∧ ∀ front n n' back, chain = front ++ n :: n' :: back →
    x.Meets start (front ++ [n]) n'

theorem linked_singleton (start : Stage) (entry : Text) : x.Linked start entry [entry] := by
  refine ⟨rfl, fun front n n' back h => ?_⟩
  have hlength := congrArg List.length h
  simp only [List.length_append, List.length_cons, List.length_nil] at hlength
  omega

/-- A chain goes on with a template that is called. -/
theorem Linked.concat {start : Stage} {entry name : Text} (h : x.Linked start entry chain)
    (hmeets : x.Meets start chain name) : x.Linked start entry (chain ++ [name]) := by
  obtain ⟨hhead, hlinks⟩ := h
  refine ⟨by rw [List.head?_append, hhead]; rfl, fun front n n' back heq => ?_⟩
  cases hback : back.getLast? with
  | none =>
    -- the last link is the new one
    obtain rfl := List.getLast?_eq_none_iff.1 hback
    have heq : chain ++ [name] = (front ++ [n]) ++ [n'] := by rw [heq]; simp
    obtain ⟨rfl, hname⟩ := List.append_inj' heq rfl
    obtain rfl := List.head_eq_of_cons_eq hname
    exact hmeets
  | some last =>
    obtain ⟨back', rfl⟩ := List.getLast?_eq_some_iff.1 hback
    have heq : chain ++ [name] = (front ++ n :: n' :: back') ++ [last] := by rw [heq]; simp
    exact hlinks front n n' back' (List.append_inj' heq rfl).1

/-- The chain of a stage is linked, and it is no longer than the guard allows. -/
def Stage.Chained (x : Expander) (start : Stage) (entry : Text) : Stage → Prop
  | rendering chain name _ _ =>
    x.Linked start entry (chain ++ [name]) ∧ (chain ++ [name]).length ≤ x.maxDepth + 1
  | expanding chain _ _ => x.Linked start entry chain ∧ chain.length ≤ x.maxDepth + 1

/-- A refused chain ends in a name that occurs before, or it is longer by one than the guard
allows. -/
theorem chain_of_ends {start stage : Stage} {entry : Text} {r : Except AnalysisError Text}
    (h : x.Ends stage r) (hvisit : x.Visits start stage)
    (hstage : Stage.Chained x start entry stage) :
    ∀ c, r = .error (.includeCycle c) → x.Linked start entry c ∧
      ∃ front last, c = front ++ [last] ∧ (last ∈ front ∨ c.length = x.maxDepth + 2) := by
  induction h with
  | unread => rintro c ⟨⟩
  | uncompiled => rintro c ⟨⟩
  | compiled hsource hcompile _ ih => exact ih (hvisit.next (.compiled hsource hcompile)) hstage
  | malformed => rintro c ⟨⟩
  | complete => rintro c ⟨⟩
  | refused hfind hfate =>
    rintro c ⟨⟩
    -- the chain that is reported ends in the call's name, which it holds already or for which it is
    -- too long
    obtain ⟨htarget, hrefuses⟩ := refused_spec hfate
    obtain ⟨hlinked, hshort⟩ := hstage
    refine ⟨hlinked.concat ⟨_, _, _, hvisit, hfind, htarget⟩, _, _, rfl, ?_⟩
    rw [refuses, Bool.or_eq_true, List.contains_iff_mem, decide_eq_true_iff] at hrefuses
    refine hrefuses.imp_right fun hlong => ?_
    rw [List.length_append, List.length_singleton]
    omega
  | unmarked hfind hfate =>
    intro c hc
    obtain ⟨cause, rfl⟩ := unmarked_spec hfate
    cases hc
  | deleted hfind hfate _ ih => exact ih (hvisit.next (.deleted hfind hfate)) hstage
  | failed hfind hfate _ ih =>
    -- a chain that is reported from within a fragment goes on from the one here
    obtain ⟨htarget, hrefuses, -⟩ := included_spec hfate
    obtain ⟨hlinked, -⟩ := hstage
    obtain ⟨-, hshort⟩ := refuses_eq_false_iff.1 hrefuses
    refine ih (hvisit.next (.included hfind hfate))
      ⟨hlinked.concat ⟨_, _, _, hvisit, hfind, htarget⟩, ?_⟩
    rw [List.length_append, List.length_singleton]
    exact Nat.succ_le_succ hshort
  | spliced hfind hfate hfragment _ _ ih =>
    exact ih (hvisit.next (.spliced hfind hfate hfragment)) hstage

/-! ## The guard is exact -/

/-- **The guard is exact, and expansion is complete.** Let the compiler lead every line that opens
as a marker does by a tag of its input, let no name, path or stack string of a template that is
rendered hold a call, and let every call that is met name a template that can be found. Then a
finished text holds no call, and a marker that leads a line of it has at most as many frames more
than the entry as the limit allows, with names that are distinct and not its own. And where
expansion is refused, the chain starts with the entry, each template in it is called by the one
before, and its last name occurs before, or it has two names more than the limit. -/
theorem guard_exact {name path : Text} (hstack : ∀ f ∈ stack, f.Plain)
    (hnames : ∀ chain n p s, x.Visits (.rendering [] name path stack) (.rendering chain n p s) →
      CallFree n ∧ CallFree p)
    (htags : ∀ chain n p s source compiled,
      x.Visits (.rendering [] name path stack) (.rendering chain n p s) →
      x.source p = .ok source → x.compile (tagLines source n p s) = .ok compiled →
      ∀ line ∈ Text.lines compiled, Marker.opening <+: line →
        ∃ m r, x.Tags n p s m ∧ line = m.encode ++ r)
    (hcalls : ∀ chain done rest site,
      x.Visits (.rendering [] name path stack) (.expanding chain done rest) →
      find (Text.lastOr none done) rest = .ok (some site) →
      ∃ n p, site.call.target = .literal n ∧ x.locate n = some p) :
    (∀ steps text, x.render steps name path stack = ended (.ok text) →
      CallFree text ∧ ∀ line ∈ Text.lines text, ∀ m r, Marker.decode? line = some (m, r) →
        ∃ frames, m.stack = stack ++ frames ∧ frames.length ≤ x.maxDepth ∧
          (frames.map (·.name) ++ [some m.template]).Nodup) ∧
    ∀ steps chain, x.render steps name path stack = ended (.error (.includeCycle chain)) →
      chain.head? = some name ∧
      (∀ front n n' back, chain = front ++ n :: n' :: back →
        ∃ done rest site, x.Visits (.rendering [] name path stack)
            (.expanding (front ++ [n]) done rest) ∧
          find (Text.lastOr none done) rest = .ok (some site) ∧
          site.call.target = .literal n') ∧
      ∃ front last, chain = front ++ [last] ∧
        (last ∈ front ∨ chain.length = x.maxDepth + 2) := by
  have hshort : [name].length ≤ x.maxDepth + 1 := Nat.succ_le_succ (Nat.zero_le _)
  constructor
  · intro steps text h
    have hends : x.Ends (.rendering [] name path stack) (.ok text) := ends_of_run h
    -- every call is found, so that none is deleted
    have hkept : ∀ chain done rest site,
        x.Visits (.rendering [] name path stack) (.expanding chain done rest) →
        find (Text.lastOr none done) rest = .ok (some site) →
        x.fate chain (done ++ site.before) site ≠ .deleted := by
      intro chain done rest site hvisit hfind hdeleted
      obtain ⟨n, p, htarget, hlocate⟩ := hcalls chain done rest site hvisit hfind
      rcases deleted_spec hdeleted with ⟨e, hdynamic⟩ | ⟨n', hliteral, hnone⟩
      · cases htarget.symm.trans hdynamic
      · obtain rfl := IncludeTarget.literal.inj (htarget.symm.trans hliteral)
        cases hlocate.symm.trans hnone
    have hready : x.Ready stack [] name stack :=
      ⟨List.pairwise_singleton _ _, hshort, ⟨[], (List.append_nil _).symm, rfl⟩, hstack⟩
    obtain ⟨hfree, hled⟩ := nested_of_ends hnames htags hkept hends .start hready text rfl
    refine ⟨hfree, fun line hline m r hm => ?_⟩
    exact ((hled line hline).leads m r hm).1.frames
  · intro steps chain h
    have hends : x.Ends (.rendering [] name path stack) (.error (.includeCycle chain)) :=
      ends_of_run h
    obtain ⟨⟨hhead, hlinks⟩, hlast⟩ :=
      chain_of_ends hends .start ⟨linked_singleton _ _, hshort⟩ chain rfl
    exact ⟨hhead, hlinks, hlast⟩

/-- Two templates, one included in the other by a compiler that leaves them as they are. -/
theorem guard_exact_nested :
    let a := "a".toList
    let outer : Marker := ⟨a, a, 1, []⟩
    let inner : Marker := ⟨"b".toList, "b".toList, 1, [outer.frame]⟩
    let code := "<?php echo $__env->make('b')->render(); ?>".toList
    let x : Expander :=
      { source := fun p => .ok (if p = a then code else "hello".toList)
        compile := .ok, locate := some, maxDepth := 1 }
    let text := outer.encode ++ "<?php  ?>\n".toList ++ inner.encode ++ "hello\n".toList ++
      outer.encode ++ "<?php  ?>".toList
    x.render 6 a a [] = ended (.ok text) ∧ CallFree text ∧
      ∀ line ∈ Text.lines text, ∀ m r, Marker.decode? line = some (m, r) →
        ∃ frames, m.stack = [] ++ frames ∧ frames.length ≤ x.maxDepth ∧
          (frames.map (·.name) ++ [some m.template]).Nodup := by
  intro a outer inner code x text
  let site : IncludeSite := ⟨outer.encode ++ "<?php ".toList,
    "echo $__env->make('b')->render();".toList, ⟨.literal "b".toList, none, none⟩, " ?>".toList⟩
  have hrun : x.render 6 a a [] = ended (.ok text) := by
    show (_ : Option (Except AnalysisError Text)) = _
    decide +kernel
  have hcompile : x.compile (tagLines code a a []) = .ok (outer.encode ++ code) := rfl
  -- one call is met, whose fragment calls nothing
  have hone : OneCall x [a] [] (outer.encode ++ code) site "b".toList "b".toList outer
      (inner.encode ++ "hello".toList) :=
    ⟨by decide +kernel, by decide +kernel, ⟨"hello".toList, rfl, rfl⟩, by decide +kernel,
      by decide +kernel⟩
  refine ⟨hrun, (guard_exact (fun f hf => by cases hf) ?_ ?_ ?_).1 6 text hrun⟩
  · intro chain n p s hvisit
    rcases hvisit.of_compiled rfl hcompile with heq | hvisit
    · obtain ⟨-, rfl, rfl, -⟩ := Stage.rendering.inj heq
      exact ⟨by decide, by decide⟩
    · obtain ⟨rfl, rfl, -⟩ := hone.rendered hvisit
      exact ⟨by decide, by decide⟩
  · intro chain n p s source compiled _ hsource hcompile line hline _
    obtain rfl := Except.ok.inj hcompile
    exact exists_tag_of_mem_lines hsource hline
  · intro chain done rest site' hvisit hfind
    rcases hvisit.of_compiled rfl hcompile with heq | hvisit
    · cases heq
    · obtain ⟨-, -, rfl⟩ := hone.met hvisit hfind
      exact ⟨_, _, rfl, rfl⟩

/-- A comment that opens as a marker on a line without a tag, with a line feed in it: it is no
marker, and without its tags the compiled text has none. The call in the comment passes the rest of
it as data, on one line, so that a marker comes of it that is nested too deep and in one template
twice. -/
theorem exists_too_deep_of_call_in_comment :
    let a := "a".toList
    let first : Marker := ⟨a, a, 1, []⟩
    let second : Marker := ⟨a, a, 2, []⟩
    let twice : Frame := ⟨"f".toList, 1, some "n".toList⟩
    let stray : Marker := ⟨"$__lens_arg_1_k = ".toList, "p".toList, 3, [twice, twice]⟩
    let open' := "/** template_name=\"echo $__env->make('b', ['k' => \", ".toList ++
      "template_path=\"p\", line=3, stack=[".toList
    let close := "\x7b\"file\":\"f\",\"line\":1,\"name\":\"n\"\x7d,".toList ++
      "\x7b\"file\":\"f\",\"line\":1,\"name\":\"n\"\x7d] */ \"])->render(); ?>".toList
    let source := "<?php @nl".toList ++ open' ++ '\n' :: close
    let bare := "<?php \n".toList ++ open' ++ '\n' :: close
    let compiled := first.encode ++ "<?php \n".toList ++ open' ++ '\n' :: second.encode ++ close
    let x : Expander :=
      { source := fun p => .ok (if p = a then source else "hello".toList)
        compile := fun s => .ok (if s = tagLines source a a [] then compiled else s)
        locate := some, maxDepth := 1 }
    x.compile (tagLines source a a []) = .ok compiled ∧
      stripMarkers source = source ∧ stripMarkers compiled = bare ∧
      CallFree a ∧ CallFree "b".toList ∧
      (∀ chain done rest site, x.Visits (.rendering [] a a []) (.expanding chain done rest) →
        find (Text.lastOr none done) rest = .ok (some site) →
        ∃ n p, site.call.target = .literal n ∧ x.locate n = some p) ∧
      ∃ text, x.render 6 a a [] = ended (.ok text) ∧
        (∃ line ∈ Text.lines text, ∃ r, Marker.decode? line = some (stray, r)) ∧
        x.maxDepth < stray.stack.length ∧
        ¬ (stray.stack.map (·.name) ++ [some stray.template]).Nodup := by
  intro a first second twice stray open' close source bare compiled x
  -- the data of the call run over both lines, and are put on one without the second line's marker
  let value := "\", template_path=\"p\", line=3, stack=[ \x7b\"file\":\"f\",\"line\":1,".toList ++
    "\"name\":\"n\"\x7d,\x7b\"file\":\"f\",\"line\":1,\"name\":\"n\"\x7d] */ \"".toList
  let inner : Marker := ⟨"b".toList, "b".toList, 1, [first.frame]⟩
  let fragment := inner.encode ++ "hello".toList
  let site : IncludeSite :=
    { before := first.encode ++ "<?php \n/** template_name=\"".toList
      text := open'.drop 19 ++ '\n' :: second.encode ++ close.take (close.length - 3)
      call := ⟨.literal "b".toList, some (.pairs [("k".toList, value)]), none⟩
      rest := " ?>".toList }
  have hcompile : x.compile (tagLines source a a []) = .ok compiled := by
    show Except.ok (if _ then _ else _) = _
    rw [if_pos rfl]
  have hcompile' : x.compile (tagLines "hello".toList "b".toList "b".toList
      ([] ++ [first.frame])) = .ok fragment := by
    decide +kernel
  -- one call is met, whose fragment calls nothing
  have hone : OneCall x [a] [] compiled site "b".toList "b".toList first fragment :=
    ⟨by decide +kernel, by decide +kernel, ⟨"hello".toList, rfl, hcompile'⟩, by decide +kernel,
      by decide +kernel⟩
  refine ⟨hcompile, by decide +kernel, by decide +kernel, by decide, by decide, ?_,
    site.before ++ (spliced (.of 1 site.call.dataPairs) fragment first ++ site.rest), ?_, ?_,
    by decide, by decide⟩
  · intro chain done rest site' hvisit hfind
    rcases hvisit.of_compiled rfl hcompile with heq | hvisit
    · cases heq
    · obtain ⟨-, -, rfl⟩ := hone.met hvisit hfind
      exact ⟨_, _, rfl, rfl⟩
  · show (_ : Option (Except AnalysisError Text)) = _
    decide +kernel
  · -- behind the splice the second line starts with a marker of two frames
    have hsecond : ((Text.lines (site.before ++ (spliced (.of 1 site.call.dataPairs) fragment
        first ++ site.rest)))[1]?.bind Marker.decode?).map (·.1) = some stray := by
      decide +kernel
    obtain ⟨p, hp, hstray⟩ := Option.map_eq_some_iff.1 hsecond
    obtain ⟨line, hline, hdecode⟩ := Option.bind_eq_some_iff.1 hp
    exact ⟨line, List.mem_of_getElem? hline, p.2, by rw [hdecode, ← hstray]⟩

end Expander

end TemplateTrace
