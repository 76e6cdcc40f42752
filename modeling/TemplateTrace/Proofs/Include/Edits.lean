import TemplateTrace.Proofs.Code.LoopEdits
import TemplateTrace.Proofs.Code.Slices
import TemplateTrace.Proofs.Include.Agreement
import TemplateTrace.Proofs.Include.Search

/-!
# Calls replaced in place

Expansion works on one text: a call is found from a byte offset on, and its replacement is written
over it there. The finder and the expander stand here as they work by offsets, each use of an offset
checked, and they come to what the finder and the expander on the parts of a text come to.

- `IncludeSite.findByOffset`: a call, read from slices of the text.
- `IncludeSite.Resumes`: the offsets at which a search for calls goes on.
- `CheckedBounded`: expansion with checks.
- `Expander.renderByOffset`: a template with its calls replaced in place.
- `Expander.InPlace`: what is carried from a number of steps to the next one.
- `no_offset_fault`: no check fails, in any of the work by byte offsets.
-/

namespace TemplateTrace

/-! ## Finding a call -/

namespace IncludeSite

/-- The next call that starts at or behind a byte offset, read from slices of the text. -/
def findByOffset (s : Text) (i : Nat) : Checked (Except MapError (Option Located)) := do
  match ← s.matchFrom head.wordRest? id i with
  | none => return .ok none
  | some found =>
    let opening ← Text.offsetBefore found.stop
    match ← Code.closing s opening with
    | none => return .error (.malformed .unbalancedArguments (← s.sliceFrom found.start))
    | some close =>
      let after ← s.sliceFrom (close + 1)
      let made ← s.slice found.start (close + 1)
      match tail.rest? after with
      | none => return .error (.malformed .noRender made)
      | some rest =>
        let stop := close + 1 + (Text.bytes after - Text.bytes rest)
        let arguments ← s.slice (opening + 1) close
        match IncludeCall.ofArguments (← stripByOffset arguments) with
        | .error fault => return .error (.malformed fault made)
        | .ok call => return .ok (some ⟨found.start, stop, call⟩)

/-- The place of a call that is made at one offset and ended behind another one. -/
theorem located_of_offsets {a before made u rest : Text} {i start stop : Nat} {call : IncludeCall}
    (hi : i = Text.bytes a) (hstart : start = Text.bytes (a ++ before))
    (hstop : stop = Text.bytes (a ++ before ++ made)) :
    ({ before, text := made ++ u, call, rest } : IncludeSite).located i =
      ⟨start, stop + (Text.bytes (u ++ rest) - Text.bytes rest), call⟩ := by
  subst hi hstart hstop
  simp only [located, Text.bytes_append, Nat.add_sub_cancel, Nat.add_assoc]

/-- Searching a call by offsets, from a place that cuts a text, finds what the search of the rest
finds: every reader that is asked stops at a place that cuts the text again. -/
theorem findByOffset_of_cuts {s a b : Text} {i : Nat} (h : s.Cuts i a b) :
    findByOffset s i = .ok ((find (Text.lastOr none a) b).map (·.map (·.located i))) := by
  unfold find
  cases hsearch : Text.search head.wordRest? (Text.lastOr none a) b with
  | none =>
    -- no head: both searches give up
    simp only [findByOffset, h.matchFrom_eq_none hsearch, Checked.ok_bind, Checked.pure_eq]
    rfl
  | some found =>
    -- the offsets of the head and of its bracket cut the text
    obtain ⟨before, arguments⟩ := found
    obtain ⟨w, start, stop, opening, rfl, hmatch, hbefore, hstart, hopening, -⟩ :=
      Code.exists_head_match head_eq h hsearch
    have hdrop : (before ++ w ++ ['('] ++ arguments).drop before.length =
        w ++ '(' :: arguments := by
      rw [List.append_assoc, List.append_assoc, List.drop_left]
      rfl
    dsimp only
    rw [hdrop]
    cases hclosed : Code.enclosed? ('(' :: arguments) with
    | none =>
      -- the bracket is never closed: both report what they see from the head on
      simp only [findByOffset, hmatch, hbefore, Code.closing_eq_none hopening hclosed,
        hstart.sliceFrom, Checked.ok_bind, Checked.pure_eq]
      rfl
    | some closed =>
      -- the closing bracket and the end of the call cut the text too
      obtain ⟨inner, after⟩ := closed
      obtain ⟨rfl, close, hclosing, hinner, hafter⟩ := Code.exists_closing hopening hclosed
      have hcall : w ++ '(' :: (inner ++ ')' :: after) = w ++ '(' :: (inner ++ [')']) ++ after := by
        simp
      have hend : s.Cuts (close + 1) (a ++ before ++ (w ++ '(' :: (inner ++ [')']))) after := by
        simpa using hafter
      rw [hcall] at hstart ⊢
      have hmade := hstart.slice hend
      dsimp only
      rw [Text.upTo_append]
      cases hrest : tail.rest? after with
      | none =>
        -- something else than a rendering follows
        simp only [findByOffset, hmatch, hbefore, hclosing, hafter.sliceFrom, hmade, hrest,
          Checked.ok_bind, Checked.pure_eq]
        rfl
      | some rest =>
        dsimp only
        cases hcall : IncludeCall.ofArguments (stripMarkers inner) with
        | error fault =>
          simp only [findByOffset, hmatch, hbefore, hclosing, hafter.sliceFrom, hmade, hinner,
            hrest, stripByOffset_eq, hcall, Checked.ok_bind, Checked.pure_eq]
          rfl
        | ok call =>
          simp only [findByOffset, hmatch, hbefore, hclosing, hafter.sliceFrom, hmade, hinner,
            hrest, stripByOffset_eq, hcall, Checked.ok_bind, Checked.pure_eq]
          -- the call ends where the rest starts, which `located` counts from the end of the text
          obtain ⟨u, rfl⟩ := Code.Head.suffix_rest? hrest
          have htext := Text.upTo_append_append (w ++ '(' :: (inner ++ [')'])) u rest
          simp only [htext, Except.map, Option.map_some,
            located_of_offsets h.offset_eq hstart.offset_eq hend.offset_eq]

/-- The offsets at which a search for calls goes on: the start of a text, and the end of each call
that is found from such an offset. -/
inductive Resumes (s : Text) : Nat → Prop
  | start : Resumes s 0
  | behind {i : Nat} {call : Located} (h : Resumes s i) (hcall : findFrom s i = .ok (some call)) :
    Resumes s call.stop

theorem Resumes.exists_cuts {s : Text} {i : Nat} (h : Resumes s i) : ∃ a b, s.Cuts i a b := by
  induction h with
  | start => exact ⟨[], s, .start s⟩
  | @behind i call h hcall ih =>
    obtain ⟨a, b, rfl, rfl⟩ := ih
    obtain ⟨site, hfind, rfl⟩ := findFrom_eq_some_iff.1 hcall
    exact ⟨_, site.rest, append_eq_of_find_stop hfind, (local_located hfind).stop_eq⟩

theorem Resumes.findByOffset_eq {s : Text} {i : Nat} (h : Resumes s i) :
    findByOffset s i = .ok (findFrom s i) := by
  obtain ⟨a, b, hcuts⟩ := h.exists_cuts
  rw [findByOffset_of_cuts hcuts, hcuts.text_eq, hcuts.offset_eq, findFrom_append]

end IncludeSite

/-! ## Expansion -/

/-- An expansion that fails, runs out of steps, or stops at a check. -/
abbrev CheckedBounded (α : Type) := ExceptT AnalysisError (OptionT Checked) α

namespace CheckedBounded

/-- Work by byte offsets within an expansion. -/
def work {α : Type} (c : Checked α) : CheckedBounded α :=
  ExceptT.mk (OptionT.mk (c.map fun a => some (.ok a)))

/-- An expansion in which no check is made. -/
def unchecked {α : Type} (r : Bounded α) : CheckedBounded α := ExceptT.mk (OptionT.mk (.ok r))

variable {α β : Type}

theorem work_ok_bind (a : α) (f : α → CheckedBounded β) : work (.ok a) >>= f = f a := rfl

theorem unchecked_bind (r : Bounded α) (f : α → Bounded β) :
    unchecked (r >>= f) = unchecked r >>= fun a => unchecked (f a) := by
  match r with
  | none => rfl
  | some (.error e) => rfl
  | some (.ok a) => rfl

end CheckedBounded

namespace Expander

open CheckedBounded

mutual

/-- The code of a template, its calls replaced in place. -/
def renderInByOffset (x : Expander) (chain : List Text) (name path : Text) (stack : List Frame) :
    Nat → CheckedBounded Text
  | 0 => unchecked outOfSteps
  | steps + 1 => do
    let source ← unchecked (ended ((x.source path).mapError (AnalysisError.io path)))
    let compiled ← unchecked (ended ((x.compile (tagLines source name path stack)).mapError
      (AnalysisError.compiler name)))
    x.expandByOffset (chain ++ [name]) ⟨compiled, 0⟩ steps

/-- Replaces the calls at or behind the offset of a cursor. -/
def expandByOffset (x : Expander) (chain : List Text) (c : Cursor) : Nat → CheckedBounded Text
  | 0 => unchecked outOfSteps
  | steps + 1 => do
    let found ← work (IncludeSite.findByOffset c.text c.pos)
    match ← unchecked (ended (found.mapError (AnalysisError.template (chain.getLastD [])))) with
    | none => return c.text
    | some located =>
      let replacement ← match located.call.target with
        | .dynamic _ => pure []
        | .literal name => x.spliceByOffset chain c.text located name steps
      let text ← work (c.text.replaceRange located.start located.stop replacement)
      x.expandByOffset chain ⟨text, located.start⟩ steps

/-- The replacement of a call that names a template. -/
def spliceByOffset (x : Expander) (chain : List Text) (text : Text)
    (located : IncludeSite.Located) (name : Text) : Nat → CheckedBounded Text
  | 0 => unchecked outOfSteps
  | steps + 1 => do
    if x.refuses chain name then throw (.includeCycle (chain ++ [name]))
    let parent ← match ← work (lastMarkerByOffset? text located.start) with
      | some marker => pure marker
      | none => do
        let front ← work (text.sliceTo located.start)
        let content ← work (text.slice located.start located.stop)
        throw (.template (chain.getLastD []) (.missingMarker (front.count '\n' + 1) content))
    match x.locate name with
    | none => return []
    | some path =>
      let fragment ← x.renderInByOffset chain name path (parent.stack ++ [parent.frame]) steps
      return spliced (.of chain.length located.call.dataPairs) fragment parent

end

/-- Whether expansion in place is expansion, with a number of steps. -/
structure InPlace (x : Expander) (steps : Nat) : Prop where
  render : ∀ chain name path stack, x.renderInByOffset chain name path stack steps =
    unchecked (x.renderIn chain name path stack steps)
  expand : ∀ chain {c : Cursor} {a b : Text}, c.text.Cuts c.pos a b →
    x.expandByOffset chain c steps = unchecked (x.expand chain a b steps)
  splice : ∀ chain {s a b : Text} {site : IncludeSite} {located : IncludeSite.Located} (name),
    located.call = site.call → s.Cuts located.start a (site.text ++ b) →
    s.Cuts located.stop (a ++ site.text) b →
      x.spliceByOffset chain s located name steps = unchecked (x.splice chain a site name steps)

namespace InPlace

variable {x : Expander} {steps : Nat}

theorem zero (x : Expander) : x.InPlace 0 where
  render _ _ _ _ := rfl
  expand _ _ _ _ _ := rfl
  splice _ _ _ _ _ _ _ _ _ _ := rfl

/-- Rendering by offsets with one step more is rendering, if expansion by offsets is expansion with
the steps that are left. -/
theorem render_succ (h : x.InPlace steps) (chain : List Text) (name path : Text)
    (stack : List Frame) : x.renderInByOffset chain name path stack (steps + 1) =
      unchecked (x.renderIn chain name path stack (steps + 1)) := by
  rw [renderInByOffset, renderIn, unchecked_bind]
  congr 1
  funext source
  rw [unchecked_bind]
  congr 1
  funext compiled
  exact h.expand _ (.start compiled)

/-- A step by offsets does what a step does: it finds the same call and puts the same replacement in
its place. -/
theorem expand_succ (h : x.InPlace steps) (chain : List Text) {c : Cursor} {a b : Text}
    (hpos : c.text.Cuts c.pos a b) : x.expandByOffset chain c (steps + 1) =
      unchecked (x.expand chain a b (steps + 1)) := by
  rw [expandByOffset, IncludeSite.findByOffset_of_cuts hpos, work_ok_bind]
  cases hfind : IncludeSite.find (Text.lastOr none a) b with
  | error e =>
    rw [expand_of_malformed hfind]
    rfl
  | ok found =>
    cases found with
    | none =>
      rw [expand_of_find_eq_none x chain hfind, ← hpos.text_eq]
      rfl
    | some site =>
      obtain ⟨hb, -⟩ := IncludeSite.find_spec hfind
      have hstart : c.text.Cuts (site.located c.pos).start (a ++ site.before)
          (site.text ++ site.rest) := (hb ▸ hpos).past
      have hstop : c.text.Cuts (site.located c.pos).stop (a ++ site.before ++ site.text)
          site.rest := hstart.past
      -- whatever is written for the call, expansion goes on in front of it
      have hgo : ∀ r : Text, (work (c.text.replaceRange (site.located c.pos).start
          (site.located c.pos).stop r) >>= fun text =>
            x.expandByOffset chain ⟨text, (site.located c.pos).start⟩ steps) =
          unchecked (x.expand chain (a ++ site.before) (r ++ site.rest) steps) := by
        intro r
        rw [hstart.replaceRange hstop, work_ok_bind, List.append_assoc]
        exact h.expand chain ⟨rfl, hstart.offset_eq⟩
      rw [Expander.expand_succ x chain hfind, unchecked_bind, replacement]
      simp only [← hgo]
      show (match site.call.target with
        | .dynamic _ => _
        | .literal name => _) = _
      cases site.call.target with
      | dynamic e => rfl
      | literal name =>
        dsimp only
        rw [← h.splice chain name rfl hstart hstop]

/-- A fragment is put in the place of a call by offsets as it is without them. -/
theorem splice_succ (h : x.InPlace steps) (chain : List Text) {s a b : Text} {site : IncludeSite}
    {located : IncludeSite.Located} (name : Text) (hcall : located.call = site.call)
    (hstart : s.Cuts located.start a (site.text ++ b))
    (hstop : s.Cuts located.stop (a ++ site.text) b) :
    x.spliceByOffset chain s located name (steps + 1) =
      unchecked (x.splice chain a site name (steps + 1)) := by
  rw [spliceByOffset, Expander.splice]
  by_cases hrefuses : x.refuses chain name = true
  · rw [if_pos hrefuses, if_pos hrefuses]
    rfl
  rw [if_neg hrefuses, if_neg hrefuses, hstart.lastMarkerByOffset?, parentOf]
  cases hmarker : lastMarker? a with
  | none =>
    rw [hstart.sliceTo, hstart.slice hstop]
    rfl
  | some parent =>
    show (match x.locate name with
      | none => _
      | some path => _) = unchecked (match x.locate name with
      | none => _
      | some path => _)
    cases x.locate name with
    | none => rfl
    | some path =>
      dsimp only
      rw [unchecked_bind, h.render, hcall]
      rfl

theorem succ (h : x.InPlace steps) : x.InPlace (steps + 1) where
  render := h.render_succ
  expand := h.expand_succ
  splice := h.splice_succ

end InPlace

/-- Expansion in place is expansion, by induction on the steps. -/
theorem inPlace (x : Expander) (steps : Nat) : x.InPlace steps := by
  induction steps with
  | zero => exact .zero x
  | succ steps ih => exact ih.succ

/-- The expanded code of a template, its calls replaced in place. -/
def renderByOffset (x : Expander) (steps : Nat) (name path : Text) (stack : List Frame) :
    CheckedBounded Text :=
  x.renderInByOffset [] name path stack steps

theorem renderByOffset_eq (x : Expander) (steps : Nat) (name path : Text) (stack : List Frame) :
    x.renderByOffset steps name path stack = unchecked (x.render steps name path stack) :=
  (x.inPlace steps).render [] name path stack

end Expander

/-! ## Every use of an offset -/

/-- **No offset is out of bounds**, whatever characters a text has. Unwrapping escapes, exposing
loops, splitting compiled code, leaving markers out, finding calls one behind another and replacing
them in place all use byte offsets to slice, to insert and to replace. Whenever one is used it cuts
the text as it stands then: it is not past the end, and not inside a character. The work comes to
what is done on the parts of the text. The two loops that go on in what they have written leave
fewer bytes behind the offset in every round, so that they end. -/
theorem no_offset_fault :
    (∀ s, Code.unwrapByOffset s = .ok (Code.unwrapEscapes s) ∧
      Descends Cursor.left Code.unwrapRound ⟨s, 0⟩) ∧
    (∀ loopType lines,
      CodeLine.exposeFromByOffset loopType {} lines =
        .ok (CodeLine.exposeFrom loopType {} lines) ∧
      ∀ (line : CodeLine) scopes, CodeLine.scopesBehind loopType {} lines = .ok scopes →
        Descends (·.left)
          (Code.loopRound loopType (.unboundLoopData line.marker.path line.marker.line))
          ⟨⟨Code.unwrapEscapes line.code, 0⟩, scopes⟩) ∧
    (∀ s, CodeLine.splitByOffset s = .ok (CodeLine.split s)) ∧
    (∀ s, stripByOffset s = .ok (stripMarkers s)) ∧
    (∀ s i, IncludeSite.Resumes s i →
      IncludeSite.findByOffset s i = .ok (IncludeSite.findFrom s i)) ∧
    ∀ (x : Expander) steps name path stack,
      x.renderByOffset steps name path stack =
        CheckedBounded.unchecked (x.render steps name path stack) := by
  refine ⟨fun s => ⟨Code.unwrapByOffset_eq s, ?_⟩, fun loopType lines => ⟨?_, ?_⟩,
    CodeLine.splitByOffset_eq, stripByOffset_eq, fun s i => IncludeSite.Resumes.findByOffset_eq,
    Expander.renderByOffset_eq⟩
  · exact Code.approaches_unwrapRound.descends ⟨[], s, .start s, rfl⟩
  · exact CodeLine.exposeFromByOffset_eq .init lines
  · intro line scopes hscopes
    have hpending := CodeLine.pendingBalanced_of_scopesBehind hscopes .init
    exact (Code.approaches_loopRound loopType _).descends (Code.exposing_start hpending _)

/-- A loop over characters of two bytes behind an assignment of one, and the second one of two calls
behind such a character. -/
theorem no_offset_fault_multibyte :
    let m : Marker := ⟨"a".toList, "/é".toList, 1, []⟩
    let assigned : CodeLine := ⟨m, "$__currentLoopData = ['é'];".toList⟩
    let loop : CodeLine := ⟨m, "foreach($__currentLoopData as $ü): echo e('é');".toList⟩
    let s := "é; echo $__env->make('ü')->render(); echo $__env->make($é)->render();".toList
    let call : IncludeSite.Located := ⟨4, 38, ⟨.literal "ü".toList, none, none⟩⟩
    CodeLine.exposeFromByOffset "Loop".toList {} [assigned, loop] = .ok ([assigned,
      ⟨m, "foreach(['é'] as $ü): /** @var Loop $loop */ echo 'é';".toList⟩], none) ∧
    (∃ scopes, CodeLine.scopesBehind "Loop".toList {} [assigned] = .ok scopes ∧
      Descends (·.left) (Code.loopRound "Loop".toList (.unboundLoopData m.path m.line))
        ⟨⟨Code.unwrapEscapes loop.code, 0⟩, scopes⟩) ∧
    IncludeSite.Resumes s call.stop ∧
    IncludeSite.findByOffset s call.stop = .ok (IncludeSite.findFrom s call.stop) := by
  intro m assigned loop s call
  obtain ⟨-, hloops, -, -, hcalls, -⟩ := no_offset_fault
  have hexpose : CodeLine.exposeFrom "Loop".toList {} [assigned, loop] = ([assigned,
      ⟨m, "foreach(['é'] as $ü): /** @var Loop $loop */ echo 'é';".toList⟩], none) := by
    decide +kernel
  have hscopes : CodeLine.scopesBehind "Loop".toList {} [assigned] =
      .ok { pending := some "['é']".toList } := by decide +kernel
  have hfind : IncludeSite.findFrom s 0 = .ok (some call) := by decide +kernel
  have hresumes : IncludeSite.Resumes s call.stop := .behind .start hfind
  refine ⟨?_, ⟨_, hscopes, ?_⟩, hresumes, hcalls s _ hresumes⟩
  · rw [(hloops _ _).1, hexpose]
  · exact (hloops _ _).2 loop _ hscopes

end TemplateTrace
