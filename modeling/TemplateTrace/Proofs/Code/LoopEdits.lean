import TemplateTrace.Proofs.Code.Assigned
import TemplateTrace.Proofs.Code.Edits

/-!
# Loops exposed in place

Loops are exposed where they stand. The header of a template loop is written over its words, and the
bracket of the new header is looked for in the new text: it closes behind what was assigned, because
that was read as a statement and is balanced. Behind the `:` that ends the header the type of the
helper is inserted, and in front of the end of the loop the helper is unset.

- `Code.headerColon`: the `:` that ends a header, with what is found of it.
- `Code.assignByOffset`, `Code.templateLoopByOffset`, `Code.plainLoopByOffset`,
  `Code.endLoopByOffset`: what is done at an event. Each goes on behind what the event comes to.
- `Code.loopRound`, `Code.exposeLoopsByOffset`: one round, and the loop.
- `Code.Exposing`, `Code.approaches_loopRound`: what every round keeps.
- `CodeLine.exposeFromByOffset`: code lines one after another, with `CodeLine.scopesBehind`, the
  scopes in which a line is met.
-/

namespace TemplateTrace

namespace Code

variable {s a b t rest : Text} {i : Nat}

/-! ## Headers of loops -/

/-- The byte offset of the `:` that ends the header of a loop in the alternative notation, given
that of its opening bracket. -/
def headerColon (s : Text) (i : Nat) : Checked (Option Nat) := do
  match ← closing s i with
  | none => return none
  | some close =>
    let after ← s.sliceFrom (close + 1)
    let skipped := Text.bytes after - Text.bytes (Text.stripStart after)
    return if (Text.stripStart after).head? = some ':' then some (close + 1 + skipped) else none

/-- Where a header is not closed there is no colon to look for. -/
theorem headerColon_eq_none (hi : s.Cuts i a ('(' :: t)) (hopen : header? t = none) :
    headerColon s i = .ok none := by
  cases hclosed : enclosed? ('(' :: t) with
  | none =>
    simp only [headerColon, closing_eq_none hi hclosed, Checked.ok_bind, Checked.pure_eq]
  | some closed =>
    obtain ⟨inner, after⟩ := closed
    obtain ⟨rfl, close, hclosing, -, hbehind⟩ := exists_closing hi hclosed
    obtain ⟨-, -, -, hinner⟩ := enclosed?_iff.1 hclosed
    have hcolon : (Text.stripStart after).head? ≠ some ':' := by
      intro hcolon
      obtain ⟨u, hu, hafter⟩ := exists_blanks after
      obtain ⟨r, hr⟩ := List.head?_eq_some_iff.1 hcolon
      have hheader : header? (inner ++ ')' :: after) = some (inner ++ ')' :: (u ++ [':']), r) :=
        header?_iff.2 ⟨by rw [hafter, hr]; simp, inner, u, rfl, hinner, hu⟩
      cases hopen.symm.trans hheader
    simp only [headerColon, hclosing, hbehind.sliceFrom, Checked.ok_bind, Checked.pure_eq,
      if_neg hcolon]

/-- Behind a header that is closed the colon is found, at a place that cuts the text behind the
header. -/
theorem exists_headerColon {header behind : Text} (hi : s.Cuts i a ('(' :: t))
    (hheader : header? t = some (header, behind)) :
    ∃ colon, headerColon s i = .ok (some colon) ∧
      s.Cuts (colon + 1) (a ++ '(' :: header) behind := by
  obtain ⟨rfl, inner, u, rfl, hinner, hu⟩ := header?_iff.1 hheader
  have hclosed : enclosed? ('(' :: (inner ++ ')' :: (u ++ [':']) ++ behind)) =
      some (inner, u ++ ':' :: behind) :=
    enclosed?_iff.2 ⟨')', rfl, by simp, hinner⟩
  obtain ⟨-, close, hclosing, -, hafter⟩ := exists_closing hi hclosed
  have hstrip : Text.stripStart (u ++ ':' :: behind) = ':' :: behind :=
    Text.stripStart_append_cons hu (by decide) behind
  refine ⟨close + 1 + Text.bytes u, ?_, ?_⟩
  · have hskipped : Text.bytes (u ++ ':' :: behind) - Text.bytes (':' :: behind) =
        Text.bytes u := by
      rw [Text.bytes_append, Nat.add_sub_cancel]
    simp only [headerColon, hclosing, hafter.sliceFrom, Checked.ok_bind, Checked.pure_eq, hstrip,
      hskipped]
    rfl
  · simpa using hafter.past.next rfl

/-- A balanced text at its start is a part of the header. -/
theorem header?_append {x : Text} (hx : Balanced .group x) (t : Text) :
    header? (x ++ t) = (header? t).map fun (header, behind) => (x ++ header, behind) := by
  cases hheader : header? t with
  | some found =>
    obtain ⟨header, behind⟩ := found
    obtain ⟨rfl, inner, u, rfl, hinner, hu⟩ := header?_iff.1 hheader
    exact header?_iff.2 ⟨(List.append_assoc _ _ _).symm, x ++ inner, u,
      (List.append_assoc _ _ _).symm, hx.append hinner, hu⟩
  | none =>
    -- what follows the run that decides it does not depend on the balanced text
    have hsome : ∀ s : Text, (afterRun .group s).1 = (afterRun .group t).1 → header? s = none := by
      intro s hs
      unfold header? at hheader ⊢
      rw [hs]
      split
      next r hr =>
        rw [hr] at hheader
        split
        next r' hr' =>
          simp only [hr'] at hheader
          cases hheader
        · rfl
      · rfl
    exact hsome _ (hx.afterRun_append t)

section

variable {source : Text}

/-- The bracket of a template loop's header stands behind its word. -/
theorem loopOver_eq (source : Text) :
    loopOver source = "foreach".toList ++ '(' :: (source ++ " as".toList) := rfl

/-- The offset behind the word of a new loop head, at its bracket. -/
theorem cuts_loopOver (hi : i = Text.bytes a) (source rest : Text) :
    (a ++ loopOver source ++ rest).Cuts (i + Text.bytes "foreach".toList) (a ++ "foreach".toList)
      ('(' :: (source ++ " as".toList ++ rest)) := by
  have hfront : (a ++ loopOver source ++ rest).Cuts i a
      ("foreach".toList ++ '(' :: (source ++ " as".toList ++ rest)) := by
    refine ⟨?_, hi⟩
    rw [loopOver_eq, List.append_assoc, List.append_assoc, List.cons_append]
  exact hfront.past

/-- What a written header iterates is balanced, and so is what stands behind it up to `as`. -/
theorem header?_source_append (hbalanced : Balanced .group source) (rest : Text) :
    header? (source ++ " as".toList ++ rest) = (header? rest).map fun (header, behind) =>
      (source ++ " as".toList ++ header, behind) := by
  have has : Balanced .group " as".toList := .of_any (by decide)
  exact header?_append (hbalanced.append has) rest

/-- A written header ends at a `:` only if the header in the text did. -/
theorem headerColon_loopOver (hi : i = Text.bytes a) (hbalanced : Balanced .group source)
    (hheader : header? rest = none) :
    headerColon (a ++ loopOver source ++ rest) (i + Text.bytes "foreach".toList) = .ok none := by
  refine headerColon_eq_none (cuts_loopOver hi source rest) ?_
  rw [header?_source_append hbalanced, hheader]
  rfl

/-- A written header ends where the header in the text did. -/
theorem exists_headerColon_loopOver {header behind : Text} (hi : i = Text.bytes a)
    (hbalanced : Balanced .group source) (hheader : header? rest = some (header, behind)) :
    ∃ colon, headerColon (a ++ loopOver source ++ rest) (i + Text.bytes "foreach".toList) =
        .ok (some colon) ∧
      (a ++ loopOver source ++ rest).Cuts (colon + 1) (a ++ loopOver source ++ header) behind := by
  have hwhole := header?_source_append hbalanced rest
  rw [hheader] at hwhole
  obtain ⟨colon, hcolon, hbehind⟩ := exists_headerColon (cuts_loopOver hi source rest) hwhole
  refine ⟨colon, hcolon, ?_⟩
  rw [loopOver_eq source] at hbehind ⊢
  simpa only [List.append_assoc, List.cons_append] using hbehind

end

/-! ## Loops -/

namespace LoopEvent

/-- The text behind the match of an event. An assignment is matched with the character behind its
sign. -/
def behind : LoopEvent × Text → Text
  | (assign, rest) => rest.tail
  | (_, rest) => rest

/-- The words of an event. -/
def head : LoopEvent → Head
  | assign => [.word loopData, .blanks, .word "=".toList]
  | templateLoop => [.word "foreach".toList, .blanks, .word "(".toList, .blanks, .word loopData,
      .someBlanks, .word "as".toList]
  | plainLoop => [.word "foreach".toList, .blanks, .word "(".toList]
  | endLoop => [.word "endforeach".toList, .blanks, .word ";".toList]

/-- An event is seen where its words stand. -/
theorem rest?_of_at? {prev : Option Char} {event : LoopEvent}
    (h : at? prev s = some (event, rest)) : event.head.rest? s = some rest := by
  have hplain : at?.plain prev s = some (event, rest) → event.head.rest? s = some rest := by
    intro h
    unfold at?.plain at h
    split at h
    next hr =>
      cases h
      exact (Head.wordRest?_eq_some_iff.1 hr).2
    · obtain ⟨r, hr, heq⟩ := Option.map_eq_some_iff.1 h
      cases heq
      exact (Head.wordRest?_eq_some_iff.1 hr).2
  unfold at? at h
  split at h
  next hr =>
    split at h
    · cases h
    · cases h
      exact hr
  · cases h
  · split at h
    next hr =>
      split at h
      · cases h
        exact (Head.wordRest?_eq_some_iff.1 hr).2
      · exact hplain h
    · exact hplain h

/-- The words of an assignment end at its sign, which is the first one. -/
theorem exists_sign {prev : Option Char} {word : Text}
    (h : at? prev (word ++ rest) = some (assign, rest)) :
    ∃ u, word = u ++ ['='] ∧ '=' ∉ u := by
  obtain ⟨s₁, h₁, hrest⟩ := Option.bind_eq_some_iff.1 (rest?_of_at? h)
  obtain ⟨s₂, h₂, hrest⟩ := Option.bind_eq_some_iff.1 hrest
  obtain ⟨s₃, h₃, hrest⟩ := Option.bind_eq_some_iff.1 hrest
  obtain rfl := Option.some.inj hrest
  obtain rfl := Option.some.inj h₂
  obtain ⟨u, hu, hs₁⟩ := exists_blanks s₁
  rw [Text.after?_eq_some_iff.1 h₃] at hs₁
  refine ⟨loopData ++ u, ?_, ?_⟩
  · have hword : word ++ s₃ = loopData ++ u ++ ['='] ++ s₃ := by
      rw [Text.after?_eq_some_iff.1 h₁, hs₁]
      simp only [List.append_assoc]
      rfl
    exact List.append_cancel_right hword
  · rw [List.mem_append, not_or]
    refine ⟨by decide, fun hmem => ?_⟩
    cases hu _ hmem

/-- The words of a plain loop end at its bracket. -/
theorem exists_bracket {prev : Option Char} {word : Text}
    (h : at? prev (word ++ rest) = some (plainLoop, rest)) : ∃ u, word = u ++ ['('] := by
  obtain ⟨u, hu⟩ := Head.exists_append_word (h := [.word "foreach".toList, .blanks])
    (rest?_of_at? h)
  exact ⟨u, List.append_cancel_right (hu.trans (List.append_assoc _ _ _).symm)⟩

end LoopEvent

/-- Code whose loops are exposed in place, with the scopes at the offset. -/
structure LoopCursor extends Cursor where
  scopes : LoopScopes
  deriving DecidableEq, Repr

/-- Whether what is still to be iterated is balanced. -/
def LoopScopes.PendingBalanced (scopes : LoopScopes) : Prop :=
  ∀ source, scopes.pending = some source → Balanced .group source

theorem LoopScopes.PendingBalanced.init : ({} : LoopScopes).PendingBalanced := nofun

/-- Keeps the expression of an assignment in mind, and passes over it. -/
def assignByOffset (c : LoopCursor) (start stop : Nat) : Checked LoopCursor := do
  let found ← c.text.slice start stop
  let behindSign := match Text.offsetOf? ['='] found with
    | some i => start + i + 1
    | none => stop
  let rest ← c.text.sliceFrom behindSign
  let expression ← rest.sliceTo (statementLength rest)
  return { text := c.text, pos := behindSign + statementLength rest,
           scopes := { c.scopes with pending := some (Text.strip expression) } }

/-- Writes a template loop over `source`. An outermost one declares the type of its helper. -/
def templateLoopByOffset (loopType source : Text) (c : LoopCursor) (start stop : Nat) :
    Checked LoopCursor := do
  let text ← c.text.replaceRange start stop (loopOver source)
  let next : LoopCursor :=
    { text, pos := start + Text.bytes (loopOver source),
      scopes := { c.scopes with pending := none, opened := some source :: c.scopes.opened } }
  if c.scopes.inTemplateLoop then return next
  match ← headerColon text (start + Text.bytes "foreach".toList) with
  | none => return next
  | some colon =>
    let declaration := loopDeclaration loopType
    let text ← text.insertAt (colon + 1) declaration
    return { next with text, pos := colon + 1 + Text.bytes declaration }

/-- Passes over the start of a plain loop, which is open in the alternative notation only. -/
def plainLoopByOffset (c : LoopCursor) (stop : Nat) : Checked LoopCursor := do
  let opened := match ← headerColon c.text (← Text.offsetBefore stop) with
    | some _ => none :: c.scopes.opened
    | none => c.scopes.opened
  return { text := c.text, pos := stop, scopes := { c.scopes with opened } }

/-- Passes over the end of a loop. The helper is unset in front of that of the outermost template
loop. -/
def endLoopByOffset (c : LoopCursor) (start stop : Nat) : Checked LoopCursor := do
  let outer := { c.scopes with opened := c.scopes.opened.tail }
  if (c.scopes.opened.head?.bind id).isSome && !outer.inTemplateLoop then
    let text ← c.text.insertAt start loopUnset
    return { text, pos := stop + Text.bytes loopUnset, scopes := outer }
  else return { text := c.text, pos := stop, scopes := outer }

/-- One round of exposing: the next event at or behind the offset. -/
def loopRound (loopType : Text) (unbound : MapError) (c : LoopCursor) :
    Checked (Round LoopCursor (Except MapError (Text × LoopScopes))) := do
  match ← c.text.matchFrom LoopEvent.at? LoopEvent.behind c.pos with
  | none => return .done (.ok (c.text, c.scopes))
  | some ⟨start, stop, event, _⟩ =>
    match event with
    | .assign => return .again (← assignByOffset c start stop)
    | .templateLoop =>
      match c.scopes.pending with
      | none => return .done (.error unbound)
      | some source => return .again (← templateLoopByOffset loopType source c start stop)
    | .plainLoop => return .again (← plainLoopByOffset c stop)
    | .endLoop => return .again (← endLoopByOffset c start stop)

/-- A cursor behind what an event comes to. -/
structure LoopCursor.Behind (c : LoopCursor) (front : Text) (o : LoopOutcome) : Prop where
  cuts : c.text.Cuts c.pos (front ++ o.written) o.behind
  scopes_eq : c.scopes = o.scopes

section

variable {loopType word : Text} {c : LoopCursor} {start stop : Nat} {o : LoopOutcome}

/-- An assignment is taken by its offsets: the cursor that comes of it stands behind what the
outcome of the event has written. -/
theorem exists_assign {u : Text} {x : Char} {r : Text}
    (hstart : c.text.Cuts start a (u ++ ['='] ++ [x] ++ r))
    (hstop : c.text.Cuts stop (a ++ (u ++ ['='] ++ [x])) r) (hu : '=' ∉ u)
    (ho : LoopEvent.assign.outcome? loopType c.scopes (u ++ ['=']) (x :: r) = some o) :
    ∃ next, assignByOffset c start stop = .ok next ∧ next.Behind a o := by
  obtain rfl := Option.some.inj ho
  have hoffset : Text.offsetOf? ['='] (u ++ ['='] ++ [x]) = some (Text.bytes u) := by
    have hfirst : ¬ ['='] <:+: u ++ [] := by
      rwa [List.append_nil, List.singleton_infix_iff]
    rw [Text.offsetOf?, (Text.breakOn?_eq_some_iff (List.cons_ne_nil _ _)).2 ⟨rfl, hfirst⟩]
    rfl
  have hsign : c.text.Cuts (start + Text.bytes u + 1) (a ++ u ++ ['=']) (x :: r) := by
    have hu' : c.text.Cuts start a (u ++ ('=' :: x :: r)) := by simpa using hstart
    exact hu'.past.next rfl
  have hexpression : Text.Cuts (x :: r) (statementLength (x :: r)) (statement (x :: r)).1
      (statement (x :: r)).2 := ⟨(statement_append _).symm, rfl⟩
  refine ⟨⟨⟨c.text, start + Text.bytes u + 1 + statementLength (x :: r)⟩, _⟩, ?_, ?_, rfl⟩
  · simp only [assignByOffset, hstart.slice hstop, hoffset, hsign.sliceFrom, hexpression.sliceTo,
      Checked.ok_bind, Checked.pure_eq]
  · rw [hexpression.text_eq] at hsign
    simpa [statementLength] using hsign.past

/-- A template loop whose source is pending is written by its offsets: the cursor that comes of it
stands behind the outcome of the event. -/
theorem exists_templateLoop {source : Text} (hstart : c.text.Cuts start a (word ++ rest))
    (hstop : c.text.Cuts stop (a ++ word) rest) (hsource : c.scopes.pending = some source)
    (hbalanced : Balanced .group source)
    (ho : LoopEvent.templateLoop.outcome? loopType c.scopes word rest = some o) :
    ∃ next, templateLoopByOffset loopType source c start stop = .ok next ∧ next.Behind a o := by
  have hreplaced := hstart.replaceRange hstop (loopOver source)
  obtain ⟨source', hsource', hscopes, hcases⟩ := LoopEvent.outcome?_templateLoop_iff.1 ho
  obtain rfl := Option.some.inj (hsource.symm.trans hsource')
  rcases hcases with ⟨hwritten, hbehind, hinner⟩ | ⟨header, houter, hheader, hwritten⟩
  · -- only the source is written: the loop is an inner one, or has no header that ends
    refine ⟨⟨⟨a ++ loopOver source ++ rest, start + Text.bytes (loopOver source)⟩, _⟩, ?_, ?_,
      hscopes.symm⟩
    · cases hinside : c.scopes.inTemplateLoop with
      | true =>
        simp only [templateLoopByOffset, hreplaced, hinside, Checked.ok_bind, Checked.pure_eq,
          if_true]
      | false =>
        have hnone : header? rest = none := hinner.resolve_left (by rw [hinside]; decide)
        have hcolon := headerColon_loopOver hstart.offset_eq hbalanced hnone
        simp only [templateLoopByOffset, hreplaced, hinside, hcolon, Checked.ok_bind,
          Checked.pure_eq, Bool.false_eq_true, if_false]
    · rw [hwritten, hbehind]
      exact hstart.written (loopOver source) rest
  · -- the outermost loop: the declaration goes behind the colon that is found from the new head on
    obtain ⟨colon, hcolon, hbehind⟩ :=
      exists_headerColon_loopOver hstart.offset_eq hbalanced hheader
    refine ⟨⟨⟨a ++ loopOver source ++ header ++ loopDeclaration loopType ++ o.behind,
      colon + 1 + Text.bytes (loopDeclaration loopType)⟩, _⟩, ?_, ?_, hscopes.symm⟩
    · simp only [templateLoopByOffset, hreplaced, houter, hcolon, hbehind.insertAt,
        Checked.ok_bind, Checked.pure_eq, Bool.false_eq_true, if_false]
    · have hdeclared := hbehind.written (loopDeclaration loopType) o.behind
      rw [hwritten, ← List.append_assoc, ← List.append_assoc]
      exact hdeclared

/-- A loop of the host code is passed by its offsets: the cursor that comes of it stands behind the
outcome of the event. -/
theorem exists_plainLoop {u : Text} (hstop : c.text.Cuts stop (a ++ (u ++ ['('])) rest)
    (ho : LoopEvent.plainLoop.outcome? loopType c.scopes (u ++ ['(']) rest = some o) :
    ∃ next, plainLoopByOffset c stop = .ok next ∧ next.Behind a o := by
  obtain rfl := Option.some.inj ho
  obtain ⟨opening, hbefore, hbracket⟩ :=
    Text.Cuts.exists_offsetBefore (a := a ++ u) rfl (by rwa [List.append_assoc])
  refine ⟨⟨⟨c.text, stop⟩, _⟩, ?_, hstop, rfl⟩
  cases hheader : header? rest with
  | none =>
    simp only [plainLoopByOffset, hbefore, headerColon_eq_none hbracket hheader, Checked.ok_bind,
      Checked.pure_eq]
    rfl
  | some found =>
    obtain ⟨colon, hcolon, -⟩ := exists_headerColon hbracket hheader
    simp only [plainLoopByOffset, hbefore, hcolon, Checked.ok_bind, Checked.pure_eq]
    rfl

/-- The end of a loop is written by its offsets: the cursor that comes of it stands behind the
outcome of the event. -/
theorem exists_endLoop (hstart : c.text.Cuts start a (word ++ rest))
    (hstop : c.text.Cuts stop (a ++ word) rest)
    (ho : LoopEvent.endLoop.outcome? loopType c.scopes word rest = some o) :
    ∃ next, endLoopByOffset c start stop = .ok next ∧ next.Behind a o := by
  obtain rfl := Option.some.inj ho
  by_cases hcloses : ((c.scopes.opened.head?.bind id).isSome &&
      !({ c.scopes with opened := c.scopes.opened.tail } : LoopScopes).inTemplateLoop) = true
  · refine ⟨⟨⟨a ++ loopUnset ++ (word ++ rest), stop + Text.bytes loopUnset⟩, _⟩, ?_, ?_, rfl⟩
    · simp only [endLoopByOffset, hstart.insertAt, Checked.ok_bind, Checked.pure_eq, hcloses,
        if_true]
    · dsimp only
      rw [hcloses, if_pos rfl]
      constructor
      · simp only [List.append_assoc]
      · rw [hstop.offset_eq]
        simp only [Text.bytes_append]
        omega
  · refine ⟨⟨⟨c.text, stop⟩, _⟩, ?_, ?_, rfl⟩
    · simp only [endLoopByOffset, Checked.pure_eq, hcloses, if_false, Bool.false_eq_true]
    · dsimp only
      rw [if_neg hcloses]
      exact hstop

end

section

variable {loopType word before : Text} {unbound : MapError} {scopes : LoopScopes}
  {event : LoopEvent} {prev : Option Char}

/-- Exposing goes on behind what the first event comes to. -/
theorem exposeLoops_of_search
    (hsearch : Text.search LoopEvent.at? prev (before ++ (word ++ rest)) =
      some (before, event, rest)) :
    exposeLoops loopType unbound prev scopes (before ++ (word ++ rest)) =
      match event.outcome? loopType scopes word rest with
      | none => .error unbound
      | some o => (exposeLoops loopType unbound (Text.lastOr prev (before ++ o.written)) o.scopes
          o.behind).map fun (t, out) => (before ++ o.written ++ t, out) := by
  have hmade := Text.upTo_append_append before word rest
  have hword : Text.upTo ((before ++ (word ++ rest)).drop before.length) rest = word := by
    rw [List.drop_left, Text.upTo_append]
  rw [exposeLoops]
  split
  next hnone =>
    rw [hsearch] at hnone
    cases hnone
  next before' event' rest' hsome =>
    rw [hsearch] at hsome
    cases hsome
    cases event with
    | assign =>
      -- an assignment stays, with what was read of it
      dsimp only [LoopEvent.outcome?]
      rw [hmade, List.append_assoc]
    | templateLoop =>
      dsimp only [LoopEvent.outcome?]
      -- a template loop needs a pending source
      cases scopes.pending with
      | none => rfl
      | some source =>
        dsimp only [Option.map_some]
        rw [append_loopOver]
        cases hinside : scopes.inTemplateLoop with
        | true => rw [if_pos rfl]
        | false =>
          rw [if_neg Bool.false_ne_true]
          -- the header is read when the loop is the outermost one
          split
          next header behind hheader =>
            rw [hheader]
            simp only [List.append_assoc]
          next hheader => rw [hheader]
    | plainLoop =>
      dsimp only [LoopEvent.outcome?]
      rw [hmade]
    | endLoop =>
      dsimp only [LoopEvent.outcome?]
      split
      · rw [hword, List.append_assoc before]
      · rw [hmade, List.nil_append]

/-- What exposing comes to from a cursor on. -/
def Exposing (loopType : Text) (unbound : MapError) (c : LoopCursor)
    (answer : Except MapError (Text × LoopScopes)) : Prop :=
  c.scopes.PendingBalanced ∧
    ∃ a b, c.text.Cuts c.pos a b ∧
      answer = (exposeLoops loopType unbound (Text.lastOr none a) c.scopes b).map
        fun (t, out) => (a ++ t, out)

/-- What is kept in mind behind an event was read as a statement, or was kept in front of it. -/
theorem LoopScopes.PendingBalanced.outcome? {o : LoopOutcome} (h : scopes.PendingBalanced)
    (ho : event.outcome? loopType scopes word rest = some o) : o.scopes.PendingBalanced := by
  intro source hsource
  by_cases hevent : event = .assign
  · subst hevent
    obtain rfl := Option.some.inj ho
    obtain rfl := Option.some.inj hsource
    exact (balanced_statement rest).strip.inGroup
  · exact h source (LoopEvent.pending_of_outcome? ho hevent hsource)

end

/-- A round that meets an event goes on behind what the event comes to. -/
theorem exists_loopRound {loopType word before : Text} {unbound : MapError} {c : LoopCursor}
    {event : LoopEvent} {o : LoopOutcome} (hpos : c.text.Cuts c.pos a (before ++ (word ++ rest)))
    (hpending : c.scopes.PendingBalanced)
    (hsearch : Text.search LoopEvent.at? (Text.lastOr none a) (before ++ (word ++ rest)) =
      some (before, event, rest))
    (ho : event.outcome? loopType c.scopes word rest = some o) :
    ∃ next, loopRound loopType unbound c = .ok (.again next) ∧ next.Behind (a ++ before) o := by
  obtain ⟨t, ht, hevent⟩ := Text.search_eq_some_lastOr hsearch
  rw [← List.append_cancel_left ht] at hevent
  cases event with
  | assign =>
    obtain ⟨u, rfl, hu⟩ := LoopEvent.exists_sign hevent
    obtain ⟨x, r, rfl⟩ := List.ne_nil_iff_exists_cons.1 (LoopEvent.ne_nil_of_assign hevent)
    -- the match takes the character behind the sign
    have hx : before ++ (u ++ ['='] ++ x :: r) = before ++ (u ++ ['='] ++ [x] ++ r) := by simp
    rw [hx] at hpos hsearch
    obtain ⟨start, stop, hmatch, hstart, hstop⟩ :=
      hpos.exists_match LoopEvent.behind hsearch rfl
    obtain ⟨next, hnext, hbehind⟩ := exists_assign hstart hstop hu ho
    refine ⟨next, ?_, hbehind⟩
    simp only [loopRound, hmatch, hnext, Checked.ok_bind, Checked.pure_eq]
  | templateLoop =>
    obtain ⟨start, stop, hmatch, hstart, hstop⟩ :=
      hpos.exists_match LoopEvent.behind hsearch rfl
    obtain ⟨source, hsource, -⟩ := LoopEvent.outcome?_templateLoop_iff.1 ho
    obtain ⟨next, hnext, hbehind⟩ := exists_templateLoop hstart hstop hsource
      (hpending source hsource) ho
    refine ⟨next, ?_, hbehind⟩
    simp only [loopRound, hmatch, hsource, hnext, Checked.ok_bind, Checked.pure_eq]
  | plainLoop =>
    obtain ⟨u, rfl⟩ := LoopEvent.exists_bracket hevent
    obtain ⟨start, stop, hmatch, -, hstop⟩ :=
      hpos.exists_match LoopEvent.behind hsearch rfl
    obtain ⟨next, hnext, hbehind⟩ := exists_plainLoop hstop ho
    refine ⟨next, ?_, hbehind⟩
    simp only [loopRound, hmatch, hnext, Checked.ok_bind, Checked.pure_eq]
  | endLoop =>
    obtain ⟨start, stop, hmatch, hstart, hstop⟩ :=
      hpos.exists_match LoopEvent.behind hsearch rfl
    obtain ⟨next, hnext, hbehind⟩ := exists_endLoop hstart hstop ho
    refine ⟨next, ?_, hbehind⟩
    simp only [loopRound, hmatch, hnext, Checked.ok_bind, Checked.pure_eq]

/-- The rounds that expose loops by offsets approach the text that is exposed event by event: each
round takes the next event, and what is left behind it gets shorter. -/
theorem approaches_loopRound (loopType : Text) (unbound : MapError) :
    Approaches (·.left) (loopRound loopType unbound) (Exposing loopType unbound) := by
  rintro c _ ⟨hpending, a, b, hpos, rfl⟩
  cases hsearch : Text.search LoopEvent.at? (Text.lastOr none a) b with
  | none =>
    -- no event: what is left stays as it is
    left
    have hlast : exposeLoops loopType unbound (Text.lastOr none a) c.scopes b =
        .ok (b, c.scopes) := by
      rw [exposeLoops]
      split
      · rfl
      next hsome =>
        rw [hsearch] at hsome
        cases hsome
    simp only [loopRound, hpos.matchFrom_eq_none hsearch, Checked.ok_bind, Checked.pure_eq, hlast,
      Except.map, ← hpos.text_eq]
  | some found =>
    obtain ⟨before, event, rest⟩ := found
    obtain ⟨word, rfl⟩ := LoopEvent.exists_word_of_search hsearch
    rw [exposeLoops_of_search hsearch]
    cases ho : event.outcome? loopType c.scopes word rest with
    | none =>
      -- only a template loop can fail, for want of a source
      left
      cases event with
      | assign => cases ho
      | templateLoop =>
        obtain ⟨start, stop, hmatch, -⟩ :=
          hpos.exists_match LoopEvent.behind hsearch rfl
        simp only [loopRound, hmatch, Option.map_eq_none_iff.1 ho, Checked.ok_bind,
          Checked.pure_eq, Except.map]
      | plainLoop => cases ho
      | endLoop => cases ho
    | some o =>
      -- an event that is written: the cursor moves behind it, the scopes change, and the rest is
      -- exposed
      right
      obtain ⟨next, hround, hnext⟩ := exists_loopRound hpos hpending hsearch ho
      refine ⟨next, hround, ?_, ?_, _, _, hnext.cuts, ?_⟩
      · obtain ⟨passed, hpassed⟩ := LoopEvent.suffix_outcome? ho
        have hword : word ≠ [] := ne_nil_of_search hsearch
        show next.toCursor.left < c.toCursor.left
        rw [hpos.left, hnext.cuts.left, ← hpassed, ← List.append_assoc, ← List.append_assoc]
        exact Text.bytes_lt_append (by simp [hword]) o.behind
      · rw [hnext.scopes_eq]
        exact hpending.outcome? ho
      · dsimp only
        rw [hnext.scopes_eq, List.append_assoc, Text.lastOr_append]
        cases exposeLoops loopType unbound (Text.lastOr none (a ++ (before ++ o.written)))
            o.scopes o.behind with
        | error e => rfl
        | ok answer =>
          exact congrArg (fun t => Except.ok (t, answer.2)) (List.append_assoc a _ _).symm

/-- A code text with its loops exposed in place, from the given scopes on. -/
def exposeLoopsByOffset (loopType : Text) (unbound : MapError) (scopes : LoopScopes) (s : Text) :
    Checked (Except MapError (Text × LoopScopes)) :=
  Checked.loop (·.left) (loopRound loopType unbound) ⟨⟨s, 0⟩, scopes⟩

section

variable {loopType : Text} {unbound : MapError} {scopes out : LoopScopes}

/-- The work on a line starts in front of it, with the scopes of the lines above. -/
theorem exposing_start (hpending : scopes.PendingBalanced) (s : Text) :
    Exposing loopType unbound ⟨⟨s, 0⟩, scopes⟩
      (exposeLoops loopType unbound none scopes s) := by
  refine ⟨hpending, [], s, .start s, ?_⟩
  show _ = (exposeLoops loopType unbound none scopes s).map _
  cases exposeLoops loopType unbound none scopes s with
  | error e => rfl
  | ok answer => rfl

theorem exposeLoopsByOffset_eq (hpending : scopes.PendingBalanced) (s : Text) :
    exposeLoopsByOffset loopType unbound scopes s =
      .ok (exposeLoops loopType unbound none scopes s) :=
  (approaches_loopRound loopType unbound).loop_eq (exposing_start hpending s)

/-- A source that is pending is balanced behind every event: it was cut out of a statement at the
first bracket or semicolon that ends it. -/
theorem Exposes.pendingBalanced {prev : Option Char} {s t : Text}
    (h : Exposes loopType prev scopes s t out) (hpending : scopes.PendingBalanced) :
    out.PendingBalanced := by
  induction h with
  | rest => exact hpending
  | @assign _ _ _ _ _ rest _ _ _ ih =>
    refine ih fun source hsource => ?_
    obtain rfl := Option.some.inj hsource
    exact (balanced_statement rest).strip.inGroup
  | templateLoop _ _ _ _ ih => exact ih nofun
  | outerLoop _ _ _ _ _ ih => exact ih nofun
  | plainLoop _ _ ih => exact ih hpending
  | outerEnd _ _ _ _ ih => exact ih hpending
  | endLoop _ _ _ ih => exact ih hpending

end

end Code

/-! ## Code lines -/

namespace CodeLine

open Code

/-- The scopes behind code lines. -/
def scopesBehind (loopType : Text) (scopes : LoopScopes) (lines : List CodeLine) :
    Except MapError LoopScopes :=
  lines.foldlM (fun scopes line => (exposeLoops loopType (.unboundLoopData line.marker.path
    line.marker.line) none scopes (unwrapEscapes line.code)).map (·.2)) scopes

/-- The scopes behind some lines go through those behind the first one. -/
theorem scopesBehind_cons {loopType : Text} {scopes out : LoopScopes} {line : CodeLine}
    {lines : List CodeLine} (h : scopesBehind loopType scopes (line :: lines) = .ok out) :
    ∃ t between, exposeLoops loopType (.unboundLoopData line.marker.path line.marker.line) none
      scopes (unwrapEscapes line.code) = .ok (t, between) ∧
      scopesBehind loopType between lines = .ok out := by
  rw [scopesBehind, List.foldlM_cons] at h
  cases hexpose : exposeLoops loopType (.unboundLoopData line.marker.path line.marker.line) none
      scopes (unwrapEscapes line.code) with
  | error e =>
    rw [hexpose] at h
    cases h
  | ok answer =>
    rw [hexpose] at h
    exact ⟨answer.1, answer.2, rfl, h⟩

/-- A source that is pending behind some lines is balanced, by induction on the lines. -/
theorem pendingBalanced_of_scopesBehind {loopType : Text} {scopes out : LoopScopes}
    {lines : List CodeLine} (h : scopesBehind loopType scopes lines = .ok out)
    (hpending : scopes.PendingBalanced) : out.PendingBalanced := by
  induction lines generalizing scopes with
  | nil =>
    obtain rfl := Except.ok.inj h
    exact hpending
  | cons line lines ih =>
    obtain ⟨t, between, hexpose, hlines⟩ := scopesBehind_cons h
    exact ih hlines ((exposes_of_exposeLoops hexpose).pendingBalanced hpending)

/-- Exposes code lines in place, one after another. -/
def exposeFromByOffset (loopType : Text) (scopes : LoopScopes) :
    List CodeLine → Checked (List CodeLine × Option MapError)
  | [] => return ([], none)
  | line :: lines => do
    let code ← unwrapByOffset line.code
    let unbound := .unboundLoopData line.marker.path line.marker.line
    match ← exposeLoopsByOffset loopType unbound scopes code with
    | .error e => return ({ line with code } :: lines, some e)
    | .ok (code, scopes) =>
      let (lines, fault) ← exposeFromByOffset loopType scopes lines
      return ({ line with code } :: lines, fault)

/-- Exposing line after line by offsets is exposing line after line: the pending source is balanced
in front of every line. -/
theorem exposeFromByOffset_eq {loopType : Text} {scopes : LoopScopes}
    (hpending : scopes.PendingBalanced) (lines : List CodeLine) :
    exposeFromByOffset loopType scopes lines = .ok (exposeFrom loopType scopes lines) := by
  induction lines generalizing scopes with
  | nil => rfl
  | cons line lines ih =>
    rw [exposeFromByOffset, exposeFrom]
    simp only [unwrapByOffset_eq, exposeLoopsByOffset_eq hpending, Checked.ok_bind,
      Checked.pure_eq]
    cases hexpose : exposeLoops loopType (.unboundLoopData line.marker.path line.marker.line) none
        scopes (unwrapEscapes line.code) with
    | error e => rfl
    | ok answer =>
      obtain ⟨t, out⟩ := answer
      have hout := (exposes_of_exposeLoops hexpose).pendingBalanced hpending
      simp only [ih hout, Checked.ok_bind]

end CodeLine

end TemplateTrace
