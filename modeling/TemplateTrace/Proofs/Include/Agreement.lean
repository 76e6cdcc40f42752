import TemplateTrace.Proofs.Include.Evaluation

/-!
# Expanders that agree

An expansion asks about the templates and names that it comes to and about no others. So two
expanders that answer alike there expand alike, step by step, however they differ elsewhere.

- `Expander.Agrees`: expanders that answer alike wherever an expansion comes to.
- `Expander.Agrees.run_eq`: they run alike with every number of steps.
- `Expander.Agrees.visits`, `Expander.Agrees.ends`: they come to the same stages and ends.
- `Expander.visits_of_no_call`: the stages of a template without calls.
-/

namespace TemplateTrace

open IncludeSite

namespace Expander

/-! ## Agreement -/

/-- Two expanders that answer alike wherever the first one comes to from a stage. -/
structure Agrees (x y : Expander) (start : Stage) : Prop where
  compile : y.compile = x.compile
  maxDepth : y.maxDepth = x.maxDepth
  source : ∀ chain name path stack, x.Visits start (.rendering chain name path stack) →
    y.source path = x.source path
  locate : ∀ chain done rest site name, x.Visits start (.expanding chain done rest) →
    find (Text.lastOr none done) rest = .ok (some site) → site.call.target = .literal name →
    y.locate name = x.locate name

/-- Without steps all expanders put the same in the place of a call. -/
theorem replacement_zero_eq (x y : Expander) (chain : List Text) (before : Text)
    (site : IncludeSite) :
    y.replacement chain before site 0 = x.replacement chain before site 0 := by
  unfold replacement
  cases site.call.target with
  | dynamic e => rfl
  | literal name => rfl

namespace Agrees

variable {x y : Expander} {start stage : Stage}

/-- Where two expanders agree about what is looked up, the same becomes of a call. -/
theorem fate_eq (h : x.Agrees y start) {chain : List Text} {done rest : Text} {site : IncludeSite}
    (hvisit : x.Visits start (.expanding chain done rest))
    (hfind : find (Text.lastOr none done) rest = .ok (some site)) (before : Text) :
    y.fate chain before site = x.fate chain before site := by
  unfold fate
  cases htarget : site.call.target with
  | dynamic e => rfl
  | literal name =>
    have hrefuses : y.refuses chain name = x.refuses chain name := by
      rw [refuses, refuses, h.maxDepth]
    dsimp only
    rw [h.locate _ _ _ _ _ hvisit hfind htarget, hrefuses]

/-- The same replaces a call for both, when the templates that are included run alike. -/
theorem replacement_eq (h : x.Agrees y start) {chain : List Text} {done rest : Text}
    {site : IncludeSite} (hvisit : x.Visits start (.expanding chain done rest))
    (hfind : find (Text.lastOr none done) rest = .ok (some site)) {steps : Nat}
    (hrun : ∀ s < steps, ∀ {stage : Stage}, x.Visits start stage → stage.run y s = stage.run x s) :
    y.replacement chain (done ++ site.before) site steps =
      x.replacement chain (done ++ site.before) site steps := by
  cases steps with
  | zero => exact replacement_zero_eq x y _ _ _
  | succ steps =>
    rw [replacement_succ, replacement_succ, h.fate_eq hvisit hfind]
    cases hfate : x.fate chain (done ++ site.before) site with
    | deleted => rfl
    | refused name => rfl
    | unmarked e => rfl
    | included name path parent =>
      have hfragment : y.renderIn chain name path (parent.stack ++ [parent.frame]) steps =
          x.renderIn chain name path (parent.stack ++ [parent.frame]) steps :=
        hrun steps (Nat.lt_succ_self _) (hvisit.next (.included hfind hfate))
      dsimp only
      rw [hfragment]

/-- Expanders that agree run alike, by induction on the number of steps. -/
theorem run_eq (h : x.Agrees y start) (steps : Nat) (hvisit : x.Visits start stage) :
    stage.run y steps = stage.run x steps := by
  induction steps using Nat.strongRecOn generalizing stage with
  | ind steps ih =>
    cases steps with
    | zero => cases stage <;> rfl
    | succ steps =>
      cases stage with
      | rendering chain name path stack =>
        have hsame := h.source _ _ _ _ hvisit
        show y.renderIn chain name path stack (steps + 1) =
          x.renderIn chain name path stack (steps + 1)
        cases hsource : x.source path with
        | error e => rw [renderIn_of_unread hsource, renderIn_of_unread (hsame.trans hsource)]
        | ok source =>
          cases hcompile : x.compile (tagLines source name path stack) with
          | error e =>
            rw [renderIn_of_uncompiled hsource hcompile,
              renderIn_of_uncompiled (hsame.trans hsource) (h.compile ▸ hcompile)]
          | ok compiled =>
            rw [renderIn_of_compiled hsource hcompile,
              renderIn_of_compiled (hsame.trans hsource) (h.compile ▸ hcompile)]
            exact ih steps (Nat.lt_succ_self _) (hvisit.next (.compiled hsource hcompile))
      | expanding chain done rest =>
        show y.expand chain done rest (steps + 1) = x.expand chain done rest (steps + 1)
        cases hfind : find (Text.lastOr none done) rest with
        | error e => rw [expand_of_malformed hfind, expand_of_malformed hfind]
        | ok found =>
          cases found with
          | none => rw [expand_of_find_eq_none y _ hfind, expand_of_find_eq_none x _ hfind]
          | some site =>
            rw [expand_succ y _ hfind, expand_succ x _ hfind,
              h.replacement_eq hvisit hfind fun s hs _ => ih s (Nat.lt_succ_of_lt hs)]
            -- behind the replacement both go on with the same text
            exact Bounded.bind_congr fun r hr =>
              ih steps (Nat.lt_succ_self _) (hvisit.replaced hfind hr)

theorem render_eq {name path : Text} {stack : List Frame}
    (h : x.Agrees y (.rendering [] name path stack)) (steps : Nat) :
    y.render steps name path stack = x.render steps name path stack :=
  h.run_eq steps .start

/-- A stage ends for both in the same way. -/
theorem ends (h : x.Agrees y start) (hvisit : x.Visits start stage)
    {r : Except AnalysisError Text} : y.Ends stage r ↔ x.Ends stage r := by
  rw [ends_iff_run, ends_iff_run]
  simp only [h.run_eq _ hvisit]

/-- The second expander comes to no other stages. -/
theorem visits (h : x.Agrees y start) (hvisit : y.Visits start stage) : x.Visits start stage := by
  induction hvisit with
  | start => exact .start
  | next _ hnext ih =>
    cases hnext with
    | compiled hsource hcompile =>
      exact ih.next (.compiled ((h.source _ _ _ _ ih).symm.trans hsource) (h.compile ▸ hcompile))
    | deleted hfind hfate =>
      exact ih.next (.deleted hfind ((h.fate_eq ih hfind _).symm.trans hfate))
    | included hfind hfate =>
      exact ih.next (.included hfind ((h.fate_eq ih hfind _).symm.trans hfate))
    | spliced hfind hfate hfragment =>
      have hfate' := (h.fate_eq ih hfind _).symm.trans hfate
      exact ih.next (.spliced hfind hfate'
        ((h.ends (ih.next (.included hfind hfate'))).1 hfragment))

end Agrees

/-- A template without calls is rendered, and searched once. -/
theorem visits_of_no_call {x : Expander} {name path source compiled : Text} {stack : List Frame}
    (hsource : x.source path = .ok source)
    (hcompile : x.compile (tagLines source name path stack) = .ok compiled)
    (hfind : find none compiled = .ok none) {stage : Stage}
    (hvisit : x.Visits (.rendering [] name path stack) stage) :
    stage = .rendering [] name path stack ∨ stage = .expanding [name] [] compiled := by
  induction hvisit with
  | start => exact .inl rfl
  | next _ hnext ih =>
    rcases ih with rfl | rfl
    · exact .inr (hnext.eq_of_compiled hsource hcompile)
    · exact absurd hfind hnext.find_ne_none

end Expander

end TemplateTrace
