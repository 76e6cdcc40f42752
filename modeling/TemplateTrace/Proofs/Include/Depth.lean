import TemplateTrace.Proofs.Code.Snippet
import TemplateTrace.Proofs.Include.Agreement

/-!
# The depth limit

The limit is read in one place: a call is refused when more templates are being expanded than it
allows. So two expanders that differ in the limit go through the same texts step by step, until the
one with the smaller limit refuses a call that the other one follows. A refusal ends the whole
expansion, so that an expansion which ends in a text has met none.

- `Expander.withMaxDepth`: an expander with another limit.
- `Expander.Follows`: a run that is another one, unless it was refused.
- `Expander.fate_follows`, `Expander.run_follows`: a call, and a run with any number of steps, under
  a smaller limit.
- `Expander.render_of_le_maxDepth`: a text that is rendered under a limit is rendered under every
  larger one.
-/

namespace TemplateTrace

open IncludeSite

namespace Expander

/-- An expander with another depth limit. -/
def withMaxDepth (x : Expander) (depth : Nat) : Expander := { x with maxDepth := depth }

variable {x : Expander} {depth depth' : Nat}

/-! ## Refused runs -/

/-- A run that is the same as another one, unless the guard ended it. -/
def Follows {α : Type} (r r' : Bounded α) : Prop :=
  r = r' ∨ ∃ chain, r = ended (.error (.includeCycle chain))

namespace Follows

variable {α β : Type} {r r' : Bounded α}

theorem refl (r : Bounded α) : Follows r r := .inl rfl

theorem refused (chain : List Text) (r' : Bounded α) :
    Follows (ended (.error (.includeCycle chain))) r' := .inr ⟨chain, rfl⟩

/-- What goes on behind a run is ended with it. -/
theorem bind (h : Follows r r') {f f' : α → Bounded β} (hf : ∀ a, Follows (f a) (f' a)) :
    Follows (r >>= f) (r' >>= f') := by
  rcases h with rfl | ⟨chain, rfl⟩
  · rcases bounded_cases r with rfl | ⟨e, rfl⟩ | ⟨a, rfl⟩
    · exact refl _
    · exact refl _
    · rw [bind_ended_ok, bind_ended_ok]
      exact hf a
  · rw [bind_ended_error]
    exact refused chain _

/-- A run that ends well was not refused. -/
theorem eq_ok (h : Follows r r') {a : α} (hok : r = ended (.ok a)) : r' = ended (.ok a) := by
  rcases h with rfl | ⟨chain, hchain⟩
  · exact hok
  · cases hchain.symm.trans hok

end Follows

/-! ## Under a smaller limit -/

/-- What is refused at a limit is refused at a lower one. -/
theorem refuses_of_le (hle : depth ≤ depth') {chain : List Text} {name : Text}
    (h : (x.withMaxDepth depth').refuses chain name = true) :
    (x.withMaxDepth depth).refuses chain name = true := by
  cases hfollowed : (x.withMaxDepth depth).refuses chain name with
  | true => rfl
  | false =>
    obtain ⟨hname, hshort⟩ := refuses_eq_false_iff.1 hfollowed
    have hfollowed' : (x.withMaxDepth depth').refuses chain name = false :=
      refuses_eq_false_iff.2 ⟨hname, Nat.le_trans hshort hle⟩
    rw [h] at hfollowed'
    cases hfollowed'

/-- A smaller limit changes what becomes of a call only by refusing it. -/
theorem fate_follows (x : Expander) (hle : depth ≤ depth') (chain : List Text) (before : Text)
    (site : IncludeSite) :
    (x.withMaxDepth depth).fate chain before site = (x.withMaxDepth depth').fate chain before site ∨
      ∃ name, (x.withMaxDepth depth).fate chain before site = .refused name := by
  unfold fate
  cases site.call.target with
  | dynamic e => exact .inl rfl
  | literal name =>
    dsimp only
    by_cases hrefuses : (x.withMaxDepth depth).refuses chain name = true
    · rw [if_pos hrefuses]
      exact .inr ⟨name, rfl⟩
    · have hrefuses' : ¬ (x.withMaxDepth depth').refuses chain name = true :=
        fun h => hrefuses (refuses_of_le hle h)
      rw [if_neg hrefuses, if_neg hrefuses']
      exact .inl rfl

/-- What replaces a call, when the templates that are included follow. -/
theorem replacement_follows (x : Expander) (hle : depth ≤ depth') (chain : List Text)
    (before : Text) (site : IncludeSite) (steps : Nat)
    (hrun : ∀ s < steps, ∀ stage : Stage,
      Follows (stage.run (x.withMaxDepth depth) s) (stage.run (x.withMaxDepth depth') s)) :
    Follows ((x.withMaxDepth depth).replacement chain before site steps)
      ((x.withMaxDepth depth').replacement chain before site steps) := by
  cases steps with
  | zero => exact .inl (replacement_zero_eq _ _ chain before site)
  | succ steps =>
    rw [replacement_succ, replacement_succ]
    rcases fate_follows x hle chain before site with hsame | ⟨name, hrefused⟩
    · rw [hsame]
      cases (x.withMaxDepth depth').fate chain before site with
      | deleted => exact .refl _
      | refused name => exact .refl _
      | unmarked e => exact .refl _
      | included name path parent =>
        have hinner := hrun steps (Nat.lt_succ_self _)
          (.rendering chain name path (parent.stack ++ [parent.frame]))
        exact hinner.bind fun fragment => .refl _
    · rw [hrefused]
      exact .refused _ _

/-- Under a smaller limit a stage runs as under a larger one, unless it is refused, by induction on
the number of steps. -/
theorem run_follows (x : Expander) (hle : depth ≤ depth') (steps : Nat) (stage : Stage) :
    Follows (stage.run (x.withMaxDepth depth) steps) (stage.run (x.withMaxDepth depth') steps) := by
  induction steps using Nat.strongRecOn generalizing stage with
  | ind steps ih =>
    cases steps with
    | zero => cases stage <;> exact .refl _
    | succ steps =>
      have hnext : ∀ stage : Stage, Follows (stage.run (x.withMaxDepth depth) steps)
          (stage.run (x.withMaxDepth depth') steps) := ih steps (Nat.lt_succ_self _)
      cases stage with
      | rendering chain name path stack =>
        show Follows ((x.withMaxDepth depth).renderIn chain name path stack (steps + 1))
          ((x.withMaxDepth depth').renderIn chain name path stack (steps + 1))
        rw [renderIn, renderIn]
        -- a rendering asks nothing of the limit, before it expands
        refine Follows.bind (.refl _) fun source => Follows.bind (.refl _) fun compiled => ?_
        exact hnext (.expanding (chain ++ [name]) [] compiled)
      | expanding chain done rest =>
        show Follows ((x.withMaxDepth depth).expand chain done rest (steps + 1))
          ((x.withMaxDepth depth').expand chain done rest (steps + 1))
        cases hfind : find (Text.lastOr none done) rest with
        | error e =>
          rw [expand_of_malformed hfind, expand_of_malformed hfind]
          exact .refl _
        | ok found =>
          cases found with
          | none =>
            rw [expand_of_find_eq_none _ chain hfind, expand_of_find_eq_none _ chain hfind]
            exact .refl _
          | some site =>
            rw [expand_succ _ chain hfind, expand_succ _ chain hfind]
            -- the limit is asked for the call, and the expansion goes on behind it
            have hreplaced := replacement_follows x hle chain (done ++ site.before) site steps
              fun s hs => ih s (Nat.lt_succ_of_lt hs)
            exact hreplaced.bind fun r =>
              hnext (.expanding chain (done ++ site.before) (r ++ site.rest))

/-- **Raising the depth limit never changes a result.** A template that is rendered to a text under
a limit is rendered to the same text, with the same number of steps, under every larger one. -/
theorem render_of_le_maxDepth (hle : depth ≤ depth') {steps : Nat} {name path text : Text}
    {stack : List Frame}
    (h : (x.withMaxDepth depth).render steps name path stack = ended (.ok text)) :
    (x.withMaxDepth depth').render steps name path stack = ended (.ok text) :=
  (run_follows x hle steps (.rendering [] name path stack)).eq_ok h

instance Bounded.decEq {α : Type} [DecidableEq α] : DecidableEq (Bounded α) :=
  inferInstanceAs (DecidableEq (Option (Except AnalysisError α)))

/-- A template that includes another one is refused under the limit 0, and is the same text under
the limits 1 and 7. -/
theorem render_nested_maxDepth :
    let a := "a".toList
    let code := "<?php echo $__env->make('b')->render(); ?>".toList
    let x : Expander :=
      { source := fun p => .ok (if p = a then code else "hello".toList)
        compile := .ok, locate := some, maxDepth := 0 }
    let outer : Marker := ⟨a, a, 1, []⟩
    let inner : Marker := ⟨"b".toList, "b".toList, 1, [outer.frame]⟩
    let text := outer.encode ++ "<?php ".toList ++
      enclosed [] (inner.encode ++ "hello".toList) outer [] ++ " ?>".toList
    (x.withMaxDepth 0).render 9 a a [] = ended (.error (.includeCycle [a, "b".toList])) ∧
      1 ≤ 7 ∧ (x.withMaxDepth 1).render 9 a a [] = ended (.ok text) ∧
      (x.withMaxDepth 7).render 9 a a [] = ended (.ok text) := by
  intro a code x outer inner text
  have hrefused : (x.withMaxDepth 0).render 9 a a [] =
      ended (.error (.includeCycle [a, "b".toList])) := by decide +kernel
  have hrendered : (x.withMaxDepth 1).render 9 a a [] = ended (.ok text) := by decide +kernel
  exact ⟨hrefused, by omega, hrendered, render_of_le_maxDepth (by omega) hrendered⟩

end Expander

end TemplateTrace
