import TemplateTrace.Proofs.Include.Site

/-!
# Expansion without a count of steps

The number of steps that expansion is given matters only when it runs out. What is left of a run is
a relation: a stage of the work, which is a template to be rendered or a text whose calls are to be
replaced, and how it ends. The relation is the run with enough steps, so that how a stage ends is
unique, and a stage with no end is one that never ends.

- `Expander.Fate`, `Expander.fate`: what becomes of a call, and `Expander.replacement_succ`,
  `Expander.replacement_cases`: what is put in its place.
- `Expander.Stage`, `Expander.Ends`: the stages of the work, and how they end.
- `Expander.ends_iff_run`: the relation is the run, and `Expander.Ends.unique`.
- `Expander.exists_run_of_included`: how a run goes on behind an included template.
- `Expander.Next`, `Expander.Visits`: the stages that expansion comes to.
- `Expander.OneCall`: those of a text whose only call includes a template without calls.
-/

namespace TemplateTrace

open IncludeSite

/-- A computation in two parts ends where its first part fails, or else where its second part ends.
-/
theorem Bounded.bind_eq_ended_iff {α β : Type} {x : Bounded α} {f : α → Bounded β}
    {r : Except AnalysisError β} :
    (x >>= f) = Expander.ended r ↔ (∃ e, x = Expander.ended (.error e) ∧ r = .error e) ∨
      ∃ a, x = Expander.ended (.ok a) ∧ f a = Expander.ended r := by
  match x with
  | none =>
    constructor
    · intro h
      cases h
    · rintro (⟨e, h, -⟩ | ⟨a, h, -⟩)
      · cases h
      · cases h
  | some (.error e) =>
    constructor
    · exact fun h => .inl ⟨e, rfl, (Option.some.inj h).symm⟩
    · rintro (⟨e', h, rfl⟩ | ⟨a, h, -⟩)
      · obtain rfl : e = e' := Except.error.inj (Option.some.inj h)
        rfl
      · cases h
  | some (.ok a) =>
    constructor
    · exact fun h => .inr ⟨a, rfl, h⟩
    · rintro (⟨e, h, -⟩ | ⟨a', h, h'⟩)
      · cases h
      · obtain rfl : a = a' := Except.ok.inj (Option.some.inj h)
        exact h'

/-- Runs that go on alike from whatever a run comes to are the same. -/
theorem Bounded.bind_congr {α β : Type} {x : Bounded α} {f g : α → Bounded β}
    (h : ∀ a, x = Expander.ended (.ok a) → f a = g a) : (x >>= f) = (x >>= g) := by
  match x with
  | none => rfl
  | some (.error e) => rfl
  | some (.ok a) => exact h a rfl

namespace Expander

/-! ## Equations of a run -/

theorem bind_ended_ok {α β : Type} (a : α) (f : α → Bounded β) : (ended (.ok a) >>= f) = f a := rfl

theorem bind_ended_error {α β : Type} (e : AnalysisError) (f : α → Bounded β) :
    (ended (.error e) >>= f) = ended (.error e) := rfl

theorem bounded_cases {α : Type} (b : Bounded α) :
    b = outOfSteps ∨ (∃ e, b = ended (.error e)) ∨ ∃ a, b = ended (.ok a) :=
  match b with
  | none => .inl rfl
  | some (.error e) => .inr (.inl ⟨e, rfl⟩)
  | some (.ok a) => .inr (.inr ⟨a, rfl⟩)

section

variable {x : Expander} {chain : List Text} {name path done rest : Text} {stack : List Frame}

theorem renderIn_of_unread {e : FileError} (hsource : x.source path = .error e) (steps : Nat) :
    x.renderIn chain name path stack (steps + 1) = ended (.error (.io path e)) := by
  rw [renderIn, hsource]
  rfl

/-- An error of the compiler ends a rendering. -/
theorem renderIn_of_uncompiled {source : Text} {e : CommandError}
    (hsource : x.source path = .ok source)
    (hcompile : x.compile (tagLines source name path stack) = .error e) (steps : Nat) :
    x.renderIn chain name path stack (steps + 1) = ended (.error (.compiler name e)) := by
  rw [renderIn, hsource]
  show (ended ((x.compile (tagLines source name path stack)).mapError _) >>= _) = _
  rw [hcompile]
  rfl

/-- Rendering goes on as the expansion of what the compiler returns. -/
theorem renderIn_of_compiled {source compiled : Text} (hsource : x.source path = .ok source)
    (hcompile : x.compile (tagLines source name path stack) = .ok compiled) (steps : Nat) :
    x.renderIn chain name path stack (steps + 1) =
      x.expand (chain ++ [name]) [] compiled steps := by
  rw [renderIn, hsource]
  show (ended ((x.compile (tagLines source name path stack)).mapError _) >>= _) = _
  rw [hcompile]
  rfl

theorem expand_of_malformed {e : MapError}
    (hfind : find (Text.lastOr none done) rest = .error e) (steps : Nat) :
    x.expand chain done rest (steps + 1) = ended (.error (.template (chain.getLastD []) e)) := by
  rw [expand, hfind]
  rfl

end

/-! ## What becomes of a call -/

/-- What becomes of a call. -/
inductive Fate where
  /-- Nothing is put in its place. -/
  | deleted
  /-- The template would be included in itself, or too deep. -/
  | refused (name : Text)
  /-- No marker governs the call. -/
  | unmarked (cause : AnalysisError)
  /-- The template is rendered at the position of the marker that governs the call. -/
  | included (name path : Text) (parent : Marker)
  deriving DecidableEq, Repr

/-- What becomes of a call behind a text. -/
def fate (x : Expander) (chain : List Text) (before : Text) (site : IncludeSite) : Fate :=
  match site.call.target with
  | .dynamic _ => .deleted
  | .literal name =>
    if x.refuses chain name then .refused name
    else match parentOf chain before site.text with
      | .error e => .unmarked e
      | .ok parent =>
        match x.locate name with
        | none => .deleted
        | some path => .included name path parent

variable {x : Expander} {chain : List Text} {before done rest : Text} {site : IncludeSite}

theorem refuses_eq_false_iff {name : Text} :
    x.refuses chain name = false ↔ name ∉ chain ∧ chain.length ≤ x.maxDepth := by
  rw [refuses, Bool.or_eq_false_iff, decide_eq_false_iff_not, Nat.not_lt, ← Bool.not_eq_true,
    List.contains_iff_mem]

/-- What is put in the place of a call, by what becomes of the call. -/
theorem replacement_succ (x : Expander) (chain : List Text) (before : Text) (site : IncludeSite)
    (steps : Nat) :
    x.replacement chain before site (steps + 1) =
      match x.fate chain before site with
      | .deleted => ended (.ok [])
      | .refused name => ended (.error (.includeCycle (chain ++ [name])))
      | .unmarked e => ended (.error e)
      | .included name path parent =>
        x.renderIn chain name path (parent.stack ++ [parent.frame]) steps >>= fun fragment =>
          ended (.ok (spliced (.of chain.length site.call.dataPairs) fragment parent)) := by
  unfold replacement fate
  cases site.call.target with
  | dynamic e => rfl
  | literal name =>
    dsimp only
    rw [splice]
    split
    · rfl
    · cases parentOf chain before site.text with
      | error e => rfl
      | ok parent =>
        cases x.locate name with
        | none => rfl
        | some path => rfl

/-- Without steps only the call of an unknown template is done with. -/
theorem replacement_zero {r : Except AnalysisError Text}
    (h : x.replacement chain before site 0 = ended r) :
    x.fate chain before site = .deleted ∧ r = .ok [] := by
  unfold replacement at h
  unfold fate
  cases htarget : site.call.target with
  | dynamic e =>
    rw [htarget] at h
    exact ⟨rfl, (Option.some.inj h).symm⟩
  | literal name =>
    rw [htarget] at h
    cases h

/-- A replacement that is made, by what becomes of the call. A template that is included takes
fewer steps. -/
theorem replacement_cases {steps : Nat} {r : Except AnalysisError Text}
    (h : x.replacement chain before site steps = ended r) :
    (x.fate chain before site = .deleted ∧ r = .ok []) ∨
    (∃ name, x.fate chain before site = .refused name ∧
      r = .error (.includeCycle (chain ++ [name]))) ∨
    (∃ e, x.fate chain before site = .unmarked e ∧ r = .error e) ∨
    ∃ name path parent, x.fate chain before site = .included name path parent ∧
      ∃ s < steps, ∃ r', x.renderIn chain name path (parent.stack ++ [parent.frame]) s = ended r' ∧
        r = r'.map (spliced (.of chain.length site.call.dataPairs) · parent) := by
  cases steps with
  | zero => exact .inl (replacement_zero h)
  | succ steps =>
    rw [replacement_succ] at h
    cases hfate : x.fate chain before site with
    | deleted =>
      rw [hfate] at h
      exact .inl ⟨rfl, (Option.some.inj h).symm⟩
    | refused name =>
      rw [hfate] at h
      exact .inr (.inl ⟨name, rfl, (Option.some.inj h).symm⟩)
    | unmarked e =>
      rw [hfate] at h
      exact .inr (.inr (.inl ⟨e, rfl, (Option.some.inj h).symm⟩))
    | included name path parent =>
      rw [hfate] at h
      refine .inr (.inr (.inr ⟨name, path, parent, rfl, steps, Nat.lt_succ_self _, ?_⟩))
      rcases Bounded.bind_eq_ended_iff.1 h with ⟨e, hr, rfl⟩ | ⟨fragment, hr, h⟩
      · exact ⟨.error e, hr, rfl⟩
      · exact ⟨.ok fragment, hr, (Option.some.inj h).symm⟩

/-- A replacement that succeeds: nothing, or the rendered target, led back by the marker that
governs the call. -/
theorem replacement_eq_ok {steps : Nat} {r : Text}
    (h : x.replacement chain before site steps = ended (.ok r)) :
    (x.fate chain before site = .deleted ∧ r = []) ∨
    ∃ name path parent, x.fate chain before site = .included name path parent ∧
      ∃ s < steps, ∃ fragment,
        x.renderIn chain name path (parent.stack ++ [parent.frame]) s = ended (.ok fragment) ∧
        r = spliced (.of chain.length site.call.dataPairs) fragment parent := by
  rcases replacement_cases h with ⟨hfate, heq⟩ | ⟨name, -, heq⟩ | ⟨e, -, heq⟩ |
    ⟨name, path, parent, hfate, s, hs, r', hrun, heq⟩
  · exact .inl ⟨hfate, Except.ok.inj heq⟩
  · cases heq
  · cases heq
  · cases r' with
    | error e => cases heq
    | ok fragment =>
      exact .inr ⟨name, path, parent, hfate, s, hs, fragment, hrun, Except.ok.inj heq⟩

/-- The marker that governs an included call, and where its template is. -/
theorem included_spec {name path : Text} {parent : Marker}
    (h : x.fate chain before site = .included name path parent) :
    site.call.target = .literal name ∧ x.refuses chain name = false ∧
      lastMarker? before = some parent ∧ x.locate name = some path := by
  unfold fate at h
  split at h
  · cases h
  next name' htarget =>
    split at h
    · cases h
    next hrefuses =>
      split at h
      · cases h
      next parent' hparent =>
        split at h
        · cases h
        next path' hpath =>
          obtain ⟨rfl, rfl, rfl⟩ := Fate.included.inj h
          exact ⟨htarget, by simpa using hrefuses, parentOf_eq_ok hparent, hpath⟩

/-- A call is included if the guard lets it through, a marker stands above it and its file is found.
-/
theorem fate_eq_included {name path : Text} {parent : Marker}
    (htarget : site.call.target = .literal name) (hrefuses : x.refuses chain name = false)
    (hparent : lastMarker? before = some parent) (hpath : x.locate name = some path) :
    x.fate chain before site = .included name path parent := by
  unfold fate parentOf
  rw [htarget]
  dsimp only
  rw [hrefuses, hparent, hpath]
  rfl

/-- A call that is refused names a template, and the guard refuses it. -/
theorem refused_spec {name : Text} (h : x.fate chain before site = .refused name) :
    site.call.target = .literal name ∧ x.refuses chain name = true := by
  unfold fate at h
  split at h
  · cases h
  next name' htarget =>
    split at h
    next hrefuses =>
      obtain rfl := Fate.refused.inj h
      exact ⟨htarget, hrefuses⟩
    · split at h
      · cases h
      · split at h
        · cases h
        · cases h

/-- A call without a marker is a fault of the template that is being expanded. -/
theorem unmarked_spec {e : AnalysisError} (h : x.fate chain before site = .unmarked e) :
    ∃ cause, e = .template (chain.getLastD []) cause := by
  unfold fate at h
  split at h
  · cases h
  · split at h
    · cases h
    · split at h
      next e' hparent =>
        obtain rfl := Fate.unmarked.inj h
        unfold parentOf at hparent
        split at hparent
        · cases hparent
        · exact ⟨_, (Except.error.inj hparent).symm⟩
      · split at h
        · cases h
        · cases h

/-- A call is deleted when its template is unknown or cannot be found. -/
theorem deleted_spec (h : x.fate chain before site = .deleted) :
    (∃ e, site.call.target = .dynamic e) ∨
      ∃ name, site.call.target = .literal name ∧ x.locate name = none := by
  unfold fate at h
  split at h
  next e htarget => exact .inl ⟨e, htarget⟩
  next name htarget =>
    split at h
    · cases h
    · split at h
      · cases h
      · split at h
        next hpath => exact .inr ⟨name, htarget, hpath⟩
        · cases h

/-! ## How a stage ends -/

/-- A stage of the work: a template to be rendered, or a text whose calls are to be replaced. -/
inductive Stage where
  | rendering (chain : List Text) (name path : Text) (stack : List Frame)
  | expanding (chain : List Text) (done rest : Text)

/-- The run of a stage. -/
def Stage.run (x : Expander) : Stage → Nat → Bounded Text
  | rendering chain name path stack => x.renderIn chain name path stack
  | expanding chain done rest => x.expand chain done rest

/-- How a stage ends, whatever number of steps it takes. -/
inductive Ends (x : Expander) : Stage → Except AnalysisError Text → Prop where
  | unread {chain : List Text} {name path : Text} {stack : List Frame} {e : FileError}
      (hsource : x.source path = .error e) :
      Ends x (.rendering chain name path stack) (.error (.io path e))
  | uncompiled {chain : List Text} {name path source : Text} {stack : List Frame}
      {e : CommandError} (hsource : x.source path = .ok source)
      (hcompile : x.compile (tagLines source name path stack) = .error e) :
      Ends x (.rendering chain name path stack) (.error (.compiler name e))
  | compiled {chain : List Text} {name path source compiled : Text} {stack : List Frame}
      {r : Except AnalysisError Text} (hsource : x.source path = .ok source)
      (hcompile : x.compile (tagLines source name path stack) = .ok compiled)
      (h : Ends x (.expanding (chain ++ [name]) [] compiled) r) :
      Ends x (.rendering chain name path stack) r
  | malformed {chain : List Text} {done rest : Text} {e : MapError}
      (hfind : find (Text.lastOr none done) rest = .error e) :
      Ends x (.expanding chain done rest) (.error (.template (chain.getLastD []) e))
  | complete {chain : List Text} {done rest : Text}
      (hfind : find (Text.lastOr none done) rest = .ok none) :
      Ends x (.expanding chain done rest) (.ok (done ++ rest))
  | refused {chain : List Text} {done rest name : Text} {site : IncludeSite}
      (hfind : find (Text.lastOr none done) rest = .ok (some site))
      (hfate : x.fate chain (done ++ site.before) site = .refused name) :
      Ends x (.expanding chain done rest) (.error (.includeCycle (chain ++ [name])))
  | unmarked {chain : List Text} {done rest : Text} {site : IncludeSite} {e : AnalysisError}
      (hfind : find (Text.lastOr none done) rest = .ok (some site))
      (hfate : x.fate chain (done ++ site.before) site = .unmarked e) :
      Ends x (.expanding chain done rest) (.error e)
  | deleted {chain : List Text} {done rest : Text} {site : IncludeSite}
      {r : Except AnalysisError Text}
      (hfind : find (Text.lastOr none done) rest = .ok (some site))
      (hfate : x.fate chain (done ++ site.before) site = .deleted)
      (h : Ends x (.expanding chain (done ++ site.before) site.rest) r) :
      Ends x (.expanding chain done rest) r
  | failed {chain : List Text} {done rest name path : Text} {site : IncludeSite} {parent : Marker}
      {e : AnalysisError}
      (hfind : find (Text.lastOr none done) rest = .ok (some site))
      (hfate : x.fate chain (done ++ site.before) site = .included name path parent)
      (h : Ends x (.rendering chain name path (parent.stack ++ [parent.frame])) (.error e)) :
      Ends x (.expanding chain done rest) (.error e)
  | spliced {chain : List Text} {done rest name path fragment : Text} {site : IncludeSite}
      {parent : Marker} {r : Except AnalysisError Text}
      (hfind : find (Text.lastOr none done) rest = .ok (some site))
      (hfate : x.fate chain (done ++ site.before) site = .included name path parent)
      (hfragment : Ends x (.rendering chain name path (parent.stack ++ [parent.frame]))
        (.ok fragment))
      (h : Ends x (.expanding chain (done ++ site.before)
        (spliced (.of chain.length site.call.dataPairs) fragment parent ++ site.rest)) r) :
      Ends x (.expanding chain done rest) r

/-! ### Enough steps -/

/-- What holds from a number of steps on holds one step later from the next number on. -/
theorem forall_le_succ {p : Nat → Prop} {k : Nat} (h : ∀ steps ≥ k, p (steps + 1)) :
    ∀ steps ≥ k + 1, p steps := by
  intro steps hle
  obtain ⟨steps, rfl⟩ : ∃ s, steps = s + 1 := ⟨steps - 1, by omega⟩
  exact h steps (Nat.le_of_succ_le_succ hle)

/-- A stage that ends does so with any number of steps that is large enough. -/
theorem exists_run_of_ends {stage : Stage} {r : Except AnalysisError Text}
    (h : x.Ends stage r) : ∃ k, ∀ steps ≥ k, stage.run x steps = ended r := by
  induction h with
  | unread hsource => exact ⟨1, forall_le_succ fun steps _ => renderIn_of_unread hsource steps⟩
  | uncompiled hsource hcompile =>
    exact ⟨1, forall_le_succ fun steps _ => renderIn_of_uncompiled hsource hcompile steps⟩
  | compiled hsource hcompile _ ih =>
    obtain ⟨k, hk⟩ := ih
    refine ⟨k + 1, forall_le_succ fun steps hle => ?_⟩
    exact (renderIn_of_compiled hsource hcompile steps).trans (hk steps hle)
  | malformed hfind => exact ⟨1, forall_le_succ fun steps _ => expand_of_malformed hfind steps⟩
  | complete hfind =>
    exact ⟨1, forall_le_succ fun steps _ => expand_of_find_eq_none x _ hfind steps⟩
  | refused hfind hfate =>
    -- one step for the call, and one for what replaces it
    refine ⟨2, forall_le_succ (forall_le_succ fun steps _ => ?_)⟩
    show x.expand _ _ _ _ = _
    rw [expand_succ x _ hfind, replacement_succ, hfate]
    rfl
  | unmarked hfind hfate =>
    refine ⟨2, forall_le_succ (forall_le_succ fun steps _ => ?_)⟩
    show x.expand _ _ _ _ = _
    rw [expand_succ x _ hfind, replacement_succ, hfate]
    rfl
  | deleted hfind hfate _ ih =>
    obtain ⟨k, hk⟩ := ih
    refine ⟨k + 2, forall_le_succ (forall_le_succ fun steps hle => ?_)⟩
    show x.expand _ _ _ _ = _
    rw [expand_succ x _ hfind, replacement_succ, hfate]
    exact hk (steps + 1) (Nat.le_succ_of_le hle)
  | failed hfind hfate _ ih =>
    obtain ⟨k, hk⟩ := ih
    refine ⟨k + 2, forall_le_succ (forall_le_succ fun steps hle => ?_)⟩
    have hfragment : x.renderIn _ _ _ _ steps = _ := hk steps hle
    show x.expand _ _ _ _ = _
    rw [expand_succ x _ hfind, replacement_succ, hfate]
    dsimp only
    rw [hfragment]
    rfl
  | spliced hfind hfate _ _ ihfragment ih =>
    obtain ⟨k, hk⟩ := ihfragment
    obtain ⟨l, hl⟩ := ih
    refine ⟨k + l + 2, forall_le_succ (forall_le_succ fun steps hle => ?_)⟩
    have hfragment : x.renderIn _ _ _ _ steps = _ := hk steps (by omega)
    show x.expand _ _ _ _ = _
    rw [expand_succ x _ hfind, replacement_succ, hfate]
    dsimp only
    rw [hfragment]
    exact hl (steps + 1) (by omega)

/-- A template's run that does not use up its steps is its end, when that holds of what it goes on
with. -/
theorem ends_of_renderIn {name path : Text} {stack : List Frame} {steps : Nat}
    {r : Except AnalysisError Text}
    (ih : ∀ {compiled}, x.expand (chain ++ [name]) [] compiled steps = ended r →
      x.Ends (.expanding (chain ++ [name]) [] compiled) r)
    (h : x.renderIn chain name path stack (steps + 1) = ended r) :
    x.Ends (.rendering chain name path stack) r := by
  cases hsource : x.source path with
  | error e =>
    rw [renderIn_of_unread hsource] at h
    obtain rfl : _ = r := Option.some.inj h
    exact .unread hsource
  | ok source =>
    cases hcompile : x.compile (tagLines source name path stack) with
    | error e =>
      rw [renderIn_of_uncompiled hsource hcompile] at h
      obtain rfl : _ = r := Option.some.inj h
      exact .uncompiled hsource hcompile
    | ok compiled =>
      rw [renderIn_of_compiled hsource hcompile] at h
      exact .compiled hsource hcompile (ih h)

/-- The same of a text whose calls are replaced, call by call. -/
theorem ends_of_expand {steps : Nat} {r : Except AnalysisError Text}
    (ih : ∀ s < steps + 1, ∀ {stage : Stage} {r : Except AnalysisError Text},
      stage.run x s = ended r → x.Ends stage r)
    (h : x.expand chain done rest (steps + 1) = ended r) :
    x.Ends (.expanding chain done rest) r := by
  cases hfind : find (Text.lastOr none done) rest with
  | error e =>
    rw [expand_of_malformed hfind] at h
    obtain rfl : _ = r := Option.some.inj h
    exact .malformed hfind
  | ok found =>
    cases found with
    | none =>
      rw [expand_of_find_eq_none x chain hfind] at h
      obtain rfl : _ = r := Option.some.inj h
      exact .complete hfind
    | some site =>
      rw [expand_succ x chain hfind] at h
      rcases Bounded.bind_eq_ended_iff.1 h with ⟨e, hr, rfl⟩ | ⟨t, hr, h⟩
      · -- the error is that of the call, or of the fragment
        rcases replacement_cases hr with ⟨-, heq⟩ | ⟨name, hfate, heq⟩ | ⟨e', hfate, heq⟩ |
          ⟨name, path, parent, hfate, s, hs, r', hrun, heq⟩
        · cases heq
        · cases heq
          exact .refused hfind hfate
        · cases heq
          exact .unmarked hfind hfate
        · cases r' with
          | error e' =>
            cases heq
            exact .failed hfind hfate (ih s (Nat.lt_succ_of_lt hs) hrun)
          | ok fragment => cases heq
      · -- whatever stands in the place of the call, the run behind it has fewer steps
        have hnext : x.Ends (.expanding chain (done ++ site.before) (t ++ site.rest)) r :=
          ih steps (Nat.lt_succ_self _) h
        rcases replacement_eq_ok hr with ⟨hfate, rfl⟩ |
          ⟨name, path, parent, hfate, s, hs, fragment, hrun, rfl⟩
        · exact .deleted hfind hfate hnext
        · exact .spliced hfind hfate (ih s (Nat.lt_succ_of_lt hs) hrun) hnext

/-- A run that does not use up its steps is the end of the stage. -/
theorem ends_of_run {stage : Stage} {r : Except AnalysisError Text} {steps : Nat}
    (h : stage.run x steps = ended r) : x.Ends stage r := by
  induction steps using Nat.strongRecOn generalizing stage r with
  | ind steps ih =>
    cases steps with
    | zero => cases stage <;> cases h
    | succ steps =>
      cases stage with
      | rendering chain name path stack =>
        exact ends_of_renderIn (fun h => ih steps (Nat.lt_succ_self _) h) h
      | expanding chain done rest => exact ends_of_expand (fun s hs _ _ h => ih s hs h) h

theorem ends_iff_run {stage : Stage} {r : Except AnalysisError Text} :
    x.Ends stage r ↔ ∃ k, ∀ steps ≥ k, stage.run x steps = ended r := by
  constructor
  · exact exists_run_of_ends
  · rintro ⟨k, hk⟩
    exact ends_of_run (hk k (Nat.le_refl _))

/-- A stage ends in one way. -/
theorem Ends.unique {stage : Stage} {r r' : Except AnalysisError Text} (h : x.Ends stage r)
    (h' : x.Ends stage r') : r = r' := by
  obtain ⟨k, hk⟩ := exists_run_of_ends h
  obtain ⟨l, hl⟩ := exists_run_of_ends h'
  have hrun := (hk (k + l) (Nat.le_add_right _ _)).symm.trans (hl (k + l) (Nat.le_add_left _ _))
  exact Option.some.inj hrun

/-- Behind a call whose template ends in a fragment, a run goes on with fewer steps. -/
theorem exists_run_of_included {name path fragment : Text} {parent : Marker} {steps : Nat}
    {r : Except AnalysisError Text}
    (hfind : find (Text.lastOr none done) rest = .ok (some site))
    (hfate : x.fate chain (done ++ site.before) site = .included name path parent)
    (hfragment : x.Ends (.rendering chain name path (parent.stack ++ [parent.frame]))
      (.ok fragment)) (hrun : x.expand chain done rest steps = ended r) :
    ∃ steps' < steps, x.expand chain (done ++ site.before)
      (spliced (.of chain.length site.call.dataPairs) fragment parent ++ site.rest) steps' =
        ended r := by
  cases steps with
  | zero => cases hrun
  | succ steps =>
    -- the target has its own steps, and how it ends does not depend on their number
    have hreplaced : ∀ {r'}, x.replacement chain (done ++ site.before) site steps = ended r' →
        r' = .ok (spliced (.of chain.length site.call.dataPairs) fragment parent) := by
      intro r' hr
      rcases replacement_cases hr with ⟨h, -⟩ | ⟨_, h, -⟩ | ⟨_, h, -⟩ |
        ⟨name', path', parent', h, s, -, r'', hrun, rfl⟩
      · cases hfate.symm.trans h
      · cases hfate.symm.trans h
      · cases hfate.symm.trans h
      · obtain ⟨rfl, rfl, rfl⟩ := Fate.included.inj (hfate.symm.trans h)
        have hends : x.Ends (.rendering chain name path (parent.stack ++ [parent.frame])) r'' :=
          ends_of_run hrun
        obtain rfl := hends.unique hfragment
        rfl
    rw [expand_succ x chain hfind] at hrun
    rcases Bounded.bind_eq_ended_iff.1 hrun with ⟨e, hr, -⟩ | ⟨t, hr, hrun⟩
    · cases hreplaced hr
    · obtain rfl := Except.ok.inj (hreplaced hr)
      exact ⟨steps, Nat.lt_succ_self _, hrun⟩

/-! ## The stages that expansion comes to -/

/-- The stages that a stage leads to. -/
inductive Next (x : Expander) : Stage → Stage → Prop where
  | compiled {chain : List Text} {name path source compiled : Text} {stack : List Frame}
      (hsource : x.source path = .ok source)
      (hcompile : x.compile (tagLines source name path stack) = .ok compiled) :
      Next x (.rendering chain name path stack) (.expanding (chain ++ [name]) [] compiled)
  | deleted {chain : List Text} {done rest : Text} {site : IncludeSite}
      (hfind : find (Text.lastOr none done) rest = .ok (some site))
      (hfate : x.fate chain (done ++ site.before) site = .deleted) :
      Next x (.expanding chain done rest) (.expanding chain (done ++ site.before) site.rest)
  | included {chain : List Text} {done rest name path : Text} {site : IncludeSite}
      {parent : Marker}
      (hfind : find (Text.lastOr none done) rest = .ok (some site))
      (hfate : x.fate chain (done ++ site.before) site = .included name path parent) :
      Next x (.expanding chain done rest)
        (.rendering chain name path (parent.stack ++ [parent.frame]))
  | spliced {chain : List Text} {done rest name path fragment : Text} {site : IncludeSite}
      {parent : Marker}
      (hfind : find (Text.lastOr none done) rest = .ok (some site))
      (hfate : x.fate chain (done ++ site.before) site = .included name path parent)
      (hfragment : Ends x (.rendering chain name path (parent.stack ++ [parent.frame]))
        (.ok fragment)) :
      Next x (.expanding chain done rest) (.expanding chain (done ++ site.before)
        (spliced (.of chain.length site.call.dataPairs) fragment parent ++ site.rest))

/-- The stages that expansion comes to from a stage. -/
inductive Visits (x : Expander) (start : Stage) : Stage → Prop where
  | start : Visits x start start
  | next {s s' : Stage} (h : Visits x start s) (hnext : Next x s s') : Visits x start s'

/-- Behind a replacement that is made, expansion comes to the text with it. -/
theorem Visits.replaced {start : Stage} {steps : Nat} {r : Text}
    (h : x.Visits start (.expanding chain done rest))
    (hfind : find (Text.lastOr none done) rest = .ok (some site))
    (hr : x.replacement chain (done ++ site.before) site steps = ended (.ok r)) :
    x.Visits start (.expanding chain (done ++ site.before) (r ++ site.rest)) := by
  rcases replacement_eq_ok hr with ⟨hfate, rfl⟩ |
    ⟨name, path, parent, hfate, s, -, fragment, hrun, rfl⟩
  · exact h.next (.deleted hfind hfate)
  · have hends : x.Ends (.rendering chain name path (parent.stack ++ [parent.frame]))
        (.ok fragment) := ends_of_run hrun
    exact h.next (.spliced hfind hfate hends)

/-- A template that is compiled leads to its compiled text. -/
theorem Next.eq_of_compiled {name path source compiled : Text} {stack : List Frame} {s : Stage}
    (h : x.Next (.rendering chain name path stack) s) (hsource : x.source path = .ok source)
    (hcompile : x.compile (tagLines source name path stack) = .ok compiled) :
    s = .expanding (chain ++ [name]) [] compiled := by
  cases h with
  | compiled hs hc =>
    obtain rfl := Except.ok.inj (hsource.symm.trans hs)
    obtain rfl := Except.ok.inj (hcompile.symm.trans hc)
    rfl

/-- A call that is deleted leads to the text without it. -/
theorem Next.eq_of_deleted {s : Stage} (h : x.Next (.expanding chain done rest) s)
    (hfind : find (Text.lastOr none done) rest = .ok (some site))
    (hfate : x.fate chain (done ++ site.before) site = .deleted) :
    s = .expanding chain (done ++ site.before) site.rest := by
  cases h with
  | deleted hf _ =>
    obtain rfl := Option.some.inj (Except.ok.inj (hfind.symm.trans hf))
    rfl
  | included hf hi =>
    obtain rfl := Option.some.inj (Except.ok.inj (hfind.symm.trans hf))
    cases hfate.symm.trans hi
  | spliced hf hi _ =>
    obtain rfl := Option.some.inj (Except.ok.inj (hfind.symm.trans hf))
    cases hfate.symm.trans hi

/-- A text without calls leads nowhere. -/
theorem Next.find_ne_none {s : Stage} (h : x.Next (.expanding chain done rest) s) :
    find (Text.lastOr none done) rest ≠ .ok none := by
  intro hfind
  cases h with
  | deleted hf _ => cases hfind.symm.trans hf
  | included hf _ => cases hfind.symm.trans hf
  | spliced hf _ _ => cases hfind.symm.trans hf

/-- A call that is included leads to its template, and to the text with its fragment. -/
theorem Next.eq_of_included {name path fragment : Text} {parent : Marker} {s : Stage}
    (h : x.Next (.expanding chain done rest) s)
    (hfind : find (Text.lastOr none done) rest = .ok (some site))
    (hfate : x.fate chain (done ++ site.before) site = .included name path parent)
    (hfragment : x.Ends (.rendering chain name path (parent.stack ++ [parent.frame]))
      (.ok fragment)) :
    s = .rendering chain name path (parent.stack ++ [parent.frame]) ∨
      s = .expanding chain (done ++ site.before)
        (Expander.spliced (.of chain.length site.call.dataPairs) fragment parent ++ site.rest) := by
  cases h with
  | deleted hf hd =>
    obtain rfl := Option.some.inj (Except.ok.inj (hfind.symm.trans hf))
    cases hfate.symm.trans hd
  | included hf hi =>
    obtain rfl := Option.some.inj (Except.ok.inj (hfind.symm.trans hf))
    obtain ⟨rfl, rfl, rfl⟩ := Fate.included.inj (hfate.symm.trans hi)
    exact .inl rfl
  | spliced hf hi hends =>
    obtain rfl := Option.some.inj (Except.ok.inj (hfind.symm.trans hf))
    obtain ⟨rfl, rfl, rfl⟩ := Fate.included.inj (hfate.symm.trans hi)
    obtain rfl := Except.ok.inj (hfragment.unique hends)
    exact .inr rfl

/-- What is come to from a stage is the stage or behind one that it leads to. -/
theorem Visits.head {start s : Stage} (h : x.Visits start s) :
    s = start ∨ ∃ s', x.Next start s' ∧ x.Visits s' s := by
  induction h with
  | start => exact .inl rfl
  | next _ hnext ih =>
    rcases ih with rfl | ⟨s', hfirst, h⟩
    · exact .inr ⟨_, hnext, .start⟩
    · exact .inr ⟨s', hfirst, h.next hnext⟩

/-- Behind a rendering whose text is compiled, only the expansion of that text is met. -/
theorem Visits.of_compiled {name path source compiled : Text} {stack : List Frame} {s : Stage}
    (h : x.Visits (.rendering chain name path stack) s) (hsource : x.source path = .ok source)
    (hcompile : x.compile (tagLines source name path stack) = .ok compiled) :
    s = .rendering chain name path stack ∨
      x.Visits (.expanding (chain ++ [name]) [] compiled) s := by
  rcases h.head with rfl | ⟨s', hnext, h⟩
  · exact .inl rfl
  · obtain rfl := hnext.eq_of_compiled hsource hcompile
    exact .inr h

/-- Behind a call that is deleted, only the expansion without it is met. -/
theorem Visits.of_deleted {s : Stage} (h : x.Visits (.expanding chain done rest) s)
    (hfind : find (Text.lastOr none done) rest = .ok (some site))
    (hfate : x.fate chain (done ++ site.before) site = .deleted) :
    s = .expanding chain done rest ∨
      x.Visits (.expanding chain (done ++ site.before) site.rest) s := by
  rcases h.head with rfl | ⟨s', hnext, h⟩
  · exact .inl rfl
  · obtain rfl := hnext.eq_of_deleted hfind hfate
    exact .inr h

theorem Visits.of_complete {s : Stage} (h : x.Visits (.expanding chain done rest) s)
    (hfind : find (Text.lastOr none done) rest = .ok none) : s = .expanding chain done rest := by
  rcases h.head with rfl | ⟨s', hnext, -⟩
  · rfl
  · exact absurd hfind hnext.find_ne_none

/-! ### One call -/

/-- A text whose only call includes a template without calls. -/
structure OneCall (x : Expander) (chain : List Text) (done rest : Text) (site : IncludeSite)
    (n p : Text) (parent : Marker) (fragment : Text) : Prop where
  call : find (Text.lastOr none done) rest = .ok (some site)
  included : x.fate chain (done ++ site.before) site = .included n p parent
  target : ∃ source, x.source p = .ok source ∧
    x.compile (tagLines source n p (parent.stack ++ [parent.frame])) = .ok fragment
  inner : find none fragment = .ok none
  outer : find (Text.lastOr none (done ++ site.before))
    (spliced (.of chain.length site.call.dataPairs) fragment parent ++ site.rest) = .ok none

namespace OneCall

variable {n p fragment : Text} {parent : Marker}

/-- The stages that such a text leads to: the included template, its compiled text, and the text
with the fragment in the place of the call. -/
theorem visits (h : OneCall x chain done rest site n p parent fragment) {s : Stage}
    (hs : x.Visits (.expanding chain done rest) s) :
    s = .expanding chain done rest ∨
      s = .rendering chain n p (parent.stack ++ [parent.frame]) ∨
      s = .expanding (chain ++ [n]) [] fragment ∨
      s = .expanding chain (done ++ site.before)
        (spliced (.of chain.length site.call.dataPairs) fragment parent ++ site.rest) := by
  obtain ⟨source, hsource, hcompile⟩ := h.target
  have hfragment : x.Ends (.rendering chain n p (parent.stack ++ [parent.frame])) (.ok fragment) :=
    .compiled hsource hcompile (.complete h.inner)
  rcases hs.head with rfl | ⟨s', hnext, hs⟩
  · exact .inl rfl
  rcases hnext.eq_of_included h.call h.included hfragment with rfl | rfl
  · rcases hs.of_compiled hsource hcompile with rfl | hs
    · exact .inr (.inl rfl)
    · exact .inr (.inr (.inl (hs.of_complete h.inner)))
  · exact .inr (.inr (.inr (hs.of_complete h.outer)))

/-- The template that is included is all that is rendered. -/
theorem rendered (h : OneCall x chain done rest site n p parent fragment) {chain' : List Text}
    {n' p' : Text} {s : List Frame}
    (hs : x.Visits (.expanding chain done rest) (.rendering chain' n' p' s)) :
    n' = n ∧ p' = p ∧ s = parent.stack ++ [parent.frame] := by
  rcases h.visits hs with heq | heq | heq | heq
  · cases heq
  · obtain ⟨-, rfl, rfl, rfl⟩ := Stage.rendering.inj heq
    exact ⟨rfl, rfl, rfl⟩
  · cases heq
  · cases heq

/-- The call is all that is met. -/
theorem met (h : OneCall x chain done rest site n p parent fragment) {chain' : List Text}
    {done' rest' : Text} {site' : IncludeSite}
    (hs : x.Visits (.expanding chain done rest) (.expanding chain' done' rest'))
    (hfind : find (Text.lastOr none done') rest' = .ok (some site')) :
    chain' = chain ∧ done' = done ∧ site' = site := by
  rcases h.visits hs with heq | heq | heq | heq
  · obtain ⟨rfl, rfl, rfl⟩ := Stage.expanding.inj heq
    exact ⟨rfl, rfl, Option.some.inj (Except.ok.inj (hfind.symm.trans h.call))⟩
  · cases heq
  · obtain ⟨-, rfl, rfl⟩ := Stage.expanding.inj heq
    cases h.inner.symm.trans hfind
  · obtain ⟨-, rfl, rfl⟩ := Stage.expanding.inj heq
    cases h.outer.symm.trans hfind

end OneCall

end Expander

end TemplateTrace
