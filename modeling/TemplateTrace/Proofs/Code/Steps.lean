import TemplateTrace.Proofs.Code.Loops

/-!
# Exposing loops step by step

The run that exposes loops goes from event to event and from line to line, with the scopes as its
state. Here it hands out its steps: each event at its place in a code line, with the scopes it is
met in and with what has been written in front of it, for it, and behind it.

- `Code.LoopEvent.outcome?`: all that one event comes to.
- `Code.LoopStep`, `Code.LoopStep.In`: an event met in a code line.
- `Code.loopSteps?`, `CodeLine.loopLines?`: the steps of a code text, and of code lines.
- `Code.Leads`: scopes carried along steps, with `Code.leads_append`.
- `CodeLine.exists_loopLines_of_expose`: exposing code lines is such a run.
-/

namespace TemplateTrace

namespace Code

/-! ## One event -/

/-- What an event comes to. -/
structure LoopOutcome where
  /-- What is written for the words of the event and for what is passed over with them. -/
  written : Text
  scopes : LoopScopes
  /-- The text in which the next event is looked for. -/
  behind : Text

/-- What an event comes to that stands as `word` in front of `rest`, unless it is a template loop
and there is nothing for it to iterate. -/
def LoopEvent.outcome? (loopType : Text) (scopes : LoopScopes) (word rest : Text) :
    LoopEvent → Option LoopOutcome
  | .assign => some {
      written := word ++ (statement rest).1
      scopes := { scopes with pending := some (Text.strip (statement rest).1) }
      behind := (statement rest).2 }
  | .templateLoop => scopes.pending.map fun source =>
    let inside := { scopes with pending := none, opened := some source :: scopes.opened }
    match scopes.inTemplateLoop, header? rest with
    | false, some (header, behind) =>
      ⟨loopOver source ++ header ++ loopDeclaration loopType, inside, behind⟩
    | _, _ => ⟨loopOver source, inside, rest⟩
  | .plainLoop => some {
      written := word
      scopes := { scopes with opened :=
        if (header? rest).isSome then none :: scopes.opened else scopes.opened }
      behind := rest }
  | .endLoop =>
    let outer := { scopes with opened := scopes.opened.tail }
    let closing := (scopes.opened.head?.bind id).isSome && !outer.inTemplateLoop
    some ⟨(if closing then loopUnset else []) ++ word, outer, rest⟩

/-- What a template loop comes to. -/
theorem LoopEvent.outcome?_templateLoop_iff {loopType : Text} {scopes : LoopScopes}
    {word rest : Text} {o : LoopOutcome} :
    LoopEvent.templateLoop.outcome? loopType scopes word rest = some o ↔
      ∃ source, scopes.pending = some source ∧
        o.scopes = { scopes with pending := none, opened := some source :: scopes.opened } ∧
        ((o.written = loopOver source ∧ o.behind = rest ∧
            (scopes.inTemplateLoop = true ∨ header? rest = none)) ∨
          ∃ header, scopes.inTemplateLoop = false ∧ header? rest = some (header, o.behind) ∧
            o.written = loopOver source ++ header ++ loopDeclaration loopType) := by
  constructor
  · intro h
    obtain ⟨source, hsource, h⟩ := Option.map_eq_some_iff.1 h
    refine ⟨source, hsource, ?_⟩
    dsimp only at h
    split at h
    next header behind hinside hheader =>
      obtain rfl := h
      exact ⟨rfl, .inr ⟨header, hinside, hheader, rfl⟩⟩
    next hnot =>
      obtain rfl := h
      refine ⟨rfl, .inl ⟨rfl, rfl, ?_⟩⟩
      cases hinside : scopes.inTemplateLoop with
      | true => exact .inl rfl
      | false =>
        refine .inr (Option.eq_none_iff_forall_not_mem.2 fun p hp => ?_)
        exact hnot p.1 p.2 hinside hp
  · obtain ⟨written, scopes', behind⟩ := o
    rintro ⟨source, hsource, rfl, ⟨rfl, rfl, hinner⟩ | ⟨header, houter, hheader, rfl⟩⟩
    · refine Option.map_eq_some_iff.2 ⟨source, hsource, ?_⟩
      dsimp only
      split
      next header behind' hinside hheader =>
        rw [hinside, hheader] at hinner
        simp at hinner
      · rfl
    · refine Option.map_eq_some_iff.2 ⟨source, hsource, ?_⟩
      dsimp only at hheader ⊢
      rw [houter, hheader]

/-- The next event is looked for in the rest of the text. -/
theorem LoopEvent.suffix_outcome? {loopType : Text} {scopes : LoopScopes} {word rest : Text}
    {event : LoopEvent} {o : LoopOutcome}
    (h : event.outcome? loopType scopes word rest = some o) : o.behind <:+ rest := by
  cases event with
  | assign =>
    obtain rfl := Option.some.inj h
    exact suffix_afterRun .statement rest
  | templateLoop =>
    obtain ⟨source, -, -, ⟨-, hbehind, -⟩ | ⟨header, -, hheader, -⟩⟩ :=
      outcome?_templateLoop_iff.1 h
    · exact hbehind ▸ List.suffix_refl rest
    · exact ⟨header, (header?_iff.1 hheader).1.symm⟩
  | plainLoop =>
    obtain rfl := Option.some.inj h
    exact List.suffix_refl rest
  | endLoop =>
    obtain rfl := Option.some.inj h
    exact List.suffix_refl rest

/-- An event other than an assignment keeps what was assigned last, or takes it. -/
theorem LoopEvent.pending_of_outcome? {loopType : Text} {scopes : LoopScopes} {word rest : Text}
    {event : LoopEvent} {o : LoopOutcome} {source : Text}
    (h : event.outcome? loopType scopes word rest = some o) (hevent : event ≠ .assign)
    (hpending : o.scopes.pending = some source) : scopes.pending = some source := by
  cases event with
  | assign => exact absurd rfl hevent
  | templateLoop =>
    obtain ⟨source', -, hscopes, -⟩ := outcome?_templateLoop_iff.1 h
    rw [hscopes] at hpending
    cases hpending
  | plainLoop =>
    obtain rfl := Option.some.inj h
    exact hpending
  | endLoop =>
    obtain rfl := Option.some.inj h
    exact hpending

/-! ## Steps -/

/-- An event that is met in a code line. -/
structure LoopStep where
  event : LoopEvent
  /-- The scopes in which the event is met. -/
  scopes : LoopScopes
  /-- The line in front of the words of the event. -/
  before : Text
  word : Text
  /-- The line behind the words. -/
  rest : Text
  /-- What is written for the line in front of the words. -/
  shown : Text
  /-- What is written for the words and for what is passed over with them. -/
  written : Text
  /-- What is written for the line behind that. -/
  left : Text
  deriving DecidableEq, Repr

/-- A code line with its escapes unwrapped, what is written for it, and the events met in it. -/
structure LoopLine where
  code : Text
  exposed : Text
  steps : List LoopStep
  deriving DecidableEq, Repr

/-- Whether a step meets its event in a line, and whether its writing is what is written there. -/
structure LoopStep.In (step : LoopStep) (code exposed : Text) : Prop where
  code_eq : step.before ++ (step.word ++ step.rest) = code
  exposed_eq : step.shown ++ (step.written ++ step.left) = exposed
  event_eq : LoopEvent.at? (Text.lastOr none step.shown) (step.word ++ step.rest) =
    some (step.event, step.rest)

/-- What an event leaves is shorter than the text that it was found in. -/
theorem length_behind_lt {loopType : Text} {prev : Option Char} {scopes : LoopScopes}
    {s front rest word : Text} {event : LoopEvent} {o : LoopOutcome}
    (h : Text.search LoopEvent.at? prev s = some (front, event, rest))
    (ho : event.outcome? loopType scopes word rest = some o) : o.behind.length < s.length := by
  obtain ⟨p, t, rfl, ht⟩ := Text.search_eq_some h
  have hlt := LoopEvent.length_lt ht
  have hle := (LoopEvent.suffix_outcome? ho).length_le
  rw [List.length_append]
  omega

/-- The steps in the rest `s` of a code line, given the line in front of it and what is written for
that. With them come what is written for `s` and the scopes behind it. -/
def loopSteps? (loopType before shown : Text) (scopes : LoopScopes) (s : Text) :
    Option (List LoopStep × Text × LoopScopes) :=
  match h : Text.search LoopEvent.at? (Text.lastOr none shown) s with
  | none => some ([], s, scopes)
  | some (front, event, rest) =>
    let word := Text.upTo (s.drop front.length) rest
    match ho : event.outcome? loopType scopes word rest with
    | none => none
    | some o =>
      have := length_behind_lt h ho
      (loopSteps? loopType (before ++ Text.upTo s o.behind) (shown ++ (front ++ o.written))
        o.scopes o.behind).map fun (steps, left, out) =>
          (⟨event, scopes, before ++ front, word, rest, shown ++ front, o.written, left⟩ :: steps,
            front ++ (o.written ++ left), out)
termination_by s.length

/-- How scopes are carried along steps. -/
inductive Leads (loopType : Text) : LoopScopes → List LoopStep → LoopScopes → Prop where
  | nil {scopes : LoopScopes} : Leads loopType scopes [] scopes
  | cons {scopes out line : LoopScopes} {step : LoopStep} {steps : List LoopStep} {o : LoopOutcome}
    (hscopes : step.scopes = scopes)
    (houtcome : step.event.outcome? loopType scopes step.word step.rest = some o)
    (hwritten : step.written = o.written)
    (hleft : Exposes loopType (Text.lastOr none (step.shown ++ step.written)) o.scopes o.behind
      step.left line)
    (h : Leads loopType o.scopes steps out) : Leads loopType scopes (step :: steps) out

/-- Steps are taken one part after another. -/
theorem leads_append {loopType : Text} {scopes out : LoopScopes} {steps steps' : List LoopStep} :
    Leads loopType scopes (steps ++ steps') out ↔
      ∃ between, Leads loopType scopes steps between ∧ Leads loopType between steps' out := by
  induction steps generalizing scopes with
  | nil =>
    constructor
    · intro h
      exact ⟨scopes, .nil, h⟩
    · rintro ⟨between, h, h'⟩
      cases h
      exact h'
  | cons step steps ih =>
    constructor
    · intro h
      cases h with
      | cons hscopes houtcome hwritten hleft h =>
        obtain ⟨between, hsteps, hsteps'⟩ := ih.1 h
        exact ⟨between, .cons hscopes houtcome hwritten hleft hsteps, hsteps'⟩
    · rintro ⟨between, h, h'⟩
      cases h with
      | cons hscopes houtcome hwritten hleft h =>
        exact .cons hscopes houtcome hwritten hleft (ih.2 ⟨between, h, h'⟩)

/-- What is still to be iterated behind steps without an assignment was so in front of them. -/
theorem Leads.pending {loopType : Text} {scopes out : LoopScopes} {steps : List LoopStep}
    {source : Text} (h : Leads loopType scopes steps out)
    (hsteps : ∀ step ∈ steps, step.event ≠ .assign) (hpending : out.pending = some source) :
    scopes.pending = some source := by
  induction h with
  | nil => exact hpending
  | cons _ houtcome _ _ _ ih =>
    rw [List.forall_mem_cons] at hsteps
    exact LoopEvent.pending_of_outcome? houtcome hsteps.1 (ih hsteps.2 hpending)

/-! ## The steps of a code text -/

/-- The steps of a text are the step of its next event and those behind it. -/
theorem loopSteps?_of_search {loopType before shown front word rest left : Text}
    {scopes out : LoopScopes} {event : LoopEvent} {o : LoopOutcome} {steps : List LoopStep}
    (hsearch : Text.search LoopEvent.at? (Text.lastOr none shown) (front ++ (word ++ rest)) =
      some (front, event, rest))
    (houtcome : event.outcome? loopType scopes word rest = some o)
    (h : loopSteps? loopType (before ++ Text.upTo (front ++ (word ++ rest)) o.behind)
      (shown ++ (front ++ o.written)) o.scopes o.behind = some (steps, left, out)) :
    loopSteps? loopType before shown scopes (front ++ (word ++ rest)) =
      some (⟨event, scopes, before ++ front, word, rest, shown ++ front, o.written, left⟩ :: steps,
        front ++ (o.written ++ left), out) := by
  have hword : Text.upTo ((front ++ (word ++ rest)).drop front.length) rest = word := by
    rw [List.drop_left, Text.upTo_append]
  -- the search and the outcome are the given ones, and the steps behind them too
  rw [loopSteps?]
  split
  next hnone =>
    rw [hsearch] at hnone
    cases hnone
  next front' event' rest' hsome =>
    rw [hsearch] at hsome
    obtain ⟨rfl, heq⟩ := Prod.mk.inj (Option.some.inj hsome)
    obtain ⟨rfl, rfl⟩ := Prod.mk.inj heq
    dsimp only
    split
    next hnone =>
      rw [hword, houtcome] at hnone
      cases hnone
    next o' ho' =>
      rw [hword, houtcome] at ho'
      obtain rfl := Option.some.inj ho'
      rw [h, hword]
      rfl

/-- Whether a text is exposed step by step, wherever in a line it stands. -/
def Stepwise (loopType : Text) (prev : Option Char) (scopes : LoopScopes) (s t : Text)
    (out : LoopScopes) : Prop :=
  ∀ before shown, Text.lastOr none shown = prev → ∃ steps,
    loopSteps? loopType before shown scopes s = some (steps, t, out) ∧
    Leads loopType scopes steps out ∧ ∀ step ∈ steps, step.In (before ++ s) (shown ++ t)

section Stepwise

variable {loopType : Text} {prev : Option Char} {scopes out : LoopScopes}

/-- An event, and the steps behind it. -/
theorem Stepwise.of_search {front word rest written t : Text} {event : LoopEvent} {o : LoopOutcome}
    (hsearch : Text.search LoopEvent.at? prev (front ++ (word ++ rest)) =
      some (front, event, rest))
    (houtcome : event.outcome? loopType scopes word rest = some o)
    (hwritten : written = front ++ o.written)
    (hleft : Exposes loopType (Text.lastOr prev written) o.scopes o.behind t out)
    (h : Stepwise loopType (Text.lastOr prev written) o.scopes o.behind t out) :
    Stepwise loopType prev scopes (front ++ (word ++ rest)) (written ++ t) out := by
  rintro before shown rfl
  subst hwritten
  rw [Text.lastOr_append] at hleft h
  obtain ⟨passed, hpassed⟩ := LoopEvent.suffix_outcome? houtcome
  -- the sides of the first step make up the two texts
  have hbefore : before ++ Text.upTo (front ++ (word ++ rest)) o.behind ++ o.behind =
      before ++ (front ++ (word ++ rest)) := by
    rw [upTo_behind hpassed]
    simp only [List.append_assoc, hpassed]
  have hshown : shown ++ (front ++ o.written) ++ t = shown ++ (front ++ o.written ++ t) := by
    rw [List.append_assoc]
  -- the steps behind it, from its end
  obtain ⟨steps, hsteps, hleads, hin⟩ :=
    h (before ++ Text.upTo (front ++ (word ++ rest)) o.behind) (shown ++ (front ++ o.written)) rfl
  rw [hbefore, hshown] at hin
  let step : LoopStep :=
    ⟨event, scopes, before ++ front, word, rest, shown ++ front, o.written, t⟩
  refine ⟨step :: steps, ?_, ?_, ?_⟩
  · rw [loopSteps?_of_search hsearch houtcome hsteps, List.append_assoc]
  · have hline : Exposes loopType (Text.lastOr none (step.shown ++ step.written)) o.scopes o.behind
        step.left out := by
      rwa [List.append_assoc]
    exact .cons rfl houtcome rfl hline hleads
  · rw [List.forall_mem_cons]
    refine ⟨⟨?_, ?_, ?_⟩, hin⟩
    · exact List.append_assoc before front (word ++ rest)
    · simp only [step, List.append_assoc]
    · -- the event stands at its place in the whole line
      obtain ⟨u, hu, hevent⟩ := Text.search_eq_some_lastOr hsearch
      rw [← List.append_cancel_left hu, Text.lastOr_append] at hevent
      exact hevent

/-- Whatever is written is written step by step. -/
theorem Exposes.stepwise {s t : Text} (h : Exposes loopType prev scopes s t out) :
    Stepwise loopType prev scopes s t out := by
  induction h with
  | rest hsearch =>
    -- behind the last event there is no step
    rintro before shown rfl
    refine ⟨[], ?_, .nil, fun step hstep => by cases hstep⟩
    rw [loopSteps?]
    split
    · rfl
    next hsome =>
      rw [hsearch] at hsome
      cases hsome
  | assign hsearch h ih =>
    exact .of_search hsearch rfl (List.append_assoc _ _ _) h ih
  | @templateLoop prev scopes out before word rest source t hsearch hsource hinner h ih =>
    -- a template loop inside another one: the source is written, the header stays
    let o : LoopOutcome := ⟨loopOver source,
      { scopes with pending := none, opened := some source :: scopes.opened }, rest⟩
    have houtcome : LoopEvent.templateLoop.outcome? loopType scopes word rest = some o :=
      LoopEvent.outcome?_templateLoop_iff.2 ⟨source, hsource, rfl, .inl ⟨rfl, rfl, hinner⟩⟩
    exact .of_search hsearch houtcome rfl h ih
  | @outerLoop prev scopes out before word header rest source t hsearch hsource houter hheader h
      ih =>
    -- the outermost template loop: the loop variable is declared behind its header
    let o : LoopOutcome := ⟨loopOver source ++ header ++ loopDeclaration loopType,
      { scopes with pending := none, opened := some source :: scopes.opened }, rest⟩
    have houtcome : LoopEvent.templateLoop.outcome? loopType scopes word (header ++ rest) =
        some o := LoopEvent.outcome?_templateLoop_iff.2
      ⟨source, hsource, rfl, .inr ⟨header, houter, hheader, rfl⟩⟩
    exact .of_search hsearch houtcome (by simp only [o, List.append_assoc]) h ih
  | plainLoop hsearch h ih => exact .of_search hsearch rfl rfl h ih
  | @outerEnd prev scopes out before word rest source t outer hsearch hopened houter h ih =>
    -- the end of the outermost template loop
    have houtcome : LoopEvent.endLoop.outcome? loopType scopes word rest =
        some ⟨loopUnset ++ word, { scopes with opened := outer }, rest⟩ := by
      unfold LoopEvent.outcome? LoopScopes.inTemplateLoop
      rw [hopened]
      dsimp only [List.tail_cons]
      rw [houter]
      rfl
    exact .of_search hsearch houtcome (List.append_assoc _ _ _) h ih
  | @endLoop prev scopes out before word rest t hsearch hopened h ih =>
    -- the end of any other loop: nothing is unset, by cases on the loop that ends
    have houtcome : LoopEvent.endLoop.outcome? loopType scopes word rest =
        some ⟨word, { scopes with opened := scopes.opened.tail }, rest⟩ := by
      have hclosing : ((scopes.opened.head?.bind id).isSome &&
          !scopes.opened.tail.any (·.isSome)) = false := by
        cases hcons : scopes.opened with
        | nil => rfl
        | cons loop outer =>
          cases loop with
          | none => rfl
          | some source =>
            show (true && !outer.any (·.isSome)) = false
            rw [hopened source outer hcons]
            rfl
      unfold LoopEvent.outcome? LoopScopes.inTemplateLoop
      dsimp only
      rw [hclosing]
      rfl
    exact .of_search hsearch houtcome rfl h ih

end Stepwise

end Code

namespace CodeLine

open Code

/-- The steps of code lines, line by line, from the given scopes. -/
def loopLines? (loopType : Text) (scopes : LoopScopes) : List CodeLine → Option (List LoopLine)
  | [] => some []
  | line :: lines => do
    let code := unwrapEscapes line.code
    let (steps, exposed, scopes) ← loopSteps? loopType [] [] scopes code
    let runs ← loopLines? loopType scopes lines
    return ⟨code, exposed, steps⟩ :: runs

/-- The run over code lines that are exposed from given scopes. -/
theorem exists_loopLines_of_exposeFrom {loopType : Text} {scopes : LoopScopes}
    {lines exposed : List CodeLine} (h : exposeFrom loopType scopes lines = (exposed, none)) :
    ∃ runs out, loopLines? loopType scopes lines = some runs ∧
      runs.map (·.code) = lines.map (unwrapEscapes ·.code) ∧
      runs.map (·.exposed) = exposed.map (·.code) ∧
      (∀ run ∈ runs, ∀ step ∈ run.steps, step.In run.code run.exposed) ∧
      Leads loopType scopes (runs.flatMap (·.steps)) out := by
  induction lines generalizing scopes exposed with
  | nil =>
    obtain rfl := (Prod.mk.inj h).1
    exact ⟨[], scopes, rfl, rfl, rfl, fun run hrun => (List.not_mem_nil hrun).elim, .nil⟩
  | cons line lines ih =>
    obtain ⟨code, between, exposed', hcode, hfrom, rfl⟩ := exists_of_exposeFrom_cons h
    obtain ⟨steps, hsteps, hleads, hin⟩ := hcode.stepwise [] [] rfl
    obtain ⟨runs, out, hruns, hcodes, hexposed, hins, hrest⟩ := ih hfrom
    refine ⟨⟨unwrapEscapes line.code, code, steps⟩ :: runs, out, ?_, ?_, ?_, ?_, ?_⟩
    · rw [loopLines?]
      dsimp only
      rw [hsteps]
      dsimp only [bind, Option.bind]
      rw [hruns]
      rfl
    · rw [List.map_cons, List.map_cons, hcodes]
    · rw [List.map_cons, List.map_cons, hexposed]
    · rw [List.forall_mem_cons]
      exact ⟨hin, hins⟩
    · rw [List.flatMap_cons]
      exact leads_append.2 ⟨between, hleads, hrest⟩

theorem exists_loopLines_of_expose {loopType : Text} {lines exposed : List CodeLine}
    (h : expose loopType lines = .ok exposed) :
    ∃ runs out, loopLines? loopType {} lines = some runs ∧
      runs.map (·.code) = lines.map (unwrapEscapes ·.code) ∧
      runs.map (·.exposed) = exposed.map (·.code) ∧
      (∀ run ∈ runs, ∀ step ∈ run.steps, step.In run.code run.exposed) ∧
      Leads loopType {} (runs.flatMap (·.steps)) out :=
  exists_loopLines_of_exposeFrom (exposeFrom_of_expose h)

end CodeLine

end TemplateTrace
