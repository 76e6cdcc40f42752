import TemplateTrace.Proofs.Code.Steps
import TemplateTrace.Proofs.Include.Writing

/-!
# Assigned expressions

A template loop is made to iterate the expression that was assigned last. The expression is taken
from the line on which it is assigned, up to the `;` or to the end of the line: what of it stands on
the lines below is lost.

- `Code.Balanced.strip`, `Code.balanced_statement`: what is taken is balanced.
- `Code.LoopEvent.ne_nil_of_assign`: an assignment that ends its line is not seen at all.
- `Code.LoopStep.captured`, `Code.LoopStep.Assigns`: what is taken, and what is assigned.
- `Code.LoopStep.captured_of_line`, `Code.LoopStep.unspaced_captured_ne`: the two are the same
  exactly if the expression ends on its line.
- `Code.LoopStep.Iterates`: a header over a text, closed where it was closed before.
- `CodeLine.iterates_of_expose`: every header iterates what was taken from the last assignment.
- `CodeLine.exists_cut_expression`: an expression over three lines.
-/

namespace TemplateTrace

namespace Text

/-- A text without its white space. -/
def unspaced (s : Text) : Text := s.filter (!isBlank ·)

theorem unspaced_append (s t : Text) : unspaced (s ++ t) = unspaced s ++ unspaced t :=
  List.filter_append s t

theorem unspaced_eq_nil_iff {s : Text} : unspaced s = [] ↔ ∀ c ∈ s, isBlank c = true := by
  simp [unspaced, List.filter_eq_nil_iff]

theorem unspaced_strip (s : Text) : unspaced (strip s) = unspaced s := by
  obtain ⟨b, b', hs, hb, hb'⟩ := exists_strip s
  conv => rhs; rw [hs]
  rw [unspaced_append, unspaced_append, unspaced_eq_nil_iff.2 hb, unspaced_eq_nil_iff.2 hb',
    List.nil_append, List.append_nil]

end Text

namespace Code

/-! ## Balanced statements -/

/-- Blanks behind a text do not reach a character in it that is none. -/
theorem exists_append_of_blanks {s b a t : Text} {c : Char} (hb : ∀ d ∈ b, Text.isBlank d = true)
    (hc : Text.isBlank c = false) (h : s ++ b = a ++ c :: t) :
    ∃ s', s = a ++ c :: s' ∧ s' ++ b = t := by
  have hne : ∀ a', b ≠ a' ++ c :: t := by
    rintro a' rfl
    rw [hb c (by simp)] at hc
    cases hc
  rcases List.append_eq_append_iff.1 h with ⟨a', -, hcut⟩ | ⟨s', rfl, hcut⟩
  · exact absurd hcut (hne a')
  · cases s' with
    | nil => exact absurd hcut.symm (hne [])
    | cons d s' =>
      obtain ⟨rfl, rfl⟩ := List.cons.inj hcut
      exact ⟨s', rfl, rfl⟩

theorem isBlank_quote {q : Char} (hq : q = '\'' ∨ q = '"') : Text.isBlank q = false := by
  rcases hq with rfl | rfl <;> decide

theorem isBlank_bracket {o d : Char} (hd : closer? o = some d) :
    Text.isBlank o = false ∧ Text.isBlank d = false := by
  unfold closer? at hd
  split at hd
  all_goals cases hd
  all_goals decide

namespace Balanced

variable {e : Extent} {s b : Text}

/-- Blanks at the end do not balance a text. -/
theorem of_append_blanks (hb : ∀ c ∈ b, Text.isBlank c = true) (h : Balanced e (s ++ b)) :
    Balanced e s := by
  generalize htext : s ++ b = t at h
  induction h generalizing s with
  | nil => exact (List.append_eq_nil_iff.1 htext).1 ▸ .nil
  | plain hc _ ih =>
    cases s with
    | nil => exact .nil
    | cons d s =>
      obtain ⟨rfl, hcut⟩ := List.cons.inj htext
      exact .plain hc (ih hcut)
  | string hq hbody _ ih =>
    cases s with
    | nil => exact .nil
    | cons d s =>
      obtain ⟨rfl, hcut⟩ := List.cons.inj htext
      obtain ⟨s', rfl, hrest⟩ := exists_append_of_blanks hb (isBlank_quote hq) hcut
      exact .string hq hbody (ih hrest)
  | group hd hinner _ _ ih =>
    cases s with
    | nil => exact .nil
    | cons d s =>
      obtain ⟨rfl, hcut⟩ := List.cons.inj htext
      obtain ⟨s', rfl, hrest⟩ := exists_append_of_blanks hb (isBlank_bracket hd).2 hcut
      exact .group hd hinner (ih hrest)

/-- Blanks at the start do not balance a text. -/
theorem of_blanks_append (hb : ∀ c ∈ b, Text.isBlank c = true) (h : Balanced e (b ++ s)) :
    Balanced e s := by
  induction b with
  | nil => exact h
  | cons c b ih =>
    rw [List.forall_mem_cons] at hb
    rw [List.cons_append] at h
    generalize htext : c :: (b ++ s) = t at h
    cases h with
    | nil => cases htext
    | plain _ h =>
      obtain ⟨-, rfl⟩ := List.cons.inj htext
      exact ih hb.2 h
    | string hq _ _ =>
      rw [(List.cons.inj htext).1, isBlank_quote hq] at hb
      cases hb.1
    | group hd _ _ =>
      rw [(List.cons.inj htext).1, (isBlank_bracket hd).1] at hb
      cases hb.1

theorem strip (h : Balanced e s) : Balanced e (Text.strip s) := by
  obtain ⟨b, b', hs, hb, hb'⟩ := Text.exists_strip s
  rw [hs, List.append_assoc] at h
  exact of_append_blanks hb' (of_blanks_append hb h)

end Balanced

theorem balanced_statement (s : Text) : Balanced .statement (statement s).1 := by
  obtain ⟨a, hs, hbalanced⟩ := exists_balanced .statement s
  have hpassed : (statement s).1 ++ (statement s).2 = a ++ (statement s).2 :=
    (statement_append s).trans hs
  rwa [List.append_cancel_right hpassed]

/-- A balanced text up to a `;` or to the end is a statement. -/
theorem statement_of_balanced {a r : Text} (h : Balanced .statement a)
    (hr : r = [] ∨ ∃ r', r = ';' :: r') : statement (a ++ r) = (a, r) := by
  have hrun : (afterRun .statement (a ++ r)).1 = r := by
    rw [h.afterRun_append]
    rcases hr with rfl | ⟨r', rfl⟩
    · exact afterRun_nil .statement
    · rw [afterRun_cons (afterString?_cons (by decide) (by decide) r') (afterGroup?_cons rfl r')]
      exact if_pos (by decide)
  rw [statement, hrun, Text.upTo_append]

/-! ## What is assigned and what is taken -/

/-- An assignment is seen only if something stands behind its sign on its line. -/
theorem LoopEvent.ne_nil_of_assign {prev : Option Char} {s r : Text}
    (h : LoopEvent.at? prev s = some (.assign, r)) : r ≠ [] := by
  have hplain : LoopEvent.at?.plain prev s ≠ some (.assign, r) := by
    intro h
    unfold LoopEvent.at?.plain at h
    split at h
    · cases h
    · obtain ⟨r', -, heq⟩ := Option.map_eq_some_iff.1 h
      cases heq
  unfold LoopEvent.at? at h
  split at h
  next c r' _ =>
    split at h
    · cases h
    · cases h
      exact List.cons_ne_nil c r'
  · cases h
  · split at h
    next r' _ =>
      split at h
      · cases h
      · exact absurd h hplain
    · exact absurd h hplain

namespace LoopStep

/-- What is taken from the line of an assignment. -/
def captured (step : LoopStep) : Text := Text.strip (statement step.rest).1

/-- Whether a balanced text stands behind the sign of an assignment, with a `;` behind it, on the
line of the assignment or with more text below that line. -/
structure Assigns (step : LoopStep) (expression : Text) : Prop where
  balanced : Balanced .statement expression
  follows : ∃ more r, step.rest ++ more = expression ++ ';' :: r

variable {step : LoopStep} {expression : Text}

/-- What stands on the line is the start of what is assigned, or what is assigned is taken. -/
theorem Assigns.cases (h : step.Assigns expression) :
    (∃ below, expression = step.rest ++ below) ∨
      (step.captured = Text.strip expression ∧ expression.length ≤ step.rest.length) := by
  obtain ⟨hbalanced, more, r, hfollows⟩ := h
  rcases List.append_eq_append_iff.1 hfollows with ⟨below, hexpression, -⟩ | ⟨r', hrest, hr⟩
  · exact .inl ⟨below, hexpression⟩
  · have hstops : r' = [] ∨ ∃ r'', r' = ';' :: r'' := by
      cases r' with
      | nil => exact .inl rfl
      | cons c r' =>
        obtain ⟨rfl, -⟩ := List.cons.inj hr
        exact .inr ⟨r', rfl⟩
    have hstatement := statement_of_balanced hbalanced hstops
    refine .inr ⟨?_, ?_⟩
    · rw [captured, hrest, hstatement]
    · rw [hrest, List.length_append]
      exact Nat.le_add_right _ _

/-- An expression of which only blanks are left below its line is taken as a whole. -/
theorem captured_of_line (h : step.Assigns expression)
    (hline : ∀ c ∈ expression.drop step.rest.length, Text.isBlank c = true) :
    step.captured = Text.strip expression := by
  rcases h.cases with ⟨below, rfl⟩ | ⟨hcaptured, -⟩
  · rw [List.drop_left] at hline
    have hbalanced : Balanced .statement step.rest := h.balanced.of_append_blanks hline
    have hstatement := statement_of_balanced hbalanced (.inl rfl)
    rw [List.append_nil] at hstatement
    rw [captured, hstatement, Text.strip_append_right hline]
  · exact hcaptured

/-- An expression that goes on below its line is not taken as a whole. -/
theorem unspaced_captured_ne (h : step.Assigns expression) {c : Char}
    (hc : c ∈ expression.drop step.rest.length) (hblank : Text.isBlank c = false) :
    Text.unspaced step.captured ≠ Text.unspaced expression := by
  rcases h.cases with ⟨below, rfl⟩ | ⟨-, hlength⟩
  · rw [List.drop_left] at hc
    intro heq
    rw [captured, Text.unspaced_strip, Text.unspaced_append] at heq
    have hle : (Text.unspaced (statement step.rest).1).length ≤
        (Text.unspaced step.rest).length := by
      conv => rhs; rw [← statement_append step.rest, Text.unspaced_append, List.length_append]
      exact Nat.le_add_right _ _
    have hbelow : Text.unspaced below ≠ [] := by
      intro hnil
      rw [Text.unspaced_eq_nil_iff.1 hnil c hc] at hblank
      cases hblank
    have hpos := List.length_pos_iff.2 hbelow
    rw [heq, List.length_append] at hle
    omega
  · rw [List.drop_eq_nil_of_le hlength] at hc
    cases hc

theorem balanced_captured (step : LoopStep) : Balanced .group step.captured :=
  (balanced_statement step.rest).strip.inGroup

end LoopStep

/-! ## Headers -/

/-- A header in the alternative notation closes where its bracket does. -/
theorem exists_of_header? {inner r header behind : Text} (hinner : Balanced .group inner)
    (h : header? (inner ++ ')' :: r) = some (header, behind)) :
    ∃ b, header = inner ++ ')' :: b := by
  obtain ⟨htext, inner', b, rfl, hinner', -⟩ := header?_iff.1 h
  have hrun : ∀ {x y : Text}, Balanced .group x →
      (afterRun .group (x ++ ')' :: y)).1 = ')' :: y := by
    intro x y hx
    rw [hx.afterRun_append, afterRun_closer (o := '(') rfl]
  rw [List.append_assoc, List.cons_append] at htext
  have hbehind := hrun (y := r) hinner
  rw [htext, hrun hinner'] at hbehind
  rw [← hbehind] at htext
  exact ⟨b ++ [':'], congrArg (· ++ _) (List.append_cancel_right htext).symm⟩

/-- What is in front of the first event stays. -/
theorem Exposes.front {loopType : Text} {prev : Option Char} {scopes out : LoopScopes} {s t : Text}
    (h : Exposes loopType prev scopes s t out) :
    (Text.search LoopEvent.at? prev s = none ∧ t = s) ∨
      ∃ before found, Text.search LoopEvent.at? prev s = some (before, found) ∧ before <+: t := by
  cases h with
  | rest hsearch => exact .inl ⟨hsearch, rfl⟩
  | assign hsearch | templateLoop hsearch | outerLoop hsearch | plainLoop hsearch
  | outerEnd hsearch | endLoop hsearch =>
    refine .inr ⟨_, _, hsearch, ?_⟩
    simp only [List.append_assoc]
    exact List.prefix_append _ _

/-- A header without events stays. -/
theorem Exposes.header {loopType : Text} {prev : Option Char} {scopes out : LoopScopes}
    {inner r t : Text} (h : Exposes loopType prev scopes (inner ++ ')' :: r) t out)
    (hquiet : Text.search LoopEvent.at? prev (inner ++ [')']) = none) :
    ∃ r', t = inner ++ ')' :: r' := by
  have hsearch := search_seal (.inr rfl) hquiet r
  rcases h.front with ⟨-, rfl⟩ | ⟨before, found, hfound, t', rfl⟩
  · exact ⟨r, rfl⟩
  · rw [hfound] at hsearch
    obtain ⟨q, -, heq⟩ := Option.map_eq_some_iff.1 hsearch.symm
    obtain ⟨rfl, -⟩ := Prod.mk.inj heq
    exact ⟨q.1 ++ t', by rw [List.append_assoc, List.cons_append]⟩

namespace LoopStep

/-- Whether the search for events passes over what the brackets of a template loop's header hold
behind `as`: the loop is an outermost one in the alternative notation, or there is no event. -/
def Passes (loop : LoopStep) (inner : Text) : Prop :=
  (loop.scopes.inTemplateLoop = false ∧ (header? loop.rest).isSome = true) ∨
    Text.search LoopEvent.at? (some 's') (inner ++ [')']) = none

/-- Whether the header of a template loop is written over `source`. A bracket that closed in the
line closes in what is written. -/
def Iterates (loop : LoopStep) (source : Text) : Prop :=
  ∃ tail, loop.written ++ loop.left = loopOver source ++ tail ∧
    ∀ inner r, loop.rest = inner ++ ')' :: r → Balanced .group inner → loop.Passes inner →
      ∃ r', tail = inner ++ ')' :: r' ∧
        enclosed? ('(' :: (source ++ " as".toList ++ tail)) =
          some (source ++ " as".toList ++ inner, r')

/-- A template loop iterates the expression that was assigned last. -/
theorem iterates_of_outcome? {loopType : Text} {loop : LoopStep} {line : LoopScopes}
    {o : LoopOutcome} (hevent : loop.event = .templateLoop)
    (houtcome : loop.event.outcome? loopType loop.scopes loop.word loop.rest = some o)
    (hwritten : loop.written = o.written)
    (hleft : Exposes loopType (Text.lastOr none (loop.shown ++ loop.written)) o.scopes o.behind
      loop.left line) :
    ∃ source, loop.scopes.pending = some source ∧
      (Balanced .group source → loop.Iterates source) := by
  rw [hevent] at houtcome
  obtain ⟨source, hsource, -, hcases⟩ := LoopEvent.outcome?_templateLoop_iff.1 houtcome
  refine ⟨source, hsource, fun hbalanced => ?_⟩
  -- wherever the header stays, its bracket closes
  have hcloses : ∀ {tail inner r' : Text}, Balanced .group inner → tail = inner ++ ')' :: r' →
      enclosed? ('(' :: (source ++ " as".toList ++ tail)) =
        some (source ++ " as".toList ++ inner, r') := by
    rintro tail inner r' hinner rfl
    have has : Balanced .group " as".toList := .of_any (by decide)
    exact enclosed?_iff.2
      ⟨')', rfl, (List.append_assoc _ _ _).symm, (hbalanced.append has).append hinner⟩
  rcases hcases with ⟨hover, hbehind, hinner⟩ | ⟨header, -, hheader, hover⟩
  · refine ⟨loop.left, by rw [hwritten, hover], fun inner r hrest hbal hpasses => ?_⟩
    rw [hwritten, hover, lastOr_loopOver, hbehind, hrest] at hleft
    have hquiet : Text.search LoopEvent.at? (some 's') (inner ++ [')']) = none := by
      rcases hpasses with ⟨houter, hheader⟩ | hquiet
      · rcases hinner with hinside | hnone
        · rw [houter] at hinside
          cases hinside
        · rw [hnone] at hheader
          cases hheader
      · exact hquiet
    obtain ⟨r', htail⟩ := hleft.header hquiet
    exact ⟨r', htail, hcloses hbal htail⟩
  · refine ⟨header ++ loopDeclaration loopType ++ loop.left, ?_, fun inner r hrest hbal _ => ?_⟩
    · rw [hwritten, hover]
      simp only [List.append_assoc]
    · rw [hrest] at hheader
      obtain ⟨b, rfl⟩ := exists_of_header? hbal hheader
      have htail : inner ++ ')' :: b ++ loopDeclaration loopType ++ loop.left =
          inner ++ ')' :: (b ++ loopDeclaration loopType ++ loop.left) := by
        simp
      exact ⟨_, htail, hcloses hbal htail⟩

end LoopStep

/-- Behind an assignment, the first template loop iterates what was taken, if there is no other
assignment in front of it. -/
theorem Leads.iterates {loopType : Text} {scopes out : LoopScopes} {assign loop : LoopStep}
    {between after : List LoopStep}
    (h : Leads loopType scopes (assign :: (between ++ loop :: after)) out)
    (hassign : assign.event = .assign) (hbetween : ∀ step ∈ between, step.event ≠ .assign)
    (hloop : loop.event = .templateLoop) : loop.Iterates assign.captured := by
  cases h with
  | cons _ houtcome _ _ h =>
    rw [hassign] at houtcome
    obtain rfl := Option.some.inj houtcome
    obtain ⟨scopes', hbefore, hbehind⟩ := leads_append.1 h
    cases hbehind with
    | cons hscopes houtcome' hwritten hleft _ =>
      subst hscopes
      obtain ⟨source, hsource, hiterates⟩ :=
        LoopStep.iterates_of_outcome? hloop houtcome' hwritten hleft
      obtain rfl := Option.some.inj (hbefore.pending hbetween hsource)
      exact hiterates assign.balanced_captured

end Code

namespace CodeLine

open Code

/-- **Headers iterate what is assigned**, if it ends on the line of its assignment. Where code lines
are exposed, every template loop behind an assignment, with no other assignment in between, is
written over what is taken from that line, and a bracket of its header that closed still closes.
What is taken is the whole of the assigned expression, and not empty, if nothing but blanks is left
of the expression below the line; otherwise it is another text, whatever its blanks. An assignment
that ends its line at its sign is none of the steps. -/
theorem iterates_of_expose {loopType : Text} {lines exposed : List CodeLine}
    (h : expose loopType lines = .ok exposed) :
    ∃ runs, loopLines? loopType {} lines = some runs ∧
      runs.map (·.code) = lines.map (unwrapEscapes ·.code) ∧
      runs.map (·.exposed) = exposed.map (·.code) ∧
      (∀ run ∈ runs, ∀ step ∈ run.steps, step.In run.code run.exposed ∧
        (step.event = .assign → step.rest ≠ [])) ∧
      ∀ before assign between loop after,
        runs.flatMap (·.steps) = before ++ assign :: (between ++ loop :: after) →
        assign.event = .assign → (∀ step ∈ between, step.event ≠ .assign) →
        loop.event = .templateLoop →
          loop.Iterates assign.captured ∧
          ∀ expression, assign.Assigns expression →
            ((∀ c ∈ expression.drop assign.rest.length, Text.isBlank c = true) →
              assign.captured = Text.strip expression ∧
              ((∃ c ∈ expression, Text.isBlank c = false) → assign.captured ≠ [])) ∧
            ((∃ c ∈ expression.drop assign.rest.length, Text.isBlank c = false) →
              Text.unspaced assign.captured ≠ Text.unspaced expression) := by
  obtain ⟨runs, out, hruns, hcodes, hexposed, hin, hleads⟩ := exists_loopLines_of_expose h
  refine ⟨runs, hruns, hcodes, hexposed, fun run hrun step hstep => ?_, ?_⟩
  · -- an assignment has a text behind it: its head asks for one
    have hline := hin run hrun step hstep
    refine ⟨hline, fun hassign => ?_⟩
    have hevent := hline.event_eq
    rw [hassign] at hevent
    exact LoopEvent.ne_nil_of_assign hevent
  intro before assign between loop after hsteps hassign hbetween hloop
  rw [hsteps] at hleads
  obtain ⟨scopes, -, hbehind⟩ := leads_append.1 hleads
  refine ⟨hbehind.iterates hassign hbetween hloop, fun expression hexpression => ⟨?_, ?_⟩⟩
  · intro hline
    -- nothing but blanks is below the line, so that the line has the whole expression
    have hcaptured := LoopStep.captured_of_line hexpression hline
    refine ⟨hcaptured, ?_⟩
    rintro ⟨c, hc, hblank⟩
    rw [hcaptured]
    exact Text.strip_ne_nil hc hblank
  · rintro ⟨c, hc, hblank⟩
    exact LoopStep.unspaced_captured_ne hexpression hc hblank

/-- An assignment whose `;` is on the line below, a plain loop, and the header. -/
theorem iterates_of_expose_below :
    let m : Marker := ⟨"a".toList, "/a".toList, 1, []⟩
    let code : String → CodeLine := fun s => ⟨m, s.toList⟩
    let lines : List CodeLine := [
      code "$__currentLoopData = ['a;b', 2]", code "; foreach ($x as $y):;", code "endforeach;;",
      code "foreach($__currentLoopData as $v):;"]
    let exposed : List CodeLine := [
      code "$__currentLoopData = ['a;b', 2]", code "; foreach ($x as $y):;", code "endforeach;;",
      code "foreach(['a;b', 2] as $v): /** @var Loop $loop */;"]
    let assign : LoopStep := ⟨.assign, {}, [], "$__currentLoopData =".toList,
      " ['a;b', 2]".toList, [], "$__currentLoopData = ['a;b', 2]".toList, []⟩
    let loop : LoopStep := ⟨.templateLoop, { pending := some "['a;b', 2]".toList }, [],
      "foreach($__currentLoopData as".toList, " $v):;".toList, [],
      "foreach(['a;b', 2] as $v): /** @var Loop $loop */".toList, ";".toList⟩
    expose "Loop".toList lines = .ok exposed ∧
      (∃ runs between, loopLines? "Loop".toList {} lines = some runs ∧
        runs.flatMap (·.steps) = assign :: (between ++ [loop]) ∧
        ∀ step ∈ between, step.event ≠ .assign) ∧
      assign.Assigns " ['a;b', 2]\n".toList ∧ loop.Iterates "['a;b', 2]".toList := by
  intro m code lines exposed assign loop
  let scopes : LoopScopes := { pending := some "['a;b', 2]".toList }
  -- between the assignment and its loop, a loop of the template's own starts and ends
  let plain : LoopStep := ⟨.plainLoop, scopes, "; ".toList, "foreach (".toList,
    "$x as $y):;".toList, "; ".toList, "foreach (".toList, "$x as $y):;".toList⟩
  let ending : LoopStep := ⟨.endLoop, { scopes with opened := [none] }, [], "endforeach;".toList,
    ";".toList, [], "endforeach;".toList, ";".toList⟩
  have hexpose : expose "Loop".toList lines = .ok exposed := by decide +kernel
  have hsteps : (loopLines? "Loop".toList {} lines).map (·.flatMap (·.steps)) =
      some (assign :: ([plain, ending] ++ [loop])) := by decide +kernel
  have hbetween : ∀ step ∈ [plain, ending], step.event ≠ .assign := by decide
  obtain ⟨runs, hruns, -, -, -, hall⟩ := iterates_of_expose hexpose
  rw [hruns] at hsteps
  have hflat := Option.some.inj hsteps
  -- the expression ends below its line, in front of the semicolon
  have hassigns : assign.Assigns " ['a;b', 2]\n".toList := by
    constructor
    · have hlist : Balanced .group "'a;b', 2".toList :=
        (balanced_quoteSingle .group "a;b".toList).append (.of_any (by decide))
      exact .plain rfl (.group rfl hlist (.plain rfl .nil))
    · exact ⟨"\n; foreach ($x as $y):;".toList, " foreach ($x as $y):;".toList, rfl⟩
  obtain ⟨hiterates, hcaptured⟩ := hall [] assign [plain, ending] loop [] hflat rfl hbetween rfl
  have hline : (" ['a;b', 2]\n".toList.drop assign.rest.length).all Text.isBlank = true := rfl
  obtain ⟨hwhole, -⟩ := (hcaptured _ hassigns).1 (List.all_eq_true.1 hline)
  rw [hwhole] at hiterates
  exact ⟨hexpose, ⟨runs, [plain, ending], hruns, hflat, hbetween⟩, hassigns, hiterates⟩

/-- An expression over three lines is lost: there is nothing left for the header to iterate. -/
theorem exists_cut_expression :
    ∃ (compiled : Text) (lines exposed : List CodeLine) (expression : Text),
      split compiled = .ok lines ∧ expose "Loop".toList lines = .ok exposed ∧
      Balanced .statement expression ∧ (∃ c ∈ expression, Text.isBlank c = false) ∧
      Text.joinWith ['\n'] (lines.map (·.code)) = "$__currentLoopData =".toList ++ expression ++
        "; foreach($__currentLoopData as $x):;".toList ∧
      Text.joinWith ['\n'] (exposed.map (·.code)) = "$__currentLoopData =".toList ++ expression ++
        "; foreach( as $x): /** @var Loop $loop */;".toList := by
  let m : Marker := ⟨"a".toList, "/a".toList, 1, []⟩
  let lines : List CodeLine := [⟨m, "$__currentLoopData = [".toList⟩, ⟨m, "1, 2".toList⟩,
    ⟨m, "]; foreach($__currentLoopData as $x):;".toList⟩]
  let exposed : List CodeLine := [⟨m, "$__currentLoopData = [".toList⟩, ⟨m, "1, 2".toList⟩,
    ⟨m, "]; foreach( as $x): /** @var Loop $loop */;".toList⟩]
  have hsplit : split (m.encode ++
      "<?php $__currentLoopData = [\n1, 2\n]; foreach($__currentLoopData as $x): ?>".toList) =
        .ok lines := by decide +kernel
  have hexpose : expose "Loop".toList lines = .ok exposed := by decide +kernel
  have hlist : Balanced .group "\n1, 2\n".toList := .of_any (by decide)
  have hexpression : Balanced .statement " [\n1, 2\n]".toList :=
    .plain rfl (.group rfl hlist .nil)
  have hmem : '[' ∈ " [\n1, 2\n]".toList := by decide +kernel
  exact ⟨_, lines, exposed, " [\n1, 2\n]".toList, hsplit, hexpose, hexpression,
    ⟨'[', hmem, rfl⟩, rfl, rfl⟩

end CodeLine

end TemplateTrace
