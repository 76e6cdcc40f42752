import TemplateTrace.Proofs.Check.BackMapping
import TemplateTrace.Proofs.Code.Events
import TemplateTrace.Proofs.Include.Starts

/-!
# Loops pair up

Code lines are read as a sequence of loop events, and a stack of open loops says what each event
does: a template loop or a plain one in the alternative notation is pushed, an end pops whatever is
on top. Exposing loops writes the outermost template loops with a declaration of the loop helper and
unsets the helper where they end, and it writes everything else as it was.

Events are read as text, in strings as well. The expression of an assignment and the header of a
template loop are passed over as wholes; in the header of an inner template loop the rewriting does
look for events, so that there must be none.

- `Code.LoopKind`, `Code.LoopPart`, `Code.loopParts`: a code text cut at its events.
- `Code.flatMap_loopParts`: the events and what is around them are the text.
- `Code.LoopCourse`: the open loops, with what an event does and how it is written.
- `Code.LoopCourse.step_balance`, `Code.LoopCourse.run_balance`: declarations less unsets.
- `Code.Exposes.writeText`: what is written for one line.
- `CodeLine.expose_loops`: what is written for all lines.
- `CodeLine.exists_event_in_header`: an end in the header of an inner template loop.
-/

namespace TemplateTrace

namespace Code

/-! ## Reading events -/

/-- An event of the loops in a text. -/
inductive LoopKind where
  /-- An expression is assigned to the loop data. -/
  | assign (expression : Text)
  /-- A template loop starts. Its header goes on behind `as`, up to the `:` if it closes. -/
  | templateLoop (header : Option Text)
  /-- Another loop starts, in the alternative notation or not. -/
  | plainLoop (alternative : Bool)
  | endLoop
  deriving DecidableEq, Repr

/-- What stands behind the words of an event and belongs to it. -/
def LoopKind.tail : LoopKind → Text
  | .assign expression => expression
  | .templateLoop header => header.getD []
  | .plainLoop _ | .endLoop => []

/-- An event as it stands in a text, with the text in front of it. -/
structure LoopPart where
  front : Text
  /-- The words of the event, without the expression or the header behind them. -/
  word : Text
  kind : LoopKind
  deriving DecidableEq, Repr

def LoopPart.text (p : LoopPart) : Text := p.front ++ (p.word ++ p.kind.tail)

/-- What an event is, and the text in which the next one is looked for. -/
def LoopEvent.read (event : LoopEvent) (rest : Text) : LoopKind × Text :=
  match event with
  | .assign => (.assign (statement rest).1, (statement rest).2)
  | .templateLoop =>
    match header? rest with
    | some (header, behind) => (.templateLoop (some header), behind)
    | none => (.templateLoop none, rest)
  | .plainLoop => (.plainLoop (header? rest).isSome, rest)
  | .endLoop => (.endLoop, rest)

/-- What an event reads of a text and what is left of it make up that text. -/
theorem LoopEvent.append_read (event : LoopEvent) (rest : Text) :
    (event.read rest).1.tail ++ (event.read rest).2 = rest := by
  cases event with
  | assign => exact statement_append rest
  | templateLoop =>
    unfold LoopEvent.read
    dsimp only
    split
    next header behind h =>
      obtain ⟨rfl, -⟩ := header?_iff.1 h
      rfl
    · rfl
  | plainLoop => rfl
  | endLoop => rfl

theorem LoopEvent.suffix_read (event : LoopEvent) (rest : Text) : (event.read rest).2 <:+ rest :=
  ⟨_, event.append_read rest⟩

/-- An event and what it reads take off a part of the text. -/
theorem length_read_lt {prev : Option Char} {s before rest : Text} {event : LoopEvent}
    (h : Text.search LoopEvent.at? prev s = some (before, event, rest)) :
    (event.read rest).2.length < s.length := by
  obtain ⟨p, t, rfl, ht⟩ := Text.search_eq_some h
  have hlt := LoopEvent.length_lt ht
  have hle := (event.suffix_read rest).length_le
  rw [List.length_append]
  omega

/-- The events of a text one after another, and the text behind the last one. -/
def loopParts (prev : Option Char) (s : Text) : List LoopPart × Text :=
  match h : Text.search LoopEvent.at? prev s with
  | none => ([], s)
  | some (before, event, rest) =>
    have := length_read_lt h
    let behind := (event.read rest).2
    let (parts, last) := loopParts (Text.lastOr prev (Text.upTo s behind)) behind
    (⟨before, Text.upTo (s.drop before.length) rest, (event.read rest).1⟩ :: parts, last)
termination_by s.length

/-- A text without events is one part. -/
theorem loopParts_of_search_none {prev : Option Char} {s : Text}
    (h : Text.search LoopEvent.at? prev s = none) : loopParts prev s = ([], s) := by
  rw [loopParts]
  split
  · rfl
  next h' =>
    rw [h] at h'
    cases h'

/-- The events of a text are its first event and those of the text behind it. -/
theorem loopParts_of_search {prev : Option Char} {before word rest : Text} {event : LoopEvent}
    (h : Text.search LoopEvent.at? prev (before ++ (word ++ rest)) = some (before, event, rest)) :
    loopParts prev (before ++ (word ++ rest)) =
      (⟨before, word, (event.read rest).1⟩ ::
        (loopParts (Text.lastOr prev (Text.upTo (before ++ (word ++ rest)) (event.read rest).2))
          (event.read rest).2).1,
      (loopParts (Text.lastOr prev (Text.upTo (before ++ (word ++ rest)) (event.read rest).2))
        (event.read rest).2).2) := by
  rw [loopParts]
  split
  next h' =>
    rw [h] at h'
    cases h'
  next before' event' rest' h' =>
    rw [h] at h'
    obtain ⟨rfl, heq⟩ := Prod.mk.inj (Option.some.inj h')
    obtain ⟨rfl, rfl⟩ := Prod.mk.inj heq
    rw [List.drop_left, Text.upTo_append]

/-- The events and what is around them are the text. -/
theorem flatMap_loopParts (prev : Option Char) (s : Text) :
    (loopParts prev s).1.flatMap LoopPart.text ++ (loopParts prev s).2 = s := by
  induction s using (measure (List.length (α := Char))).wf.induction generalizing prev with
  | h s ih =>
    cases hsearch : Text.search LoopEvent.at? prev s with
    | none =>
      rw [loopParts_of_search_none hsearch]
      rfl
    | some found =>
      obtain ⟨before, event, rest⟩ := found
      obtain ⟨word, rfl⟩ := LoopEvent.exists_word_of_search hsearch
      rw [loopParts_of_search hsearch, List.flatMap_cons, List.append_assoc,
        ih _ (length_read_lt hsearch)]
      show before ++ (word ++ (event.read rest).1.tail) ++ (event.read rest).2 = _
      rw [List.append_assoc, List.append_assoc, event.append_read]

/-! ## The open loops -/

/-- What the events so far come to. -/
structure LoopCourse where
  /-- The expression last assigned, until a template loop takes it. -/
  data : Option Text := none
  /-- The open loops, innermost first, and whether each is a template loop. -/
  opened : List Bool := []
  deriving DecidableEq, Repr

namespace LoopCourse

/-- Whether a template loop is open. -/
def inTemplateLoop (c : LoopCourse) : Bool := c.opened.contains true

/-- What an event does to the open loops. -/
def step (c : LoopCourse) : LoopKind → LoopCourse
  | .assign expression => { c with data := some (Text.strip expression) }
  | .templateLoop _ => { data := none, opened := true :: c.opened }
  | .plainLoop alternative =>
    { c with opened := if alternative then false :: c.opened else c.opened }
  | .endLoop => { c with opened := c.opened.tail }

/-- Whether an event opens a template loop while none is open. -/
def declares (c : LoopCourse) : LoopKind → Bool
  | .templateLoop _ => !c.inTemplateLoop
  | _ => false

/-- Whether an event closes a template loop and leaves none open. -/
def unsets (c : LoopCourse) : LoopKind → Bool
  | .endLoop => c.opened.head? == some true && !c.opened.tail.contains true
  | _ => false

/-- Where a sequence of events leads. -/
def run (c : LoopCourse) (events : List LoopKind) : LoopCourse := events.foldl step c

/-- The number of events in a sequence of which something holds where they stand. -/
def count (p : LoopCourse → LoopKind → Bool) (c : LoopCourse) : List LoopKind → Nat
  | [] => 0
  | e :: events => (p c e).toNat + count p (c.step e) events

/-! ### Declarations and unsets -/

/-- An event that changes whether a template loop is open declares the helper or unsets it. -/
theorem step_balance (c : LoopCourse) (e : LoopKind) :
    (c.declares e).toNat + c.inTemplateLoop.toNat =
      (c.unsets e).toNat + (c.step e).inTemplateLoop.toNat := by
  cases e with
  | assign => rfl
  | templateLoop header =>
    have hinside : (c.step (.templateLoop header)).inTemplateLoop = true := rfl
    rw [hinside]
    show (!c.inTemplateLoop).toNat + _ = _
    cases c.inTemplateLoop <;> rfl
  | plainLoop alternative =>
    cases alternative <;> simp [declares, unsets, step, inTemplateLoop]
  | endLoop =>
    obtain ⟨data, opened⟩ := c
    cases opened with
    | nil => rfl
    | cons loop outer =>
      cases loop <;> cases h : outer.contains true <;>
        simp_all [declares, unsets, step, inTemplateLoop]

/-- Over a sequence of events the helper is declared as often as it is unset, and once more if a
template loop has been left open. -/
theorem run_balance (c : LoopCourse) (events : List LoopKind) :
    c.count declares events + c.inTemplateLoop.toNat =
      c.count unsets events + (c.run events).inTemplateLoop.toNat := by
  induction events generalizing c with
  | nil => rfl
  | cons e events ih =>
    have hstep := c.step_balance e
    have hrest := ih (c.step e)
    show (c.declares e).toNat + (c.step e).count declares events + _ =
      (c.unsets e).toNat + (c.step e).count unsets events +
        ((c.step e).run events).inTemplateLoop.toNat
    omega

/-! ### Writing events -/

/-- How an event is written. A template loop iterates the expression that was assigned last. -/
def writeEvent (loopType : Text) (c : LoopCourse) (word : Text) (e : LoopKind) : Option Text :=
  match e with
  | .assign expression => some (word ++ expression)
  | .templateLoop header => c.data.map fun source => loopOver source ++ (header.getD [] ++
      if c.declares e then loopDeclaration loopType else [])
  | .plainLoop _ => some word
  | .endLoop => some ((if c.unsets e then loopUnset else []) ++ word)

/-- How a text is written, given its events and what is behind the last one. -/
def writeText (loopType : Text) (c : LoopCourse) (parts : List LoopPart) (last : Text) :
    Option Text :=
  match parts with
  | [] => some last
  | p :: parts => do
    let here ← c.writeEvent loopType p.word p.kind
    let behind ← (c.step p.kind).writeText loopType parts last
    return p.front ++ (here ++ behind)

/-- How texts are written one after another. -/
def writeTexts (loopType : Text) (c : LoopCourse) : List Text → Option (List Text)
  | [] => some []
  | s :: texts => do
    let here ← c.writeText loopType (loopParts none s).1 (loopParts none s).2
    let behind ← (c.run ((loopParts none s).1.map (·.kind))).writeTexts loopType texts
    return here :: behind

/-- The course that scopes keep. -/
def ofScopes (scopes : LoopScopes) : LoopCourse where
  data := scopes.pending
  opened := scopes.opened.map (·.isSome)

theorem contains_map_isSome (opened : List (Option Text)) :
    (opened.map (·.isSome)).contains true = opened.any (·.isSome) := by
  induction opened with
  | nil => rfl
  | cons loop opened ih =>
    rw [List.map_cons, List.contains_cons, ih, List.any_cons]
    cases loop <;> rfl

theorem inTemplateLoop_ofScopes (scopes : LoopScopes) :
    (ofScopes scopes).inTemplateLoop = scopes.inTemplateLoop := contains_map_isSome scopes.opened

/-- The end of a loop unsets the helper just when its loop is one of a template, and the
loops around it are not. -/
theorem unsets_ofScopes {scopes : LoopScopes} : (ofScopes scopes).unsets .endLoop = true ↔
    ∃ source outer, scopes.opened = some source :: outer ∧ outer.any (·.isSome) = false := by
  obtain ⟨pending, opened⟩ := scopes
  cases opened with
  | nil =>
    constructor
    · intro h
      cases h
    · rintro ⟨source, outer, h, -⟩
      cases h
  | cons loop outer =>
    have hunsets : (ofScopes ⟨pending, loop :: outer⟩).unsets .endLoop =
        (loop.isSome && !outer.any (·.isSome)) := by
      rw [← contains_map_isSome]
      cases loop <;> rfl
    rw [hunsets, Bool.and_eq_true, Bool.not_eq_true', Option.isSome_iff_exists]
    constructor
    · rintro ⟨⟨source, rfl⟩, houter⟩
      exact ⟨source, outer, rfl, houter⟩
    · rintro ⟨source, outer', h, houter⟩
      obtain ⟨rfl, rfl⟩ := List.cons.inj h
      exact ⟨⟨source, rfl⟩, houter⟩

/-- A template loop runs over the pending source. The outermost one declares the loop variable too.
-/
theorem writeEvent_templateLoop (loopType : Text) {scopes : LoopScopes} {source : Text}
    (hsource : scopes.pending = some source) (word header : Text) :
    (ofScopes scopes).writeEvent loopType word (.templateLoop (some header)) =
      some (loopOver source ++ (header ++
        if scopes.inTemplateLoop = true then [] else loopDeclaration loopType)) := by
  have hdata : (ofScopes scopes).data = some source := hsource
  rw [writeEvent, hdata, declares, inTemplateLoop_ofScopes]
  cases scopes.inTemplateLoop <;> rfl

theorem writeEvent_outerEnd (loopType : Text) {scopes : LoopScopes} {source : Text}
    {outer : List (Option Text)} (hopened : scopes.opened = some source :: outer)
    (houter : outer.any (·.isSome) = false) (word : Text) :
    (ofScopes scopes).writeEvent loopType word .endLoop = some (loopUnset ++ word) := by
  rw [writeEvent, unsets_ofScopes.2 ⟨source, outer, hopened, houter⟩, if_pos rfl]

/-- The end of a loop is written as it is, unless it ends the outermost template loop. -/
theorem writeEvent_endLoop (loopType : Text) {scopes : LoopScopes}
    (hopened : ∀ source outer, scopes.opened = some source :: outer → outer.any (·.isSome) = true)
    (word : Text) : (ofScopes scopes).writeEvent loopType word .endLoop = some word := by
  have hunsets : (ofScopes scopes).unsets .endLoop = false := by
    refine Bool.eq_false_iff.2 fun hunsets => ?_
    obtain ⟨source, outer, hcons, houter⟩ := unsets_ofScopes.1 hunsets
    rw [hopened source outer hcons] at houter
    cases houter
  rw [writeEvent, hunsets, if_neg Bool.false_ne_true]
  rfl

theorem step_endLoop_ofScopes (scopes : LoopScopes) :
    ofScopes { scopes with opened := scopes.opened.tail } = (ofScopes scopes).step .endLoop :=
  congrArg (LoopCourse.mk scopes.pending) List.map_tail

/-- Whether no event starts in the header of a template loop that an event opens inside another
one. -/
def QuietAt (c : LoopCourse) : LoopKind → Prop
  | .templateLoop (some header) =>
    c.inTemplateLoop = true → Text.search LoopEvent.at? (some 's') header = none
  | _ => True

instance (c : LoopCourse) : DecidablePred c.QuietAt
  | .templateLoop (some _) => inferInstanceAs (Decidable (_ → _))
  | .templateLoop none | .assign _ | .plainLoop _ | .endLoop => isTrue trivial

/-- Whether no event starts in the header of any template loop that is opened inside another one. -/
def QuietInside (c : LoopCourse) : List LoopKind → Prop
  | [] => True
  | e :: events => c.QuietAt e ∧ (c.step e).QuietInside events

def decidableQuietInside (c : LoopCourse) :
    (events : List LoopKind) → Decidable (c.QuietInside events)
  | [] => isTrue trivial
  | e :: events => @instDecidableAnd _ _ _ (decidableQuietInside (c.step e) events)

instance (c : LoopCourse) : DecidablePred c.QuietInside := decidableQuietInside c

theorem quietInside_append {c : LoopCourse} {events events' : List LoopKind} :
    c.QuietInside (events ++ events') ↔
      c.QuietInside events ∧ (c.run events).QuietInside events' := by
  induction events generalizing c with
  | nil => exact ⟨fun h => ⟨trivial, h⟩, And.right⟩
  | cons e events ih => exact (and_congr_right fun _ => ih).trans and_assoc.symm

end LoopCourse

/-! ## Exposed texts -/

theorem LoopEvent.at?_congr {prev prev' : Option Char}
    (h : Text.startsWord prev = Text.startsWord prev') (s : Text) :
    LoopEvent.at? prev s = LoopEvent.at? prev' s := by
  have hhead : ∀ hd : Head, hd.wordRest? prev s = hd.wordRest? prev' s := by
    intro hd
    rw [Head.wordRest?, Head.wordRest?, h]
  simp only [LoopEvent.at?, LoopEvent.at?.plain, hhead]

theorem search_congr {prev prev' : Option Char}
    (h : Text.startsWord prev = Text.startsWord prev') (s : Text) :
    Text.search LoopEvent.at? prev s = Text.search LoopEvent.at? prev' s := by
  have hat := LoopEvent.at?_congr h
  cases s with
  | nil => rw [Text.search, Text.search, hat]
  | cons c s => rw [Text.search, Text.search, hat]

theorem upTo_behind {rest a b : Text} (h : a ++ b = rest) (before word : Text) :
    Text.upTo (before ++ (word ++ rest)) b = before ++ word ++ a := by
  rw [← h, ← List.append_assoc word, Text.upTo_append_append, List.append_assoc]

/-- Where events stand depends on the character in front only in whether a word can start. -/
theorem loopParts_congr {prev prev' : Option Char}
    (h : Text.startsWord prev = Text.startsWord prev') (s : Text) :
    loopParts prev s = loopParts prev' s := by
  cases hsearch : Text.search LoopEvent.at? prev s with
  | none =>
    rw [loopParts_of_search_none hsearch, loopParts_of_search_none (search_congr h s ▸ hsearch)]
  | some found =>
    obtain ⟨before, event, rest⟩ := found
    obtain ⟨word, rfl⟩ := LoopEvent.exists_word_of_search hsearch
    have hsearch' := search_congr h _ ▸ hsearch
    -- the event itself is in front of the text behind it
    have hne : Text.upTo (before ++ (word ++ rest)) (event.read rest).2 ≠ [] := by
      obtain ⟨x, hx⟩ := event.suffix_read rest
      rw [upTo_behind hx, List.append_assoc]
      exact List.append_ne_nil_of_right_ne_nil before
        (List.append_ne_nil_of_left_ne_nil (ne_nil_of_search hsearch) x)
    rw [loopParts_of_search hsearch, loopParts_of_search hsearch',
      Text.lastOr_of_ne_nil hne prev prev']

/-- The events of a text with more text in front of the first one. -/
def prependFront (u : Text) (q : List LoopPart × Text) : List LoopPart × Text :=
  match q with
  | ([], last) => ([], u ++ last)
  | (p :: parts, last) => ({ p with front := u ++ p.front } :: parts, last)

theorem map_kind_prependFront (u : Text) (q : List LoopPart × Text) :
    (prependFront u q).1.map (·.kind) = q.1.map (·.kind) := by
  obtain ⟨parts, last⟩ := q
  cases parts <;> rfl

/-- Text in front of the first event is written as it is. -/
theorem writeText_prependFront (loopType u : Text) (c : LoopCourse) (q : List LoopPart × Text) :
    c.writeText loopType (prependFront u q).1 (prependFront u q).2 =
      (c.writeText loopType q.1 q.2).map (u ++ ·) := by
  obtain ⟨parts, last⟩ := q
  cases parts with
  | nil => rfl
  | cons p parts =>
    obtain ⟨front, word, kind⟩ := p
    show (do
      let here ← c.writeEvent loopType word kind
      let behind ← (c.step kind).writeText loopType parts last
      return u ++ front ++ (here ++ behind)) = _
    rw [LoopCourse.writeText]
    cases c.writeEvent loopType word kind with
    | none => rfl
    | some here =>
      cases (c.step kind).writeText loopType parts last with
      | none => rfl
      | some behind => exact congrArg some (List.append_assoc _ _ _)

section First

variable {prev prev' : Option Char} {before word rest behind : Text} {event : LoopEvent}
  {kind : LoopKind}

/-- The first event of a text, and those behind it, where a word can start as it can behind
`prev'`. -/
theorem loopParts_eq_cons
    (hsearch : Text.search LoopEvent.at? prev (before ++ (word ++ rest)) =
      some (before, event, rest))
    (hread : event.read rest = (kind, behind))
    (hword : Text.startsWord (Text.lastOr prev (Text.upTo (before ++ (word ++ rest)) behind)) =
      Text.startsWord prev') :
    loopParts prev (before ++ (word ++ rest)) =
      (⟨before, word, kind⟩ :: (loopParts prev' behind).1, (loopParts prev' behind).2) := by
  rw [loopParts_of_search hsearch, hread, loopParts_congr hword]

/-- The first event is written in its place, and those behind it from where it leads. -/
theorem writeText_of_search {loopType here t : Text} {c out : LoopCourse}
    (hsearch : Text.search LoopEvent.at? prev (before ++ (word ++ rest)) =
      some (before, event, rest))
    (hread : event.read rest = (kind, behind))
    (hword : Text.startsWord (Text.lastOr prev (Text.upTo (before ++ (word ++ rest)) behind)) =
      Text.startsWord prev')
    (hhere : c.writeEvent loopType word kind = some here)
    (hclosed : .templateLoop none ∉ (loopParts prev (before ++ (word ++ rest))).1.map (·.kind))
    (hquiet : c.QuietInside ((loopParts prev (before ++ (word ++ rest))).1.map (·.kind)))
    (h : .templateLoop none ∉ (loopParts prev' behind).1.map (·.kind) →
      (c.step kind).QuietInside ((loopParts prev' behind).1.map (·.kind)) →
      (c.step kind).writeText loopType (loopParts prev' behind).1 (loopParts prev' behind).2 =
        some t ∧
      (c.step kind).run ((loopParts prev' behind).1.map (·.kind)) = out) :
    c.writeText loopType (loopParts prev (before ++ (word ++ rest))).1
        (loopParts prev (before ++ (word ++ rest))).2 = some (before ++ (here ++ t)) ∧
      c.run ((loopParts prev (before ++ (word ++ rest))).1.map (·.kind)) = out := by
  rw [loopParts_eq_cons hsearch hread hword] at hclosed hquiet ⊢
  rw [List.map_cons, List.mem_cons, not_or] at hclosed
  obtain ⟨hwrite, hrun⟩ := h hclosed.2 hquiet.2
  refine ⟨?_, hrun⟩
  rw [LoopCourse.writeText, hhere]
  dsimp only [bind, Option.bind]
  rw [hwrite]
  rfl

end First

/-! ### Headers -/

theorem read_templateLoop {rest header behind : Text}
    (h : header? rest = some (header, behind)) :
    LoopEvent.templateLoop.read rest = (.templateLoop (some header), behind) := by
  unfold LoopEvent.read
  dsimp only
  rw [h]

theorem lastOr_header {rest header behind : Text} (h : header? rest = some (header, behind))
    (prev : Option Char) (x : Text) : Text.lastOr prev (x ++ header) = some ':' := by
  obtain ⟨-, inner, b, rfl, -⟩ := header?_iff.1 h
  rw [← Text.lastOr_append, ← Text.lastOr_append, Text.lastOr_cons, ← Text.lastOr_append]
  rfl

/-- What is behind a template loop is behind the colon of its header. -/
theorem lastOr_upTo_header {header behind : Text}
    (h : header? (header ++ behind) = some (header, behind)) (prev : Option Char)
    (before word : Text) :
    Text.lastOr prev (Text.upTo (before ++ (word ++ (header ++ behind))) behind) = some ':' := by
  rw [upTo_behind rfl, lastOr_header h]

theorem lastOr_loopDeclaration (prev : Option Char) (x loopType : Text) :
    Text.lastOr prev (x ++ loopDeclaration loopType) = some '/' := by
  rw [← Text.lastOr_append]
  exact Text.lastOr_append_of_ne_nil _ (" /** @var ".toList ++ loopType) (b := " $loop */".toList)
    (by decide)

theorem lastOr_loopOver (prev : Option Char) (x source : Text) :
    Text.lastOr prev (x ++ loopOver source) = some 's' := by
  rw [← Text.lastOr_append]
  exact Text.lastOr_append_of_ne_nil _ ("foreach(".toList ++ source) (b := " as".toList) (by decide)

/-- A search that finds no event up to a colon or a closing bracket goes on behind it. -/
theorem search_seal {c : Char} (hc : c = ':' ∨ c = ')') {prev : Option Char} {x : Text}
    (h : Text.search LoopEvent.at? prev (x ++ [c]) = none) (r : Text) :
    Text.search LoopEvent.at? prev (x ++ c :: r) =
      (Text.search LoopEvent.at? (some c) r).map fun q => (x ++ c :: q.1, q.2) := by
  have hlast : Text.lastOr prev (x ++ [c]) = some c :=
    (Text.lastOr_append prev x [c]).symm
  have hskip : Text.search LoopEvent.at? prev (x ++ [c] ++ r) =
      (Text.search LoopEvent.at? (some c) r).map fun q => (x ++ [c] ++ q.1, q.2) := by
    rw [← hlast]
    refine Text.search_skip fun a b hab hne => ?_
    have hnone := Text.search_eq_none h hab
    -- what is behind any place in front of the character ends in it
    obtain ⟨y, rfl⟩ : ∃ y, b = y ++ [c] := by
      rw [hab, ← Text.lastOr_append, Text.lastOr, List.getLast?_eq_some_getLast hne] at hlast
      exact List.getLast?_eq_some_iff.1 ((List.getLast?_eq_some_getLast hne).trans hlast)
    rw [List.append_assoc]
    exact LoopEvent.at?_seal hc hnone r
  simpa only [List.append_assoc, List.singleton_append] using hskip

/-- In a header without events the search finds none, whatever follows. -/
theorem loopParts_header {header r : Text} (hheader : header? (header ++ r) = some (header, r))
    (hquiet : Text.search LoopEvent.at? (some 's') header = none) :
    loopParts (some 's') (header ++ r) = prependFront header (loopParts (some ':') r) := by
  have hlast : Text.lastOr (some 's') header = some ':' := lastOr_header hheader (some 's') []
  -- no event starts in the header, and its colon seals it from what follows
  have hsearch : Text.search LoopEvent.at? (some 's') (header ++ r) =
      (Text.search LoopEvent.at? (some ':') r).map fun q => (header ++ q.1, q.2) := by
    obtain ⟨-, inner, b, rfl, -⟩ := header?_iff.1 hheader
    have hcolon : ∀ y, inner ++ ')' :: (b ++ [':']) ++ y = inner ++ ')' :: b ++ ':' :: y := by
      intro y
      simp
    have hnone : Text.search LoopEvent.at? (some 's') (inner ++ ')' :: b ++ [':']) = none := by
      rwa [← hcolon, List.append_nil]
    simpa only [hcolon] using search_seal (.inl rfl) hnone r
  cases hnext : Text.search LoopEvent.at? (some ':') r with
  | none =>
    rw [hnext] at hsearch
    rw [loopParts_of_search_none hsearch, loopParts_of_search_none hnext]
    rfl
  | some found =>
    obtain ⟨before, event, rest⟩ := found
    obtain ⟨word, rfl⟩ := LoopEvent.exists_word_of_search hnext
    rw [hnext, ← List.append_assoc] at hsearch
    obtain ⟨x, hx⟩ := event.suffix_read rest
    -- whether a word starts behind the event is the same with the header in front
    have hword : Text.lastOr (some 's')
        (Text.upTo (header ++ before ++ (word ++ rest)) (event.read rest).2) =
          Text.lastOr (some ':') (Text.upTo (before ++ (word ++ rest)) (event.read rest).2) := by
      rw [upTo_behind hx, upTo_behind hx, List.append_assoc header, List.append_assoc header,
        ← Text.lastOr_append, hlast]
    rw [← List.append_assoc, loopParts_eq_cons hsearch rfl (congrArg Text.startsWord hword),
      loopParts_of_search hnext]
    rfl

/-- A template loop inside another one is written over the expression. The search goes on in its
header, where it finds nothing, so that the header is written as it stands. -/
theorem writeText_of_search_inner {loopType source t : Text} {prev : Option Char}
    {scopes : LoopScopes} {out : LoopCourse} {before word header behind : Text}
    (hsearch : Text.search LoopEvent.at? prev (before ++ (word ++ (header ++ behind))) =
      some (before, .templateLoop, header ++ behind))
    (hheader : header? (header ++ behind) = some (header, behind))
    (hsource : scopes.pending = some source) (hinside : scopes.inTemplateLoop = true)
    (hclosed : .templateLoop none ∉
      (loopParts prev (before ++ (word ++ (header ++ behind)))).1.map (·.kind))
    (hquiet : (LoopCourse.ofScopes scopes).QuietInside
      ((loopParts prev (before ++ (word ++ (header ++ behind)))).1.map (·.kind)))
    (h : let parts := loopParts (Text.lastOr prev (before ++ loopOver source)) (header ++ behind)
      let course := LoopCourse.ofScopes
        { scopes with pending := none, opened := some source :: scopes.opened }
      .templateLoop none ∉ parts.1.map (·.kind) → course.QuietInside (parts.1.map (·.kind)) →
      course.writeText loopType parts.1 parts.2 = some t ∧
        course.run (parts.1.map (·.kind)) = out) :
    (LoopCourse.ofScopes scopes).writeText loopType
        (loopParts prev (before ++ (word ++ (header ++ behind)))).1
        (loopParts prev (before ++ (word ++ (header ++ behind)))).2 =
      some (before ++ (loopOver source ++ t)) ∧
    (LoopCourse.ofScopes scopes).run
      ((loopParts prev (before ++ (word ++ (header ++ behind)))).1.map (·.kind)) = out := by
  have hword := congrArg Text.startsWord (lastOr_upTo_header hheader prev before word)
  have hhere := LoopCourse.writeEvent_templateLoop loopType hsource word header
  rw [hinside, if_pos rfl, List.append_nil] at hhere
  -- the first part is the loop, and the others are those behind its header
  have hkinds : (loopParts prev (before ++ (word ++ (header ++ behind)))).1.map (·.kind) =
      .templateLoop (some header) :: (loopParts (some ':') behind).1.map (·.kind) := by
    rw [loopParts_eq_cons hsearch (read_templateLoop hheader) hword]
    rfl
  have hsplit := hquiet
  rw [hkinds] at hsplit
  obtain ⟨hsilent, hrest⟩ := hsplit
  -- inside a template loop, headers hold no events
  have hnone : Text.search LoopEvent.at? (some 's') header = none :=
    hsilent ((LoopCourse.inTemplateLoop_ofScopes scopes).trans hinside)
  dsimp only at h
  -- the course behind the loop writes the header first, and then the other parts
  rw [lastOr_loopOver, loopParts_header hheader hnone, map_kind_prependFront,
    writeText_prependFront] at h
  obtain ⟨hwritten, hrun⟩ := h (fun hmem => hclosed (hkinds ▸ List.mem_cons_of_mem _ hmem)) hrest
  obtain ⟨t, hwrite, rfl⟩ := Option.map_eq_some_iff.1 hwritten
  have hstep := writeText_of_search hsearch (read_templateLoop hheader) hword hhere hclosed hquiet
    fun _ _ => ⟨hwrite, hrun⟩
  simpa only [List.append_assoc] using hstep

/-- A line is written as its events are. -/
theorem Exposes.writeText {loopType : Text} {prev : Option Char} {scopes out : LoopScopes}
    {s t : Text} (h : Exposes loopType prev scopes s t out)
    (hclosed : .templateLoop none ∉ (loopParts prev s).1.map (·.kind))
    (hquiet : (LoopCourse.ofScopes scopes).QuietInside ((loopParts prev s).1.map (·.kind))) :
    (LoopCourse.ofScopes scopes).writeText loopType (loopParts prev s).1 (loopParts prev s).2 =
      some t ∧
    (LoopCourse.ofScopes scopes).run ((loopParts prev s).1.map (·.kind)) =
      LoopCourse.ofScopes out := by
  induction h with
  | rest hsearch =>
    rw [loopParts_of_search_none hsearch]
    exact ⟨rfl, rfl⟩
  | @assign prev scopes out before word rest t hsearch h ih =>
    have hbehind := upTo_behind (statement_append rest) before word
    have hstep := writeText_of_search hsearch rfl
      (congrArg (Text.startsWord <| Text.lastOr prev ·) hbehind) rfl hclosed hquiet ih
    simpa only [List.append_assoc] using hstep
  | @templateLoop prev scopes out before word rest source t hsearch hsource hinner h ih =>
    cases hheader : header? rest with
    | none =>
      -- the header does not close
      have hread : LoopEvent.templateLoop.read rest = (.templateLoop none, rest) := by
        unfold LoopEvent.read
        dsimp only
        rw [hheader]
      rw [loopParts_eq_cons hsearch hread rfl] at hclosed
      exact absurd List.mem_cons_self hclosed
    | some closed =>
      obtain ⟨header, behind⟩ := closed
      obtain ⟨rfl, -⟩ := header?_iff.1 hheader
      have hinside : scopes.inTemplateLoop = true := by
        rcases hinner with hinside | hnone
        · exact hinside
        · rw [hnone] at hheader
          cases hheader
      have hstep := writeText_of_search_inner hsearch hheader hsource hinside hclosed hquiet ih
      simpa only [List.append_assoc] using hstep
  | @outerLoop prev scopes out before word header rest source t hsearch hsource houter hheader h
      ih =>
    have hword : Text.startsWord (Text.lastOr prev
        (Text.upTo (before ++ (word ++ (header ++ rest))) rest)) = Text.startsWord (Text.lastOr prev
          (before ++ loopOver source ++ header ++ loopDeclaration loopType)) := by
      rw [lastOr_upTo_header hheader, lastOr_loopDeclaration]
      decide
    have hhere := LoopCourse.writeEvent_templateLoop loopType hsource word header
    rw [houter, if_neg Bool.false_ne_true] at hhere
    have hstep := writeText_of_search hsearch (read_templateLoop hheader) hword hhere hclosed
      hquiet ih
    simpa only [List.append_assoc] using hstep
  | @plainLoop prev scopes out before word rest t hsearch h ih =>
    have hbehind := Text.upTo_append_append before word rest
    have hopened : LoopCourse.ofScopes { scopes with opened :=
        if (header? rest).isSome then none :: scopes.opened else scopes.opened } =
          (LoopCourse.ofScopes scopes).step (.plainLoop (header? rest).isSome) := by
      cases (header? rest).isSome <;> rfl
    rw [hopened] at ih
    have hstep := writeText_of_search hsearch rfl
      (congrArg (Text.startsWord <| Text.lastOr prev ·) hbehind) rfl hclosed hquiet ih
    simpa only [List.append_assoc] using hstep
  | @outerEnd prev scopes out before word rest source t outer hsearch hopened houter h ih =>
    have hbehind := Text.upTo_append_append before word rest
    have hlast : Text.lastOr prev (before ++ word) =
        Text.lastOr prev (before ++ loopUnset ++ word) := by
      have hne := ne_nil_of_search hsearch
      rw [Text.lastOr_append_of_ne_nil prev before hne, Text.lastOr_append_of_ne_nil prev _ hne]
    have hcourse := LoopCourse.step_endLoop_ofScopes scopes
    rw [hopened, List.tail_cons] at hcourse
    rw [hcourse] at ih
    have hhere := LoopCourse.writeEvent_outerEnd loopType hopened houter word
    have hstep := writeText_of_search hsearch rfl
      (congrArg Text.startsWord (hbehind ▸ hlast)) hhere hclosed hquiet ih
    simpa only [List.append_assoc] using hstep
  | @endLoop prev scopes out before word rest t hsearch hopened h ih =>
    have hbehind := Text.upTo_append_append before word rest
    rw [LoopCourse.step_endLoop_ofScopes] at ih
    have hhere := LoopCourse.writeEvent_endLoop loopType hopened word
    have hstep := writeText_of_search hsearch rfl
      (congrArg (Text.startsWord <| Text.lastOr prev ·) hbehind) hhere hclosed hquiet ih
    simpa only [List.append_assoc] using hstep

end Code

namespace CodeLine

open Code

/-- The loop events of code lines, in order. -/
def loopEvents (lines : List CodeLine) : List LoopKind :=
  lines.flatMap fun line => (loopParts none (unwrapEscapes line.code)).1.map (·.kind)

/-- What is exposed line by line is what the events of the lines write, by induction on the lines,
with the course of the events behind each line that of the scopes. -/
theorem writeTexts_of_exposeFrom {loopType : Text} {scopes : LoopScopes}
    {lines exposed : List CodeLine} (h : exposeFrom loopType scopes lines = (exposed, none))
    (hclosed : .templateLoop none ∉ loopEvents lines)
    (hquiet : (LoopCourse.ofScopes scopes).QuietInside (loopEvents lines)) :
    (LoopCourse.ofScopes scopes).writeTexts loopType (lines.map (unwrapEscapes ·.code)) =
      some (exposed.map (·.code)) := by
  induction lines generalizing scopes exposed with
  | nil =>
    obtain rfl := (Prod.mk.inj h).1
    rfl
  | cons line lines ih =>
    obtain ⟨code, between, exposed', hcode, hfrom, rfl⟩ := exists_of_exposeFrom_cons h
    rw [loopEvents, List.flatMap_cons, List.mem_append, not_or] at hclosed
    rw [loopEvents, List.flatMap_cons, LoopCourse.quietInside_append] at hquiet
    obtain ⟨hline, hrest⟩ := hquiet
    obtain ⟨hwrite, hrun⟩ := hcode.writeText hclosed.1 hline
    rw [hrun] at hrest
    have hbehind := ih hfrom hclosed.2 hrest
    rw [List.map_cons, LoopCourse.writeTexts, hwrite, hrun]
    dsimp only [bind, Option.bind]
    rw [hbehind]
    rfl

/-- **Loops pair up** where the headers of template loops close on their lines and no event starts
in those of the inner ones. Each line is written as its events are, with the open loops carried from
line to line: the type of the loop helper is declared behind the header of the template loops that
are opened while none is open, the helper is unset in front of the ends that close a template loop
and leave none open, and all else is as it was but for what the template loops iterate. After every
event the helper has been declared as often as unset, and once more if a template loop is open. -/
theorem expose_loops {loopType : Text} {lines exposed : List CodeLine}
    (h : expose loopType lines = .ok exposed) (hclosed : .templateLoop none ∉ loopEvents lines)
    (hquiet : ({} : LoopCourse).QuietInside (loopEvents lines)) :
    exposed.map (·.marker) = lines.map (·.marker) ∧
    LoopCourse.writeTexts loopType {} (lines.map (unwrapEscapes ·.code)) =
      some (exposed.map (·.code)) ∧
    ∀ done, done <+: loopEvents lines →
      LoopCourse.count LoopCourse.declares {} done =
        LoopCourse.count LoopCourse.unsets {} done +
          if (LoopCourse.run {} done).inTemplateLoop then 1 else 0 := by
  refine ⟨map_marker_expose h, ?_, fun done _ => ?_⟩
  · unfold expose at h
    split at h
    next exposed' hfrom =>
      obtain rfl := Except.ok.inj h
      exact writeTexts_of_exposeFrom hfrom hclosed hquiet
    · cases h
  · have hbalance := LoopCourse.run_balance {} done
    rw [show ({} : LoopCourse).inTemplateLoop = false from rfl] at hbalance
    cases hopen : (LoopCourse.run {} done).inTemplateLoop <;> rw [hopen] at hbalance <;>
      exact hbalance

/-- A plain loop in a template loop, with another template loop in it. -/
theorem expose_loops_nested :
    let m : Marker := ⟨"a".toList, "/a".toList, 1, []⟩
    let code : String → CodeLine := fun s => ⟨m, s.toList⟩
    let lines : List CodeLine := [
      code "$__currentLoopData = $a; foreach($__currentLoopData as $b):;",
      code "foreach($b as $c):;",
      code "$__currentLoopData = $c; foreach($__currentLoopData as $d):;",
      code "endforeach;;", code "endforeach;;", code "endforeach;;"]
    let exposed : List CodeLine := [
      code "$__currentLoopData = $a; foreach($a as $b): /** @var Loop $loop */;",
      code "foreach($b as $c):;",
      code "$__currentLoopData = $c; foreach($c as $d):;",
      code "endforeach;;", code "endforeach;;", code "unset($loop); endforeach;;"]
    expose "Loop".toList lines = .ok exposed ∧
      LoopCourse.writeTexts "Loop".toList {} (lines.map (unwrapEscapes ·.code)) =
        some (exposed.map (·.code)) ∧
      ∀ done, done <+: loopEvents lines →
        LoopCourse.count LoopCourse.declares {} done =
          LoopCourse.count LoopCourse.unsets {} done +
            if (LoopCourse.run {} done).inTemplateLoop then 1 else 0 := by
  intro m code lines exposed
  have hexpose : expose "Loop".toList lines = .ok exposed := by decide +kernel
  obtain ⟨-, hwrite, hbalance⟩ := expose_loops hexpose (by decide +kernel) (by decide +kernel)
  exact ⟨hexpose, hwrite, hbalance⟩

/-- Lines are exposed one after another, each with the scopes that the one above leaves. -/
theorem exposeFrom_cons {loopType code : Text} {scopes scopes' : LoopScopes} {line : CodeLine}
    {lines exposed : List CodeLine}
    (hcode : exposeLoops loopType (.unboundLoopData line.marker.path line.marker.line) none scopes
      (unwrapEscapes line.code) = .ok (code, scopes'))
    (hlines : exposeFrom loopType scopes' lines = (exposed, none)) :
    exposeFrom loopType scopes (line :: lines) = ({ line with code } :: exposed, none) := by
  rw [exposeFrom, hcode]
  dsimp only
  rw [hlines]

/-- An end in the header of an inner template loop is taken for an event there, though it is passed
over as a part of the header. The helper is unset one end too early. -/
theorem exists_event_in_header :
    ∃ lines exposed : List CodeLine,
      expose "Loop".toList lines = .ok exposed ∧ .templateLoop none ∉ loopEvents lines ∧
      LoopCourse.writeTexts "Loop".toList {} (lines.map (unwrapEscapes ·.code)) ≠
        some (exposed.map (·.code)) := by
  let m : Marker := ⟨"a".toList, "/a".toList, 1, []⟩
  let first : CodeLine := ⟨m, "$__currentLoopData = $a; foreach($__currentLoopData as $x):;".toList⟩
  let first' : CodeLine :=
    ⟨m, "$__currentLoopData = $a; foreach($a as $x): /** @var Loop $loop */;".toList⟩
  let second : CodeLine :=
    ⟨m, "$__currentLoopData = $b; foreach($__currentLoopData as $y['endforeach;']):;".toList⟩
  let second' : CodeLine :=
    ⟨m, "$__currentLoopData = $b; foreach($b as $y['endforeach;']):;".toList⟩
  let last : CodeLine := ⟨m, "endforeach;;".toList⟩
  let unset : CodeLine := ⟨m, "unset($loop); endforeach;;".toList⟩
  -- the end in the second header closes the inner loop
  let scopes : LoopScopes := { opened := [some "$a".toList] }
  have hfirst : exposeLoops "Loop".toList (.unboundLoopData m.path m.line) none {}
      (unwrapEscapes first.code) = .ok (first'.code, scopes) := by decide +kernel
  have hsecond : exposeLoops "Loop".toList (.unboundLoopData m.path m.line) none scopes
      (unwrapEscapes second.code) = .ok (second'.code, scopes) := by decide +kernel
  have hends : exposeFrom "Loop".toList scopes [last, last] = ([unset, last], none) := by
    decide +kernel
  have hbehind : exposeFrom "Loop".toList scopes [second, last, last] =
      ([second', unset, last], none) := exposeFrom_cons hsecond hends
  have hfrom : exposeFrom "Loop".toList {} [first, second, last, last] =
      ([first', second', unset, last], none) := exposeFrom_cons hfirst hbehind
  have hexpose : expose "Loop".toList [first, second, last, last] =
      .ok [first', second', unset, last] := by
    rw [expose, hfrom]
  exact ⟨_, _, hexpose, by decide +kernel, by decide +kernel⟩

end CodeLine

end TemplateTrace
