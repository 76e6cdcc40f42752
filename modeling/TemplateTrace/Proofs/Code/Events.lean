import TemplateTrace.Proofs.Code.Balanced
import TemplateTrace.Proofs.Except

/-!
# Loop events

Exposing loops goes from event to event. What is written for each event, how the scopes change and
where the search goes on is said here once, as a relation with one case per event.

- `Code.LoopEvent.suffix_at?`, `Code.LoopEvent.at?_seal`: behind an event, and in front of a colon
  or a closing bracket; `Code.LoopEvent.exists_word_of_search`: an event that is found.
- `Code.Exposes`: how a code text is written, event by event.
- `Code.exposes_of_exposeLoops`, `CodeLine.exists_of_exposeFrom_cons`: whatever is written is
  written so, line after line.
-/

namespace TemplateTrace

namespace Code

/-! ## Where events end -/

/-- What is behind an event is an end of the text. -/
theorem LoopEvent.suffix_at? {prev : Option Char} {s r : Text} {e : LoopEvent}
    (h : LoopEvent.at? prev s = some (e, r)) : r <:+ s := by
  have hplain : LoopEvent.at?.plain prev s = some (e, r) → r <:+ s := by
    intro h
    unfold LoopEvent.at?.plain at h
    split at h
    next r' hr =>
      obtain ⟨-, rfl⟩ := Prod.mk.inj (Option.some.inj h)
      exact Head.suffix_rest? (Head.wordRest?_eq_some_iff.1 hr).2
    · obtain ⟨r', hr, heq⟩ := Option.map_eq_some_iff.1 h
      obtain ⟨-, rfl⟩ := Prod.mk.inj heq
      exact Head.suffix_rest? (Head.wordRest?_eq_some_iff.1 hr).2
  unfold LoopEvent.at? at h
  split at h
  next c r' hr =>
    split at h
    · cases h
    · obtain ⟨-, rfl⟩ := Prod.mk.inj (Option.some.inj h)
      exact Head.suffix_rest? hr
  · cases h
  · split at h
    next r' hr =>
      split at h
      · obtain ⟨-, rfl⟩ := Prod.mk.inj (Option.some.inj h)
        exact Head.suffix_rest? (Head.wordRest?_eq_some_iff.1 hr).2
      · exact hplain h
    · exact hplain h

/-- An event that is found stands as a word between the texts around it. -/
theorem LoopEvent.exists_word_of_search {prev : Option Char} {s before rest : Text}
    {event : LoopEvent} (h : Text.search LoopEvent.at? prev s = some (before, event, rest)) :
    ∃ word, s = before ++ (word ++ rest) := by
  obtain ⟨u, rfl, hevent⟩ := Text.search_eq_some_lastOr h
  obtain ⟨word, rfl⟩ := LoopEvent.suffix_at? hevent
  exact ⟨word, rfl⟩

theorem ne_nil_of_search {prev : Option Char} {before word rest : Text} {event : LoopEvent}
    (h : Text.search LoopEvent.at? prev (before ++ (word ++ rest)) = some (before, event, rest)) :
    word ≠ [] := by
  obtain ⟨u, hu, hevent⟩ := Text.search_eq_some_lastOr h
  rintro rfl
  have hlt := LoopEvent.length_lt (List.append_cancel_left hu ▸ hevent)
  exact absurd hlt (Nat.lt_irrefl _)

/-- What a piece takes off ends in front of a character that it does not take. -/
theorem Piece.rest?_seal {p : Piece} {c : Char} (h : p.takes c = false) (x : Text) :
    (∀ r, p.rest? (x ++ c :: r) = none) ∨ ∃ y, ∀ r, p.rest? (x ++ c :: r) = some (y ++ c :: r) := by
  -- blanks stop at a character that is none
  have hstrip : ∀ x : Text, Text.isBlank c = false →
      ∃ y, ∀ r, Text.stripStart (x ++ c :: r) = y ++ c :: r := by
    intro x hc
    induction x with
    | nil => exact ⟨[], fun r => List.dropWhile_cons_of_neg (by simp [hc])⟩
    | cons d x ih =>
      by_cases hd : Text.isBlank d = true
      · obtain ⟨y, hy⟩ := ih
        exact ⟨y, fun r => (List.dropWhile_cons_of_pos hd).trans (hy r)⟩
      · exact ⟨d :: x, fun r => List.dropWhile_cons_of_neg hd⟩
  cases p with
  | word w =>
    by_cases hw : ∃ y, x = w ++ y
    · obtain ⟨y, rfl⟩ := hw
      exact .inr ⟨y, fun r => Text.after?_eq_some_iff.2 (List.append_assoc _ _ _)⟩
    · refine .inl fun r => Option.eq_none_iff_forall_not_mem.2 fun t ht => ?_
      -- a word that is not within `x` would run into the character, which it does not take
      have hcut := Text.after?_eq_some_iff.1 ht
      rcases List.append_eq_append_iff.1 hcut with ⟨w', hw', hc⟩ | ⟨y, hy, -⟩
      · cases w' with
        | nil => exact hw ⟨[], by rw [List.append_nil, hw', List.append_nil]⟩
        | cons d w' =>
          obtain ⟨rfl, -⟩ := List.cons.inj hc
          rw [Piece.takes, hw'] at h
          simp at h
      · exact hw ⟨y, hy⟩
  | blanks =>
    obtain ⟨y, hy⟩ := hstrip x h
    exact .inr ⟨y, fun r => congrArg some (hy r)⟩
  | someBlanks =>
    cases x with
    | nil => exact .inl fun r => if_neg (by simp [show Text.isBlank c = false from h])
    | cons d x =>
      by_cases hd : Text.isBlank d = true
      · obtain ⟨y, hy⟩ := hstrip x h
        exact .inr ⟨y, fun r => (if_pos hd).trans (congrArg some (hy r))⟩
      · exact .inl fun r => if_neg hd

/-- What a head takes off ends in front of a character that it does not take. -/
theorem Head.rest?_seal {h : Head} {c : Char} (hc : h.takes c = false) (x : Text) :
    (∀ r, h.rest? (x ++ c :: r) = none) ∨ ∃ y, ∀ r, h.rest? (x ++ c :: r) = some (y ++ c :: r) := by
  induction h generalizing x with
  | nil => exact .inr ⟨x, fun r => rfl⟩
  | cons p ps ih =>
    have htakes : p.takes c = false ∧ Head.takes ps c = false := by
      rwa [Head.takes, List.any_cons, Bool.or_eq_false_iff] at hc
    rcases Piece.rest?_seal htakes.1 x with hnone | ⟨y, hy⟩
    · exact .inl fun r => by rw [Head.rest?, hnone]; rfl
    · have hhead : ∀ r, Head.rest? (p :: ps) (x ++ c :: r) = Head.rest? ps (y ++ c :: r) := by
        intro r
        rw [Head.rest?, hy]
        rfl
      simpa only [hhead] using ih htakes.2 y

theorem Head.wordRest?_seal {h : Head} {c : Char} (hc : h.takes c = false) (prev : Option Char)
    (x : Text) : (∀ r, h.wordRest? prev (x ++ c :: r) = none) ∨
      ∃ y, ∀ r, h.wordRest? prev (x ++ c :: r) = some (y ++ c :: r) := by
  unfold Head.wordRest?
  cases Text.startsWord prev with
  | false => exact .inl fun r => rfl
  | true => exact Head.rest?_seal hc x

/-- No event runs over a colon or over a closing bracket, so that what follows one starts none in
front of it. -/
theorem LoopEvent.at?_seal {c : Char} (hc : c = ':' ∨ c = ')') {prev : Option Char} {x : Text}
    (h : LoopEvent.at? prev (x ++ [c]) = none) (r : Text) :
    LoopEvent.at? prev (x ++ c :: r) = none := by
  have hfirst : ∀ (y r : Text), (y ++ c :: r).head? = (y ++ [c]).head? := by
    intro y r
    cases y <;> rfl
  have hplain : ∀ r, LoopEvent.at?.plain prev (x ++ [c]) = none →
      LoopEvent.at?.plain prev (x ++ c :: r) = none := by
    intro r h
    unfold LoopEvent.at?.plain at h ⊢
    rcases Head.wordRest?_seal (h := [.word "foreach".toList, .blanks, .word "(".toList])
      (c := c) (by rcases hc with rfl | rfl <;> decide) prev x with hnone | ⟨y, hy⟩
    · rw [hnone] at h ⊢
      rcases Head.wordRest?_seal (h := [.word "endforeach".toList, .blanks, .word ";".toList])
        (c := c) (by rcases hc with rfl | rfl <;> decide) prev x with hnone' | ⟨y, hy⟩
      · rw [hnone']
        rfl
      · rw [hy] at h
        cases h
    · rw [hy] at h
      cases h
  unfold LoopEvent.at? at h ⊢
  -- the sign of an assignment may be the last thing in front of the character
  rcases Head.rest?_seal (h := [.word loopData, .blanks, .word "=".toList]) (c := c)
    (by rcases hc with rfl | rfl <;> decide) x with hnone | ⟨y, hy⟩
  · rw [hnone] at h ⊢
    dsimp only at h ⊢
    -- a template loop, whose last word must end there
    rcases Head.wordRest?_seal (h := [.word "foreach".toList, .blanks, .word "(".toList, .blanks,
      .word loopData, .someBlanks, .word "as".toList]) (c := c)
      (by rcases hc with rfl | rfl <;> decide) prev x with hnone' | ⟨y, hy⟩
    · rw [hnone'] at h ⊢
      exact hplain r h
    · rw [hy] at h ⊢
      have hends : Text.endsWord (y ++ c :: r) = Text.endsWord (y ++ [c]) := by
        rw [Text.endsWord, Text.endsWord, hfirst]
      dsimp only at h ⊢
      rw [hends]
      split at h
      · cases h
      next hword =>
        rw [if_neg hword]
        exact hplain r h
  · rw [hy] at h ⊢
    cases y with
    | nil => rcases hc with rfl | rfl <;> cases h
    | cons d y =>
      dsimp only [List.cons_append] at h ⊢
      split at h
      next hsign => exact if_pos hsign
      · cases h

/-! ## Writing a text -/

/-- A statement and what follows it are the text. -/
theorem statement_append (s : Text) : (statement s).1 ++ (statement s).2 = s := by
  have hparts : ∀ r : Text, r <:+ s → Text.upTo s r ++ r = s := by
    rintro r ⟨a, rfl⟩
    rw [Text.upTo_append]
  exact hparts _ (suffix_afterRun .statement s)

/-- The header of a template loop over an expression, up to its `as`. -/
def loopOver (source : Text) : Text := "foreach(".toList ++ source ++ " as".toList

theorem append_loopOver (before source : Text) :
    before ++ "foreach(".toList ++ source ++ " as".toList = before ++ loopOver source := by
  have hassoc : ∀ a b : Text, before ++ a ++ source ++ b = before ++ (a ++ source ++ b) := by
    intro a b
    rw [List.append_assoc, List.append_assoc, List.append_assoc]
  exact hassoc _ _

/-- How a code text is written from given scopes, and the scopes behind it. Each event stands as
`word` in the text; the search for the next one goes on behind what is written for it. -/
inductive Exposes (loopType : Text) :
    Option Char → LoopScopes → Text → Text → LoopScopes → Prop where
  /-- No more events. -/
  | rest {prev : Option Char} {scopes : LoopScopes} {s : Text}
    (hsearch : Text.search LoopEvent.at? prev s = none) : Exposes loopType prev scopes s s scopes
  /-- The assigned expression is kept in mind, and passed over. -/
  | assign {prev : Option Char} {scopes out : LoopScopes} {before word rest t : Text}
    (hsearch : Text.search LoopEvent.at? prev (before ++ (word ++ rest)) =
      some (before, .assign, rest))
    (h : Exposes loopType (Text.lastOr prev (before ++ word ++ (statement rest).1))
      { scopes with pending := some (Text.strip (statement rest).1) } (statement rest).2 t out) :
    Exposes loopType prev scopes (before ++ (word ++ rest))
      (before ++ word ++ (statement rest).1 ++ t) out
  /-- An inner template loop, or one whose header is cut off. -/
  | templateLoop {prev : Option Char} {scopes out : LoopScopes} {before word rest source t : Text}
    (hsearch : Text.search LoopEvent.at? prev (before ++ (word ++ rest)) =
      some (before, .templateLoop, rest))
    (hsource : scopes.pending = some source)
    (hinner : scopes.inTemplateLoop = true ∨ header? rest = none)
    (h : Exposes loopType (Text.lastOr prev (before ++ loopOver source))
      { scopes with pending := none, opened := some source :: scopes.opened } rest t out) :
    Exposes loopType prev scopes (before ++ (word ++ rest)) (before ++ loopOver source ++ t) out
  /-- An outermost template loop: the type of the helper is declared behind its header. -/
  | outerLoop {prev : Option Char} {scopes out : LoopScopes}
    {before word header rest source t : Text}
    (hsearch : Text.search LoopEvent.at? prev (before ++ (word ++ (header ++ rest))) =
      some (before, .templateLoop, header ++ rest))
    (hsource : scopes.pending = some source) (houter : scopes.inTemplateLoop = false)
    (hheader : header? (header ++ rest) = some (header, rest))
    (h : Exposes loopType
      (Text.lastOr prev (before ++ loopOver source ++ header ++ loopDeclaration loopType))
      { scopes with pending := none, opened := some source :: scopes.opened } rest t out) :
    Exposes loopType prev scopes (before ++ (word ++ (header ++ rest)))
      (before ++ loopOver source ++ header ++ loopDeclaration loopType ++ t) out
  /-- A plain loop is open in the alternative notation only. -/
  | plainLoop {prev : Option Char} {scopes out : LoopScopes} {before word rest t : Text}
    (hsearch : Text.search LoopEvent.at? prev (before ++ (word ++ rest)) =
      some (before, .plainLoop, rest))
    (h : Exposes loopType (Text.lastOr prev (before ++ word))
      { scopes with opened :=
        if (header? rest).isSome then none :: scopes.opened else scopes.opened } rest t out) :
    Exposes loopType prev scopes (before ++ (word ++ rest)) (before ++ word ++ t) out
  /-- The end of the outermost template loop: the helper is unset in front of it. -/
  | outerEnd {prev : Option Char} {scopes out : LoopScopes} {before word rest source t : Text}
    {outer : List (Option Text)}
    (hsearch : Text.search LoopEvent.at? prev (before ++ (word ++ rest)) =
      some (before, .endLoop, rest))
    (hopened : scopes.opened = some source :: outer) (houter : outer.any (·.isSome) = false)
    (h : Exposes loopType (Text.lastOr prev (before ++ loopUnset ++ word))
      { scopes with opened := outer } rest t out) :
    Exposes loopType prev scopes (before ++ (word ++ rest)) (before ++ loopUnset ++ word ++ t) out
  /-- The end of another loop, or of none. -/
  | endLoop {prev : Option Char} {scopes out : LoopScopes} {before word rest t : Text}
    (hsearch : Text.search LoopEvent.at? prev (before ++ (word ++ rest)) =
      some (before, .endLoop, rest))
    (hopened : ∀ source outer, scopes.opened = some source :: outer → outer.any (·.isSome) = true)
    (h : Exposes loopType (Text.lastOr prev (before ++ word))
      { scopes with opened := scopes.opened.tail } rest t out) :
    Exposes loopType prev scopes (before ++ (word ++ rest)) (before ++ word ++ t) out

/-- What is written is written event by event. -/
theorem exposes_of_exposeLoops {loopType : Text} {unbound : MapError} {prev : Option Char}
    {scopes out : LoopScopes} {s t : Text}
    (h : exposeLoops loopType unbound prev scopes s = .ok (t, out)) :
    Exposes loopType prev scopes s t out := by
  induction s using (measure (List.length (α := Char))).wf.induction generalizing prev scopes t with
  | h s ih =>
    rw [exposeLoops] at h
    split at h
    next hsearch =>
      obtain ⟨rfl, rfl⟩ := Prod.mk.inj (Except.ok.inj h)
      exact .rest hsearch
    next before event rest hsearch =>
      obtain ⟨word, rfl⟩ := LoopEvent.exists_word_of_search hsearch
      have hlt : rest.length < (before ++ (word ++ rest)).length := by
        have hword := List.length_pos_iff.2 (ne_nil_of_search hsearch)
        rw [List.length_append, List.length_append]
        omega
      have hmade := Text.upTo_append_append before word rest
      -- every event goes on the same way, with what is written for it in front
      have hgo : ∀ (done : Text) {rest' : Text} {scopes' : LoopScopes}, rest'.length ≤ rest.length →
          (exposeLoops loopType unbound (Text.lastOr prev done) scopes' rest').map
            (fun p => (done ++ p.1, p.2)) = .ok (t, out) →
          ∃ t', t = done ++ t' ∧ Exposes loopType (Text.lastOr prev done) scopes' rest' t' out := by
        intro done rest' scopes' hle h
        obtain ⟨⟨t', out'⟩, hrest, heq⟩ := Except.map_eq_ok_iff.1 h
        obtain ⟨rfl, rfl⟩ := Prod.mk.inj heq
        exact ⟨t', rfl, ih rest' (Nat.lt_of_le_of_lt hle hlt) hrest⟩
      cases event with
      | assign =>
        dsimp only at h
        rw [hmade] at h
        obtain ⟨t', rfl, hrest⟩ := hgo _ (afterRun .statement rest).2 h
        exact .assign hsearch hrest
      | templateLoop =>
        dsimp only at h
        split at h
        · cases h
        next source hsource =>
          have hover : before ++ "foreach(".toList ++ source ++ " as".toList =
              before ++ loopOver source := append_loopOver before source
          rw [hover] at h
          split at h
          next hinner =>
            obtain ⟨t', rfl, hrest⟩ := hgo _ (Nat.le_refl _) h
            exact .templateLoop hsearch hsource (.inl hinner) hrest
          next houter =>
            split at h
            next header rest' hheader =>
              obtain ⟨rfl, -⟩ := header?_iff.1 hheader
              obtain ⟨t', rfl, hrest⟩ := hgo _ (Nat.le_of_lt (length_header?_lt hheader)) h
              exact .outerLoop hsearch hsource (Bool.eq_false_iff.2 houter) hheader hrest
            next hheader =>
              obtain ⟨t', rfl, hrest⟩ := hgo _ (Nat.le_refl _) h
              exact .templateLoop hsearch hsource (.inr hheader) hrest
      | plainLoop =>
        dsimp only at h
        rw [hmade] at h
        obtain ⟨t', rfl, hrest⟩ := hgo _ (Nat.le_refl _) h
        exact .plainLoop hsearch hrest
      | endLoop =>
        dsimp only at h
        split at h
        next hclosing =>
          rw [List.drop_left, Text.upTo_append] at h
          obtain ⟨t', rfl, hrest⟩ := hgo _ (Nat.le_refl _) h
          obtain ⟨hhead, houter⟩ := (Bool.and_eq_true _ _).mp hclosing
          cases hopened : scopes.opened with
          | nil =>
            rw [hopened] at hhead
            cases hhead
          | cons loop outer =>
            rw [hopened] at hhead houter
            obtain ⟨source, rfl⟩ := Option.isSome_iff_exists.1 hhead
            rw [hopened] at hrest
            exact .outerEnd hsearch hopened ((Bool.not_eq_true' _).mp houter) hrest
        next hclosing =>
          rw [hmade] at h
          obtain ⟨t', rfl, hrest⟩ := hgo _ (Nat.le_refl _) h
          refine .endLoop hsearch (fun source outer hopened => ?_) hrest
          rw [hopened] at hclosing
          refine Bool.of_not_eq_false fun hany => hclosing ?_
          show (true && !outer.any (·.isSome)) = true
          rw [hany]
          rfl

end Code

namespace CodeLine

open Code

/-- Of code lines that are exposed, the first one is written event by event, and the others are
exposed from the scopes behind it. -/
theorem exists_of_exposeFrom_cons {loopType : Text} {scopes : LoopScopes} {line : CodeLine}
    {lines exposed : List CodeLine}
    (h : exposeFrom loopType scopes (line :: lines) = (exposed, none)) :
    ∃ code between exposed',
      Exposes loopType none scopes (unwrapEscapes line.code) code between ∧
      exposeFrom loopType between lines = (exposed', none) ∧
      exposed = { line with code } :: exposed' := by
  rw [exposeFrom] at h
  dsimp only at h
  split at h
  · cases h
  next code between hcode =>
    cases hfrom : exposeFrom loopType between lines with
    | mk exposed' fault =>
      rw [hfrom] at h
      obtain ⟨rfl, rfl⟩ := Prod.mk.inj h
      exact ⟨code, between, exposed', exposes_of_exposeLoops hcode, hfrom, rfl⟩

end CodeLine

end TemplateTrace
