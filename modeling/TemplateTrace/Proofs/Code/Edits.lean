import TemplateTrace.Proofs.Code.Unwrapped
import TemplateTrace.Proofs.Text.Offsets

/-!
# Escapes unwrapped in place

An escape is unwrapped where it stands: the echo is written over the helper and its brackets, which
makes the text shorter or longer, and the search goes on behind what was written. Where the echo
starts, where the bracket closes and where to go on are byte offsets. They cut the text at the parts
that unwrapping is described by.

- `Code.closing`: the bracket that closes another one, with what is found of it.
- `Code.exists_head_match`: where a head with an opening bracket stands.
- `Code.unwrapRound`, `Code.unwrapByOffset`: one round, and the loop.
- `Code.Unwrapping`, `Code.approaches_unwrapRound`: what every round keeps.
-/

namespace TemplateTrace

namespace Code

variable {s a b t inner rest : Text} {i : Nat}

/-! ## Brackets -/

/-- The byte offset of the bracket that closes the one at a byte offset. -/
def closing (s : Text) (i : Nat) : Checked (Option Nat) := do
  let _ ← s.sliceFrom i
  return closeAt? s i

/-- A bracket that is never closed has no closing one. -/
theorem closing_eq_none (hi : s.Cuts i a ('(' :: t)) (hopen : enclosed? ('(' :: t) = none) :
    closing s i = .ok none := by
  rw [closing, hi.sliceFrom]
  refine congrArg Except.ok (Option.eq_none_iff_forall_ne_some.2 fun j hj => ?_)
  obtain ⟨before, o, inside, d, r, hs, hbefore, -, hd, hinside⟩ :=
    closes_iff_balanced.1 (closeAt?_eq_some_iff_closes.1 hj)
  obtain ⟨-, heq⟩ := hi.unique ⟨hs, hbefore.symm⟩
  rw [heq, enclosed?_iff.2 ⟨d, hd, rfl, hinside⟩] at hopen
  cases hopen

/-- The bracket that closes a group stands behind its inside. -/
theorem exists_closing (hi : s.Cuts i a ('(' :: t))
    (hclosed : enclosed? ('(' :: t) = some (inner, rest)) :
    t = inner ++ ')' :: rest ∧ ∃ close, closing s i = .ok (some close) ∧
      s.slice (i + 1) close = .ok inner ∧
      s.Cuts (close + 1) (a ++ '(' :: (inner ++ [')'])) rest := by
  obtain ⟨d, hd, rfl, hinner⟩ := enclosed?_iff.1 hclosed
  obtain rfl : ')' = d := Option.some.inj hd
  have hinside : s.Cuts (i + 1) (a ++ ['(']) (inner ++ ')' :: rest) := hi.next rfl
  have hclose := hinside.past
  refine ⟨rfl, i + 1 + Text.bytes inner, ?_, hinside.slice hclose, ?_⟩
  · rw [closing, hi.sliceFrom]
    refine congrArg Except.ok (closeAt?_eq_some_iff_closes.2 (closes_iff_balanced.2 ?_))
    refine ⟨a, '(', inner, ')', rest, hi.text_eq, hi.offset_eq.symm, ?_, rfl, hinner⟩
    rw [hclose.offset_eq, List.append_assoc]
    rfl
  · simpa using hclose.next rfl

/-- Where a head that ends in an opening bracket is found. -/
theorem exists_head_match {h : Head} (hh : h = h.dropLast ++ [.word "(".toList])
    {before : Text} (hi : s.Cuts i a b)
    (hsearch : Text.search h.wordRest? (Text.lastOr none a) b = some (before, rest)) :
    ∃ w start stop opening, b = before ++ w ++ ['('] ++ rest ∧
      s.matchFrom h.wordRest? id i = .ok (some ⟨start, stop, rest⟩) ∧
      Text.offsetBefore stop = .ok opening ∧ s.Cuts start (a ++ before) (w ++ '(' :: rest) ∧
      s.Cuts opening (a ++ before ++ w) ('(' :: rest) ∧
      s.Cuts stop (a ++ before ++ w ++ ['(']) rest := by
  obtain ⟨t, rfl, hhead⟩ := Text.search_eq_some_lastOr hsearch
  have hrest := (Head.wordRest?_eq_some_iff.1 hhead).2
  rw [hh] at hrest
  obtain ⟨w, rfl⟩ := Head.exists_append_word hrest
  have hword : w ++ ("(".toList ++ rest) = w ++ ['('] ++ rest := (List.append_assoc _ _ _).symm
  rw [hword] at hi hsearch ⊢
  obtain ⟨start, stop, hmatch, hstart, hstop⟩ := hi.exists_match id hsearch rfl
  rw [List.append_assoc] at hstart
  rw [← List.append_assoc] at hstop
  obtain ⟨opening, hbefore, hopening⟩ := hstop.exists_offsetBefore rfl
  exact ⟨w, start, stop, opening, by simp, hmatch, hbefore, hstart, hopening, hstop⟩

/-! ## Escapes -/

/-- One round of unwrapping: the next escaped echo at or behind the offset is unwrapped, or is left
and passed over. -/
def unwrapRound (c : Cursor) : Checked (Round Cursor Text) := do
  match ← c.text.matchFrom escapeHead.wordRest? id c.pos with
  | none => return .done c.text
  | some found =>
    let opening ← Text.offsetBefore found.stop
    match ← closing c.text opening with
    | none => return .done c.text
    | some close =>
      let after ← c.text.sliceFrom (close + 1)
      if (Text.stripStart after).head? = some ';' then
        let inner ← c.text.slice (opening + 1) close
        let echo := "echo ".toList ++ Text.strip inner
        let text ← c.text.replaceRange found.start (close + 1) echo
        return .again ⟨text, found.start + Text.bytes echo⟩
      else return .again { c with pos := found.stop }

/-- A text with its escapes unwrapped in place. -/
def unwrapByOffset (s : Text) : Checked Text := Checked.loop Cursor.left unwrapRound ⟨s, 0⟩

/-- What unwrapping comes to from a cursor on. -/
def Unwrapping (c : Cursor) (out : Text) : Prop :=
  ∃ a b, c.text.Cuts c.pos a b ∧ out = a ++ unwrapFrom (Text.lastOr none a) b

section Round

variable {before after : Text}

/-- A round that unwraps an echo goes on behind what it writes. -/
theorem exists_unwrapRound_echo (hpos : s.Cuts i a b)
    (hsearch : Text.search escapeHead.wordRest? (Text.lastOr none a) b = some (before, rest))
    (hclosed : enclosed? ('(' :: rest) = some (inner, after))
    (hend : (Text.stripStart after).head? = some ';') :
    ∃ next, unwrapRound ⟨s, i⟩ = .ok (.again next) ∧ Text.bytes after < Text.bytes b ∧
      next.text.Cuts next.pos (a ++ before ++ ("echo ".toList ++ Text.strip inner)) after := by
  obtain ⟨w, start, stop, opening, rfl, hmatch, hbefore, hstart, hopening, -⟩ :=
    exists_head_match (h := escapeHead) rfl hpos hsearch
  obtain ⟨rfl, close, hclosing, hinner, hafter⟩ := exists_closing hopening hclosed
  let echo : Text := "echo ".toList ++ Text.strip inner
  -- the echo is written over all that stands between the start and the closing bracket
  have hcall : w ++ '(' :: (inner ++ ')' :: after) = w ++ '(' :: (inner ++ [')']) ++ after := by
    simp
  have hstop : s.Cuts (close + 1) (a ++ before ++ (w ++ '(' :: (inner ++ [')']))) after := by
    rwa [← List.append_assoc]
  have hreplaced := (hcall ▸ hstart).replaceRange hstop echo
  refine ⟨⟨_, _⟩, ?_, ?_, hstart.written echo after⟩
  · simp only [unwrapRound, hmatch, hbefore, hclosing, hafter.sliceFrom, Checked.ok_bind,
      Checked.pure_eq, if_pos hend, hinner, hreplaced, echo]
  · rw [List.append_cons inner, ← List.append_assoc]
    exact Text.bytes_lt_append (by simp) after

/-- A round that leaves an echo as it is goes on behind its opening bracket. -/
theorem exists_unwrapRound_passed (hpos : s.Cuts i a b)
    (hsearch : Text.search escapeHead.wordRest? (Text.lastOr none a) b = some (before, rest))
    (hclosed : enclosed? ('(' :: rest) = some (inner, after))
    (hend : (Text.stripStart after).head? ≠ some ';') :
    ∃ stop w, unwrapRound ⟨s, i⟩ = .ok (.again ⟨s, stop⟩) ∧ b = w ++ ['('] ++ rest ∧
      s.Cuts stop (a ++ (w ++ ['('])) rest := by
  obtain ⟨w, start, stop, opening, hb, hmatch, hbefore, -, hopening, hstop⟩ :=
    exists_head_match (h := escapeHead) rfl hpos hsearch
  obtain ⟨rfl, close, hclosing, -, hafter⟩ := exists_closing hopening hclosed
  refine ⟨stop, before ++ w, ?_, hb, by simpa using hstop⟩
  simp only [unwrapRound, hmatch, hbefore, hclosing, hafter.sliceFrom, Checked.ok_bind,
    Checked.pure_eq, if_neg hend]

end Round

/-- The rounds that take escapes away by offsets approach the text without escapes: each round
passes the next head of an escape, and what is left behind it gets shorter. -/
theorem approaches_unwrapRound : Approaches Cursor.left unwrapRound Unwrapping := by
  rintro ⟨s, i⟩ _ ⟨a, b, hpos, rfl⟩
  replace hpos : s.Cuts i a b := hpos
  cases hsearch : Text.search escapeHead.wordRest? (Text.lastOr none a) b with
  | none =>
    -- no escape: the walk is at its end
    left
    simp only [unwrapRound, hpos.matchFrom_eq_none hsearch, Checked.ok_bind, Checked.pure_eq,
      unwrapFrom_of_search_none hsearch, ← hpos.text_eq]
  | some found =>
    obtain ⟨before, rest⟩ := found
    cases hclosed : enclosed? ('(' :: rest) with
    | none =>
      -- an escape that is never closed: the walk ends too, and keeps it
      left
      obtain ⟨w, start, stop, opening, -, hmatch, hbefore, -, hopening, -⟩ :=
        exists_head_match (h := escapeHead) rfl hpos hsearch
      simp only [unwrapRound, hmatch, hbefore, closing_eq_none hopening hclosed, Checked.ok_bind,
        Checked.pure_eq, unwrapFrom_of_unclosed hsearch hclosed, ← hpos.text_eq]
    | some closed =>
      obtain ⟨inner, after⟩ := closed
      right
      rw [unwrapFrom_of_closed hsearch hclosed]
      by_cases hend : (Text.stripStart after).head? = some ';'
      · -- the escape is a statement, and is unwrapped
        obtain ⟨next, hround, hlt, hnext⟩ := exists_unwrapRound_echo hpos hsearch hclosed hend
        refine ⟨next, hround, ?_, _, _, hnext, ?_⟩
        · rw [hpos.left, hnext.left]
          exact hlt
        · rw [if_pos hend, Text.lastOr_append_of_ne_nil none (a ++ before) (by simp)]
          simp only [List.append_assoc]
      · -- the escape stays, and the walk goes on behind its bracket
        obtain ⟨stop, w, hround, hb, hstop⟩ := exists_unwrapRound_passed hpos hsearch hclosed hend
        refine ⟨_, hround, ?_, _, _, hstop, ?_⟩
        · rw [hpos.left, hstop.left, hb]
          exact Text.bytes_lt_append (by simp) rest
        · have hlast : Text.lastOr none (a ++ (w ++ ['('])) = some '(' := by
            rw [← List.append_assoc]
            exact Text.lastOr_append_of_ne_nil none _ (List.cons_ne_nil _ _)
          rw [if_neg hend, hb, Text.upTo_append, hlast, List.append_assoc a]

theorem unwrapByOffset_eq (s : Text) : unwrapByOffset s = .ok (unwrapEscapes s) :=
  approaches_unwrapRound.loop_eq ⟨[], s, .start s, rfl⟩

end Code

end TemplateTrace
