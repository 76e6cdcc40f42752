import Mathlib.Logic.Relation
import TemplateTrace.Proofs.Code.Scan

/-!
# Work by byte offsets

Compiled code is changed in place. What stands where is told by byte offsets, and those come from
matches, from lengths and from what was written before; by the time one is used the text may have
grown or shrunk. Here such work is written with a check at every use of an offset: the offset must
cut the text in two, so that it is neither past the end nor inside a character. A loop is checked as
well: a round behind which there is another one must leave less to do than it found.

- `OffsetFault`, `Checked`: work that stops at a check which fails.
- `Text.Cuts`: an offset between two parts of a text.
- `Text.partsAt`, `Text.slice`, `Text.replaceRange`, `Text.matchFrom`: the operations, each with
  what it comes to at offsets that cut the text.
- `Round`, `Checked.loop`: rounds up to the last one.
- `Approaches.loop_eq`, `Approaches.descends`: a loop from what one round keeps.
- `Cursor`: a text that is changed in place.
-/

namespace TemplateTrace

/-- Why work by byte offsets stops. -/
inductive OffsetFault where
  /-- The offset is past the end of the text, or inside a character of it. -/
  | noBoundary (s : Text) (i : Nat)
  /-- There is no offset in front of the first one. -/
  | noOffset
  /-- A round of a loop left no less to do than it found. -/
  | standstill
  deriving DecidableEq, Repr

/-- Work that stops at a check which fails. -/
abbrev Checked (α : Type) := Except OffsetFault α

theorem Checked.ok_bind {α β : Type} (a : α) (f : α → Checked β) :
    (Except.ok a >>= f : Checked β) = f a := rfl

theorem Checked.pure_eq {α : Type} (a : α) : (pure a : Checked α) = .ok a := rfl

namespace Text

/-- A text without its start is shorter. -/
theorem bytes_lt_append {s : Text} (hs : s ≠ []) (t : Text) : bytes t < bytes (s ++ t) := by
  obtain ⟨c, s, rfl⟩ := List.ne_nil_iff_exists_cons.1 hs
  have hc := c.utf8Size_pos
  rw [bytes_append, bytes_cons]
  omega

/-! ## Offsets that cut a text -/

/-- The byte offset `i` stands between the parts `a` and `b` of the text `s`. -/
structure Cuts (s : Text) (i : Nat) (a b : Text) : Prop where
  text_eq : s = a ++ b
  offset_eq : i = bytes a

namespace Cuts

variable {s a b m : Text} {i : Nat}

theorem start (s : Text) : Cuts s 0 [] s := ⟨rfl, rfl⟩

/-- What is left behind an offset. -/
theorem bytes_sub (h : Cuts s i a b) : bytes s - i = bytes b := by
  rw [h.text_eq, h.offset_eq, bytes_append, Nat.add_sub_cancel_left]

/-- The offset behind a part that stands at another offset. -/
theorem past (h : Cuts s i a (m ++ b)) : Cuts s (i + bytes m) (a ++ m) b := by
  constructor
  · rw [h.text_eq, List.append_assoc]
  · rw [h.offset_eq, bytes_append]

/-- The offset behind what is written at another offset, whatever is left behind that. -/
theorem written (h : Cuts s i a b) (new r : Text) :
    Cuts (a ++ new ++ r) (i + bytes new) (a ++ new) r :=
  past ⟨List.append_assoc _ _ _, h.offset_eq⟩

/-- The offset behind a character of one byte. -/
theorem next {c : Char} (hc : c.utf8Size = 1) (h : Cuts s i a (c :: b)) :
    Cuts s (i + 1) (a ++ [c]) b :=
  hc ▸ past (m := [c]) h

end Cuts

theorem cut?_eq_some_iff_cuts {s a b : Text} {i : Nat} : cut? s i = some (a, b) ↔ Cuts s i a b := by
  constructor
  · intro h
    obtain ⟨hs, hi⟩ := cut?_eq_some h
    exact ⟨hs, hi.symm⟩
  · rintro ⟨rfl, rfl⟩
    exact cut?_append a b

theorem Cuts.unique {s a b a' b' : Text} {i : Nat} (h : Cuts s i a b) (h' : Cuts s i a' b') :
    a = a' ∧ b = b' := by
  rw [← cut?_eq_some_iff_cuts] at h h'
  exact Prod.mk.inj (Option.some.inj (h.symm.trans h'))

/-! ## Checked operations -/

/-- The two parts of a text at a byte offset. -/
def partsAt (s : Text) (i : Nat) : Checked (Text × Text) :=
  match cut? s i with
  | some parts => .ok parts
  | none => .error (.noBoundary s i)

/-- The text in front of a byte offset. -/
def sliceTo (s : Text) (i : Nat) : Checked Text := do
  let (front, _) ← s.partsAt i
  return front

/-- The text behind a byte offset. -/
def sliceFrom (s : Text) (i : Nat) : Checked Text := do
  let (_, rest) ← s.partsAt i
  return rest

/-- The text between two byte offsets, the second one not in front of the first. -/
def slice (s : Text) (i j : Nat) : Checked Text := do
  (← s.sliceTo j).sliceFrom i

/-- A text with the part between two byte offsets replaced. -/
def replaceRange (s : Text) (i j : Nat) (new : Text) : Checked Text := do
  let (front, rest) ← s.partsAt j
  return (← front.sliceTo i) ++ new ++ rest

/-- A text with more text at a byte offset. -/
def insertAt (s : Text) (i : Nat) (new : Text) : Checked Text := s.replaceRange i i new

/-- The byte offset in front of another one. -/
def offsetBefore (i : Nat) : Checked Nat := if i = 0 then .error .noOffset else .ok (i - 1)

/-- Where a match starts and stops, and what was recognised. -/
structure Match (α : Type) where
  start : Nat
  stop : Nat
  answer : α

/-- The first match at or behind a byte offset. The recogniser sees the character in front of the
offset, and `behind` is the text that an answer leaves. -/
def matchFrom {α : Type} (recognise : Option Char → Text → Option α) (behind : α → Text) (s : Text)
    (i : Nat) : Checked (Option (Match α)) := do
  let (front, rest) ← s.partsAt i
  return (search recognise (lastOr none front) rest).map fun (before, answer) =>
    ⟨i + bytes before, bytes s - bytes (behind answer), answer⟩

/-- The byte offset of the first occurrence of a part. -/
def offsetOf? (p s : Text) : Option Nat := (breakOn? p s).map fun (before, _) => bytes before

/-! ### What they come to -/

section

variable {s a b m : Text} {i j : Nat}

/-- A text is cut at the offsets that are between two of its parts, and at no other. -/
theorem partsAt_eq_ok_iff : s.partsAt i = .ok (a, b) ↔ Cuts s i a b := by
  rw [← cut?_eq_some_iff_cuts, partsAt]
  cases cut? s i with
  | none => exact ⟨nofun, nofun⟩
  | some parts => rw [Except.ok.injEq, Option.some.injEq]

example : partsAt ['é', 'x'] 2 = .ok (['é'], ['x']) := rfl

example : partsAt ['é', 'x'] 1 = .error (.noBoundary ['é', 'x'] 1) := rfl

theorem Cuts.partsAt (h : Cuts s i a b) : s.partsAt i = .ok (a, b) := partsAt_eq_ok_iff.2 h

theorem Cuts.sliceTo (h : Cuts s i a b) : s.sliceTo i = .ok a := by
  rw [Text.sliceTo, h.partsAt]
  rfl

theorem Cuts.sliceFrom (h : Cuts s i a b) : s.sliceFrom i = .ok b := by
  rw [Text.sliceFrom, h.partsAt]
  rfl

/-- In front of a character of one byte there is an offset. -/
theorem Cuts.exists_offsetBefore {c : Char} (hc : c.utf8Size = 1) (h : Cuts s j (a ++ [c]) b) :
    ∃ i, offsetBefore j = .ok i ∧ Cuts s i a (c :: b) := by
  have hj : j = bytes a + 1 := by
    rw [h.offset_eq, bytes_append, bytes_cons, hc, bytes_nil]
  refine ⟨bytes a, ?_, ?_, rfl⟩
  · rw [hj, offsetBefore, if_neg (Nat.succ_ne_zero _), Nat.add_sub_cancel]
  · rw [h.text_eq, List.append_assoc, List.singleton_append]

theorem Cuts.slice (h : Cuts s i a (m ++ b)) (h' : Cuts s j (a ++ m) b) : s.slice i j = .ok m := by
  have hfront : Cuts (a ++ m) i a m := ⟨rfl, h.offset_eq⟩
  rw [Text.slice, h'.sliceTo]
  exact hfront.sliceFrom

theorem Cuts.replaceRange (h : Cuts s i a (m ++ b)) (h' : Cuts s j (a ++ m) b) (new : Text) :
    s.replaceRange i j new = .ok (a ++ new ++ b) := by
  have hfront : Cuts (a ++ m) i a m := ⟨rfl, h.offset_eq⟩
  rw [Text.replaceRange, h'.partsAt]
  show (do return (← (a ++ m).sliceTo i) ++ new ++ b) = _
  rw [hfront.sliceTo]
  rfl

theorem Cuts.insertAt (h : Cuts s i a b) (new : Text) : s.insertAt i new = .ok (a ++ new ++ b) := by
  refine Cuts.replaceRange (m := []) h ?_ new
  rwa [List.append_nil]

end

section

variable {α : Type} {recognise : Option Char → Text → Option α} {s a b before word : Text}
  {i : Nat} {answer : α}

theorem Cuts.matchFrom_eq_none {behind : α → Text} (h : Cuts s i a b)
    (hsearch : search recognise (lastOr none a) b = none) :
    s.matchFrom recognise behind i = .ok none := by
  rw [matchFrom, h.partsAt]
  show Except.ok _ = _
  rw [hsearch]
  rfl

/-- A match stands where the search stopped, up to what its answer leaves. -/
theorem Cuts.exists_match (behind : α → Text) {r : Text} (h : Cuts s i a (before ++ (word ++ r)))
    (hsearch : search recognise (lastOr none a) (before ++ (word ++ r)) = some (before, answer))
    (hr : behind answer = r) :
    ∃ start stop, s.matchFrom recognise behind i = .ok (some ⟨start, stop, answer⟩) ∧
      Cuts s start (a ++ before) (word ++ r) ∧ Cuts s stop (a ++ before ++ word) r := by
  subst hr
  refine ⟨i + bytes before, bytes s - bytes (behind answer), ?_, h.past, ?_⟩
  · rw [matchFrom, h.partsAt]
    show Except.ok _ = _
    rw [hsearch]
    rfl
  · have hstop := h.past.past
    constructor
    · exact hstop.text_eq
    · rw [hstop.text_eq, bytes_append, Nat.add_sub_cancel]

end

end Text

/-! ## Loops -/

/-- What a round of a loop comes to. -/
inductive Round (σ α : Type) where
  | again (next : σ)
  | done (answer : α)
  deriving DecidableEq, Repr

section

variable {σ α : Type}

/-- Rounds up to the last one. `left` measures what there is to do. -/
def Checked.loop (left : σ → Nat) (round : σ → Checked (Round σ α)) (st : σ) : Checked α := do
  match ← round st with
  | .done answer => return answer
  | .again next =>
    if left next < left st then Checked.loop left round next else throw .standstill
termination_by left st

/-- The states that rounds lead to. -/
def Reaches (round : σ → Checked (Round σ α)) : σ → σ → Prop :=
  Relation.ReflTransGen fun st next => round st = .ok (.again next)

/-- In whatever state a loop comes to be, the next round meets no fault, and it is the last one or
leaves less to do. -/
def Descends (left : σ → Nat) (round : σ → Checked (Round σ α)) (start : σ) : Prop :=
  ∀ st, Reaches round start st → (∃ answer, round st = .ok (.done answer)) ∨
    ∃ next, round st = .ok (.again next) ∧ left next < left st

/-- Every round keeps the answer that its state is to come to, and leaves less to do. -/
def Approaches (left : σ → Nat) (round : σ → Checked (Round σ α)) (Answers : σ → α → Prop) :
    Prop :=
  ∀ ⦃st answer⦄, Answers st answer → round st = .ok (.done answer) ∨
    ∃ next, round st = .ok (.again next) ∧ left next < left st ∧ Answers next answer

variable {left : σ → Nat} {round : σ → Checked (Round σ α)} {Answers : σ → α → Prop}

/-- A loop comes to the answer, by induction on what is left to do. -/
theorem Approaches.loop_eq (h : Approaches left round Answers) {st : σ} {answer : α}
    (hst : Answers st answer) : Checked.loop left round st = .ok answer := by
  induction hn : left st using Nat.strongRecOn generalizing st with
  | ind n ih =>
    subst hn
    rw [Checked.loop]
    rcases h hst with hdone | ⟨next, hagain, hlt, hnext⟩
    · rw [hdone]
      rfl
    · rw [hagain]
      show (if left next < left st then _ else _) = _
      rw [if_pos hlt]
      exact ih _ hlt hnext rfl

/-- What holds of the start of a loop and is kept by every round holds wherever the rounds lead. -/
theorem Approaches.answers_of_reaches (h : Approaches left round Answers) {start st : σ}
    {answer : α} (hstart : Answers start answer) (hst : Reaches round start st) :
    Answers st answer := by
  induction hst with
  | refl => exact hstart
  | tail _ hagain ih =>
    rcases h ih with hdone | ⟨next, hnext, -, hanswer⟩
    · cases hdone.symm.trans hagain
    · cases hnext.symm.trans hagain
      exact hanswer

theorem Approaches.descends (h : Approaches left round Answers) {start : σ} {answer : α}
    (hstart : Answers start answer) : Descends left round start := by
  intro st hst
  rcases h (h.answers_of_reaches hstart hst) with hdone | ⟨next, hagain, hlt, -⟩
  · exact .inl ⟨answer, hdone⟩
  · exact .inr ⟨next, hagain, hlt⟩

end

/-! ## Texts that are changed in place -/

/-- A text that is changed in place, and the byte offset at which the work goes on. -/
structure Cursor where
  text : Text
  pos : Nat
  deriving DecidableEq, Repr

/-- The number of bytes behind the offset. -/
def Cursor.left (c : Cursor) : Nat := Text.bytes c.text - c.pos

theorem Text.Cuts.left {s a b : Text} {i : Nat} (h : s.Cuts i a b) :
    (⟨s, i⟩ : Cursor).left = Text.bytes b := h.bytes_sub

end TemplateTrace
