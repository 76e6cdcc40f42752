import TemplateTrace.Text.Blank
import TemplateTrace.Text.Word

/-!
# Heads of statements

The few statements that the library looks for start with fixed words and blanks between them. A
head is the list of these pieces; it is matched from the left, and blanks are taken greedily, which
loses nothing because no word starts with a blank.

- `Piece`, `Head`: the pieces, and `Head.rest?`, what follows a head at the start of a text.
- `Head.wordRest?`: the same where a word can start.
-/

namespace TemplateTrace

namespace Code

/-- A piece of a head. -/
inductive Piece where
  | word (w : Text)
  | blanks
  | someBlanks
  deriving Repr

/-- What follows a piece at the start of a text. -/
def Piece.rest? : Piece → Text → Option Text
  | word w, s => Text.after? w s
  | blanks, s => some (Text.stripStart s)
  | someBlanks, c :: s => if Text.isBlank c then some (Text.stripStart s) else none
  | someBlanks, [] => none

/-- The start of a statement. -/
abbrev Head := List Piece

/-- What follows a head at the start of a text. -/
def Head.rest? : Head → Text → Option Text
  | [], s => some s
  | p :: ps, s => (p.rest? s).bind (Head.rest? ps)

/-- What follows a head that starts a word, given the character in front. -/
def Head.wordRest? (h : Head) (prev : Option Char) (s : Text) : Option Text :=
  if Text.startsWord prev then h.rest? s else none

/-! ## What a match consumes -/

/-- A piece takes off a part of the text. -/
theorem Piece.length_rest?_le {p : Piece} {s r : Text} (h : p.rest? s = some r) :
    r.length ≤ s.length := by
  cases p with
  | word w => simp [Text.after?_eq_some_iff.1 h]
  | blanks =>
    simp only [rest?, Option.some.injEq] at h
    rw [← h]
    exact (List.dropWhile_suffix _).length_le
  | someBlanks =>
    cases s with
    | nil => simp [rest?] at h
    | cons c s =>
      simp only [rest?, Option.ite_none_right_eq_some, Option.some.injEq] at h
      rw [← h.2]
      exact Nat.le_succ_of_le (List.dropWhile_suffix _).length_le

theorem Head.length_rest?_le {h : Head} {s r : Text} (hr : h.rest? s = some r) :
    r.length ≤ s.length := by
  induction h generalizing s with
  | nil => simp_all [rest?]
  | cons p ps ih =>
    obtain ⟨t, ht, hr⟩ := Option.bind_eq_some_iff.1 hr
    exact Nat.le_trans (ih hr) (Piece.length_rest?_le ht)

/-- A head that starts with a non-empty word consumes something. -/
theorem Head.length_rest?_lt {w : Text} {ps : Head} {s r : Text} (hw : w ≠ [])
    (hr : Head.rest? (.word w :: ps) s = some r) : r.length < s.length := by
  obtain ⟨t, ht, hr⟩ := Option.bind_eq_some_iff.1 hr
  have ht := Text.after?_eq_some_iff.1 ht
  have := Head.length_rest?_le hr
  have := List.length_pos_iff.2 hw
  simp only [ht, List.length_append]
  omega

end Code

end TemplateTrace
