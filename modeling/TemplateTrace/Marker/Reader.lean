import TemplateTrace.Marker.Basic
import TemplateTrace.Text.Word

/-!
# Reading markers

A text has the shape of a marker when the comment is there with two quoted strings, digits and a
stack up to the first ` */` on the line; it is a marker when, besides, the payload reads as JSON.

- `Marker.shape?`: the four raw payloads of the comment at the start of a text, and the text
  behind it.
- `Marker.decode?`: the marker at the start of a text, and the text behind it.
- `length_of_shape?`: a comment is never empty.
-/

namespace TemplateTrace

namespace Marker

/-- The raw payloads of a marker comment, the strings with their quotes. -/
structure Shape where
  name : Text
  path : Text
  line : Text
  stack : Text
  deriving DecidableEq, Repr

/-- A quoted string up to and with its closing quote, read from behind the opening one, and the
text behind it. A backslash hides the character after it, which must not be a line feed. -/
def rawQuoted? : Text → Option (Text × Text)
  | [] => none
  | '"' :: s => some (['"'], s)
  | '\\' :: s =>
    match s with
    | [] => none
    | c :: s =>
      if c = '\n' then none else (rawQuoted? s).map fun (q, r) => ('\\' :: c :: q, r)
  | c :: s => (rawQuoted? s).map fun (q, r) => (c :: q, r)

/-- A quoted string with its quotes, and the text behind it. -/
def rawString? : Text → Option (Text × Text)
  | '"' :: s => (rawQuoted? s).map fun (q, r) => ('"' :: q, r)
  | _ => none

/-- The digits of any script at the start of a text, at least one, and the text behind them. -/
def rawDigits? (s : Text) : Option (Text × Text) :=
  match s.takeWhile Text.isDigit with
  | [] => none
  | ds => some (ds, s.dropWhile Text.isDigit)

/-- The raw payloads of the comment at the start of a text, and the text behind it. -/
def shape? (s : Text) : Option (Shape × Text) := do
  let s ← Text.after? "/** template_name=".toList s
  let (name, s) ← rawString? s
  let s ← Text.after? ", template_path=".toList s
  let (path, s) ← rawString? s
  let s ← Text.after? ", line=".toList s
  let (line, s) ← rawDigits? s
  let s ← Text.after? ", stack=".toList s
  let (stack, s) ← Text.breakOn? " */".toList s
  if stack.contains '\n' then none else some (⟨name, path, line, stack⟩, s)

/-- The marker that raw payloads describe. -/
def Shape.marker? (p : Shape) : Option Marker := do
  return { template := ← (← Json.parse? p.name).toText?
           path := ← (← Json.parse? p.path).toText?
           line := ← Text.toWord32? p.line
           stack := ← stackOfJson? (← Json.parse? p.stack) }

/-- The marker at the start of a text, and the text behind it. -/
def decode? (s : Text) : Option (Marker × Text) := do
  let (p, r) ← shape? s
  return (← p.marker?, r)

/-! ## A comment is never empty -/

theorem length_of_after? {p s r : Text} (h : Text.after? p s = some r) :
    s.length = p.length + r.length := by
  simp [Text.after?_eq_some_iff.1 h]

/-- What is behind a quoted string is no longer than the text. -/
theorem length_of_rawQuoted? {s q r : Text} (h : rawQuoted? s = some (q, r)) :
    r.length ≤ s.length := by
  fun_induction rawQuoted? s generalizing q r with
  | case1 => simp at h
  | case2 s => simp only [Option.some.injEq, Prod.mk.injEq] at h; simp [h.2]
  | case3 => simp at h
  | case4 => simp at h
  | case5 c s _ ih =>
    obtain ⟨⟨q', r'⟩, hr, heq⟩ := Option.map_eq_some_iff.1 h
    have := ih hr
    simp only [Prod.mk.injEq] at heq
    simp only [List.length_cons, ← heq.2]
    omega
  | case6 c s _ _ ih =>
    obtain ⟨⟨q', r'⟩, hr, heq⟩ := Option.map_eq_some_iff.1 h
    have := ih hr
    simp only [Prod.mk.injEq] at heq
    simp only [List.length_cons, ← heq.2]
    omega

theorem length_of_rawString? {s q r : Text} (h : rawString? s = some (q, r)) :
    r.length ≤ s.length := by
  unfold rawString? at h
  split at h
  · obtain ⟨⟨q', r'⟩, hr, heq⟩ := Option.map_eq_some_iff.1 h
    have := length_of_rawQuoted? hr
    simp only [Prod.mk.injEq] at heq
    simp only [List.length_cons, ← heq.2]
    omega
  · simp at h

theorem length_of_rawDigits? {s d r : Text} (h : rawDigits? s = some (d, r)) :
    r.length ≤ s.length := by
  unfold rawDigits? at h
  split at h
  · simp at h
  · simp only [Option.some.injEq, Prod.mk.injEq] at h
    rw [← h.2]
    exact (List.dropWhile_suffix _).length_le

theorem length_of_breakOn? {p s a b : Text} (h : Text.breakOn? p s = some (a, b)) :
    b.length ≤ s.length := by
  simp only [Text.breakOn?_eq_some h, List.length_append]
  omega

/-- The text behind a comment is shorter than the text that starts with it. -/
theorem length_of_shape? {s r : Text} {p : Shape} (h : shape? s = some (p, r)) :
    r.length < s.length := by
  simp only [shape?, Option.bind_eq_bind, Option.bind_eq_some_iff, Prod.exists] at h
  obtain ⟨s₁, h₁, n, s₂, h₂, s₃, h₃, q, s₄, h₄, s₅, h₅, d, s₆, h₆, s₇, h₇, t, s₈, h₈, h⟩ := h
  split at h
  · simp at h
  simp only [Option.some.injEq, Prod.mk.injEq] at h
  have h₁ := length_of_after? h₁
  have h₂ := length_of_rawString? h₂
  have h₃ := length_of_after? h₃
  have h₄ := length_of_rawString? h₄
  have h₅ := length_of_after? h₅
  have h₆ := length_of_rawDigits? h₆
  have h₇ := length_of_after? h₇
  have h₈ := length_of_breakOn? h₈
  rw [← h.2]
  have : "/** template_name=".toList.length = 18 := rfl
  omega

end Marker

end TemplateTrace
