import TemplateTrace.Text.Basic

/-!
# Blanks

Two classes of blanks: the white space of Unicode, which text is trimmed by, and the four ASCII
blanks, which host code and JSON allow between tokens.

- `isBlank`: the white space of Unicode.
- `isAsciiBlank`: space, tab, line feed and carriage return.
- `words`: the pieces of a text between white space.
-/

namespace TemplateTrace

namespace Text

/-- A character with the Unicode property White_Space. -/
def isBlank (c : Char) : Bool :=
  let n := c.toNat
  n == 0x20 || (0x9 ≤ n && n ≤ 0xd) || n == 0x85 || n == 0xa0 || n == 0x1680 ||
    (0x2000 ≤ n && n ≤ 0x200a) || n == 0x2028 || n == 0x2029 || n == 0x202f || n == 0x205f ||
    n == 0x3000

/-- Space, tab, line feed or carriage return. -/
def isAsciiBlank (c : Char) : Bool := c == ' ' || c == '\t' || c == '\n' || c == '\r'

theorem isBlank_of_isAsciiBlank {c : Char} (h : isAsciiBlank c = true) : isBlank c = true := by
  simp only [isAsciiBlank, Bool.or_eq_true, beq_iff_eq] at h
  rcases h with ((rfl | rfl) | rfl) | rfl <;> decide

/-- A text without the white space at either end. -/
abbrev strip (s : Text) : Text := trim isBlank s

/-- A text without the white space at its start. -/
abbrev stripStart (s : Text) : Text := trimStart isBlank s

/-- The pieces of a text between white space, none of them empty. -/
def words (s : Text) : List Text :=
  go [] s
where
  /-- `word` is the piece being read, reversed. -/
  go (word : Text) : Text → List Text
    | [] => if word.isEmpty then [] else [word.reverse]
    | c :: s =>
      if isBlank c then
        if word.isEmpty then go [] s else word.reverse :: go [] s
      else go (c :: word) s

end Text

end TemplateTrace
