import TemplateTrace.Text.Unprintable

/-!
# Quoted text

How a message shows a text that may hold anything: between double quotes, on one line, with every
character that does not show by itself written by its number.

- `quoted`: a text between quotes.
-/

namespace TemplateTrace

namespace Text

/-- A character inside quotes. -/
def showChar (c : Char) : Text :=
  match c with
  | '"' => ['\\', '"']
  | '\\' => ['\\', '\\']
  | '\n' => ['\\', 'n']
  | '\r' => ['\\', 'r']
  | '\t' => ['\\', 't']
  | '\x00' => ['\\', '0']
  | c => if shows c then [c] else "\\u\x7b".toList ++ Nat.toDigits 16 c.toNat ++ ['\x7d']

/-- A text between quotes. -/
def quoted (s : Text) : Text := '"' :: s.flatMap showChar ++ ['"']

end Text

end TemplateTrace
