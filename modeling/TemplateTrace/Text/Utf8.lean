import TemplateTrace.Text.Basic

/-!
# Bytes that should be UTF-8

- `Utf8.lossy`: the text of bytes, with a replacement character for every stretch of bytes that
  starts a character and does not finish it.
- `Utf8.encode`, `Utf8.decode?`: texts as bytes, and bytes as text when they are UTF-8 throughout.
-/

namespace TemplateTrace

namespace Utf8

/-- The text that bytes write, if they are UTF-8 throughout. -/
def decode? (b : List UInt8) : Option Text := (String.fromUTF8? ⟨b.toArray⟩).map String.toList

/-- The bytes of a text. -/
def encode (s : Text) : List UInt8 := (String.ofList s).toUTF8.toList

/-- The bytes that may follow a first byte, as the range of the second one and the number of
further continuation bytes. -/
def tail? (b : UInt8) : Option (UInt8 × UInt8 × Nat) :=
  if 0xc2 ≤ b ∧ b ≤ 0xdf then some (0x80, 0xbf, 0)
  else if b = 0xe0 then some (0xa0, 0xbf, 1)
  else if b = 0xed then some (0x80, 0x9f, 1)
  else if 0xe1 ≤ b ∧ b ≤ 0xef then some (0x80, 0xbf, 1)
  else if b = 0xf0 then some (0x90, 0xbf, 2)
  else if 0xf1 ≤ b ∧ b ≤ 0xf3 then some (0x80, 0xbf, 2)
  else if b = 0xf4 then some (0x80, 0x8f, 2)
  else none

/-- The continuation bytes at the start of `b`, at most `n` of them. -/
def continuations (n : Nat) (b : List UInt8) : List UInt8 :=
  (b.take n).takeWhile fun x => 0x80 ≤ x && x ≤ 0xbf

/-- The length of the longest start of a character behind the first byte `b`, and whether the
character is finished. -/
def stretch (b : UInt8) (r : List UInt8) : Nat × Bool :=
  if b < 0x80 then (1, true)
  else match tail? b, r with
    | some (lo, hi, n), c :: r =>
      if lo ≤ c ∧ c ≤ hi then
        let k := (continuations n r).length
        (2 + k, k == n)
      else (1, false)
    | _, _ => (1, false)

/-- The text of bytes, unfinished characters replaced; `steps` bounds the number of characters. -/
def lossyFrom : Nat → List UInt8 → Text
  | 0, _ => []
  | _ + 1, [] => []
  | steps + 1, b :: r =>
    let (n, finished) := stretch b r
    let here := if finished then (decode? ((b :: r).take n)).getD ['\ufffd'] else ['\ufffd']
    here ++ lossyFrom steps ((b :: r).drop n)

/-- The text of bytes, with a replacement character for every unfinished character. -/
def lossy (b : List UInt8) : Text := lossyFrom b.length b

end Utf8

end TemplateTrace
