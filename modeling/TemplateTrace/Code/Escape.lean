import TemplateTrace.Code.Bracket
import TemplateTrace.Code.Head

/-!
# Escaped output

A template echoes a value through the escape helper, `echo e(x);`. The helper accepts almost
anything and so hides the type of `x` from the checker; the statement becomes `echo x;`.

- `unwrapEscapes`: a text without escape helpers around echoed values.
-/

namespace TemplateTrace

namespace Code

/-- How an escaped echo starts, up to its opening bracket. -/
def escapeHead : Head := [.word "echo".toList, .someBlanks, .word "e".toList, .blanks,
  .word "(".toList]

/-- Unwraps the escaped echoes of a text, given the character in front of it. A head whose bracket
closes in front of something else than `;` stays, and the search goes on behind its bracket; a head
whose bracket does not close ends the search. -/
def unwrapFrom (prev : Option Char) (s : Text) : Text :=
  match hs : Text.search escapeHead.wordRest? prev s with
  | none => s
  | some (before, rest) =>
    match he : enclosed? ('(' :: rest) with
    | none => s
    | some (inner, after) =>
      have hlt : rest.length < s.length := by
        obtain ⟨p, t, rfl, ht⟩ := Text.search_eq_some hs
        unfold Head.wordRest? at ht
        split at ht
        · have := Head.length_rest?_lt (by decide) ht
          simp only [List.length_append]
          omega
        · simp at ht
      have hle : after.length ≤ rest.length := by
        simpa using Nat.le_of_lt_succ (length_enclosed?_lt he)
      if (Text.stripStart after).head? = some ';' then
        let echo := "echo ".toList ++ Text.strip inner
        before ++ echo ++ unwrapFrom (Text.lastOr prev echo) after
      else
        Text.upTo s rest ++ unwrapFrom (some '(') rest
termination_by s.length

/-- A text in which `echo e(x);` is `echo x;`. -/
def unwrapEscapes (s : Text) : Text := unwrapFrom none s

end Code

end TemplateTrace
