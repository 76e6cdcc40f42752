import Mathlib.Data.List.TakeWhile
import TemplateTrace.Text.Blank

/-!
# Trimmed texts

Trimming takes blanks off both ends of a text and nothing else. What is left is a part of the text,
it starts and ends with characters that are no blanks, and more blanks around the text do not change
it.

- `Text.exists_trimEnd_append`, `Text.exists_strip`: what is trimmed off.
- `Text.strip_infix_self`, `Text.not_mem_strip`: a trimmed text is a part of the text.
- `Text.isBlank_head?_strip`, `Text.isBlank_getLast?_strip`: no blank stands at its ends.
- `Text.strip_of_ends`, `Text.strip_enclosed`: what trimming leaves alone.
- `Text.strip_append_blanks`, `Text.strip_eq_nil`: blanks do not count.
-/

namespace TemplateTrace

namespace Text

variable {p : Char → Bool}

/-! ## What is trimmed off -/

/-- What is trimmed off the end of a text satisfies the test. -/
theorem exists_trimEnd_append (p : Char → Bool) (s : Text) :
    ∃ b, s = trimEnd p s ++ b ∧ ∀ c ∈ b, p c = true := by
  refine ⟨(s.reverse.takeWhile p).reverse, ?_, fun c hc => ?_⟩
  · rw [trimEnd, ← List.reverse_append, List.takeWhile_append_dropWhile, List.reverse_reverse]
  · exact List.all_eq_true.1 List.all_takeWhile c (List.mem_reverse.1 hc)

/-- Nothing is trimmed off in front of a character that fails the test. -/
theorem trimEnd_concat_append {c : Char} (hc : p c = false) (a : Text) {b : Text}
    (hb : ∀ c ∈ b, p c = true) : trimEnd p (a ++ [c] ++ b) = a ++ [c] := by
  have hall : ∀ c ∈ b.reverse, p c = true := fun c hc => hb c (List.mem_reverse.1 hc)
  rw [trimEnd, List.reverse_append, List.dropWhile_append_of_pos hall, List.reverse_concat,
    List.dropWhile_cons_of_neg (by simp [hc]), List.reverse_cons, List.reverse_reverse]

/-- A text is its stripped part between blanks. -/
theorem exists_strip (s : Text) : ∃ b b', s = b ++ strip s ++ b' ∧
    (∀ c ∈ b, isBlank c = true) ∧ ∀ c ∈ b', isBlank c = true := by
  obtain ⟨b', hs, hb'⟩ := exists_trimEnd_append isBlank (stripStart s)
  refine ⟨s.takeWhile isBlank, b', ?_, List.all_eq_true.1 List.all_takeWhile, hb'⟩
  show s = _ ++ trimEnd isBlank (stripStart s) ++ b'
  rw [List.append_assoc, ← hs]
  exact List.takeWhile_append_dropWhile.symm

theorem strip_infix_self (s : Text) : strip s <:+: s := by
  obtain ⟨b, b', hs, -, -⟩ := exists_strip s
  exact ⟨b, b', hs.symm⟩

theorem not_mem_strip {c : Char} {s : Text} (h : c ∉ s) : c ∉ strip s :=
  fun hmem => h ((strip_infix_self s).subset hmem)

theorem strip_ne_nil {s : Text} {c : Char} (hc : c ∈ s) (hblank : isBlank c = false) :
    strip s ≠ [] := by
  obtain ⟨b, b', hs, hb, hb'⟩ := exists_strip s
  intro hnil
  rw [hs, hnil, List.append_nil, List.mem_append] at hc
  rcases hc with hc | hc
  · rw [hb c hc] at hblank
    cases hblank
  · rw [hb' c hc] at hblank
    cases hblank

/-! ## The ends of a trimmed text -/

theorem isBlank_head?_strip {s : Text} {c : Char} (h : (strip s).head? = some c) :
    isBlank c = false := by
  obtain ⟨b', hs, -⟩ := exists_trimEnd_append isBlank (stripStart s)
  have hstart : (stripStart s).head? = some c := by
    rw [hs, List.head?_append, show (trimEnd isBlank (stripStart s)).head? = some c from h]
    rfl
  have hnot := List.head?_dropWhile_not isBlank s
  rw [show (s.dropWhile isBlank).head? = some c from hstart] at hnot
  exact hnot

theorem isBlank_getLast?_strip {s : Text} {c : Char} (h : (strip s).getLast? = some c) :
    isBlank c = false := by
  have hnot := List.head?_dropWhile_not isBlank (stripStart s).reverse
  rw [strip, trim, trimEnd, List.getLast?_reverse] at h
  rw [h] at hnot
  exact hnot

/-! ## What trimming leaves alone -/

/-- A text that neither starts nor ends with a blank is left as it is. -/
theorem strip_of_ends {s : Text} (hfirst : ∀ c, s.head? = some c → isBlank c = false)
    (hlast : ∀ c, s.getLast? = some c → isBlank c = false) : strip s = s := by
  have hdrop : ∀ t : Text, (∀ c, t.head? = some c → isBlank c = false) →
      t.dropWhile isBlank = t := by
    intro t ht
    cases t with
    | nil => rfl
    | cons c t => exact List.dropWhile_cons_of_neg (by simp [ht c rfl])
  show trimEnd isBlank (s.dropWhile isBlank) = s
  rw [hdrop s hfirst, trimEnd, hdrop s.reverse, List.reverse_reverse]
  intro c hc
  rw [List.head?_reverse] at hc
  exact hlast c hc

theorem strip_enclosed {a c : Char} (ha : isBlank a = false) (hc : isBlank c = false) (s : Text) :
    strip (a :: s ++ [c]) = a :: s ++ [c] := by
  refine strip_of_ends (fun x hx => ?_) fun x hx => ?_
  · obtain rfl := Option.some.inj hx
    exact ha
  · rw [List.getLast?_concat] at hx
    obtain rfl := Option.some.inj hx
    exact hc

/-- Blanks around a text do not change what is left of it. -/
theorem strip_append_blanks {b b' : Text} (hb : ∀ c ∈ b, isBlank c = true)
    (hb' : ∀ c ∈ b', isBlank c = true) (s : Text) : strip (b ++ (s ++ b')) = strip s := by
  have hfront : (b ++ (s ++ b')).dropWhile isBlank = (s ++ b').dropWhile isBlank :=
    List.dropWhile_append_of_pos hb
  show trimEnd isBlank ((b ++ (s ++ b')).dropWhile isBlank) = trimEnd isBlank (s.dropWhile isBlank)
  rw [hfront, List.dropWhile_append]
  split
  next hs =>
    have hnil : b'.dropWhile isBlank = [] := List.dropWhile_eq_nil_iff.2 hb'
    rw [List.isEmpty_iff.1 hs, hnil]
  · rw [trimEnd, trimEnd, List.reverse_append, List.dropWhile_append_of_pos]
    exact fun c hc => hb' c (List.mem_reverse.1 hc)

theorem strip_append_right {b : Text} (hb : ∀ c ∈ b, isBlank c = true) (s : Text) :
    strip (s ++ b) = strip s := strip_append_blanks (b := []) (by simp) hb s

theorem strip_append_left {b : Text} (hb : ∀ c ∈ b, isBlank c = true) (s : Text) :
    strip (b ++ s) = strip s := by
  have h : strip (b ++ (s ++ [])) = strip s := strip_append_blanks hb (by simp) s
  rwa [List.append_nil] at h

theorem strip_eq_nil {s : Text} (h : ∀ c ∈ s, isBlank c = true) : strip s = [] :=
  strip_append_right h []

end Text

end TemplateTrace
