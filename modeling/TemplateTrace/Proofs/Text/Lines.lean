import TemplateTrace.Text.Basic

/-!
# Lines of joined texts

Two texts put side by side share one line: the last line of the first text runs on into the first
line of the second one, and all other lines are theirs.

- `Text.firstLine`, `Text.lastLine`: the outer lines of a text.
- `Text.lines_append`: the lines of two texts side by side.
- `Text.lines_append_cons`: two texts with a line feed between them share no line.
- `Text.take_lines_append`: the lines down to a place.
- `Text.above`, `Text.below`: lines as the text above a line and below it.
- `Text.eq_above_append`: a text around one of its lines.
-/

namespace TemplateTrace

namespace Text

/-- The text up to the first line feed. -/
def firstLine (s : Text) : Text := (lines s).headD []

/-- The text behind the last line feed. -/
def lastLine (s : Text) : Text := (lines s).getLastD []

/-! ## Splitting -/

theorem splitOn_cons_self (sep : Char) (s : Text) :
    splitOn sep (sep :: s) = [] :: splitOn sep s := by
  rw [splitOn, if_pos rfl]

theorem splitOn_cons_ne {sep c : Char} (h : c ≠ sep) (s : Text) :
    splitOn sep (c :: s) = (c :: (splitOn sep s).headD []) :: (splitOn sep s).tail := by
  rw [splitOn, if_neg h]
  cases hs : splitOn sep s with
  | nil => exact absurd hs (splitOn_ne_nil sep s)
  | cons l ls => rfl

/-- A separator ends a piece, whatever follows. -/
theorem splitOn_append_cons (sep : Char) (a b : Text) :
    splitOn sep (a ++ sep :: b) = splitOn sep a ++ splitOn sep b := by
  induction a with
  | nil => exact splitOn_cons_self sep b
  | cons c a ih =>
    by_cases hc : c = sep
    · subst hc
      rw [List.cons_append, splitOn_cons_self, splitOn_cons_self, ih, List.cons_append]
    · rw [List.cons_append, splitOn_cons_ne hc, splitOn_cons_ne hc, ih]
      cases hs : splitOn sep a with
      | nil => exact absurd hs (splitOn_ne_nil sep a)
      | cons l ls => rfl

/-- A text without separators is one piece. -/
theorem splitOn_of_not_mem {sep : Char} {s : Text} (h : sep ∉ s) : splitOn sep s = [s] := by
  induction s with
  | nil => rfl
  | cons c s ih =>
    rw [List.mem_cons, not_or] at h
    rw [splitOn_cons_ne (Ne.symm h.1), ih h.2]
    rfl

/-- No piece holds a separator. -/
theorem not_mem_of_mem_splitOn {sep : Char} {s l : Text} (h : l ∈ splitOn sep s) : sep ∉ l := by
  induction s generalizing l with
  | nil =>
    rw [List.mem_singleton.1 h]
    exact List.not_mem_nil
  | cons c s ih =>
    by_cases hc : c = sep
    · subst hc
      rw [splitOn_cons_self] at h
      rcases List.mem_cons.1 h with rfl | h
      · exact List.not_mem_nil
      · exact ih h
    · rw [splitOn_cons_ne hc] at h
      cases hs : splitOn sep s with
      | nil => exact absurd hs (splitOn_ne_nil sep s)
      | cons l' ls =>
        rw [hs] at h ih
        rcases List.mem_cons.1 h with rfl | h
        · rw [List.mem_cons, not_or]
          exact ⟨Ne.symm hc, ih List.mem_cons_self⟩
        · exact ih (List.mem_cons_of_mem _ h)

/-- A text is cut at its first separator in one way. -/
theorem eq_of_append_cons_eq {sep : Char} {a b s t : Text} (ha : sep ∉ a) (hb : sep ∉ b)
    (h : a ++ sep :: s = b ++ sep :: t) : a = b ∧ s = t := by
  have hpieces := congrArg (splitOn sep) h
  rw [splitOn_append_cons, splitOn_append_cons, splitOn_of_not_mem ha, splitOn_of_not_mem hb]
    at hpieces
  obtain ⟨rfl, -⟩ := List.cons.inj hpieces
  exact ⟨rfl, (List.cons.inj (List.append_cancel_left h)).2⟩

/-! ## First and last lines -/

/-- The lines of a text are the lines before the last one, and the last one. -/
theorem dropLast_lines_append_lastLine (s : Text) :
    (lines s).dropLast ++ [lastLine s] = lines s := by
  have hne := splitOn_ne_nil '\n' s
  have hlast : lastLine s = (lines s).getLast hne := by
    rw [lastLine, List.getLastD_eq_getLast?, List.getLast?_eq_some_getLast hne, Option.getD_some]
  rw [hlast]
  exact List.dropLast_concat_getLast hne

/-- The lines of a text are the first one, and the lines behind it. -/
theorem firstLine_cons_tail_lines (s : Text) : firstLine s :: (lines s).tail = lines s := by
  rw [firstLine]
  cases hs : lines s with
  | nil => exact absurd hs (splitOn_ne_nil '\n' s)
  | cons l ls => rfl

theorem lines_append_cons (a b : Text) : lines (a ++ '\n' :: b) = lines a ++ lines b :=
  splitOn_append_cons '\n' a b

/-- What stands in front of a text on the same line belongs to its first line. -/
theorem lines_append_of_not_mem {a : Text} (h : '\n' ∉ a) (b : Text) :
    lines (a ++ b) = (a ++ firstLine b) :: (lines b).tail := by
  induction a with
  | nil => exact (firstLine_cons_tail_lines b).symm
  | cons c a ih =>
    rw [List.mem_cons, not_or] at h
    have hcons := splitOn_cons_ne (Ne.symm h.1) (a ++ b)
    rw [show splitOn '\n' (a ++ b) = _ from ih h.2] at hcons
    exact hcons

/-- A text with a line feed, cut at the last one. -/
theorem exists_lastLine_of_mem {s : Text} (h : '\n' ∈ s) :
    ∃ a, s = a ++ '\n' :: lastLine s ∧ '\n' ∉ lastLine s := by
  obtain ⟨b, a, hs, hb⟩ := List.eq_append_cons_of_mem (List.mem_reverse.2 h)
  have hs : s = a.reverse ++ '\n' :: b.reverse := by
    rw [← List.reverse_reverse s, hs]
    simp
  have hb : '\n' ∉ b.reverse := fun hmem => hb (List.mem_reverse.1 hmem)
  have hlast : lastLine s = b.reverse := by
    rw [hs, lastLine, lines_append_cons, lines, lines, splitOn_of_not_mem hb]
    simp
  rw [hlast]
  exact ⟨a.reverse, hs, hb⟩

theorem lastLine_of_not_mem {s : Text} (h : '\n' ∉ s) : lastLine s = s := by
  rw [lastLine, lines, splitOn_of_not_mem h]
  rfl

theorem firstLine_of_not_mem {s : Text} (h : '\n' ∉ s) : firstLine s = s := by
  rw [firstLine, lines, splitOn_of_not_mem h]
  rfl

/-- Two texts side by side share one line. -/
theorem lines_append (a b : Text) :
    lines (a ++ b) = (lines a).dropLast ++ (lastLine a ++ firstLine b) :: (lines b).tail := by
  by_cases h : '\n' ∈ a
  · obtain ⟨a', ha, hlast⟩ := exists_lastLine_of_mem h
    have hlines : (lines a).dropLast = lines a' := by
      rw [ha, lines_append_cons, lines, lines, splitOn_of_not_mem hlast, List.dropLast_concat]
    rw [hlines, ← lines_append_of_not_mem hlast b, ← lines_append_cons, ← List.cons_append,
      ← List.append_assoc, ← ha]
  · rw [lastLine_of_not_mem h, lines_append_of_not_mem h, lines, lines, splitOn_of_not_mem h]
    rfl

/-- The lines of a text down to one of them. -/
theorem take_lines {s line : Text} {before behind : List Text}
    (h : lines s = before ++ line :: behind) :
    (lines s).take (before.length + 1) = before ++ [line] := by
  rw [h, List.take_append, List.take_of_length_le (Nat.le_succ _), Nat.add_sub_cancel_left]
  rfl

/-- A text has one line more than line feeds. -/
theorem length_lines (s : Text) : (lines s).length = s.count '\n' + 1 := by
  induction s with
  | nil => rfl
  | cons c s ih =>
    by_cases hc : c = '\n'
    · subst hc
      rw [lines, splitOn_cons_self, List.length_cons, ih, List.count_cons_self]
    · have hpos : 0 < (lines s).length := by omega
      rw [lines, splitOn_cons_ne hc, List.length_cons, List.length_tail, ih,
        List.count_cons_of_ne hc]
      omega

/-- The lines down to the one that a place is on. -/
theorem take_lines_append (a b : Text) : (lines (a ++ b)).take (a.count '\n' + 1) =
    (lines a).dropLast ++ [lastLine a ++ firstLine b] := by
  have hlength : (lines a).dropLast.length = a.count '\n' := by
    rw [List.length_dropLast, length_lines]
    rfl
  rw [← hlength, take_lines (lines_append a b)]

/-- A text without line feeds goes on with the last line of the text in front of it. -/
theorem lines_append_line (a : Text) {b : Text} (h : '\n' ∉ b) :
    lines (a ++ b) = (lines a).dropLast ++ [lastLine a ++ b] := by
  rw [lines_append, firstLine_of_not_mem h, show lines b = [b] from splitOn_of_not_mem h]
  rfl

theorem firstLine_append (a b : Text) :
    firstLine (a ++ b) = if '\n' ∈ a then firstLine a else a ++ firstLine b := by
  split
  next h =>
    obtain ⟨a₁, a₂, rfl⟩ := List.append_of_mem h
    rw [List.append_assoc, List.cons_append, firstLine, firstLine, lines_append_cons,
      lines_append_cons]
    cases hs : lines a₁ with
    | nil => exact absurd hs (splitOn_ne_nil '\n' a₁)
    | cons l ls => rfl
  next h =>
    rw [firstLine, lines_append, lastLine, lines, splitOn_of_not_mem h]
    rfl

theorem not_mem_lastLine (s : Text) : '\n' ∉ lastLine s := by
  by_cases h : '\n' ∈ s
  · obtain ⟨-, -, hlast⟩ := exists_lastLine_of_mem h
    exact hlast
  · rwa [lastLine_of_not_mem h]

theorem lastLine_append_cons (a b : Text) : lastLine (a ++ '\n' :: b) = lastLine b := by
  rw [lastLine, lines_append_cons, ← dropLast_lines_append_lastLine b, ← List.append_assoc]
  simp

/-- A text ends with its last line. -/
theorem lastLine_suffix (s : Text) : lastLine s <:+ s := by
  by_cases h : '\n' ∈ s
  · obtain ⟨a, ha, -⟩ := exists_lastLine_of_mem h
    exact ⟨a ++ ['\n'], by simpa using ha.symm⟩
  · exact ⟨[], by rw [List.nil_append, lastLine_of_not_mem h]⟩

/-- Lines with line feeds between them are the lines of the whole. -/
theorem lines_joinWith {ls : List Text} (hne : ls ≠ []) (h : ∀ l ∈ ls, '\n' ∉ l) :
    lines (joinWith ['\n'] ls) = ls := by
  induction ls with
  | nil => exact absurd rfl hne
  | cons l ls ih =>
    have hl := h l List.mem_cons_self
    cases ls with
    | nil => exact splitOn_of_not_mem hl
    | cons l' ls =>
      have hrest := ih (List.cons_ne_nil _ _) fun l'' hl'' => h l'' (List.mem_cons_of_mem _ hl'')
      rw [joinWith, List.append_assoc, List.singleton_append, lines_append_cons, hrest, lines,
        splitOn_of_not_mem hl]
      · rfl
      · exact List.cons_ne_nil _ _

/-! ## The text around a line -/

/-- Lines as the text above another line. -/
def above (lines : List Text) : Text := lines.flatMap (· ++ ['\n'])

/-- Lines as the text below another line. -/
def below (lines : List Text) : Text := lines.flatMap ('\n' :: ·)

@[simp] theorem below_nil : below [] = [] := rfl

theorem above_cons (l : Text) (lines : List Text) :
    above (l :: lines) = l ++ '\n' :: above lines := by
  simp [above]

theorem below_cons (l : Text) (lines : List Text) :
    below (l :: lines) = '\n' :: (l ++ below lines) := by
  simp [below]

theorem below_append (a b : List Text) : below (a ++ b) = below a ++ below b := List.flatMap_append

/-- A text that consists of lines, around one of them. -/
theorem eq_above_append {s l : Text} {before behind : List Text}
    (h : lines s = before ++ l :: behind) : s = above before ++ l ++ below behind := by
  have hbelow : ∀ (l : Text) (ls : List Text), joinWith ['\n'] (l :: ls) = l ++ below ls := by
    intro l ls
    induction ls generalizing l with
    | nil => rw [below_nil, List.append_nil, joinWith]
    | cons l' ls ih =>
      rw [joinWith, ih l', below_cons]
      · simp
      · exact List.cons_ne_nil _ _
  have habove : ∀ before : List Text, joinWith ['\n'] (before ++ l :: behind) =
      above before ++ l ++ below behind := by
    intro before
    induction before with
    | nil => exact hbelow l behind
    | cons b before ih =>
      rw [List.cons_append, joinWith, ih, above_cons]
      · simp
      · simp
  rw [← habove before, ← h, joinWith_splitOn]

theorem firstLine_append_below (s : Text) : firstLine s ++ below (lines s).tail = s := by
  have h : lines s = [] ++ firstLine s :: (lines s).tail := (firstLine_cons_tail_lines s).symm
  exact (eq_above_append h).symm

/-- Lines put above a text are lines of the whole. -/
theorem lines_above_append {before : List Text} (h : ∀ l ∈ before, '\n' ∉ l) (s : Text) :
    lines (above before ++ s) = before ++ lines s := by
  induction before with
  | nil => rfl
  | cons l before ih =>
    rw [above_cons, List.append_assoc, List.cons_append, lines_append_cons,
      ih fun l' hl' => h l' (List.mem_cons_of_mem _ hl'), lines,
      splitOn_of_not_mem (h l List.mem_cons_self)]
    rfl

end Text

end TemplateTrace
