import TemplateTrace.Marker.Reader

/-!
# The extent of a comment

Each reader of a marker comment stops at a place that it can tell without looking further. So the
comment at the start of a text is settled by the comment alone, and the text behind it can be
changed at will.

- `Text.breakOn?_local`: the first occurrence of a part is settled by the text up to its end.
- `Text.breakOn?_eq_none_iff`, `Text.breakOn?_eq_some_iff`: where the first occurrence is.
- `Marker.shape?_local`, `Marker.decode?_local`: the same for the comment of a marker.
- `Marker.decode?_append`: more text behind a comment is more rest.
-/

namespace TemplateTrace

namespace Text

theorem after?_append (p r : Text) : after? p (p ++ r) = some r := after?_eq_some_iff.2 rfl

theorem breakOn?_append_self (p r : Text) : breakOn? p (p ++ r) = some ([], r) := by
  have h := after?_append p r
  cases hs : p ++ r with
  | nil =>
    rw [hs] at h
    rw [breakOn?, h]
    rfl
  | cons c s =>
    rw [hs] at h
    rw [breakOn?, h]

/-- The first occurrence of a part stays the first one, whatever follows it. -/
theorem breakOn?_local {p s a b : Text} (h : breakOn? p s = some (a, b)) (r : Text) :
    breakOn? p (a ++ (p ++ r)) = some (a, r) := by
  fun_induction breakOn? p s generalizing a b with
  | case1 =>
    obtain ⟨t, ht, heq⟩ := Option.map_eq_some_iff.1 h
    obtain ⟨rfl, rfl⟩ := by simpa using heq
    exact breakOn?_append_self p r
  | case2 c s t ht =>
    obtain ⟨rfl, rfl⟩ := by simpa using h
    exact breakOn?_append_self p r
  | case3 c s hnone ih =>
    obtain ⟨⟨a', b'⟩, hb, heq⟩ := Option.map_eq_some_iff.1 h
    obtain ⟨rfl, rfl⟩ := by simpa using heq
    have hs : s = a' ++ p ++ b' := breakOn?_eq_some hb
    -- an earlier occurrence would lie within `c :: a' ++ p`, which both texts start with
    have hnone' : after? p (c :: (a' ++ (p ++ r))) = none := by
      rw [Option.eq_none_iff_forall_ne_some] at hnone ⊢
      intro t ht
      have hlong : c :: a' ++ p <+: c :: (a' ++ (p ++ r)) := ⟨r, by simp⟩
      have hp : p <+: c :: a' ++ p := by
        refine List.prefix_of_prefix_length_le ⟨t, (after?_eq_some_iff.1 ht).symm⟩ hlong ?_
        simp only [List.cons_append, List.length_cons, List.length_append]
        omega
      obtain ⟨u, hu⟩ := hp
      refine hnone (u ++ b') (after?_eq_some_iff.2 ?_)
      rw [hs, ← List.append_assoc, hu]
      simp
    rw [List.cons_append, breakOn?, hnone', ih hb]
    rfl

theorem breakOn?_append {p s a b : Text} (h : breakOn? p s = some (a, b)) (r : Text) :
    breakOn? p (s ++ r) = some (a, b ++ r) := by
  rw [breakOn?_eq_some h, List.append_assoc, List.append_assoc]
  exact breakOn?_local h (b ++ r)

/-- The first occurrence of a part in a text is the first one behind any place in front of it. -/
theorem breakOn?_of_append {p a s b r : Text} (h : breakOn? p (a ++ s) = some (a ++ b, r)) :
    breakOn? p s = some (b, r) := by
  induction a with
  | nil => exact h
  | cons c a ih =>
    rw [List.cons_append, breakOn?] at h
    split at h
    · cases h
    · obtain ⟨⟨b', r'⟩, hbreak, heq⟩ := Option.map_eq_some_iff.1 h
      obtain ⟨rfl, rfl⟩ := by simpa using heq
      exact ih hbreak

/-- A text that holds a part breaks at it. -/
theorem breakOn?_ne_none (p a b : Text) : breakOn? p (a ++ (p ++ b)) ≠ none := by
  induction a with
  | nil =>
    rw [List.nil_append, breakOn?_append_self]
    exact Option.some_ne_none _
  | cons c a ih =>
    rw [List.cons_append, breakOn?]
    split
    · exact Option.some_ne_none _
    · rwa [Ne, Option.map_eq_none_iff]

theorem breakOn?_eq_none_iff {p s : Text} : breakOn? p s = none ↔ ¬ p <:+: s := by
  constructor
  · rintro h ⟨a, b, rfl⟩
    rw [List.append_assoc] at h
    exact breakOn?_ne_none p a b h
  · intro h
    rw [Option.eq_none_iff_forall_ne_some]
    rintro ⟨a, b⟩ hbreak
    exact h ⟨a, b, (breakOn?_eq_some hbreak).symm⟩

/-- A character that a text lacks is on neither side of a part of it. -/
theorem not_mem_of_breakOn? {p s a b : Text} {c : Char} (h : breakOn? p s = some (a, b))
    (hc : c ∉ s) : c ∉ a ∧ c ∉ b := by
  rw [breakOn?_eq_some h, List.mem_append, List.mem_append, not_or, not_or] at hc
  exact ⟨hc.1.1, hc.2⟩

/-- The first occurrence of a part is the one that none in front of it runs into. -/
theorem breakOn?_eq_some_iff {p s a b : Text} (hp : p ≠ []) :
    breakOn? p s = some (a, b) ↔ s = a ++ p ++ b ∧ ¬ p <:+: a ++ p.dropLast := by
  have hlast : p.dropLast ++ [p.getLast hp] = p := List.dropLast_concat_getLast hp
  constructor
  · intro h
    refine ⟨breakOn?_eq_some h, fun hwithin => ?_⟩
    -- an occurrence there would be the first one
    cases hfirst : breakOn? p (a ++ p.dropLast) with
    | none => exact breakOn?_eq_none_iff.1 hfirst hwithin
    | some q =>
      obtain ⟨a', b'⟩ := q
      have hs := breakOn?_append hfirst ([p.getLast hp] ++ b)
      rw [← List.append_assoc, List.append_assoc a, hlast, ← breakOn?_eq_some h, h] at hs
      obtain ⟨rfl, -⟩ := by simpa using hs
      have hlength := congrArg List.length (breakOn?_eq_some hfirst)
      have hpos := List.length_pos_iff.2 hp
      simp only [List.length_append, List.length_dropLast] at hlength
      omega
  · rintro ⟨rfl, h⟩
    induction a with
    | nil => exact breakOn?_append_self p b
    | cons c a ih =>
      have hnone : after? p (c :: (a ++ p ++ b)) = none := by
        rw [Option.eq_none_iff_forall_ne_some]
        intro t ht
        have hfront : c :: a ++ p.dropLast <+: c :: (a ++ p ++ b) := by
          refine ⟨[p.getLast hp] ++ b, ?_⟩
          rw [← List.append_assoc, List.append_assoc (c :: a), hlast]
          rfl
        refine h (List.IsPrefix.isInfix (List.prefix_of_prefix_length_le
          ⟨t, (after?_eq_some_iff.1 ht).symm⟩ hfront ?_))
        simp only [List.length_append, List.length_cons, List.length_dropLast]
        omega
      have hrest := ih fun hwithin => h (hwithin.trans (List.suffix_cons c _).isInfix)
      rw [List.cons_append, List.cons_append, breakOn?, hnone, hrest]
      rfl

/-- A part that ends otherwise than a text occurs in front of the text's last character. -/
theorem infix_of_infix_concat {p s : Text} {c d : Char} (hne : c ≠ d)
    (h : p ++ [c] <:+: s ++ [d]) : p ++ [c] <:+: s := by
  rcases List.infix_concat_iff.1 h with ⟨u, hu⟩ | hfront
  · rw [← List.append_assoc] at hu
    exact absurd (List.cons.inj (List.append_inj_right' hu rfl)).1 hne
  · exact hfront

/-- In front of its first occurrence a part does not occur. -/
theorem not_infix_of_breakOn? {p s a b : Text} (hp : p ≠ []) (h : breakOn? p s = some (a, b)) :
    ¬ p <:+: a :=
  fun hwithin => ((breakOn?_eq_some_iff hp).1 h).2 (hwithin.trans (List.prefix_append a _).isInfix)

end Text

namespace Marker

/-- A quoted string is read to its closing quote, whatever stands behind it. -/
theorem rawQuoted?_local {s q r : Text} (h : rawQuoted? s = some (q, r)) :
    s = q ++ r ∧ ∀ t, rawQuoted? (q ++ t) = some (q, t) := by
  fun_induction rawQuoted? s generalizing q r with
  | case1 => cases h
  | case2 s =>
    obtain ⟨rfl, rfl⟩ := by simpa using h
    exact ⟨rfl, fun t => rfl⟩
  | case3 => cases h
  | case4 => cases h
  | case5 c s hc ih =>
    obtain ⟨⟨q', r'⟩, hq, heq⟩ := Option.map_eq_some_iff.1 h
    obtain ⟨rfl, rfl⟩ := by simpa using heq
    obtain ⟨hs, hlocal⟩ := ih hq
    refine ⟨by rw [hs]; rfl, fun t => ?_⟩
    rw [List.cons_append, List.cons_append, rawQuoted?]
    simp [hc, hlocal t]
  | case6 c s hquote hback ih =>
    obtain ⟨⟨q', r'⟩, hq, heq⟩ := Option.map_eq_some_iff.1 h
    obtain ⟨rfl, rfl⟩ := by simpa using heq
    obtain ⟨hs, hlocal⟩ := ih hq
    refine ⟨by rw [hs]; rfl, fun t => ?_⟩
    rw [List.cons_append, rawQuoted?]
    · rw [hlocal t]
      rfl
    · exact hquote
    · exact hback

/-- A string that is read is a part of the text, and is read the same in front of any other text. -/
theorem rawString?_local {s q r : Text} (h : rawString? s = some (q, r)) :
    s = q ++ r ∧ ∀ t, rawString? (q ++ t) = some (q, t) := by
  unfold rawString? at h
  split at h
  next s =>
    obtain ⟨⟨q', r'⟩, hq, heq⟩ := Option.map_eq_some_iff.1 h
    obtain ⟨rfl, rfl⟩ := by simpa using heq
    obtain ⟨hs, hlocal⟩ := rawQuoted?_local hq
    refine ⟨by rw [hs]; rfl, fun t => ?_⟩
    rw [List.cons_append, rawString?, hlocal t]
    rfl
  · cases h

/-- Digits are read up to the first character that is none. -/
theorem rawDigits?_append_cons {d : Text} (hne : d ≠ []) (hd : ∀ x ∈ d, Text.isDigit x = true)
    {c : Char} (hc : Text.isDigit c = false) (t : Text) :
    rawDigits? (d ++ c :: t) = some (d, c :: t) := by
  rw [rawDigits?, List.takeWhile_append_of_pos hd, List.dropWhile_append_of_pos hd,
    List.takeWhile_cons_of_neg (by simp [hc]), List.dropWhile_cons_of_neg (by simp [hc]),
    List.append_nil]
  cases d with
  | nil => exact absurd rfl hne
  | cons => rfl

/-- Digits end where the next character is none. -/
theorem rawDigits?_local {s d r : Text} (h : rawDigits? s = some (d, r)) :
    s = d ++ r ∧ ∀ c t, Text.isDigit c = false → rawDigits? (d ++ c :: t) = some (d, c :: t) := by
  unfold rawDigits? at h
  split at h
  · cases h
  next hne =>
    obtain ⟨rfl, rfl⟩ := by simpa using h
    have hall : ∀ x ∈ s.takeWhile Text.isDigit, Text.isDigit x = true :=
      List.all_eq_true.1 List.all_takeWhile
    exact ⟨List.takeWhile_append_dropWhile.symm,
      fun c t hc => rawDigits?_append_cons hne hall hc t⟩

/-- The comment at the start of a text does not depend on what follows it. -/
theorem shape?_local {s r : Text} {p : Shape} (h : shape? s = some (p, r)) :
    ∃ v, s = v ++ " */".toList ++ r ∧ ∀ t, shape? (v ++ " */".toList ++ t) = some (p, t) := by
  unfold shape? at h
  simp only [Option.bind_eq_bind, Option.bind_eq_some_iff, Prod.exists] at h
  obtain ⟨s₁, h₁, name, s₂, h₂, s₃, h₃, path, s₄, h₄, s₅, h₅, line, s₆, h₆, s₇, h₇, stack, s₈, h₈,
    h⟩ := h
  split at h
  · cases h
  next hstack =>
  obtain ⟨rfl, rfl⟩ := by simpa using h
  obtain ⟨hs₁, hname⟩ := rawString?_local h₂
  obtain ⟨hs₃, hpath⟩ := rawString?_local h₄
  obtain ⟨hs₅, hline⟩ := rawDigits?_local h₆
  have hs₇ := Text.breakOn?_eq_some h₈
  rw [Text.after?_eq_some_iff] at h₁ h₃ h₅ h₇
  refine ⟨"/** template_name=".toList ++ (name ++ (", template_path=".toList ++ (path ++
    (", line=".toList ++ (line ++ (", stack=".toList ++ stack)))))), ?_, fun t => ?_⟩
  · rw [h₁, hs₁, h₃, hs₃, h₅, hs₅, h₇, hs₇]
    simp only [List.append_assoc]
  · have hdigits : ∀ u : Text, rawDigits? (line ++ (", stack=".toList ++ u)) =
        some (line, ", stack=".toList ++ u) := by
      have hcomma : Text.isDigit ',' = false := by decide
      rw [show ", stack=".toList = ',' :: " stack=".toList by simp]
      exact fun u => hline ',' _ hcomma
    unfold shape?
    simp only [List.append_assoc, Text.after?_append, hname, hpath, hdigits,
      Text.breakOn?_local h₈, Option.bind_eq_bind, Option.bind_some, hstack]
    rfl

/-- The marker at the start of a text does not depend on what follows its comment. -/
theorem decode?_local {s r : Text} {m : Marker} (h : decode? s = some (m, r)) :
    ∃ v, s = v ++ " */".toList ++ r ∧ ∀ t, decode? (v ++ " */".toList ++ t) = some (m, t) := by
  unfold decode? at h
  simp only [Option.bind_eq_bind, Option.bind_eq_some_iff, Prod.exists] at h
  obtain ⟨p, r', hp, m', hm, h⟩ := h
  obtain ⟨rfl, rfl⟩ := by simpa using h
  obtain ⟨v, hs, hlocal⟩ := shape?_local hp
  refine ⟨v, hs, fun t => ?_⟩
  simp only [decode?, hlocal t, hm, Option.bind_eq_bind, Option.bind_some]
  rfl

/-- More text behind a marker is more rest. -/
theorem decode?_append {s r : Text} {m : Marker} (h : decode? s = some (m, r)) (t : Text) :
    decode? (s ++ t) = some (m, r ++ t) := by
  obtain ⟨v, hs, hlocal⟩ := decode?_local h
  rw [hs, List.append_assoc]
  exact hlocal (r ++ t)

end Marker

end TemplateTrace
