import Mathlib.Data.List.TakeWhile
import TemplateTrace.Proofs.Code.Balanced
import TemplateTrace.Proofs.Text.Trimming

/-!
# String literals

A string literal is decoded by one reader and skipped by others. The decoder knows escapes; to those
who skip a string, a backslash hides whatever comes behind it. Still they agree on where a literal
ends, and the decoder refuses no more than a `$` that would start an interpolation.

- `Code.Interpolates`: a text whose first string holds a bare `$`.
- `Code.singleQuoted?_rest`, `Code.doubleQuoted?_rest`: what is behind a decoded literal is what is
  behind a skipped one.
- `Code.stringAt?_iff`: the texts that start with a literal.
- `Code.stringAt?_quoteDouble`: a quoted text reads back.
- `Code.string?_of_quoted`: the texts that are a literal with blanks around it.
-/

namespace TemplateTrace

namespace Code

variable {q : Char} {s r body : Text}

/-! ## Interpolation -/

/-- Whether a `$` that no backslash hides stands in the double-quoted string at the start of a
text. -/
def Interpolates (s : Text) : Prop := ∃ a b, s = '"' :: (a ++ '$' :: b) ∧ QuotedBody '"' a

theorem Interpolates.append (h : Interpolates s) (t : Text) : Interpolates (s ++ t) := by
  obtain ⟨a, b, rfl, ha⟩ := h
  exact ⟨a, b ++ t, by simp, ha⟩

theorem not_interpolates_single : ¬ Interpolates ('\'' :: s) := by
  rintro ⟨a, b, hs, -⟩
  exact absurd (List.cons.inj hs).1 (by decide)

/-- A `$` behind the opening quote interpolates. -/
theorem interpolates_dollar (s : Text) : Interpolates ('"' :: '$' :: s) := ⟨[], s, rfl, .nil⟩

/-- An empty string does not interpolate, whatever stands behind it. -/
theorem not_interpolates_empty (s : Text) : ¬ Interpolates ('"' :: '"' :: s) := by
  rintro ⟨a, b, hs, ha⟩
  have hs := (List.cons.inj hs).2
  cases ha with
  | nil => exact absurd (List.cons.inj hs).1 (by decide)
  | escape c _ => exact absurd (List.cons.inj hs).1 (by decide)
  | plain hq _ _ => exact hq (List.cons.inj hs).1.symm

/-- An escape does not interpolate. -/
theorem interpolates_escape {c : Char} :
    Interpolates ('"' :: '\\' :: c :: s) ↔ Interpolates ('"' :: s) := by
  constructor
  · rintro ⟨a, b, hs, ha⟩
    have hs := (List.cons.inj hs).2
    cases ha with
    | nil => exact absurd (List.cons.inj hs).1 (by decide)
    | escape _ ha => exact ⟨_, b, congrArg ('"' :: ·) (List.cons.inj (List.cons.inj hs).2).2, ha⟩
    | plain _ hback _ => exact absurd (List.cons.inj hs).1.symm hback
  · rintro ⟨a, b, hs, ha⟩
    exact ⟨'\\' :: c :: a, b, congrArg ('"' :: '\\' :: c :: ·) (List.cons.inj hs).2, .escape c ha⟩

/-- A character that is no `$` does not interpolate. -/
theorem interpolates_plain {c : Char} (hq : c ≠ '"') (hback : c ≠ '\\') (hdollar : c ≠ '$') :
    Interpolates ('"' :: c :: s) ↔ Interpolates ('"' :: s) := by
  constructor
  · rintro ⟨a, b, hs, ha⟩
    have hs := (List.cons.inj hs).2
    cases ha with
    | nil => exact absurd (List.cons.inj hs).1 hdollar
    | escape _ _ => exact absurd (List.cons.inj hs).1 hback
    | plain _ _ ha => exact ⟨_, b, congrArg ('"' :: ·) (List.cons.inj hs).2, ha⟩
  · rintro ⟨a, b, hs, ha⟩
    exact ⟨c :: a, b, congrArg ('"' :: c :: ·) (List.cons.inj hs).2, .plain hq hback ha⟩

/-- The inside of a string holds the characters that stand in front of the quote that ends it. -/
theorem QuotedBody.exists_append {a b : Text} {x : Char} (ha : QuotedBody q a)
    (hbody : QuotedBody q body) (hq : q ≠ '\\') (hx : x ≠ q)
    (h : a ++ x :: b = body ++ q :: r) : ∃ b', body = a ++ x :: b' := by
  induction ha generalizing body with
  | nil =>
    cases hbody with
    | nil => exact absurd (List.cons.inj h).1 hx
    | escape c hrest => exact ⟨_, congrArg (· :: _) (List.cons.inj h).1.symm⟩
    | plain _ _ hrest => exact ⟨_, congrArg (· :: _) (List.cons.inj h).1.symm⟩
  | escape c _ ih =>
    cases hbody with
    | nil => exact absurd (List.cons.inj h).1.symm hq
    | escape c' hrest =>
      obtain ⟨-, hbehind⟩ := List.cons.inj h
      obtain ⟨rfl, hrests⟩ := List.cons.inj hbehind
      obtain ⟨b', rfl⟩ := ih hrest hrests
      exact ⟨b', rfl⟩
    | plain _ hback _ => exact absurd (List.cons.inj h).1.symm hback
  | plain hne hback _ ih =>
    cases hbody with
    | nil => exact absurd (List.cons.inj h).1 hne
    | escape c' hrest => exact absurd (List.cons.inj h).1 hback
    | plain _ _ hrest =>
      obtain ⟨rfl, hrests⟩ := List.cons.inj h
      obtain ⟨b', rfl⟩ := ih hrest hrests
      exact ⟨b', rfl⟩

/-! ## Where a literal ends -/

theorem afterQuote?_plain {c : Char} (hq : c ≠ q) (hback : c ≠ '\\') (s : Text) :
    afterQuote? q (c :: s) = afterQuote? q s := by
  rw [afterQuote?, if_neg hq]
  exact fun heq => absurd heq hback

/-- A single-quoted literal ends where the string ends. A backslash that stands for itself hides a
character that stands for itself. -/
theorem singleQuoted?_rest (s : Text) : (singleQuoted? s).map (·.2) = afterQuote? '\'' s := by
  fun_induction singleQuoted? s with
  | case1 => rfl
  | case2 s => rfl
  | case3 s ih =>
    rw [Option.map_map]
    exact ih
  | case4 s ih =>
    rw [Option.map_map]
    exact ih
  | case5 c s hquote hesc hback ih =>
    rw [Option.map_map]
    refine Eq.trans ih ?_
    by_cases hc : c = '\\'
    · subst hc
      cases s with
      | nil => rfl
      | cons c s =>
        have hquote : c ≠ '\'' := fun heq => hesc s rfl (heq ▸ rfl)
        have hback : c ≠ '\\' := fun heq => hback s rfl (heq ▸ rfl)
        exact afterQuote?_plain hquote hback s
    · exact (afterQuote?_plain hquote hc s).symm

/-- A double-quoted literal ends where the string ends, and no bare `$` stands in front of its
end. -/
theorem doubleQuoted?_rest (s r : Text) : (doubleQuoted? s).map (·.2) = some r ↔
    afterQuote? '"' s = some r ∧ ¬ Interpolates ('"' :: s) := by
  fun_induction doubleQuoted? s with
  | case1 => exact ⟨fun h => absurd h (by simp), fun h => absurd h.1 (by simp [afterQuote?])⟩
  | case2 s => exact ⟨fun h => ⟨h, not_interpolates_empty s⟩, And.left⟩
  | case3 s => exact ⟨fun h => absurd h (by simp), fun h => absurd (interpolates_dollar s) h.2⟩
  | case4 c s d hd ih =>
    rw [Option.map_map, interpolates_escape]
    exact ih
  | case5 c s hd ih =>
    rw [Option.map_map, interpolates_escape]
    exact ih
  | case6 c s hquote hdollar hesc ih =>
    rw [Option.map_map]
    refine Iff.trans ih ?_
    by_cases hback : c = '\\'
    · subst hback
      cases s with
      | nil => simp [afterQuote?]
      | cons c s => exact absurd rfl (hesc c s rfl)
    · rw [interpolates_plain hquote hback hdollar, afterQuote?_plain hquote hback]

/-- A text starts with a literal if it starts with a string that does not interpolate, and both end
at the same place. -/
theorem stringAt?_iff : (∃ v, stringAt? s = some (v, r)) ↔
    afterString? s = some r ∧ ¬ Interpolates s := by
  have hrest : ∀ o : Option (Text × Text), (∃ v, o = some (v, r)) ↔ o.map (·.2) = some r := by
    intro o
    simp [Option.map_eq_some_iff]
  rw [hrest]
  unfold stringAt? afterString?
  split
  · rw [singleQuoted?_rest]
    exact (and_iff_left not_interpolates_single).symm
  · exact doubleQuoted?_rest _ r
  · simp

/-! ## Quoting -/

/-- The inside of a text as a double-quoted literal is decoded to the text. -/
theorem doubleQuoted?_body (s r : Text) :
    doubleQuoted? (s.flatMap (fun c =>
      if c == '"' || c == '\\' || c == '$' then ['\\', c] else [c]) ++ '"' :: r) = some (s, r) := by
  induction s with
  | nil => rfl
  | cons c s ih =>
    rw [List.flatMap_cons]
    generalize s.flatMap _ = body at ih ⊢
    by_cases hc : c = '"' ∨ c = '\\' ∨ c = '$'
    · rw [if_pos (by simpa [or_assoc] using hc)]
      have hescaped : escaped? c = some c := by
        rcases hc with rfl | rfl | rfl <;> rfl
      show doubleQuoted? ('\\' :: c :: (body ++ '"' :: r)) = _
      rw [doubleQuoted?, hescaped, ih]
      rfl
    · rw [if_neg (by simpa [or_assoc] using hc)]
      simp only [not_or] at hc
      rw [List.append_assoc, List.singleton_append, doubleQuoted?, ih]
      · rfl
      · exact hc.1
      · exact hc.2.2
      · exact fun _ _ heq => absurd heq hc.2.1

/-- A text that is written as a double-quoted literal reads back, whatever follows it. -/
theorem stringAt?_quoteDouble (s r : Text) : stringAt? (quoteDouble s ++ r) = some (s, r) := by
  rw [quoteDouble, List.append_assoc, List.cons_append]
  exact doubleQuoted?_body s r

/-! ## Blanks around a literal -/

/-- What follows a string does not make it interpolate. -/
theorem Interpolates.of_append (hs : afterString? s = some []) {t : Text}
    (h : Interpolates (s ++ t)) : Interpolates s := by
  obtain ⟨q, body, -, rfl, hbody⟩ := exists_quoted_of_afterString? hs
  obtain ⟨a, b, heq, ha⟩ := h
  rw [List.cons_append, List.append_assoc] at heq
  obtain ⟨rfl, heq⟩ := List.cons.inj heq
  obtain ⟨b', rfl⟩ := ha.exists_append hbody (by decide) (by decide) heq.symm
  exact ⟨a, b' ++ ['"'], by simp, ha⟩

/-- A text is a literal when blanks are all that stands around a literal. -/
theorem string?_eq_some_iff {v : Text} : string? s = some v ↔
    ∃ r, stringAt? (skipBlanks s) = some (v, r) ∧ ∀ c ∈ r, Text.isAsciiBlank c = true := by
  have hrest : ∀ p : Text × Text, (if skipBlanks p.2 = [] then some p.1 else none) = some v ↔
      p.1 = v ∧ ∀ c ∈ p.2, Text.isAsciiBlank c = true := fun p => by
    rw [Option.ite_none_right_eq_some, List.dropWhile_eq_nil_iff, Option.some.injEq, and_comm]
  refine Option.bind_eq_some_iff.trans ⟨?_, ?_⟩
  · rintro ⟨⟨v', r⟩, hat, h⟩
    obtain ⟨rfl, hr⟩ := (hrest (v', r)).1 h
    exact ⟨r, hat, hr⟩
  · rintro ⟨r, hat, hr⟩
    exact ⟨(v, r), hat, (hrest (v, r)).2 ⟨rfl, hr⟩⟩

/-- A literal reads back between blanks. -/
theorem string?_between {b b' v : Text} {c : Char} (hb : ∀ c ∈ b, Text.isAsciiBlank c = true)
    (hb' : ∀ c ∈ b', Text.isAsciiBlank c = true) (hc : Text.isAsciiBlank c = false)
    (h : ∀ r, stringAt? (c :: s ++ r) = some (v, r)) : string? (b ++ (c :: s) ++ b') = some v := by
  refine string?_eq_some_iff.2 ⟨b', ?_, hb'⟩
  rw [skipBlanks, List.append_assoc, List.dropWhile_append_of_pos hb, List.cons_append,
    List.dropWhile_cons_of_neg (by simp [hc])]
  exact h b'

theorem isAsciiBlank_quote {q : Char} (hq : q = '\'' ∨ q = '"') :
    Text.isAsciiBlank q = false := by
  rcases hq with rfl | rfl <;> rfl

/-- A text is a literal if what is left of it between the blanks at its ends is one string that does
not interpolate. -/
theorem isSome_string?_iff {t : Text} : (string? t).isSome = true ↔
    afterString? (Text.trim Text.isAsciiBlank t) = some [] ∧
      ¬ Interpolates (Text.trim Text.isAsciiBlank t) := by
  obtain ⟨b', hw, hb'⟩ := Text.exists_trimEnd_append Text.isAsciiBlank (skipBlanks t)
  show _ ↔ afterString? (Text.trimEnd Text.isAsciiBlank (skipBlanks t)) = some [] ∧ _
  rw [Option.isSome_iff_exists]
  constructor
  · rintro ⟨v, hv⟩
    obtain ⟨r, hat, hr⟩ := string?_eq_some_iff.1 hv
    obtain ⟨hafter, hno⟩ := stringAt?_iff.1 ⟨v, hat⟩
    obtain ⟨q, body, hq, hs, hbody⟩ := exists_quoted_of_afterString? hafter
    have htrim : Text.trimEnd Text.isAsciiBlank (skipBlanks t) = q :: (body ++ [q]) := by
      rw [hs, show q :: (body ++ q :: r) = q :: body ++ [q] ++ r by simp,
        Text.trimEnd_concat_append (isAsciiBlank_quote hq) _ hr, List.cons_append]
    exact ⟨htrim ▸ afterString?_quoted hq hbody [], fun h => hno (hw ▸ h.append b')⟩
  · rintro ⟨hafter, hno⟩
    obtain ⟨q, body, hq, hs, hbody⟩ := exists_quoted_of_afterString? hafter
    have hbehind : afterString? (skipBlanks t) = some b' := by
      rw [hw, hs, List.cons_append, List.append_assoc]
      exact afterString?_quoted hq hbody b'
    obtain ⟨v, hv⟩ := stringAt?_iff.2 ⟨hbehind, fun h => hno ((hw ▸ h).of_append hafter)⟩
    exact ⟨v, string?_eq_some_iff.2 ⟨b', hv, hb'⟩⟩

/-- The decoder of literals inverts quoting, a text between blanks is a literal exactly if it is one
string that does not interpolate, and a literal ends where the string is skipped to. -/
theorem string?_of_quoted (s t : Text) :
    (∀ b b' : Text, (∀ c ∈ b, Text.isAsciiBlank c = true) →
      (∀ c ∈ b', Text.isAsciiBlank c = true) →
        string? (b ++ quoteSingle s ++ b') = some s ∧
          string? (b ++ quoteDouble s ++ b') = some s) ∧
    ((string? t).isSome = true ↔ afterString? (Text.trim Text.isAsciiBlank t) = some [] ∧
      ¬ Interpolates (Text.trim Text.isAsciiBlank t)) ∧
    ∀ r, (∃ v, stringAt? t = some (v, r)) ↔ afterString? t = some r ∧ ¬ Interpolates t := by
  refine ⟨fun b b' hb hb' => ⟨?_, ?_⟩, isSome_string?_iff, fun r => stringAt?_iff⟩
  · exact string?_between hb hb' (isAsciiBlank_quote (.inl rfl)) (stringAt?_quoteSingle s)
  · exact string?_between hb hb' (isAsciiBlank_quote (.inr rfl)) (stringAt?_quoteDouble s)

end Code

end TemplateTrace
