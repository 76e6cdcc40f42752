import Mathlib.Data.List.TakeWhile
import TemplateTrace.Proofs.Json.Compact

/-!
# An object behind other text

When the text of an object stands behind other text on one line, what the line says as a whole is
not what the object says: either there are only blanks in front of it, or the line is no JSON value.
A value that starts in the text in front ends there, or with the quote that opens the first name of
the object, and neither leaves something that can stand behind a value.

- `Json.value?_mono`: calls that are left over change no answer.
- `Json.value?_cases`, `Json.items?_cases`, `Json.fields?_cases`: what the readers leave.
- `Json.NamedObject`: an object whose first name starts with a letter.
- `Json.NamedObject.rest`: what a reader leaves that starts in front of an object.
- `Json.NamedObject.parse?_append_compact`: text in front of an object hides it.
-/

namespace TemplateTrace

namespace Json

variable {n : Nat} {s t r u w : Text} {v : Json}

/-! ## Calls -/

/-- With one call more, the readers answer what they answered. -/
theorem answer_succ (n : Nat) :
    (∀ {s x}, value? n s = some x → value? (n + 1) s = some x) ∧
      (∀ {s x}, items? n s = some x → items? (n + 1) s = some x) ∧
        ∀ {s x}, fields? n s = some x → fields? (n + 1) s = some x := by
  induction n with
  | zero => exact ⟨nofun, nofun, nofun⟩
  | succ n ih =>
    obtain ⟨hvalue, hitems, hfields⟩ := ih
    refine ⟨fun {s x} h => ?_, fun {s x} h => ?_, fun {s x} h => ?_⟩
    · -- a value: only arrays and objects spend fuel
      rw [value?.eq_def] at h ⊢
      dsimp only at h ⊢
      split at h
      case h_5 r =>
        generalize skip r = r at h ⊢
        split at h
        next => exact h
        next =>
          obtain ⟨y, hy, hx⟩ := Option.map_eq_some_iff.1 h
          exact Option.map_eq_some_iff.2 ⟨y, hitems hy, hx⟩
      case h_6 r =>
        generalize skip r = r at h ⊢
        split at h
        next => exact h
        next =>
          obtain ⟨y, hy, hx⟩ := Option.map_eq_some_iff.1 h
          exact Option.map_eq_some_iff.2 ⟨y, hfields hy, hx⟩
      all_goals exact h
    · -- items, the first one and the others
      rw [items?] at h ⊢
      obtain ⟨⟨v, r⟩, hv, h⟩ := Option.bind_eq_some_iff.1 h
      refine Option.bind_eq_some_iff.2 ⟨(v, r), hvalue hv, ?_⟩
      dsimp only at h ⊢
      split at h
      next =>
        obtain ⟨y, hy, hx⟩ := Option.bind_eq_some_iff.1 h
        exact Option.bind_eq_some_iff.2 ⟨y, hitems hy, hx⟩
      next => exact h
      next => cases h
    · -- fields, with a name in front of each value
      rw [fields?] at h ⊢
      split at h
      next =>
        obtain ⟨⟨ps, r⟩, hps, h⟩ := Option.bind_eq_some_iff.1 h
        refine Option.bind_eq_some_iff.2 ⟨(ps, r), hps, ?_⟩
        dsimp only at h ⊢
        split at h
        next =>
          obtain ⟨⟨v, r⟩, hv, h⟩ := Option.bind_eq_some_iff.1 h
          refine Option.bind_eq_some_iff.2 ⟨(v, r), hvalue hv, ?_⟩
          dsimp only at h ⊢
          split at h
          next =>
            obtain ⟨y, hy, hx⟩ := Option.bind_eq_some_iff.1 h
            exact Option.bind_eq_some_iff.2 ⟨y, hfields hy, hx⟩
          next => exact h
          next => cases h
        next => cases h
      next => cases h

/-- Calls that are left over change no answer. -/
theorem value?_mono {m : Nat} (h : m ≤ n) {x : Json × Text} (hx : value? m s = some x) :
    value? n s = some x := by
  induction h with
  | refl => exact hx
  | step _ ih => exact (answer_succ _).1 ih

/-! ## What the readers leave -/

/-- What a value that was read can be: a text without braces, a string, a list, an object or a
number. -/
theorem value?_cases (h : value? (n + 1) s = some (v, r)) :
    (∃ l, s = l ++ r ∧ '\x7b' ∉ l) ∨
      (∃ t ps, s = '"' :: t ∧ stringParts? t = some (ps, r)) ∨
      (∃ t, s = '[' :: t ∧ (skip t = ']' :: r ∨ ∃ vs, items? n (skip t) = some (vs, r))) ∨
      (∃ t, s = '\x7b' :: t ∧
        (skip t = '\x7d' :: r ∨ ∃ fs, fields? n (skip t) = some (fs, r))) ∨
      number? s = some (v, r) := by
  rw [value?.eq_def] at h
  dsimp only at h
  split at h
  next t =>
    obtain ⟨-, rfl⟩ := Prod.mk.inj (Option.some.inj h)
    exact .inl ⟨"null".toList, rfl, by decide⟩
  next t =>
    obtain ⟨-, rfl⟩ := Prod.mk.inj (Option.some.inj h)
    exact .inl ⟨"true".toList, rfl, by decide⟩
  next t =>
    obtain ⟨-, rfl⟩ := Prod.mk.inj (Option.some.inj h)
    exact .inl ⟨"false".toList, rfl, by decide⟩
  next t =>
    obtain ⟨⟨ps, r'⟩, hps, heq⟩ := Option.map_eq_some_iff.1 h
    obtain ⟨-, rfl⟩ := Prod.mk.inj heq
    exact .inr (.inl ⟨t, ps, rfl, hps⟩)
  next t =>
    refine .inr (.inr (.inl ⟨t, rfl, ?_⟩))
    split at h
    next r' hskip =>
      obtain ⟨-, rfl⟩ := Prod.mk.inj (Option.some.inj h)
      exact .inl hskip
    next =>
      obtain ⟨⟨vs, r'⟩, hvs, heq⟩ := Option.map_eq_some_iff.1 h
      obtain ⟨-, rfl⟩ := Prod.mk.inj heq
      exact .inr ⟨vs, hvs⟩
  next t =>
    refine .inr (.inr (.inr (.inl ⟨t, rfl, ?_⟩)))
    split at h
    next r' hskip =>
      obtain ⟨-, rfl⟩ := Prod.mk.inj (Option.some.inj h)
      exact .inl hskip
    next =>
      obtain ⟨⟨fs, r'⟩, hfs, heq⟩ := Option.map_eq_some_iff.1 h
      obtain ⟨-, rfl⟩ := Prod.mk.inj heq
      exact .inr ⟨fs, hfs⟩
  next => exact .inr (.inr (.inr (.inr h)))

/-- Items that were read are a value, and the end of the list or more items behind a comma. -/
theorem items?_cases {vs : List Json} (h : items? (n + 1) s = some (vs, r)) :
    ∃ v t, value? n (skip s) = some (v, t) ∧
      (skip t = ']' :: r ∨ ∃ u ws, skip t = ',' :: u ∧ items? n u = some (ws, r)) := by
  rw [items?] at h
  obtain ⟨⟨v, t⟩, hv, h⟩ := Option.bind_eq_some_iff.1 h
  refine ⟨v, t, hv, ?_⟩
  dsimp only at h
  split at h
  next u hskip =>
    obtain ⟨⟨ws, r'⟩, hws, heq⟩ := Option.bind_eq_some_iff.1 h
    obtain ⟨-, rfl⟩ := Prod.mk.inj (Option.some.inj heq)
    exact .inr ⟨u, ws, hskip, hws⟩
  next r' hskip =>
    obtain ⟨-, rfl⟩ := Prod.mk.inj (Option.some.inj h)
    exact .inl hskip
  next => cases h

/-- Fields that were read are a name, a colon and a value, and the end of the object or more fields
behind a comma. -/
theorem fields?_cases {fs : List (Option Text × Json)} (h : fields? (n + 1) s = some (fs, r)) :
    ∃ k ps k' b v t, skip s = '"' :: k ∧ stringParts? k = some (ps, k') ∧ skip k' = ':' :: b ∧
      value? n (skip b) = some (v, t) ∧
      (skip t = '\x7d' :: r ∨ ∃ u gs, skip t = ',' :: u ∧ fields? n u = some (gs, r)) := by
  rw [fields?] at h
  split at h
  next k hk =>
    obtain ⟨⟨ps, k'⟩, hps, h⟩ := Option.bind_eq_some_iff.1 h
    dsimp only at h
    split at h
    next b hb =>
      obtain ⟨⟨v, t⟩, hv, h⟩ := Option.bind_eq_some_iff.1 h
      refine ⟨k, ps, k', b, v, t, hk, hps, hb, hv, ?_⟩
      dsimp only at h
      split at h
      next u hskip =>
        obtain ⟨⟨gs, r'⟩, hgs, heq⟩ := Option.bind_eq_some_iff.1 h
        obtain ⟨-, rfl⟩ := Prod.mk.inj (Option.some.inj heq)
        exact .inr ⟨u, gs, hskip, hgs⟩
      next r' hskip =>
        obtain ⟨-, rfl⟩ := Prod.mk.inj (Option.some.inj h)
        exact .inl hskip
      next => cases h
    next => cases h
  next => cases h

/-! ## Text in front of a brace

What reads a number, a blank or a punctuation mark does not read a brace. -/

section Brace

variable {o : Text} (ho : o = '\x7b' :: u)
include ho

theorem suffix_of_cons {c : Char} (hc : c ≠ '\x7b') (h : o <:+ c :: s) : o <:+ s := by
  rcases List.suffix_cons_iff.1 h with heq | h
  · exact absurd (List.cons.inj (heq.symm.trans ho)).1 hc
  · exact h

theorem suffix_of_append {l : Text} (hl : '\x7b' ∉ l) (h : o <:+ l ++ s) : o <:+ s := by
  induction l with
  | nil => exact h
  | cons c l ih =>
    rw [List.mem_cons, not_or] at hl
    exact ih hl.2 (suffix_of_cons ho (Ne.symm hl.1) h)

/-- Dropping characters that are no brace goes no further than an end that starts with a brace. -/
theorem suffix_dropWhile {p : Char → Bool} (hp : p '\x7b' = false) (h : o <:+ s) :
    o <:+ s.dropWhile p := by
  induction s with
  | nil => exact h
  | cons c s ih =>
    by_cases hc : p c = true
    · rw [List.dropWhile_cons_of_pos hc]
      refine ih (suffix_of_cons ho ?_ h)
      rintro rfl
      exact absurd hc (by rw [hp]; decide)
    · rw [List.dropWhile_cons_of_neg hc]
      exact h

theorem suffix_skip (h : o <:+ s) : o <:+ skip s := suffix_dropWhile ho (by decide) h

theorem suffix_digits? {ds : Text} (h : o <:+ s) (hs : digits? s = some (ds, r)) : o <:+ r := by
  unfold digits? at hs
  split at hs
  · cases hs
  · obtain ⟨-, rfl⟩ := Prod.mk.inj (Option.some.inj hs)
    exact suffix_dropWhile ho (by decide) h

theorem suffix_fraction? {f : Text} (h : o <:+ s) (hs : fraction? s = some (f, r)) : o <:+ r := by
  unfold fraction? at hs
  split at hs
  · obtain ⟨⟨ds, r'⟩, hds, heq⟩ := Option.map_eq_some_iff.1 hs
    obtain ⟨-, rfl⟩ := Prod.mk.inj heq
    exact suffix_digits? ho (suffix_of_cons ho (by decide) h) hds
  · obtain ⟨-, rfl⟩ := Prod.mk.inj (Option.some.inj hs)
    exact h

/-- An end of a text that starts with a brace is not touched when an exponent is read. -/
theorem suffix_exponent? {e : Text} (h : o <:+ s) (hs : exponent? s = some (e, r)) : o <:+ r := by
  unfold exponent? at hs
  split at hs
  · obtain ⟨-, rfl⟩ := Prod.mk.inj (Option.some.inj hs)
    exact h
  next c s =>
    split at hs
    next hc =>
      have hbrace : c ≠ '\x7b' := by rcases hc with rfl | rfl <;> decide
      have h := suffix_of_cons ho hbrace h
      split at hs
      all_goals
        obtain ⟨⟨ds, r'⟩, hds, heq⟩ := Option.map_eq_some_iff.1 hs
        obtain ⟨-, rfl⟩ := Prod.mk.inj heq
      · exact suffix_digits? ho (suffix_of_cons ho (by decide) h) hds
      · exact suffix_digits? ho (suffix_of_cons ho (by decide) h) hds
      · exact suffix_digits? ho h hds
    · obtain ⟨-, rfl⟩ := Prod.mk.inj (Option.some.inj hs)
      exact h

/-- An end of a text that starts with a brace is not touched when a number is read. -/
theorem suffix_unsigned? {ds l : Text} (h : o <:+ s) (hs : unsigned? s = some (ds, l, r)) :
    o <:+ r := by
  have hrest : ∀ {a b c f e : Text}, o <:+ a → fraction? a = some (f, b) →
      exponent? b = some (e, c) → o <:+ c := fun ha hf he =>
    suffix_exponent? ho (suffix_fraction? ho ha hf) he
  unfold unsigned? at hs
  dsimp only at hs
  split at hs
  next a =>
    obtain ⟨⟨f, b⟩, hf, hs⟩ := Option.bind_eq_some_iff.1 (show (fraction? a).bind _ = _ from hs)
    obtain ⟨⟨e, c⟩, he, hs⟩ := Option.bind_eq_some_iff.1 hs
    obtain ⟨-, hs⟩ := Prod.mk.inj (Option.some.inj hs)
    obtain ⟨-, rfl⟩ := Prod.mk.inj hs
    exact hrest (suffix_of_cons ho (by decide) h) hf he
  next =>
    obtain ⟨⟨ds', a⟩, hds, hs⟩ := Option.bind_eq_some_iff.1 hs
    obtain ⟨⟨f, b⟩, hf, hs⟩ := Option.bind_eq_some_iff.1 hs
    obtain ⟨⟨e, c⟩, he, hs⟩ := Option.bind_eq_some_iff.1 hs
    obtain ⟨-, hs⟩ := Prod.mk.inj (Option.some.inj hs)
    obtain ⟨-, rfl⟩ := Prod.mk.inj hs
    exact hrest (suffix_digits? ho h hds) hf he

theorem suffix_number? (h : o <:+ s) (hs : number? s = some (v, r)) : o <:+ r := by
  unfold number? at hs
  split at hs
  all_goals
    obtain ⟨⟨ds, l, r'⟩, hnumber, heq⟩ := Option.map_eq_some_iff.1 hs
    obtain ⟨-, rfl⟩ := Prod.mk.inj heq
  · exact suffix_unsigned? ho (suffix_of_cons ho (by decide) h) hnumber
  · exact suffix_unsigned? ho h hnumber

end Brace

/-! ## Text in front of an object -/

/-- The digits of a hexadecimal number hold no brace. -/
theorem brace_not_mem_of_hexNumber? {ds : Text} {m : Nat} (h : Text.hexNumber? ds = some m) :
    '\x7b' ∉ ds := by
  have hfold : ∀ (ds : Text) (k : Nat),
      ds.foldlM (fun n c => (Text.hexValue? c).map (n * 16 + ·)) k = some m → '\x7b' ∉ ds := by
    intro ds
    induction ds with
    | nil => exact fun _ _ => List.not_mem_nil
    | cons c ds ih =>
      intro k hk
      obtain ⟨k', hc, hds⟩ := Option.bind_eq_some_iff.1 hk
      rw [List.mem_cons, not_or]
      refine ⟨?_, ih k' hds⟩
      rintro rfl
      cases hc
  unfold Text.hexNumber? at h
  split at h
  · cases h
  · exact hfold ds 0 h

/-- A string that starts in front of an object ends in front of it, or with its first quote. -/
theorem suffix_stringParts? {ps : List StringPart} (h : '\x7b' :: '"' :: w <:+ s)
    (hs : stringParts? s = some (ps, r)) : '\x7b' :: '"' :: w <:+ r ∨ r = w := by
  fun_induction stringParts? s generalizing ps with
  | case1 => cases hs
  | case2 s =>
    obtain ⟨-, rfl⟩ := Prod.mk.inj (Option.some.inj hs)
    exact .inl (suffix_of_cons rfl (by decide) h)
  | case3 a b c d s ih =>
    obtain ⟨m, hm, hs⟩ := Option.bind_eq_some_iff.1 hs
    obtain ⟨⟨ps, r'⟩, hps, heq⟩ := Option.bind_eq_some_iff.1 hs
    obtain ⟨-, rfl⟩ := Prod.mk.inj (Option.some.inj heq)
    have hdigits := brace_not_mem_of_hexNumber? hm
    exact ih (suffix_of_append rfl (l := ['\\', 'u', a, b, c, d]) (by simpa using hdigits) h) hps
  | case4 e s _ ih =>
    obtain ⟨c, hc, hs⟩ := Option.bind_eq_some_iff.1 hs
    obtain ⟨⟨ps, r'⟩, hps, heq⟩ := Option.bind_eq_some_iff.1 hs
    obtain ⟨-, rfl⟩ := Prod.mk.inj (Option.some.inj heq)
    have he : e ≠ '\x7b' := by
      rintro rfl
      cases hc
    exact ih (suffix_of_cons rfl he (suffix_of_cons rfl (by decide) h)) hps
  | case5 => cases hs
  | case6 c s _ _ _ _ ih =>
    obtain ⟨⟨ps, r'⟩, hps, heq⟩ := Option.map_eq_some_iff.1 hs
    obtain ⟨-, rfl⟩ := Prod.mk.inj heq
    rcases List.suffix_cons_iff.1 h with heq | h
    · -- the string takes the brace, and the quote behind it ends the string
      obtain ⟨rfl, rfl⟩ := List.cons.inj heq
      exact .inr (Prod.mk.inj (Option.some.inj hps)).2.symm
    · exact ih h hps

/-- A plain object whose first name starts with a letter, and its text behind the first quote. -/
structure NamedObject (v : Json) (w : Text) : Prop where
  plain : v.plain = true
  compact : v.compact = '\x7b' :: '"' :: w
  letter : ∃ c s, w = c :: s ∧ c.isAlpha = true

namespace NamedObject

variable (h : NamedObject v w)
include h

theorem skip_inside : skip w = w := by
  obtain ⟨c, s, rfl, hc⟩ := h.letter
  refine List.dropWhile_cons_of_neg fun hblank => ?_
  simp only [Text.isAsciiBlank, Bool.or_eq_true, beq_iff_eq] at hblank
  rcases hblank with ((rfl | rfl) | rfl) | rfl <;> exact absurd hc (by decide)

/-- Nothing is left behind the object, however many calls are made. -/
theorem rest_eq_nil {x : Json} (hx : value? n v.compact = some (x, r)) : r = [] := by
  have hread := value?_spelled Spelling.id v (max n v.compact.length) [] h.plain
    (Nat.le_max_right _ _) follows_nil
  rw [List.append_nil, value?_mono (Nat.le_max_left _ _) hx] at hread
  exact (Prod.mk.inj (Option.some.inj hread)).2

/-- What may be left when a reader starts in front of the object: text in front of it, its text
behind the first quote, or nothing. Only the first of these can go on with a punctuation mark. -/
theorem suffix_of_skip {d : Char} (hd : d.isAlpha = false) (hbrace : d ≠ '\x7b')
    (hr : v.compact <:+ r ∨ r = w ∨ r = []) (hskip : skip r = d :: s) : v.compact <:+ s := by
  rcases hr with hr | rfl | rfl
  · exact suffix_of_cons h.compact hbrace (hskip ▸ suffix_skip h.compact hr)
  · rw [h.skip_inside] at hskip
    obtain ⟨c, s', heq, hc⟩ := h.letter
    obtain ⟨rfl, -⟩ := List.cons.inj (heq.symm.trans hskip)
    exact absurd hc (by rw [hd]; decide)
  · cases hskip

/-- What a reader leaves that starts in front of the object, by induction on the calls. -/
theorem rest (n : Nat) :
    (∀ {s x r}, v.compact <:+ s → value? n s = some (x, r) →
      v.compact <:+ r ∨ r = w ∨ s = v.compact ∧ r = []) ∧
    (∀ {s vs r}, v.compact <:+ s → items? n s = some (vs, r) → v.compact <:+ r) ∧
      ∀ {s fs r}, v.compact <:+ s → fields? n s = some (fs, r) → v.compact <:+ r := by
  induction n with
  | zero => exact ⟨nofun, nofun, nofun⟩
  | succ n ih =>
    obtain ⟨hvalue, hitems, hfields⟩ := ih
    -- a value, as a reader of items or fields comes upon it
    have hvalue' : ∀ {s x r}, v.compact <:+ s → value? n (skip s) = some (x, r) →
        v.compact <:+ r ∨ r = w ∨ r = [] := fun hs hx =>
      (hvalue (suffix_skip h.compact hs) hx).imp_right (.imp_right And.right)
    refine ⟨fun {s x r} hs hx => ?_, fun {s vs r} hs hvs => ?_, fun {s fs r} hs hfs => ?_⟩
    · rcases value?_cases hx with ⟨l, rfl, hl⟩ | ⟨t, ps, rfl, hps⟩ | ⟨t, rfl, ht⟩ | ⟨t, rfl, ht⟩ |
        hnumber
      · exact .inl (suffix_of_append h.compact hl hs)
      · have hs := suffix_of_cons h.compact (by decide) hs
        rw [h.compact] at hs ⊢
        exact (suffix_stringParts? hs hps).imp_right .inl
      · have hs := suffix_skip h.compact (suffix_of_cons h.compact (by decide) hs)
        rcases ht with heq | ⟨vs, hvs⟩
        · exact .inl (suffix_of_cons h.compact (by decide) (heq ▸ hs))
        · exact .inl (hitems hs hvs)
      · rcases List.suffix_cons_iff.1 hs with heq | hs
        · exact .inr (.inr ⟨heq.symm, h.rest_eq_nil (heq ▸ hx)⟩)
        · have hs := suffix_skip h.compact hs
          rcases ht with heq | ⟨fs, hfs⟩
          · exact .inl (suffix_of_cons h.compact (by decide) (heq ▸ hs))
          · exact .inl (hfields hs hfs)
      · exact .inl (suffix_number? h.compact hs hnumber)
    · obtain ⟨x, t, hx, ht⟩ := items?_cases hvs
      have hrest := hvalue' hs hx
      rcases ht with hclose | ⟨u, ws, hcomma, hws⟩
      · exact h.suffix_of_skip (by decide) (by decide) hrest hclose
      · exact hitems (h.suffix_of_skip (by decide) (by decide) hrest hcomma) hws
    · obtain ⟨k, ps, k', b, x, t, hk, hps, hcolon, hx, ht⟩ := fields?_cases hfs
      have hkey : v.compact <:+ k :=
        suffix_of_cons h.compact (by decide) (hk ▸ suffix_skip h.compact hs)
      have hname : v.compact <:+ k' ∨ k' = w ∨ k' = [] := by
        rw [h.compact] at hkey ⊢
        exact (suffix_stringParts? hkey hps).imp_right .inl
      have hrest := hvalue' (h.suffix_of_skip (by decide) (by decide) hname hcolon) hx
      rcases ht with hclose | ⟨u, gs, hcomma, hgs⟩
      · exact h.suffix_of_skip (by decide) (by decide) hrest hclose
      · exact hfields (h.suffix_of_skip (by decide) (by decide) hrest hcomma) hgs

/-- **Text in front of an object hides it.** Blanks do not, and with anything else in front of it
the whole is no JSON text. -/
theorem parse?_append_compact (t : Text) : parse? (t ++ v.compact) =
    if t.all Text.isAsciiBlank = true then some v else none := by
  have hstart : skip v.compact = v.compact := by
    rw [h.compact]
    exact List.dropWhile_cons_of_neg (by decide)
  by_cases hblank : t.all Text.isAsciiBlank = true
  · have hread := value?_spelled Spelling.id v (2 * (t ++ v.compact).length + 1) [] h.plain
      (by rw [List.length_append]; omega) follows_nil
    rw [List.append_nil] at hread
    rw [if_pos hblank, parse?, skip, List.dropWhile_append_of_pos (List.all_eq_true.1 hblank),
      show v.compact.dropWhile Text.isAsciiBlank = _ from hstart, hread]
    rfl
  · have hne : skip t ≠ [] := fun hnil =>
      hblank (List.all_eq_true.2 (List.dropWhile_eq_nil_iff.1 hnil))
    have hfront : skip (t ++ v.compact) = skip t ++ v.compact := by
      rw [skip, List.dropWhile_append, if_neg (by simpa using hne)]
    rw [if_neg hblank, Option.eq_none_iff_forall_not_mem]
    intro x hx
    obtain ⟨⟨x', r⟩, hvalue, hend⟩ := Option.bind_eq_some_iff.1 hx
    have hend : skip r = [] := (Option.ite_none_right_eq_some.1 hend).1
    rw [hfront] at hvalue
    rcases (h.rest _).1 (List.suffix_append _ _) hvalue with hr | rfl | ⟨hself, -⟩
    · -- the object is left, so that this is not all of the text
      have hnil := hend ▸ suffix_skip h.compact hr
      rw [List.suffix_nil, h.compact] at hnil
      cases hnil
    · obtain ⟨c, s, heq, -⟩ := h.letter
      rw [h.skip_inside, heq] at hend
      cases hend
    · exact hne (List.append_left_eq_self.1 hself)

end NamedObject

end Json

end TemplateTrace
