import TemplateTrace.Code.Loop
import TemplateTrace.Proofs.Code.Rest

/-!
# Balanced texts

The readers of host code skip strings and groups as units. What they skip is said here by a grammar:
a string is a quote, a body in which a backslash hides the next character, and the quote again; a
group is a bracket, a balanced text, and the bracket that closes it. A run passes a balanced text
and nothing else.

- `Code.QuotedBody`, `Code.Balanced`: the grammar.
- `Code.Balanced.afterRun_append`, `Code.exists_balanced`: a run passes a balanced text.
- `Code.enclosed?_iff`: the inside of a group is a balanced text.
- `Code.header?_iff`: the header of a loop in the alternative notation.
- `Code.items?_joinWith`: balanced items between commas.
- `Code.stringAt?_quoteSingle`: a quoted text reads back.
-/

namespace TemplateTrace

namespace Code

/-! ## The grammar -/

/-- What stands between two quotes `q`: a backslash hides the character after it. -/
inductive QuotedBody (q : Char) : Text → Prop where
  | nil : QuotedBody q []
  | escape (c : Char) {s : Text} (h : QuotedBody q s) : QuotedBody q ('\\' :: c :: s)
  | plain {c : Char} {s : Text} (hq : c ≠ q) (hback : c ≠ '\\') (h : QuotedBody q s) :
    QuotedBody q (c :: s)

/-- A text whose strings and groups end, and in which nothing outside of them stops a run. -/
inductive Balanced : Extent → Text → Prop where
  | nil {e : Extent} : Balanced e []
  | plain {e : Extent} {c : Char} {s : Text} (hc : e.stops c = false) (h : Balanced e s) :
    Balanced e (c :: s)
  | string {e : Extent} {q : Char} {body s : Text} (hq : q = '\'' ∨ q = '"')
    (hbody : QuotedBody q body) (h : Balanced e s) : Balanced e (q :: (body ++ q :: s))
  | group {e : Extent} {o d : Char} {inner s : Text} (hd : closer? o = some d)
    (hinner : Balanced .group inner) (h : Balanced e s) : Balanced e (o :: (inner ++ d :: s))

/-- What stops no run stops no group. -/
theorem stops_group {e : Extent} {c : Char} (h : e.stops c = false) :
    Extent.group.stops c = false := by
  cases e with
  | group => exact h
  | item => exact (Bool.or_eq_false_iff.1 h).1
  | statement => exact (Bool.or_eq_false_iff.1 h).1

namespace Balanced

/-- Balanced texts side by side are balanced. -/
theorem append {e : Extent} {s t : Text} (hs : Balanced e s) (ht : Balanced e t) :
    Balanced e (s ++ t) := by
  induction hs with
  | nil => exact ht
  | plain hc _ ih => exact .plain hc (ih ht)
  | string hq hbody _ ih =>
    rw [List.cons_append, List.append_assoc, List.cons_append]
    exact .string hq hbody (ih ht)
  | group hd hinner _ _ ih =>
    rw [List.cons_append, List.append_assoc, List.cons_append]
    exact .group hd hinner (ih ht)

/-- A text that is balanced as an item or as a statement is balanced inside a group. -/
theorem inGroup {e : Extent} {s : Text} (h : Balanced e s) : Balanced .group s := by
  induction h with
  | nil => exact .nil
  | plain hc _ ih => exact .plain (stops_group hc) ih
  | string hq hbody _ ih => exact .string hq hbody ih
  | group hd hinner _ _ ih => exact .group hd hinner ih

theorem of_any {e : Extent} {s : Text} (h : s.any e.stops = false) : Balanced e s := by
  induction s with
  | nil => exact .nil
  | cons c s ih =>
    obtain ⟨hc, hs⟩ := Bool.or_eq_false_iff.1 h
    exact .plain hc (ih hs)

end Balanced

/-! ## Strings -/

/-- A string is skipped up to the first quote that no backslash hides. -/
theorem afterQuote?_body {q : Char} (hq : q ≠ '\\') {body : Text} (h : QuotedBody q body)
    (r : Text) : afterQuote? q (body ++ q :: r) = some r := by
  induction h with
  | nil =>
    rw [List.nil_append, afterQuote?, if_pos rfl]
    exact fun hback => absurd hback hq
  | escape c _ ih => exact ih
  | plain hne hback _ ih =>
    rw [List.cons_append, afterQuote?, if_neg hne]
    · exact ih
    · exact fun heq => absurd heq hback

theorem afterString?_quoted {q : Char} (hq : q = '\'' ∨ q = '"') {body : Text}
    (h : QuotedBody q body) (r : Text) : afterString? (q :: (body ++ q :: r)) = some r := by
  rcases hq with rfl | rfl
  · exact afterQuote?_body (by decide) h r
  · exact afterQuote?_body (by decide) h r

/-- What is skipped of a string is a body in which every quote is hidden. -/
theorem exists_body_of_afterQuote? {q : Char} {s r : Text} (h : afterQuote? q s = some r) :
    ∃ body, s = body ++ q :: r ∧ QuotedBody q body := by
  fun_induction afterQuote? q s with
  | case1 => cases h
  | case2 => cases h
  | case3 c s ih =>
    obtain ⟨body, rfl, hbody⟩ := ih h
    exact ⟨'\\' :: c :: body, rfl, .escape c hbody⟩
  | case4 s =>
    obtain rfl := Option.some.inj h
    exact ⟨[], rfl, .nil⟩
  | case5 c s hback hne ih =>
    obtain ⟨body, rfl, hbody⟩ := ih h
    exact ⟨c :: body, rfl, .plain hne (fun heq => hback heq) hbody⟩

/-- What is skipped as a string is a quote, a body and the same quote. -/
theorem exists_quoted_of_afterString? {s r : Text} (h : afterString? s = some r) :
    ∃ q body, (q = '\'' ∨ q = '"') ∧ s = q :: (body ++ q :: r) ∧ QuotedBody q body := by
  unfold afterString? at h
  split at h
  · obtain ⟨body, rfl, hbody⟩ := exists_body_of_afterQuote? h
    exact ⟨'\'', body, .inl rfl, rfl, hbody⟩
  · obtain ⟨body, rfl, hbody⟩ := exists_body_of_afterQuote? h
    exact ⟨'"', body, .inr rfl, rfl, hbody⟩
  · cases h

/-! ## Runs and groups -/

/-- A bracket that closes a group stops every run. -/
theorem afterRun_closer {o d : Char} (hd : closer? o = some d) (e : Extent) (r : Text) :
    (afterRun e (d :: r)).1 = d :: r := by
  obtain ⟨-, ⟨hquote, hquote'⟩, hcloser⟩ := closer?_spec hd
  have hstops : e.stops d = true := by
    unfold closer? at hd
    split at hd
    all_goals cases hd
    all_goals cases e <;> decide
  rw [afterRun_cons (afterString?_cons hquote hquote' r) (afterGroup?_cons hcloser r), hstops,
    if_pos rfl]

/-- A run passes a balanced text. -/
theorem Balanced.afterRun_append {e : Extent} {s : Text} (h : Balanced e s) (r : Text) :
    (afterRun e (s ++ r)).1 = (afterRun e r).1 := by
  induction h generalizing r with
  | nil => rfl
  | @plain e c s hc _ ih =>
    obtain ⟨⟨hquote, hquote'⟩, hcloser⟩ := plain_of_stops hc
    rw [List.cons_append, afterRun_cons (afterString?_cons hquote hquote' _)
      (afterGroup?_cons hcloser _), hc, if_neg Bool.false_ne_true]
    exact ih r
  | @string e q body s hq hbody _ ih =>
    rw [List.cons_append, List.append_assoc, List.cons_append,
      afterRun_string (afterString?_quoted hq hbody (s ++ r))]
    exact ih r
  | @group e o d inner s hd _ _ ihinner ih =>
    obtain ⟨⟨hquote, hquote'⟩, -, -⟩ := closer?_spec hd
    have hgroup : (afterGroup? (o :: (inner ++ d :: (s ++ r)))).map (·.1) = some (s ++ r) :=
      afterGroup?_eq_some_iff.2 ⟨d, hd, (ihinner _).trans (afterRun_closer hd .group _)⟩
    rw [List.cons_append, List.append_assoc, List.cons_append,
      afterRun_group (afterString?_cons hquote hquote' _) hgroup]
    exact ih r

theorem Balanced.afterRun_eq_nil {e : Extent} {s : Text} (h : Balanced e s) :
    (afterRun e s).1 = [] := by
  have happend := h.afterRun_append []
  rwa [List.append_nil, afterRun_nil] at happend

/-- What a run passes is balanced. -/
theorem exists_balanced (e : Extent) (s : Text) :
    ∃ a, s = a ++ (afterRun e s).1 ∧ Balanced e a := by
  induction s using (measure (List.length (α := Char))).wf.induction generalizing e with
  | h s ih =>
    cases hs : afterString? s with
    | some t =>
      obtain ⟨a, ha, hbalanced⟩ := ih t (length_afterString?_lt hs) e
      obtain ⟨q, body, hq, rfl, hbody⟩ := exists_quoted_of_afterString? hs
      refine ⟨q :: (body ++ q :: a), ?_, .string hq hbody hbalanced⟩
      rw [afterRun_string hs, List.cons_append, List.append_assoc, List.cons_append, ← ha]
    | none =>
      cases s with
      | nil => exact ⟨[], (afterRun_nil e).symm, .nil⟩
      | cons c s =>
        cases hg : (afterGroup? (c :: s)).map (·.1) with
        | some t =>
          -- the inside of the group is what the run behind its bracket passes
          obtain ⟨d, hd, hrun⟩ := afterGroup?_eq_some_iff.1 hg
          obtain ⟨inner, hinner, hbalanced⟩ := ih s (Nat.lt_succ_self _) .group
          rw [hrun] at hinner
          subst hinner
          have hlt : t.length < (c :: (inner ++ d :: t)).length := by
            simp only [List.length_cons, List.length_append]
            omega
          obtain ⟨a, ha, hrest⟩ := ih t hlt e
          refine ⟨c :: (inner ++ d :: a), ?_, .group hd hbalanced hrest⟩
          rw [afterRun_group hs hg, List.cons_append, List.append_assoc, List.cons_append, ← ha]
        | none =>
          rw [afterRun_cons hs hg]
          cases hstops : e.stops c with
          | true => exact ⟨[], by rw [if_pos rfl, List.nil_append], .nil⟩
          | false =>
            obtain ⟨a, ha, hbalanced⟩ := ih s (Nat.lt_succ_self _) e
            refine ⟨c :: a, ?_, .plain hstops hbalanced⟩
            rw [if_neg Bool.false_ne_true, List.cons_append, ← ha]

/-- The inside of a group is a balanced text. -/
theorem enclosed?_iff {o : Char} {s inner r : Text} :
    enclosed? (o :: s) = some (inner, r) ↔
      ∃ d, closer? o = some d ∧ s = inner ++ d :: r ∧ Balanced .group inner := by
  have hinside : ∀ (p : Text) (d : Char), (Text.upTo (p ++ d :: r) r).dropLast = p := by
    intro p d
    rw [show p ++ d :: r = p ++ [d] ++ r by simp, Text.upTo_append, List.dropLast_concat]
  constructor
  · intro h
    obtain ⟨hgroup, hinner⟩ := enclosed?_eq_some_iff.1 h
    obtain ⟨d, hd, hrun⟩ := afterGroup?_eq_some_iff.1 hgroup
    obtain ⟨a, ha, hbalanced⟩ := exists_balanced .group s
    rw [hrun] at ha
    rw [ha, hinside] at hinner
    subst hinner
    exact ⟨d, hd, ha, hbalanced⟩
  · rintro ⟨d, hd, rfl, hbalanced⟩
    refine enclosed?_eq_some_iff.2 ⟨afterGroup?_eq_some_iff.2 ⟨d, hd, ?_⟩, hinside inner d⟩
    rw [hbalanced.afterRun_append, afterRun_closer hd]

/-- The header of a loop in the alternative notation: a balanced text, the bracket that closes it,
and a `:` behind blanks. -/
theorem header?_iff {s a r : Text} :
    header? s = some (a, r) ↔ s = a ++ r ∧ ∃ inner b, a = inner ++ ')' :: (b ++ [':']) ∧
      Balanced .group inner ∧ ∀ c ∈ b, Text.isBlank c = true := by
  constructor
  · intro h
    -- the run up to the closing bracket is balanced, and blanks and a colon follow it
    obtain ⟨inner, hs, hbalanced⟩ := exists_balanced .group s
    unfold header? at h
    split at h
    next t hrun =>
      split at h
      next r' hstrip =>
        obtain ⟨rfl, rfl⟩ := Prod.mk.inj (Option.some.inj h)
        have ht : t = t.takeWhile Text.isBlank ++ ':' :: r' := by
          rw [← hstrip]
          exact List.takeWhile_append_dropWhile.symm
        have hcut : s = inner ++ ')' :: (t.takeWhile Text.isBlank ++ [':']) ++ r' := by
          conv => lhs; rw [hs, hrun, ht]
          simp
        have hupTo : Text.upTo s r' = inner ++ ')' :: (t.takeWhile Text.isBlank ++ [':']) := by
          conv => lhs; rw [hcut, Text.upTo_append]
        exact ⟨by rw [hupTo, ← hcut], inner, _, hupTo, hbalanced,
          List.all_eq_true.1 List.all_takeWhile⟩
      · cases h
    · cases h
  · rintro ⟨rfl, inner, b, rfl, hbalanced, hb⟩
    -- a balanced text is run over as a whole, up to the bracket that closes it
    have htext : inner ++ ')' :: (b ++ [':']) ++ r = inner ++ ')' :: (b ++ ':' :: r) := by simp
    have hrun : (afterRun .group (inner ++ ')' :: (b ++ ':' :: r))).1 =
        ')' :: (b ++ ':' :: r) := by
      rw [hbalanced.afterRun_append, afterRun_closer (o := '(') rfl]
    have hstrip : Text.stripStart (b ++ ':' :: r) = ':' :: r :=
      Text.stripStart_append_cons hb (by decide) r
    rw [header?, htext, hrun]
    split
    next t ht =>
      obtain ⟨-, rfl⟩ := List.cons.inj ht
      rw [hstrip, ← htext]
      exact congrArg (fun a => some (a, r)) (Text.upTo_append _ r)
    next hne => exact absurd rfl (hne _)

/-! ## Items -/

/-- A balanced item is a list of one item. -/
theorem items?_of_balanced {s : Text} (h : Balanced .item s) : items? s = some [s] := by
  have hnil := h.afterRun_eq_nil
  unfold items?
  split
  · rfl
  next c t hlt heq =>
    rw [heq] at hnil
    cases hnil

/-- A comma behind a balanced item cuts it off. -/
theorem items?_append_comma {s : Text} (h : Balanced .item s) (t : Text) :
    items? (s ++ ',' :: t) = (items? t).map (s :: ·) := by
  have hrun : (afterRun .item (s ++ ',' :: t)).1 = ',' :: t := by
    rw [h.afterRun_append, afterRun_cons (afterString?_cons (by decide) (by decide) t)
      (afterGroup?_cons rfl t)]
    exact if_pos (by decide)
  rw [items?.eq_def]
  split
  next hlt heq =>
    rw [heq] at hrun
    cases hrun
  next c u hlt heq =>
    rw [heq] at hrun
    obtain ⟨rfl, rfl⟩ := List.cons.inj hrun
    rw [if_pos rfl, Text.upTo_append]

/-- Balanced items between commas are the items of the list. -/
theorem items?_joinWith {items : List Text} (hne : items ≠ [])
    (h : ∀ s ∈ items, Balanced .item s) : items? (Text.joinWith [','] items) = some items := by
  induction items with
  | nil => exact absurd rfl hne
  | cons s items ih =>
    have hs := h s List.mem_cons_self
    cases items with
    | nil => exact items?_of_balanced hs
    | cons t items =>
      have hrest := ih (List.cons_ne_nil _ _) fun u hu => h u (List.mem_cons_of_mem s hu)
      rw [Text.joinWith, List.append_assoc, List.singleton_append, items?_append_comma hs, hrest]
      · rfl
      · exact List.cons_ne_nil _ _

/-- Balanced items between commas are balanced inside a group. -/
theorem balanced_joinWith {items : List Text} (h : ∀ s ∈ items, Balanced .item s) :
    Balanced .group (Text.joinWith [','] items) := by
  induction items with
  | nil => exact .nil
  | cons s items ih =>
    have hs := (h s List.mem_cons_self).inGroup
    cases items with
    | nil => exact hs
    | cons t items =>
      have hrest := ih fun u hu => h u (List.mem_cons_of_mem s hu)
      rw [Text.joinWith, List.append_assoc, List.singleton_append]
      · exact hs.append (.plain (by decide) hrest)
      · exact List.cons_ne_nil _ _

/-- A balanced text is a list of balanced items with commas between them. -/
theorem Balanced.exists_items {e : Extent} {s : Text} (h : Balanced e s) :
    ∃ item items, (∀ a ∈ item :: items, Balanced .item a) ∧
      s = Text.joinWith [','] (item :: items) := by
  -- what stands in front of a list goes on into its first item
  have hfront : ∀ (p item : Text) (items : List Text), Balanced .item (p ++ item) →
      (∀ a ∈ item :: items, Balanced .item a) →
      ∃ item' items', (∀ a ∈ item' :: items', Balanced .item a) ∧
        p ++ Text.joinWith [','] (item :: items) = Text.joinWith [','] (item' :: items') := by
    intro p item items hp hall
    refine ⟨p ++ item, items, fun a ha => ?_, ?_⟩
    · rcases List.mem_cons.1 ha with rfl | ha
      · exact hp
      · exact hall a (List.mem_cons_of_mem item ha)
    · cases items with
      | nil => rfl
      | cons next items =>
        show p ++ (item ++ [','] ++ Text.joinWith [','] (next :: items)) =
          p ++ item ++ [','] ++ Text.joinWith [','] (next :: items)
        simp only [List.append_assoc]
  induction h with
  | nil => exact ⟨[], [], fun a ha => List.mem_singleton.1 ha ▸ .nil, rfl⟩
  | @plain e c s hc _ ih =>
    obtain ⟨item, items, hall, rfl⟩ := ih
    by_cases hcomma : c = ','
    · subst hcomma
      refine ⟨[], item :: items, fun a ha => ?_, rfl⟩
      rcases List.mem_cons.1 ha with rfl | ha
      · exact .nil
      · exact hall a ha
    · have hitem : Extent.item.stops c = false :=
        Bool.or_eq_false_iff.2 ⟨stops_group hc, beq_eq_false_iff_ne.2 hcomma⟩
      exact hfront [c] item items (.plain hitem (hall item List.mem_cons_self)) hall
  | @string e q body s hq hbody _ ih =>
    obtain ⟨item, items, hall, rfl⟩ := ih
    have hput : q :: (body ++ q :: item) = q :: (body ++ [q]) ++ item := by simp
    have happend := hfront (q :: (body ++ [q])) item items
      (hput ▸ .string hq hbody (hall item List.mem_cons_self)) hall
    simpa using happend
  | @group e o d inner s hd hinner _ _ ih =>
    obtain ⟨item, items, hall, rfl⟩ := ih
    have hput : o :: (inner ++ d :: item) = o :: (inner ++ [d]) ++ item := by simp
    have happend := hfront (o :: (inner ++ [d])) item items
      (hput ▸ .group hd hinner (hall item List.mem_cons_self)) hall
    simpa using happend

/-- The items of a list are its balanced pieces between commas. -/
theorem items?_eq_some_iff {s : Text} {items : List Text} : items? s = some items ↔
    items ≠ [] ∧ s = Text.joinWith [','] items ∧ ∀ a ∈ items, Balanced .item a := by
  refine ⟨fun h => ?_, fun ⟨hne, hs, hall⟩ => hs ▸ items?_joinWith hne hall⟩
  fun_induction items? s generalizing items with
  | case1 s _ hrun =>
    obtain rfl := Option.some.inj h
    obtain ⟨a, ha, hbalanced⟩ := exists_balanced .item s
    rw [hrun, List.append_nil] at ha
    exact ⟨List.cons_ne_nil _ _, rfl, fun b hb => List.mem_singleton.1 hb ▸ ha ▸ hbalanced⟩
  | case2 s t hlt hrun _ ih =>
    obtain ⟨rest, hrest, rfl⟩ := Option.map_eq_some_iff.1 h
    obtain ⟨hne, ht, hall⟩ := ih hrest
    obtain ⟨a, ha, hbalanced⟩ := exists_balanced .item s
    rw [hrun] at ha
    have hfront : Text.upTo s (',' :: t) = a := by rw [ha, Text.upTo_append]
    rw [hfront]
    refine ⟨List.cons_ne_nil _ _, ?_, fun b hb => ?_⟩
    · rw [Text.joinWith, ← ht, List.append_assoc, ha]
      · rfl
      · exact hne
    · rcases List.mem_cons.1 hb with rfl | hb
      · exact hbalanced
      · exact hall b hb
  | case3 => cases h

/-- A text has items exactly if it is balanced. -/
theorem isSome_items?_iff {s : Text} : (items? s).isSome = true ↔ Balanced .group s := by
  constructor
  · intro h
    obtain ⟨items, hitems⟩ := Option.isSome_iff_exists.1 h
    obtain ⟨-, rfl, hall⟩ := items?_eq_some_iff.1 hitems
    exact balanced_joinWith hall
  · intro h
    obtain ⟨item, items, hall, rfl⟩ := h.exists_items
    rw [items?_joinWith (List.cons_ne_nil _ _) hall]
    rfl

/-! ## Literals -/

/-- The inside of an array literal is a balanced text between two brackets of it. -/
theorem exists_of_array? {s inner : Text} (h : array? s = some inner) :
    ∃ a o d t, s = a ++ o :: (inner ++ d :: t) ∧ closer? o = some d ∧ Balanced .group inner := by
  obtain ⟨⟨inner', r⟩, hat, h⟩ := Option.bind_eq_some_iff.1 h
  have h : (if skipBlanks r = [] then some inner' else none) = some inner := h
  obtain ⟨-, rfl⟩ := by simpa only [Option.ite_none_right_eq_some, Option.some.injEq] using h
  -- the literal is a group behind blanks, or behind a word with blanks around it
  obtain ⟨a, o, t, hs, hgroup⟩ : ∃ a o t, s = a ++ o :: t ∧
      enclosed? (o :: t) = some (inner', r) := by
    obtain ⟨a, ha⟩ : skipBlanks s <:+ s := List.dropWhile_suffix _
    unfold arrayAt? at hat
    split at hat
    next t heq => exact ⟨a, '[', t, by rw [← ha, heq], heq ▸ hat⟩
    next =>
      obtain ⟨w, hw, hat⟩ := Option.bind_eq_some_iff.1 hat
      dsimp only at hat
      split at hat
      next t heq =>
        obtain ⟨b, hb⟩ : skipBlanks w <:+ w := List.dropWhile_suffix _
        obtain ⟨-, rfl⟩ := by
          simpa only [afterArrayWord?, Option.ite_none_right_eq_some, Option.some.injEq] using hw
        refine ⟨a ++ (skipBlanks s).take 5 ++ b, '(', t, ?_, heq ▸ hat⟩
        rw [← heq, List.append_assoc, hb, List.append_assoc, List.take_append_drop, ha]
      · cases hat
  obtain ⟨d, hd, rfl, hinner⟩ := enclosed?_iff.1 hgroup
  exact ⟨a, o, d, r, hs, hd, hinner⟩

/-- The inside of a text as a single-quoted literal. -/
theorem exists_body_quoteSingle (s : Text) :
    ∃ body, quoteSingle s = '\'' :: (body ++ ['\'']) ∧ QuotedBody '\'' body ∧
      ∀ r, singleQuoted? (body ++ '\'' :: r) = some (s, r) := by
  refine ⟨_, rfl, ?_⟩
  induction s with
  | nil => exact ⟨.nil, fun r => rfl⟩
  | cons c s ih =>
    obtain ⟨hbody, hread⟩ := ih
    rw [List.flatMap_cons]
    generalize s.flatMap _ = body at hbody hread ⊢
    by_cases hc : c = '\'' ∨ c = '\\'
    · rw [if_pos (by simpa using hc)]
      refine ⟨.escape c hbody, fun r => ?_⟩
      rcases hc with rfl | rfl
      · show (singleQuoted? (body ++ '\'' :: r)).map _ = _
        rw [hread]
        rfl
      · show (singleQuoted? (body ++ '\'' :: r)).map _ = _
        rw [hread]
        rfl
    · rw [if_neg (by simpa using hc)]
      rw [not_or] at hc
      refine ⟨.plain hc.1 hc.2 hbody, fun r => ?_⟩
      rw [List.append_assoc, List.singleton_append, singleQuoted?, hread]
      · rfl
      · exact hc.1
      · exact fun _ heq => absurd heq hc.2
      · exact fun _ heq => absurd heq hc.2

theorem balanced_quoteSingle (e : Extent) (s : Text) : Balanced e (quoteSingle s) := by
  obtain ⟨body, heq, hbody, -⟩ := exists_body_quoteSingle s
  rw [heq]
  exact .string (.inl rfl) hbody .nil

/-- A text that is written as a literal reads back, whatever follows it. -/
theorem stringAt?_quoteSingle (s r : Text) : stringAt? (quoteSingle s ++ r) = some (s, r) := by
  obtain ⟨body, heq, -, hread⟩ := exists_body_quoteSingle s
  rw [heq, List.cons_append, List.append_assoc, List.singleton_append]
  exact hread r

end Code

end TemplateTrace
