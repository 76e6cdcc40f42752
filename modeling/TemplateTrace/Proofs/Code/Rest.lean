import TemplateTrace.Code.Bracket
import TemplateTrace.Code.Head
import TemplateTrace.Code.Literal

/-!
# What readers leave

The readers of host code only take something off the front of a text: what they leave is the end of
it, as it was.

- `Text.search_eq_some_lastOr`: a search knows the character in front of the place where it stops.
- `Code.Head.suffix_rest?`: behind a head, and `Code.Head.rest?_append` for a head in two parts.
- `Code.Head.exists_extent`: a head that ends in a word is settled by what it takes off.
- `Code.suffix_afterGroup?_and_afterRun`, `Code.suffix_enclosed?`: behind a run and behind a group.
- `Code.suffix_stringAt?`: behind a string literal.
- `Code.enclosed?_append`: what a group holds is settled by the text up to its end.
-/

namespace TemplateTrace

namespace Text

theorem lastOr_append (prev : Option Char) (a b : Text) :
    lastOr (lastOr prev a) b = lastOr prev (a ++ b) := by
  rw [lastOr, lastOr, lastOr, List.getLast?_append]
  cases b.getLast? <;> rfl

theorem lastOr_of_ne_nil {s : Text} (h : s ≠ []) (prev prev' : Option Char) :
    lastOr prev s = lastOr prev' s := by
  rw [lastOr, lastOr, List.getLast?_eq_some_getLast h]
  rfl

theorem lastOr_append_of_ne_nil (prev : Option Char) (a : Text) {b : Text} (hb : b ≠ []) :
    lastOr prev (a ++ b) = lastOr prev b := by
  rw [← lastOr_append, lastOr_of_ne_nil hb]

theorem lastOr_cons (prev : Option Char) (c : Char) (s : Text) :
    lastOr prev (c :: s) = lastOr (some c) s := by
  rw [lastOr, lastOr, List.getLast?_cons]
  cases s.getLast? <;> rfl

/-- A search stops at a place of the text, and it has seen the character in front of it. -/
theorem search_eq_some_lastOr {α : Type} {m : Option Char → Text → Option α} {prev : Option Char}
    {s b : Text} {a : α} (h : search m prev s = some (b, a)) :
    ∃ t, s = b ++ t ∧ m (lastOr prev b) t = some a := by
  fun_induction search m prev s generalizing b a with
  | case1 prev =>
    obtain ⟨a', ha, heq⟩ := Option.map_eq_some_iff.1 h
    obtain ⟨rfl, rfl⟩ := by simpa using heq
    exact ⟨[], rfl, ha⟩
  | case2 prev c s a' ha =>
    obtain ⟨rfl, rfl⟩ := by simpa using h
    exact ⟨c :: s, rfl, ha⟩
  | case3 prev c s _ ih =>
    obtain ⟨⟨b', a'⟩, hs, heq⟩ := Option.map_eq_some_iff.1 h
    obtain ⟨rfl, rfl⟩ := by simpa using heq
    obtain ⟨t, rfl, ht⟩ := ih hs
    exact ⟨t, rfl, by rwa [lastOr_cons]⟩

/-- Trimming stops at the first character that is no blank. -/
theorem stripStart_append_cons {b : Text} (hb : ∀ c ∈ b, isBlank c = true) {c : Char}
    (hc : isBlank c = false) (s : Text) : stripStart (b ++ c :: s) = c :: s := by
  show List.dropWhile _ _ = _
  rw [List.dropWhile_append_of_pos hb]
  exact List.dropWhile_cons_of_neg (by simp [hc])

end Text

namespace Code

/-! ## Heads -/

/-- What a piece leaves is an end of the text. -/
theorem Piece.suffix_rest? {p : Piece} {s r : Text} (h : p.rest? s = some r) : r <:+ s := by
  cases p with
  | word w =>
    rw [Text.after?_eq_some_iff.1 h]
    exact List.suffix_append w r
  | blanks =>
    obtain rfl := Option.some.inj h
    exact List.dropWhile_suffix _
  | someBlanks =>
    cases s with
    | nil => cases h
    | cons c s =>
      simp only [rest?, Option.ite_none_right_eq_some, Option.some.injEq] at h
      rw [← h.2]
      exact (List.dropWhile_suffix _).trans (List.suffix_cons c s)

theorem Head.suffix_rest? {h : Head} {s r : Text} (hr : h.rest? s = some r) : r <:+ s := by
  induction h generalizing s with
  | nil =>
    obtain rfl := Option.some.inj hr
    exact List.suffix_refl _
  | cons p ps ih =>
    obtain ⟨t, ht, hr⟩ := Option.bind_eq_some_iff.1 hr
    exact (ih hr).trans (Piece.suffix_rest? ht)

theorem Head.wordRest?_eq_some_iff {h : Head} {prev : Option Char} {s r : Text} :
    h.wordRest? prev s = some r ↔ Text.startsWord prev = true ∧ h.rest? s = some r := by
  rw [wordRest?, Option.ite_none_right_eq_some]

/-- A head that is found stands as a word between the texts around it. -/
theorem Head.exists_word_of_search {h : Head} {prev : Option Char} {s before rest : Text}
    (hsearch : Text.search h.wordRest? prev s = some (before, rest)) :
    ∃ word, s = before ++ (word ++ rest) := by
  obtain ⟨u, rfl, hhead⟩ := Text.search_eq_some_lastOr hsearch
  obtain ⟨word, rfl⟩ := Head.suffix_rest? (Head.wordRest?_eq_some_iff.1 hhead).2
  exact ⟨word, rfl⟩

/-- A head in two parts is read part by part. -/
theorem Head.rest?_append (h h' : Head) (s : Text) :
    Head.rest? (h ++ h') s = (Head.rest? h s).bind h'.rest? := by
  induction h generalizing s with
  | nil => rfl
  | cons p ps ih =>
    show (p.rest? s).bind _ = ((p.rest? s).bind _).bind _
    rw [Option.bind_assoc]
    exact congrArg _ (funext ih)

/-- A head that ends in a word has that word right in front of what it leaves. -/
theorem Head.exists_append_word {h : Head} {w s r : Text}
    (hr : Head.rest? (h ++ [.word w]) s = some r) : ∃ t, s = t ++ (w ++ r) := by
  rw [rest?_append] at hr
  obtain ⟨t, ht, hr⟩ := Option.bind_eq_some_iff.1 hr
  obtain ⟨t', ht', hr⟩ := Option.bind_eq_some_iff.1 hr
  obtain rfl := Option.some.inj hr
  obtain ⟨u, hu⟩ := suffix_rest? ht
  exact ⟨u, by rw [← hu, Text.after?_eq_some_iff.1 ht']⟩

/-- Trimmed text starts with no blank, so that blanks in front of it are trimmed up to it. -/
theorem stripStart_append_of_ne_nil {s e r : Text} (h : Text.stripStart s = e ++ r)
    (he : e ≠ []) (t : Text) :
    Text.stripStart (s.takeWhile Text.isBlank ++ e ++ t) = e ++ t := by
  obtain ⟨c, e', rfl⟩ := List.ne_nil_iff_exists_cons.1 he
  have hc : Text.isBlank c = false := by
    have hnot := List.head?_dropWhile_not Text.isBlank s
    rw [show s.dropWhile Text.isBlank = c :: e' ++ r from h] at hnot
    exact hnot
  have hall : ∀ d ∈ s.takeWhile Text.isBlank, Text.isBlank d = true :=
    List.all_eq_true.1 List.all_takeWhile
  rw [List.append_assoc]
  exact Text.stripStart_append_cons hall hc (e' ++ t)

/-- The characters that a piece can take off. -/
def Piece.takes (c : Char) : Piece → Bool
  | word w => w.contains c
  | blanks | someBlanks => Text.isBlank c

/-- The characters that can stand between the start and the end of a head. -/
def Head.takes (h : Head) (c : Char) : Bool := h.any (Piece.takes c)

/-- What a piece takes off is what it takes off in front of the text behind it, whatever follows. -/
theorem Piece.exists_extent {p : Piece} {s e r : Text} (h : p.rest? s = some (e ++ r))
    (he : e ≠ []) :
    ∃ u, s = u ++ (e ++ r) ∧ (∀ t, p.rest? (u ++ (e ++ t)) = some (e ++ t)) ∧
      ∀ c ∈ u, p.takes c = true := by
  have hblank : ∀ (s : Text), ∀ c ∈ s.takeWhile Text.isBlank, Text.isBlank c = true :=
    fun s => List.all_eq_true.1 List.all_takeWhile
  have hrest : ∀ {s : Text}, Text.stripStart s = e ++ r →
      s = s.takeWhile Text.isBlank ++ (e ++ r) := by
    intro s hs
    conv => rhs; rw [← hs]
    exact List.takeWhile_append_dropWhile.symm
  cases p with
  | word w =>
    exact ⟨w, Text.after?_eq_some_iff.1 h, fun t => Text.after?_eq_some_iff.2 rfl,
      fun c hc => List.contains_iff_mem.2 hc⟩
  | blanks =>
    have hs : Text.stripStart s = e ++ r := Option.some.inj h
    refine ⟨s.takeWhile Text.isBlank, hrest hs, fun t => ?_, hblank s⟩
    rw [← List.append_assoc]
    exact congrArg some (stripStart_append_of_ne_nil hs he t)
  | someBlanks =>
    cases s with
    | nil => cases h
    | cons d s =>
      simp only [Piece.rest?, Option.ite_none_right_eq_some, Option.some.injEq] at h
      obtain ⟨hd, hs⟩ := h
      refine ⟨d :: s.takeWhile Text.isBlank, congrArg (d :: ·) (hrest hs), fun t => ?_, ?_⟩
      · rw [List.cons_append, ← List.append_assoc]
        exact (if_pos hd).trans (congrArg some (stripStart_append_of_ne_nil hs he t))
      · exact List.forall_mem_cons.2 ⟨hd, hblank s⟩

/-- A head that ends in a word takes off a text that ends in that word and is all that the match
depends on. -/
theorem Head.exists_extent {h : Head} {w : Text} (hw : w ≠ []) {s r : Text}
    (hr : Head.rest? (h ++ [.word w]) s = some r) :
    ∃ e, s = e ++ r ∧ w <:+ e ∧ (∀ t, Head.rest? (h ++ [.word w]) (e ++ t) = some t) ∧
      ∀ c ∈ e, Head.takes (h ++ [.word w]) c = true := by
  induction h generalizing s with
  | nil =>
    obtain ⟨t, ht, hr⟩ := Option.bind_eq_some_iff.1 hr
    obtain rfl := Option.some.inj hr
    refine ⟨w, Text.after?_eq_some_iff.1 ht, List.suffix_refl w, fun t => ?_, fun c hc => ?_⟩
    · show (Text.after? w (w ++ t)).bind _ = _
      rw [Text.after?_eq_some_iff.2 rfl]
      rfl
    · show (w.contains c || false) = true
      rw [Bool.or_false]
      exact List.contains_iff_mem.2 hc
  | cons p ps ih =>
    obtain ⟨s', hs', hr⟩ := Option.bind_eq_some_iff.1 hr
    obtain ⟨e, rfl, hsuffix, hmatch, htakes⟩ := ih hr
    have he : e ≠ [] := by
      rintro rfl
      exact hw (List.suffix_nil.1 hsuffix)
    -- the extent of the whole head is that of the piece and that of the others
    obtain ⟨u, rfl, hpiece, hall⟩ := Piece.exists_extent hs' he
    refine ⟨u ++ e, (List.append_assoc u e r).symm, hsuffix.trans (List.suffix_append _ _),
      fun t => ?_, fun c hc => ?_⟩
    · show (p.rest? (u ++ e ++ t)).bind _ = _
      rw [List.append_assoc, hpiece]
      exact hmatch t
    · show (p.takes c || Head.takes (ps ++ [.word w]) c) = true
      rcases List.mem_append.1 hc with hc | hc
      · rw [hall c hc, Bool.true_or]
      · rw [htakes c hc, Bool.or_true]

/-- A head that ends in a word takes off the same whatever follows. -/
theorem Head.rest?_append_right {h : Head} {w : Text} (hw : w ≠ []) {s r : Text}
    (hr : Head.rest? (h ++ [.word w]) s = some r) (t : Text) :
    Head.rest? (h ++ [.word w]) (s ++ t) = some (r ++ t) := by
  obtain ⟨e, rfl, -, hmatch, -⟩ := exists_extent hw hr
  rw [List.append_assoc]
  exact hmatch (r ++ t)

/-! ## Strings, groups and runs -/

theorem suffix_afterQuote? {q : Char} {s r : Text} (h : afterQuote? q s = some r) : r <:+ s := by
  fun_induction afterQuote? q s with
  | case1 => cases h
  | case2 => cases h
  | case3 c s ih => exact (ih h).trans ⟨['\\', c], rfl⟩
  | case4 s =>
    obtain rfl := Option.some.inj h
    exact List.suffix_cons _ _
  | case5 c s _ hc ih => exact (ih h).trans (List.suffix_cons _ _)

theorem suffix_afterString? {s r : Text} (h : afterString? s = some r) : r <:+ s := by
  unfold afterString? at h
  split at h
  · exact (suffix_afterQuote? h).trans (List.suffix_cons _ _)
  · exact (suffix_afterQuote? h).trans (List.suffix_cons _ _)
  · cases h

/-- A group ends at the first bracket that is not opened inside, if it is the one that closes the
group. -/
theorem afterGroup?_eq_some_iff {o : Char} {s r : Text} :
    (afterGroup? (o :: s)).map (·.1) = some r ↔
      ∃ c, closer? o = some c ∧ (afterRun .group s).1 = c :: r := by
  rw [afterGroup?]
  cases hc : closer? o with
  | none => simp
  | some c =>
    dsimp only
    split
    next h => simp [h]
    next d r' h heq =>
      rw [heq]
      by_cases hd : d = c
      · simp [hd]
      · simp [hd]

/-- A run passes a string as a whole. -/
theorem afterRun_string {e : Extent} {s u : Text} (h : afterString? s = some u) :
    (afterRun e s).1 = (afterRun e u).1 := by
  rw [afterRun]
  split
  next t ht =>
    obtain rfl := Option.some.inj (h.symm.trans ht)
    rfl
  next ht => cases h.symm.trans ht

/-- A run passes a group as a whole. -/
theorem afterRun_group {e : Extent} {s u : Text} (hs : afterString? s = none)
    (h : (afterGroup? s).map (·.1) = some u) : (afterRun e s).1 = (afterRun e u).1 := by
  rw [afterRun]
  split
  next t ht => cases hs.symm.trans ht
  · obtain ⟨r, hr, rfl⟩ := Option.map_eq_some_iff.1 h
    split
    next t ht heq =>
      obtain rfl := Option.some.inj (hr.symm.trans heq)
      rfl
    next heq => cases hr.symm.trans heq

/-- A run passes a character that opens nothing, or stops at it. -/
theorem afterRun_cons {e : Extent} {c : Char} {s : Text} (hs : afterString? (c :: s) = none)
    (h : (afterGroup? (c :: s)).map (·.1) = none) :
    (afterRun e (c :: s)).1 = if e.stops c then c :: s else (afterRun e s).1 := by
  rw [Option.map_eq_none_iff] at h
  rw [afterRun]
  split
  next t ht => cases hs.symm.trans ht
  · split
    next t ht heq => cases h.symm.trans heq
    · dsimp only
      split <;> rfl

theorem afterRun_nil (e : Extent) : (afterRun e []).1 = [] :=
  List.length_eq_zero_iff.1 (Nat.le_zero.1 (afterRun e []).2)

/-- Groups and runs together, by induction on the length of the text. -/
theorem suffix_afterGroup?_and_afterRun (s : Text) :
    (∀ r, afterGroup? s = some r → r.1 <:+ s) ∧ ∀ e, (afterRun e s).1 <:+ s := by
  induction s using (measure (List.length (α := Char))).wf.induction with
  | h s ih =>
    -- a group is a bracket around a run that is shorter
    have hgroup : ∀ r, afterGroup? s = some r → r.1 <:+ s := by
      intro r h
      cases s with
      | nil =>
        rw [afterGroup?] at h
        cases h
      | cons o t =>
        obtain ⟨c, -, hrun⟩ := afterGroup?_eq_some_iff.1 (congrArg (Option.map (·.1)) h)
        have htail := (ih t (Nat.lt_succ_self _)).2 .group
        rw [hrun] at htail
        exact ((List.suffix_cons c r.1).trans htail).trans (List.suffix_cons o t)
    refine ⟨hgroup, fun e => ?_⟩
    cases hs : afterString? s with
    | some t =>
      rw [afterRun_string hs]
      exact ((ih t (length_afterString?_lt hs)).2 e).trans (suffix_afterString? hs)
    | none =>
      cases hg : afterGroup? s with
      | some r =>
        rw [afterRun_group hs (congrArg (Option.map (·.1)) hg)]
        exact ((ih r.1 r.2).2 e).trans (hgroup r hg)
      | none =>
        cases s with
        | nil =>
          exact (afterRun_nil e).symm ▸ List.suffix_rfl
        | cons c t =>
          rw [afterRun_cons hs (congrArg (Option.map (·.1)) hg)]
          split
          · exact List.suffix_rfl
          · exact ((ih t (Nat.lt_succ_self _)).2 e).trans (List.suffix_cons c t)

theorem suffix_afterGroup? {s : Text} {r : { r : Text // r.length < s.length }}
    (h : afterGroup? s = some r) : r.1 <:+ s := (suffix_afterGroup?_and_afterRun s).1 r h

theorem suffix_afterRun (e : Extent) (s : Text) : (afterRun e s).1 <:+ s :=
  (suffix_afterGroup?_and_afterRun s).2 e

/-- What is behind a group is an end of the text. -/
theorem suffix_enclosed? {o : Char} {s inner r : Text}
    (h : enclosed? (o :: s) = some (inner, r)) : r <:+ s := by
  have hlt := length_enclosed?_lt h
  cases hg : afterGroup? (o :: s) with
  | none =>
    simp only [enclosed?, hg] at h
    cases h
  | some r' =>
    simp only [enclosed?, hg, Option.some.injEq, Prod.mk.injEq] at h
    rw [← h.2] at hlt ⊢
    exact List.suffix_of_suffix_length_le (suffix_afterGroup? hg) (List.suffix_cons o s)
      (Nat.le_of_lt_succ hlt)

/-! ## String literals -/

/-- What is behind a single-quoted literal is an end of the text. -/
theorem suffix_singleQuoted? {s v r : Text} (h : singleQuoted? s = some (v, r)) : r <:+ s := by
  fun_induction singleQuoted? s generalizing v r with
  | case1 => cases h
  | case2 s =>
    obtain ⟨-, rfl⟩ := Prod.mk.inj (Option.some.inj h)
    exact List.suffix_cons _ _
  | case3 s ih =>
    obtain ⟨⟨v', r'⟩, hs, heq⟩ := Option.map_eq_some_iff.1 h
    obtain ⟨-, rfl⟩ := Prod.mk.inj heq
    exact (ih hs).trans ⟨['\\', '\''], rfl⟩
  | case4 s ih =>
    obtain ⟨⟨v', r'⟩, hs, heq⟩ := Option.map_eq_some_iff.1 h
    obtain ⟨-, rfl⟩ := Prod.mk.inj heq
    exact (ih hs).trans ⟨['\\', '\\'], rfl⟩
  | case5 c s _ _ _ ih =>
    obtain ⟨⟨v', r'⟩, hs, heq⟩ := Option.map_eq_some_iff.1 h
    obtain ⟨-, rfl⟩ := Prod.mk.inj heq
    exact (ih hs).trans (List.suffix_cons c s)

/-- What is behind a double-quoted literal is an end of the text. -/
theorem suffix_doubleQuoted? {s v r : Text} (h : doubleQuoted? s = some (v, r)) : r <:+ s := by
  fun_induction doubleQuoted? s generalizing v r with
  | case1 => cases h
  | case2 s =>
    obtain ⟨-, rfl⟩ := Prod.mk.inj (Option.some.inj h)
    exact List.suffix_cons _ _
  | case3 => cases h
  | case4 c s d hd ih =>
    obtain ⟨⟨v', r'⟩, hs, heq⟩ := Option.map_eq_some_iff.1 h
    obtain ⟨-, rfl⟩ := Prod.mk.inj heq
    exact (ih hs).trans ⟨['\\', c], rfl⟩
  | case5 c s hd ih =>
    obtain ⟨⟨v', r'⟩, hs, heq⟩ := Option.map_eq_some_iff.1 h
    obtain ⟨-, rfl⟩ := Prod.mk.inj heq
    exact (ih hs).trans ⟨['\\', c], rfl⟩
  | case6 c s _ _ _ ih =>
    obtain ⟨⟨v', r'⟩, hs, heq⟩ := Option.map_eq_some_iff.1 h
    obtain ⟨-, rfl⟩ := Prod.mk.inj heq
    exact (ih hs).trans (List.suffix_cons c s)

theorem suffix_stringAt? {s v r : Text} (h : stringAt? s = some (v, r)) : r <:+ s := by
  unfold stringAt? at h
  split at h
  · exact (suffix_singleQuoted? h).trans (List.suffix_cons _ _)
  · exact (suffix_doubleQuoted? h).trans (List.suffix_cons _ _)
  · cases h

/-! ## More text behind -/

/-- Where a string ends does not depend on what stands behind it. -/
theorem afterQuote?_append {q : Char} {s r : Text} (h : afterQuote? q s = some r) (t : Text) :
    afterQuote? q (s ++ t) = some (r ++ t) := by
  fun_induction afterQuote? q s with
  | case1 => cases h
  | case2 => cases h
  | case3 c s ih => exact ih h
  | case4 s hback =>
    obtain rfl := Option.some.inj h
    rw [List.cons_append, afterQuote?, if_pos rfl]
    exact hback
  | case5 c s hback hc ih =>
    rw [List.cons_append, afterQuote?, if_neg hc, ih h]
    exact hback

theorem afterString?_append {s r : Text} (h : afterString? s = some r) (t : Text) :
    afterString? (s ++ t) = some (r ++ t) := by
  unfold afterString? at h
  split at h
  · exact afterQuote?_append h t
  · exact afterQuote?_append h t
  · cases h

theorem afterString?_cons {c : Char} (h : c ≠ '\'') (h' : c ≠ '"') (s : Text) :
    afterString? (c :: s) = none := by
  rw [afterString?]
  · exact fun _ heq => h (List.cons.inj heq).1
  · exact fun _ heq => h' (List.cons.inj heq).1

theorem afterGroup?_cons {c : Char} (h : closer? c = none) (s : Text) :
    (afterGroup? (c :: s)).map (·.1) = none := by
  rw [afterGroup?, h]
  rfl

/-- A bracket that opens a group is no quote, and the one that closes it is neither. -/
theorem closer?_spec {o d : Char} (h : closer? o = some d) :
    (o ≠ '\'' ∧ o ≠ '"') ∧ (d ≠ '\'' ∧ d ≠ '"') ∧ closer? d = none := by
  unfold closer? at h
  split at h
  all_goals cases h
  all_goals decide

/-- A plain character at which no run stops is no bracket and no quote. -/
theorem plain_of_stops {e : Extent} {c : Char} (h : e.stops c = false) :
    (c ≠ '\'' ∧ c ≠ '"') ∧ closer? c = none := by
  have hc : isBracketOrQuote c = false := by
    cases e with
    | group => exact h
    | item => exact (Bool.or_eq_false_iff.1 h).1
    | statement => exact (Bool.or_eq_false_iff.1 h).1
  have hmem : c ∉ "()[]\x7b\x7d'\"".toList := by
    rw [← List.contains_iff_mem]
    exact Bool.not_eq_true _ ▸ hc
  refine ⟨⟨?_, ?_⟩, ?_⟩
  · rintro rfl
    exact hmem (by decide)
  · rintro rfl
    exact hmem (by decide)
  · cases hcloser : closer? c with
    | none => rfl
    | some d =>
      unfold closer? at hcloser
      split at hcloser
      · exact absurd (by decide) hmem
      · exact absurd (by decide) hmem
      · exact absurd (by decide) hmem
      · cases hcloser

/-- A group that ends, ends at the same place whatever follows, and so does a run up to a bracket
that closes a group. -/
theorem afterGroup?_and_afterRun_append (s t : Text) :
    (∀ r, (afterGroup? s).map (·.1) = some r →
      (afterGroup? (s ++ t)).map (·.1) = some (r ++ t)) ∧
    ∀ e o d r, closer? o = some d → (afterRun e s).1 = d :: r →
      (afterRun e (s ++ t)).1 = d :: r ++ t := by
  induction s using (measure (List.length (α := Char))).wf.induction with
  | h s ih =>
    have hgroup : ∀ r, (afterGroup? s).map (·.1) = some r →
        (afterGroup? (s ++ t)).map (·.1) = some (r ++ t) := by
      intro r h
      cases s with
      | nil =>
        rw [afterGroup?] at h
        cases h
      | cons o s =>
        obtain ⟨c, hc, hrun⟩ := afterGroup?_eq_some_iff.1 h
        exact afterGroup?_eq_some_iff.2 ⟨c, hc, (ih s (Nat.lt_succ_self _)).2 _ o c r hc hrun⟩
    refine ⟨hgroup, fun e o d r hd h => ?_⟩
    -- strings and groups are passed as they were, and a plain character stops the run as it did
    cases hs : afterString? s with
    | some u =>
      rw [afterRun_string hs] at h
      rw [afterRun_string (afterString?_append hs t)]
      exact (ih u (length_afterString?_lt hs)).2 e o d r hd h
    | none =>
      cases s with
      | nil =>
        rw [afterRun_nil] at h
        cases h
      | cons c s =>
        cases hg : (afterGroup? (c :: s)).map (·.1) with
        | some u =>
          have hu : u.length < (c :: s).length := by
            obtain ⟨u', -, rfl⟩ := Option.map_eq_some_iff.1 hg
            exact u'.2
          have hstring : afterString? (c :: s ++ t) = none := by
            obtain ⟨d', hd', -⟩ := afterGroup?_eq_some_iff.1 hg
            obtain ⟨⟨hc, hc'⟩, -⟩ := closer?_spec hd'
            exact afterString?_cons hc hc' _
          rw [afterRun_group hs hg] at h
          rw [afterRun_group hstring (hgroup u hg)]
          exact (ih u hu).2 e o d r hd h
        | none =>
          rw [afterRun_cons hs hg] at h
          cases hstops : e.stops c with
          | true =>
            rw [hstops, if_pos rfl] at h
            obtain ⟨rfl, rfl⟩ := List.cons.inj h
            obtain ⟨-, ⟨hc, hc'⟩, hcloser⟩ := closer?_spec hd
            rw [List.cons_append, afterRun_cons (afterString?_cons hc hc' _)
              (afterGroup?_cons hcloser _), hstops, if_pos rfl]
          | false =>
            rw [hstops, if_neg Bool.false_ne_true] at h
            obtain ⟨⟨hc, hc'⟩, hcloser⟩ := plain_of_stops hstops
            rw [List.cons_append, afterRun_cons (afterString?_cons hc hc' _)
              (afterGroup?_cons hcloser _), hstops, if_neg Bool.false_ne_true]
            exact (ih s (Nat.lt_succ_self _)).2 e o d r hd h

/-- The inside of a group is what lies between its opening bracket and what is behind the group. -/
theorem enclosed?_eq_some_iff {o : Char} {s inner r : Text} :
    enclosed? (o :: s) = some (inner, r) ↔
      (afterGroup? (o :: s)).map (·.1) = some r ∧ (Text.upTo s r).dropLast = inner := by
  unfold enclosed?
  cases afterGroup? (o :: s) with
  | none =>
    constructor
    · intro h
      cases h
    · rintro ⟨h, -⟩
      cases h
  | some r' =>
    constructor
    · intro h
      obtain ⟨rfl, rfl⟩ := Prod.mk.inj (Option.some.inj h)
      exact ⟨rfl, rfl⟩
    · rintro ⟨h, rfl⟩
      obtain rfl := Option.some.inj h
      rfl

/-- What a group holds does not depend on what stands behind it. -/
theorem enclosed?_append {o : Char} {s inner r : Text}
    (h : enclosed? (o :: s) = some (inner, r)) (t : Text) :
    enclosed? (o :: (s ++ t)) = some (inner, r ++ t) := by
  obtain ⟨v, rfl⟩ := suffix_enclosed? h
  obtain ⟨hgroup, hinner⟩ := enclosed?_eq_some_iff.1 h
  refine enclosed?_eq_some_iff.2 ⟨(afterGroup?_and_afterRun_append _ t).1 r hgroup, ?_⟩
  rw [Text.upTo_append] at hinner
  rwa [List.append_assoc, Text.upTo_append]

end Code

end TemplateTrace
