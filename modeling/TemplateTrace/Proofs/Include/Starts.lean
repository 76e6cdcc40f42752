import TemplateTrace.Proofs.Include.Site

/-!
# Counting calls

Expansion works through a text from left to right, and what it has passed must hold no call. So the
places at which calls start are counted, in a text between two others: what is in front of the text
tells whether a word can start, and what follows it can complete the start of a call.

- `IncludeSite.StartsAt`, `IncludeSite.StartsAt.transfer`: a call starts between two texts, and when
  a call at one place is a call at another.
- `IncludeSite.starts`, `IncludeSite.starts_append`: the number of calls that start in a text.
- `IncludeSite.starts_of_find_eq_none`, `IncludeSite.starts_before`: what a search has passed.
- `IncludeSite.find_append`: a call is found behind what holds none, and whatever follows it.
- `IncludeSite.CallFree`, `IncludeSite.Barred`: a text without calls, and one in which none starts
  whatever stands around it.
-/

namespace TemplateTrace

/-- A part with a separator in it that is cut in two: the cut is on one side of the separator. -/
theorem append_cons_eq_append {α : Type} {s t a b : List α} {c : α} (h : s ++ c :: t = a ++ b) :
    (∃ a', s = a ++ a' ∧ b = a' ++ c :: t) ∨ ∃ b', a = s ++ c :: b' ∧ t = b' ++ b := by
  rcases List.append_eq_append_iff.1 h with ⟨a', rfl, hb⟩ | ⟨a', rfl, hb⟩
  · cases a' with
    | nil => exact .inl ⟨[], by simp, hb.symm⟩
    | cons d a' =>
      obtain ⟨rfl, rfl⟩ := by simpa using hb
      exact .inr ⟨a', rfl, rfl⟩
  · exact .inl ⟨a', rfl, hb⟩

namespace Text

/-- A search that finds nothing was at every place. -/
theorem search_eq_none {α : Type} {m : Option Char → Text → Option α} {prev : Option Char}
    {s : Text} (h : search m prev s = none) {a b : Text} (hs : s = a ++ b) :
    m (lastOr prev a) b = none := by
  fun_induction search m prev s generalizing a b with
  | case1 prev =>
    obtain ⟨rfl, rfl⟩ := List.append_eq_nil_iff.1 hs.symm
    exact Option.map_eq_none_iff.1 h
  | case2 => cases h
  | case3 prev c s hnone ih =>
    cases a with
    | nil =>
      rw [List.nil_append] at hs
      rw [← hs]
      exact hnone
    | cons d a =>
      obtain ⟨rfl, rfl⟩ := by simpa using hs
      rw [lastOr_cons]
      exact ih (Option.map_eq_none_iff.1 h) rfl

/-- A search stops at the first place. -/
theorem search_first {α : Type} {m : Option Char → Text → Option α} {prev : Option Char}
    {s p : Text} {r : α} (h : search m prev s = some (p, r)) {a b t : Text} (hs : s = p ++ t)
    (hp : p = a ++ b) (hb : b ≠ []) : m (lastOr prev a) (b ++ t) = none := by
  fun_induction search m prev s generalizing a b p r with
  | case1 prev =>
    obtain ⟨rfl, -⟩ := List.append_eq_nil_iff.1 hs.symm
    exact absurd (List.append_eq_nil_iff.1 hp.symm).2 hb
  | case2 prev c s r' hr =>
    obtain ⟨rfl, rfl⟩ := by simpa using h
    exact absurd (List.append_eq_nil_iff.1 hp.symm).2 hb
  | case3 prev c s hnone ih =>
    obtain ⟨⟨p', r'⟩, hsearch, heq⟩ := Option.map_eq_some_iff.1 h
    obtain ⟨rfl, rfl⟩ := by simpa using heq
    obtain rfl : s = p' ++ t := by simpa using hs
    cases a with
    | nil =>
      rw [List.nil_append] at hp
      rw [← hp]
      exact hnone
    | cons d a =>
      obtain ⟨rfl, rfl⟩ := by simpa using hp
      rw [lastOr_cons]
      exact ih hsearch rfl rfl hb

/-- Behind a text at no place of which it matches, a search goes on. -/
theorem search_skip {α : Type} {m : Option Char → Text → Option α} {prev : Option Char}
    {u v : Text} (h : ∀ a b, u = a ++ b → b ≠ [] → m (lastOr prev a) (b ++ v) = none) :
    search m prev (u ++ v) = (search m (lastOr prev u) v).map fun q => (u ++ q.1, q.2) := by
  induction u generalizing prev with
  | nil => exact Option.map_id'.symm
  | cons c u ih =>
    have hhere : m prev (c :: (u ++ v)) = none := h [] (c :: u) rfl (List.cons_ne_nil _ _)
    have hrest : search m (some c) (u ++ v) =
        (search m (lastOr (some c) u) v).map fun q => (u ++ q.1, q.2) := by
      refine ih fun a b hu hne => ?_
      have hplace := h (c :: a) b (by rw [hu, List.cons_append]) hne
      rwa [lastOr_cons] at hplace
    rw [List.cons_append, search, hhere, lastOr_cons]
    dsimp only
    rw [hrest, Option.map_map]
    rfl

/-- A search stops behind a text of which it matches no place. -/
theorem search_append {α : Type} {m : Option Char → Text → Option α} {prev : Option Char}
    {u v : Text} {r : α}
    (hu : ∀ u₁ u₂, u = u₁ ++ u₂ → u₂ ≠ [] → m (lastOr prev u₁) (u₂ ++ v) = none)
    (hv : m (lastOr prev u) v = some r) : search m prev (u ++ v) = some (u, r) := by
  have hhere : search m (lastOr prev u) v = some ([], r) := by
    cases v with
    | nil =>
      rw [search, hv]
      rfl
    | cons c v => rw [search, hv]
  rw [search_skip hu, hhere, Option.map_some, List.append_nil]

end Text

/-- A word of a head is in every text that the head matches. -/
theorem Code.Head.mem_of_word {h : Code.Head} {w s r : Text} (hw : Code.Piece.word w ∈ h)
    (hr : h.rest? s = some r) {c : Char} (hc : c ∈ w) : c ∈ s := by
  induction h generalizing s with
  | nil => cases hw
  | cons p ps ih =>
    obtain ⟨t, ht, hr⟩ := Option.bind_eq_some_iff.1 hr
    rcases List.mem_cons.1 hw with rfl | hw
    · rw [Text.after?_eq_some_iff.1 ht]
      exact List.mem_append_left _ hc
    · exact (Code.Piece.suffix_rest? ht).subset (ih hw hr)

namespace IncludeSite

/-! ## Calls at a place -/

/-- A call starts between two texts. -/
def StartsAt (a b : Text) : Prop := (head.wordRest? (Text.lastOr none a) b).isSome = true

instance (a b : Text) : Decidable (StartsAt a b) :=
  inferInstanceAs (Decidable ((head.wordRest? (Text.lastOr none a) b).isSome = true))

theorem startsAt_iff {a b : Text} :
    StartsAt a b ↔ Text.startsWord (Text.lastOr none a) = true ∧ (head.rest? b).isSome = true := by
  unfold StartsAt Code.Head.wordRest?
  split
  next h => simp [h]
  next h => simp [h]

/-- Whether a call starts at a place of a line does not depend on the lines above. -/
theorem startsAt_lastLine {a b : Text} : StartsAt (Text.lastLine a) b ↔ StartsAt a b := by
  by_cases hline : '\n' ∈ a
  · obtain ⟨a', ha, -⟩ := Text.exists_lastLine_of_mem hline
    have hword : Text.startsWord (Text.lastOr none (Text.lastLine a)) =
        Text.startsWord (Text.lastOr none a) := by
      conv => rhs; rw [ha, ← Text.lastOr_append, Text.lastOr_cons]
      by_cases hnil : Text.lastLine a = []
      · rw [hnil]
        decide
      · rw [Text.lastOr_of_ne_nil hnil none (some '\n')]
    rw [startsAt_iff, startsAt_iff, hword]
  · rw [Text.lastLine_of_not_mem hline]

/-- A call starts with a text that ends in a bracket, and with it anything can follow. -/
theorem StartsAt.exists_extent {a b : Text} (h : StartsAt a b) :
    ∃ e r, b = e ++ r ∧ e.getLast? = some '(' ∧ (∀ t, StartsAt a (e ++ t)) ∧
      ∀ c ∈ e, head.takes c = true := by
  obtain ⟨hword, hrest⟩ := startsAt_iff.1 h
  obtain ⟨r, hr⟩ := Option.isSome_iff_exists.1 hrest
  rw [head_eq] at hr
  obtain ⟨e, he, ⟨e', rfl⟩, hmatch, htakes⟩ := Code.Head.exists_extent (by decide) hr
  rw [← head_eq] at hmatch htakes
  refine ⟨_, r, he, ?_, fun t => ?_, htakes⟩
  · rw [List.getLast?_append]
    rfl
  · rw [startsAt_iff, hmatch]
    exact ⟨hword, rfl⟩

/-- Whether a word can start behind a text. -/
abbrev WordStart (a : Text) : Prop := Text.startsWord (Text.lastOr none a) = true

theorem wordStart_append_of_ne_nil (a : Text) {b : Text} (hb : b ≠ []) :
    WordStart (a ++ b) ↔ WordStart b := by
  rw [WordStart, WordStart, Text.lastOr_append_of_ne_nil none a hb]

theorem wordStart_concat (a : Text) (c : Char) : WordStart (a ++ [c]) ↔ Text.isWord c = false := by
  rw [wordStart_append_of_ne_nil a (List.cons_ne_nil _ _)]
  show (!Text.isWord c) = true ↔ _
  cases Text.isWord c <;> decide

/-- A call at one place is a call at another, if a word can start there as well and the start of the
call stands there as well. -/
theorem StartsAt.transfer {a a' b b' : Text} (h : StartsAt a b) (ha : WordStart a → WordStart a')
    (hb : ∀ e, e <+: b → e.getLast? = some '(' → (∀ c ∈ e, head.takes c = true) → e <+: b') :
    StartsAt a' b' := by
  have hword := ha (startsAt_iff.1 h).1
  obtain ⟨e, r, rfl, hlast, hstarts, htakes⟩ := h.exists_extent
  obtain ⟨r', rfl⟩ := hb e (List.prefix_append e r) hlast htakes
  exact startsAt_iff.2 ⟨hword, (startsAt_iff.1 (hstarts r')).2⟩

theorem StartsAt.append {a b : Text} (h : StartsAt a b) (t : Text) : StartsAt a (b ++ t) :=
  h.transfer id fun _ he _ _ => he.trans (List.prefix_append b t)

/-- No call runs over a character that no call has in its start. -/
theorem StartsAt.of_seal {a b y z : Text} {c : Char} (h : StartsAt a (b ++ (y ++ c :: z)))
    (hy : '(' ∉ y) (hc : head.takes c = false) : StartsAt a b := by
  refine h.transfer id fun e he hlast htakes => ?_
  obtain ⟨r, he⟩ := he
  rcases List.append_eq_append_iff.1 he.symm with ⟨e', rfl, he'⟩ | ⟨b', rfl, -⟩
  · -- what of the call's start is behind `b` is in `y`, and the bracket at its end is not
    rcases append_cons_eq_append he' with ⟨y', rfl, -⟩ | ⟨z', rfl, -⟩
    · cases hnil : e'.getLast? with
      | none =>
        obtain rfl := List.getLast?_eq_none_iff.1 hnil
        exact ⟨[], by simp⟩
      | some d =>
        rw [List.getLast?_append, hnil] at hlast
        obtain rfl : d = '(' := Option.some.inj hlast
        exact absurd (List.mem_append_left _ (List.mem_of_getLast? hnil)) hy
    · have htake := htakes c (by simp)
      rw [hc] at htake
      cases htake
  · exact List.prefix_append e b'

/-- Every call starts with the first letter of its head. -/
theorem StartsAt.head_eq {a b : Text} {c : Char} (h : StartsAt a (c :: b)) : c = 'e' := by
  obtain ⟨r, hr⟩ := Option.isSome_iff_exists.1 (startsAt_iff.1 h).2
  obtain ⟨t, ht, -⟩ := Option.bind_eq_some_iff.1 hr
  exact (List.cons.inj (Text.after?_eq_some_iff.1 ht)).1

theorem not_startsAt_nil (a : Text) : ¬ StartsAt a [] := by
  intro h
  have hrest := (startsAt_iff.1 h).2
  rw [show head.rest? [] = none by decide] at hrest
  cases hrest

/-- Every call has the sign of an arrow in its start. -/
theorem StartsAt.mem_gt {a b : Text} (h : StartsAt a b) : '>' ∈ b := by
  obtain ⟨r, hr⟩ := Option.isSome_iff_exists.1 (startsAt_iff.1 h).2
  have hword : Code.Piece.word "->".toList ∈ head := by simp [head]
  exact Code.Head.mem_of_word hword hr (by decide)

/-! ## The number of calls -/

/-- The number of places in `u` at which calls start, behind `a` and in front of `v`. -/
def starts (a : Text) : Text → Text → Nat
  | [], _ => 0
  | c :: u, v => (if StartsAt a (c :: u ++ v) then 1 else 0) + starts (a ++ [c]) u v

/-- The number of calls in a text. -/
def callCount (s : Text) : Nat := starts [] s []

@[simp] theorem starts_nil (a v : Text) : starts a [] v = 0 := rfl

theorem starts_append (a u v w : Text) :
    starts a (u ++ v) w = starts a u (v ++ w) + starts (a ++ u) v w := by
  induction u generalizing a with
  | nil => simp
  | cons c u ih =>
    rw [List.cons_append, starts, starts, ih, List.cons_append, List.cons_append, List.append_assoc,
      List.append_assoc, List.singleton_append, Nat.add_assoc]

/-- No call is counted in a text just when none starts at any place of it. -/
theorem starts_eq_zero_iff {a u v : Text} :
    starts a u v = 0 ↔ ∀ u₁ u₂, u = u₁ ++ u₂ → u₂ ≠ [] → ¬ StartsAt (a ++ u₁) (u₂ ++ v) := by
  induction u generalizing a with
  | nil =>
    constructor
    · rintro - u₁ u₂ h hne
      exact absurd (List.append_eq_nil_iff.1 h.symm).2 hne
    · exact fun _ => rfl
  | cons c u ih =>
    rw [starts, Nat.add_eq_zero_iff, ih]
    constructor
    · rintro ⟨hhere, hthere⟩ u₁ u₂ h hne
      -- a place is the first one, or one of the rest
      cases u₁ with
      | nil =>
        rw [List.nil_append] at h
        rw [← h, List.append_nil]
        intro hstarts
        rw [if_pos hstarts] at hhere
        cases hhere
      | cons d u₁ =>
        obtain ⟨rfl, rfl⟩ := by simpa using h
        have hplace := hthere u₁ u₂ rfl hne
        rwa [List.append_assoc, List.singleton_append] at hplace
    · intro h
      constructor
      · have hplace := h [] (c :: u) rfl (List.cons_ne_nil _ _)
        rw [List.append_nil] at hplace
        exact if_neg hplace
      · intro u₁ u₂ hu hne
        rw [List.append_assoc, List.singleton_append]
        exact h (c :: u₁) u₂ (by rw [hu, List.cons_append]) hne

/-- Calls at the places of one text are calls at the places of another one that starts with it,
wherever a word can start there. -/
theorem starts_le {a a' u v v' : Text} (ha : WordStart a → WordStart a')
    (hv : ∀ x z, u = x ++ z → StartsAt (a ++ x) (z ++ v) → StartsAt (a ++ x) (z ++ v')) :
    starts a u v ≤ starts a' u v' := by
  induction u generalizing a a' with
  | nil => exact Nat.le_refl 0
  | cons c u ih =>
    have hhere : StartsAt a (c :: u ++ v) → StartsAt a' (c :: u ++ v') := by
      intro h
      have hplace := hv [] (c :: u) rfl (by rwa [List.append_nil])
      rw [List.append_nil] at hplace
      exact hplace.transfer ha fun _ he _ _ => he
    have hthere : starts (a ++ [c]) u v ≤ starts (a' ++ [c]) u v' := by
      refine ih (fun h => by rwa [wordStart_concat] at h ⊢) fun x z hu => ?_
      have hplace := hv (c :: x) z (by rw [hu, List.cons_append])
      rwa [List.append_assoc, List.singleton_append]
    rw [starts, starts]
    refine Nat.add_le_add ?_ hthere
    split
    next h => exact Nat.le_of_eq (if_pos (hhere h)).symm
    · exact Nat.zero_le _

theorem starts_le_of_wordStart {a a' : Text} (ha : WordStart a → WordStart a') (u v : Text) :
    starts a u v ≤ starts a' u v := starts_le ha fun _ _ _ h => h

theorem starts_nil_le (a u v : Text) : starts a u [] ≤ starts a u v := by
  refine starts_le id fun x z _ h => ?_
  rw [List.append_nil] at h
  exact h.append v

/-- What follows a character that no call has in its start adds no calls. -/
theorem starts_seal (a u : Text) {y z : Text} {c : Char} (hy : '(' ∉ y)
    (hc : head.takes c = false) : starts a u (y ++ c :: z) = starts a u [] := by
  refine Nat.le_antisymm (starts_le id fun x w _ h => ?_) (starts_nil_le a u _)
  rw [List.append_nil]
  exact h.of_seal hy hc

/-! ### What a search has passed -/

/-- Where a search finds nothing no call starts. -/
theorem starts_of_find_eq_none {a s : Text} (h : find (Text.lastOr none a) s = .ok none) :
    starts a s [] = 0 := by
  unfold find at h
  split at h
  next hsearch =>
    refine starts_eq_zero_iff.2 fun u₁ u₂ hu _ hstarts => ?_
    have hnone := Text.search_eq_none hsearch hu
    rw [Text.lastOr_append] at hnone
    rw [List.append_nil, StartsAt, hnone] at hstarts
    cases hstarts
  next before arguments hsearch =>
    dsimp only at h
    split at h
    · cases h
    · split at h
      · cases h
      · split at h
        · cases h
        · cases Except.ok.inj h

/-- The next call is the first one. -/
theorem starts_before {a s : Text} {site : IncludeSite}
    (h : find (Text.lastOr none a) s = .ok (some site)) :
    starts a site.before (site.text ++ site.rest) = 0 := by
  obtain ⟨hs, -⟩ := find_spec h
  obtain ⟨r, inner, after, hsearch, -⟩ := find_eq_some_iff.1 h
  -- a call in front of it would have stopped the search
  refine starts_eq_zero_iff.2 fun u₁ u₂ hu hne hstarts => ?_
  have hnone := Text.search_first hsearch hs hu hne
  rw [Text.lastOr_append] at hnone
  rw [StartsAt, hnone] at hstarts
  cases hstarts

/-- Behind a call a word can start. -/
theorem wordStart_text {prev : Option Char} {s : Text} {site : IncludeSite}
    (h : find prev s = .ok (some site)) (a : Text) : WordStart (a ++ site.text) := by
  obtain ⟨-, hlast, -⟩ := find_spec h
  rw [WordStart, Text.lastOr, List.getLast?_append, hlast]
  show Text.startsWord (some ';') = true
  decide

/-- Where a word can start behind something else than a call, it can start behind the call. -/
theorem wordStart_behind {prev : Option Char} {s : Text} {site : IncludeSite}
    (h : find prev s = .ok (some site)) (a : Text) {b w : Text} (hword : WordStart (b ++ w)) :
    WordStart (a ++ site.text ++ w) := by
  cases w with
  | nil =>
    rw [List.append_nil]
    exact wordStart_text h a
  | cons c w =>
    rw [wordStart_append_of_ne_nil _ (List.cons_ne_nil _ _)] at hword ⊢
    exact hword

/-- A call starts where the next call was found. -/
theorem startsAt_site {a s : Text} {site : IncludeSite}
    (h : find (Text.lastOr none a) s = .ok (some site)) :
    StartsAt (a ++ site.before) (site.text ++ site.rest) := by
  obtain ⟨-, -, -, hstarts⟩ := find_spec h
  rwa [Text.lastOr_append] at hstarts

/-- A call that a search finds where it starts is found behind a text in which no call starts, and
in front of any other. -/
theorem find_append {a u s : Text} {site : IncludeSite}
    (h : find (Text.lastOr none (a ++ u)) s = .ok (some site)) (hbefore : site.before = [])
    {t : Text} (hu : starts a u (s ++ t) = 0) :
    find (Text.lastOr none a) (u ++ (s ++ t)) =
      .ok (some { site with before := u, rest := site.rest ++ t }) := by
  obtain ⟨hs, -⟩ := find_spec h
  obtain ⟨arguments, inner, after, hsearch, hinner, hrest, hcall, -⟩ := find_eq_some_iff.1 h
  rw [hbefore] at hs hsearch
  obtain ⟨s', hs', hhead⟩ := Text.search_eq_some_lastOr hsearch
  obtain rfl : s = s' := hs'
  -- every reader stops in front of `t`
  have hhead' : head.wordRest? (Text.lastOr none (a ++ u)) (s ++ t) = some (arguments ++ t) := by
    obtain ⟨hword, hrest⟩ := Code.Head.wordRest?_eq_some_iff.1 hhead
    exact Code.Head.wordRest?_eq_some_iff.2
      ⟨hword, Code.Head.rest?_append_right (h := head.dropLast) (by decide) hrest t⟩
  refine find_eq_some_iff.2 ⟨arguments ++ t, inner, after ++ t, ?_, Code.enclosed?_append hinner t,
    Code.Head.rest?_append_right (h := tail.dropLast) (by decide) hrest t, hcall, ?_⟩
  · refine Text.search_append (fun u₁ u₂ hsplit hne => ?_) (by rwa [Text.lastOr_append])
    have hplace := starts_eq_zero_iff.1 hu u₁ u₂ hsplit hne
    rw [Text.lastOr_append]
    exact Option.not_isSome_iff_eq_none.1 hplace
  · show site.text = Text.upTo ((u ++ (s ++ t)).drop u.length) (site.rest ++ t)
    rw [List.drop_left]
    conv => rhs; rw [hs, List.nil_append, List.append_assoc, Text.upTo_append]

/-- A call that is found counts. -/
theorem one_le_starts_text {a s : Text} {site : IncludeSite}
    (h : find (Text.lastOr none a) s = .ok (some site)) :
    1 ≤ starts (a ++ site.before) site.text site.rest := by
  obtain ⟨-, hlast, -, -⟩ := find_spec h
  have hstarts := startsAt_site h
  cases htext : site.text with
  | nil =>
    rw [htext] at hlast
    cases hlast
  | cons c t =>
    rw [htext] at hstarts
    rw [starts, if_pos hstarts]
    exact Nat.le_add_right 1 _

/-! ## Texts without calls -/

/-- A text in which no call starts. -/
def CallFree (s : Text) : Prop := ∀ a b, s = a ++ b → ¬ StartsAt a b

/-- A text without calls is one in which none are counted, so that it can be decided. -/
theorem callFree_iff {s : Text} : CallFree s ↔ callCount s = 0 := by
  rw [callCount, starts_eq_zero_iff]
  constructor
  · intro h u₁ u₂ hs _
    rw [List.append_nil]
    exact h u₁ u₂ hs
  · intro h a b hs hstarts
    cases b with
    | nil => exact not_startsAt_nil a hstarts
    | cons c b =>
      have hplace := h a (c :: b) hs (List.cons_ne_nil _ _)
      rw [List.append_nil] at hplace
      exact hplace hstarts

instance (s : Text) : Decidable (CallFree s) := decidable_of_iff _ callFree_iff.symm

/-- Whether `n` calls start in a text, whatever stands around it. -/
def Counts (u : Text) (n : Nat) : Prop := ∀ a v, starts a u v = n

/-- A text in which no call starts, whatever stands around it. -/
abbrev Barred (u : Text) : Prop := Counts u 0

theorem barred_nil : Barred [] := fun _ _ => rfl

theorem Counts.append {u v : Text} {n k : Nat} (hu : Counts u n) (hv : Counts v k) :
    Counts (u ++ v) (n + k) := by
  intro a w
  rw [starts_append, hu, hv]

theorem Barred.append {u v : Text} (hu : Barred u) (hv : Barred v) : Barred (u ++ v) :=
  Counts.append hu hv

/-- Whether every first letter of a call's head has a word character in front of it. -/
def quiet (prev : Option Char) : Text → Bool
  | [] => true
  | c :: s => (c != 'e' || !Text.startsWord prev) && quiet (some c) s

/-- No call starts in a quiet text: where the first letter of a head stands no word can start. -/
theorem starts_of_quiet {a u : Text} {prev : Option Char} (h : quiet prev u = true)
    (hprev : WordStart a → Text.startsWord prev = true) (v : Text) : starts a u v = 0 := by
  induction u generalizing a prev with
  | nil => rfl
  | cons c u ih =>
    rw [quiet, Bool.and_eq_true, Bool.or_eq_true, bne_iff_ne, Bool.not_eq_true'] at h
    have hhere : ¬ StartsAt a (c :: u ++ v) := by
      intro hstarts
      rcases h.1 with hc | hc
      · exact hc hstarts.head_eq
      · rw [hprev (startsAt_iff.1 hstarts).1] at hc
        cases hc
    have hthere := ih h.2 (a := a ++ [c]) (fun hword => by
      rw [wordStart_concat] at hword
      show (!Text.isWord c) = true
      rw [hword]
      rfl)
    rw [starts, if_neg hhere, hthere]

theorem barred_of_quiet {u : Text} (h : quiet none u = true) : Barred u :=
  fun _ v => starts_of_quiet h (fun _ => rfl) v

theorem barred_of_not_mem {u : Text} (h : 'e' ∉ u) : Barred u := by
  refine barred_of_quiet ?_
  generalize none = prev
  induction u generalizing prev with
  | nil => rfl
  | cons c u ih =>
    rw [List.mem_cons, not_or] at h
    rw [quiet, ih h.2, bne_iff_ne.2 (Ne.symm h.1)]
    rfl

/-- A text without arrows that ends where no call runs on. -/
theorem barred_of_not_mem_gt {u : Text} {c : Char} (hu : '>' ∉ u) (hlast : u.getLast? = some c)
    (hc : head.takes c = false) : Barred u := by
  obtain ⟨w, rfl⟩ := List.getLast?_eq_some_iff.1 hlast
  intro a v
  refine starts_eq_zero_iff.2 fun u₁ u₂ h hne hstarts => ?_
  -- the call that starts in front of the last character does not run over it
  obtain ⟨x, rfl⟩ : ∃ x, u₂ = x ++ [c] := by
    rw [h, List.getLast?_append, List.getLast?_eq_some_getLast hne] at hlast
    exact List.getLast?_eq_some_iff.1 ((List.getLast?_eq_some_getLast hne).trans hlast)
  rw [List.append_assoc] at hstarts
  have hstarts : StartsAt (a ++ u₁) (x ++ ([] ++ c :: v)) := hstarts
  have hgt := (hstarts.of_seal List.not_mem_nil hc).mem_gt
  refine hu ?_
  rw [h]
  simp [hgt]

theorem barred_cons {c : Char} (hc : c ≠ 'e') {s : Text} (hs : Barred s) : Barred (c :: s) := by
  have hone : Barred [c] := barred_of_not_mem fun h => hc (List.mem_singleton.1 h).symm
  exact hone.append hs

end IncludeSite

end TemplateTrace
