import TemplateTrace.Code.Escape
import TemplateTrace.Proofs.Code.Balanced

/-!
# What unwrapping leaves

Unwrapping works on the text that it changes: it goes on in what it has written. What comes of it
can be said of the text as it was: the text is read once, from left to right, and everything is
copied but the echoes whose helper closes in front of a `;`. The text that such an echo leaves is
not read again, and a helper that does not close ends the reading.

- `Code.EscapeStart`: the start of an escaped echo behind a text.
- `Code.EscapePart`: a part of the text that is copied, or an echo, with what is made of it.
- `Code.Unwraps`: the parts of a text, read from left to right.
- `Code.unwrapFrom_of_unwraps`, `Code.exists_unwraps`: the parts are what unwrapping makes of them,
  and every text has some.
- `Code.unwrapEscapes_eq_iff`: what unwrapping makes of a text.
-/

namespace TemplateTrace

namespace Code

/-! ## Parts -/

/-- The start `h` of an escaped echo, up to its bracket, behind the text `a`. -/
def EscapeStart (a h : Text) : Prop :=
  Text.startsWord (Text.lastOr none a) = true ∧ ∃ u v, u ≠ [] ∧
    (∀ c ∈ u, Text.isBlank c = true) ∧ (∀ c ∈ v, Text.isBlank c = true) ∧
    h = "echo".toList ++ (u ++ ("e".toList ++ (v ++ "(".toList)))

/-- Whether a statement ends at the start of a text, behind blanks. -/
def EndsHere (s : Text) : Prop :=
  ∃ u r, (∀ c ∈ u, Text.isBlank c = true) ∧ s = u ++ ';' :: r

/-- A part of a text with escaped echoes. -/
inductive EscapePart where
  | copied (t : Text)
  /-- An escaped echo: its start up to the bracket, and what the brackets hold. -/
  | echo (start inner : Text)

namespace EscapePart

/-- The part as it stands in the text. -/
def source : EscapePart → Text
  | copied t => t
  | echo start inner => start ++ (inner ++ [')'])

/-- What is made of the part. -/
def result : EscapePart → Text
  | copied t => t
  | echo _ inner => "echo ".toList ++ Text.strip inner

end EscapePart

/-- The parts of `s`, the rest of a text behind `a`, in one reading from left to right. -/
inductive Unwraps : Text → Text → List EscapePart → Prop
  | nil {a : Text} : Unwraps a [] []
  /-- No escaped echo starts here: the character is copied. -/
  | plain {a s : Text} {c : Char} {parts : List EscapePart}
      (hplain : ∀ h r, c :: s = h ++ r → ¬ EscapeStart a h) (hnext : Unwraps (a ++ [c]) s parts) :
      Unwraps a (c :: s) (.copied [c] :: parts)
  /-- The bracket does not close: all that is left is copied. -/
  | unclosed {a h r : Text} (hstart : EscapeStart a h)
      (hopen : ∀ inner after, r = inner ++ ')' :: after → ¬ Balanced .group inner) :
      Unwraps a (h ++ r) [.copied (h ++ r)]
  /-- Something else than `;` follows: reading goes on behind the opening bracket. -/
  | kept {a h inner after : Text} {parts : List EscapePart} (hstart : EscapeStart a h)
      (hinner : Balanced .group inner) (hafter : ¬ EndsHere after)
      (hnext : Unwraps (a ++ h) (inner ++ ')' :: after) parts) :
      Unwraps a (h ++ (inner ++ ')' :: after)) (.copied h :: parts)
  /-- The helper is taken off: reading goes on behind the closing bracket. -/
  | echo {a h inner after : Text} {parts : List EscapePart} (hstart : EscapeStart a h)
      (hinner : Balanced .group inner) (hafter : EndsHere after)
      (hnext : Unwraps (a ++ (h ++ (inner ++ [')']))) after parts) :
      Unwraps a (h ++ (inner ++ ')' :: after)) (.echo h inner :: parts)

/-- The parts of a text are the whole of it. -/
theorem Unwraps.source {a s : Text} {parts : List EscapePart} (h : Unwraps a s parts) :
    parts.flatMap EscapePart.source = s := by
  induction h with
  | nil => rfl
  | plain _ _ ih => simp [EscapePart.source, ih]
  | unclosed _ _ => simp [EscapePart.source]
  | kept _ _ _ _ ih => simp [EscapePart.source, ih]
  | echo _ _ _ _ ih => simp [EscapePart.source, ih]

/-! ## Starts and ends -/

theorem exists_blanks (s : Text) :
    ∃ u, (∀ c ∈ u, Text.isBlank c = true) ∧ s = u ++ Text.stripStart s :=
  ⟨s.takeWhile Text.isBlank, List.all_eq_true.1 List.all_takeWhile,
    List.takeWhile_append_dropWhile.symm⟩

/-- A statement ends here if its semicolon is what comes next but for blanks. -/
theorem endsHere_iff {s : Text} : EndsHere s ↔ (Text.stripStart s).head? = some ';' := by
  constructor
  · rintro ⟨u, r, hu, rfl⟩
    rw [Text.stripStart_append_cons hu (by decide)]
    rfl
  · intro h
    obtain ⟨u, hu, hs⟩ := exists_blanks s
    obtain ⟨r, hr⟩ := List.head?_eq_some_iff.1 h
    exact ⟨u, r, hu, by rw [← hr]; exact hs⟩

/-- What the reader of starts takes off is a start. -/
theorem wordRest?_escapeHead_iff {a s r : Text} :
    escapeHead.wordRest? (Text.lastOr none a) s = some r ↔ ∃ h, EscapeStart a h ∧ s = h ++ r := by
  rw [Head.wordRest?_eq_some_iff]
  constructor
  · rintro ⟨hword, hrest⟩
    obtain ⟨s₁, h₁, hrest⟩ := Option.bind_eq_some_iff.1 hrest
    obtain ⟨s₂, h₂, hrest⟩ := Option.bind_eq_some_iff.1 hrest
    obtain ⟨s₃, h₃, hrest⟩ := Option.bind_eq_some_iff.1 hrest
    obtain ⟨s₄, h₄, hrest⟩ := Option.bind_eq_some_iff.1 hrest
    obtain ⟨s₅, h₅, hrest⟩ := Option.bind_eq_some_iff.1 hrest
    obtain rfl := Option.some.inj hrest
    cases s₁ with
    | nil => cases h₂
    | cons c s₁ =>
      simp only [Piece.rest?, Option.ite_none_right_eq_some, Option.some.injEq] at h₂
      obtain ⟨hc, rfl⟩ := h₂
      obtain ⟨u, hu, hs₁⟩ := exists_blanks s₁
      obtain ⟨v, hv, hs₃⟩ := exists_blanks s₃
      obtain rfl := Option.some.inj h₄
      refine ⟨_, ⟨hword, c :: u, v, List.cons_ne_nil c u, ?_, hv, rfl⟩, ?_⟩
      · exact List.forall_mem_cons.2 ⟨hc, hu⟩
      · rw [Text.after?_eq_some_iff.1 h₁, hs₁, Text.after?_eq_some_iff.1 h₃, hs₃,
          Text.after?_eq_some_iff.1 h₅]
        simp only [List.append_assoc, List.cons_append]
  · rintro ⟨h, ⟨hword, u, v, hne, hu, hv, rfl⟩, rfl⟩
    refine ⟨hword, ?_⟩
    obtain ⟨c, u, rfl⟩ := List.ne_nil_iff_exists_cons.1 hne
    obtain ⟨hc, hu⟩ := List.forall_mem_cons.1 hu
    have hblanks : Text.stripStart (u ++ ("e".toList ++ (v ++ "(".toList)) ++ r) =
        "e".toList ++ (v ++ ("(".toList ++ r)) := by
      rw [List.append_assoc, List.append_assoc, List.append_assoc]
      exact Text.stripStart_append_cons hu (by decide) _
    have hblanks' : Text.stripStart (v ++ ("(".toList ++ r)) = "(".toList ++ r :=
      Text.stripStart_append_cons hv (by decide) _
    -- each piece of the head takes its part off
    refine Option.bind_eq_some_iff.2 ⟨_, Text.after?_eq_some_iff.2 (List.append_assoc _ _ _), ?_⟩
    refine Option.bind_eq_some_iff.2 ⟨_, (if_pos hc).trans (congrArg some hblanks), ?_⟩
    refine Option.bind_eq_some_iff.2 ⟨_, Text.after?_eq_some_iff.2 rfl, ?_⟩
    refine Option.bind_eq_some_iff.2 ⟨_, congrArg some hblanks', ?_⟩
    exact Option.bind_eq_some_iff.2 ⟨r, Text.after?_eq_some_iff.2 rfl, rfl⟩

/-- An escaped echo starts with the first letter of its word. -/
theorem EscapeStart.exists_cons {a h : Text} (hstart : EscapeStart a h) :
    ∃ h', h = 'e' :: h' := by
  obtain ⟨-, u, v, -, -, -, rfl⟩ := hstart
  exact ⟨_, rfl⟩

theorem EscapeStart.getLast? {a h : Text} (hstart : EscapeStart a h) : h.getLast? = some '(' := by
  obtain ⟨-, u, v, -, -, -, rfl⟩ := hstart
  simp only [List.getLast?_append]
  rfl

/-- No escaped echo starts where a statement ends. -/
theorem EndsHere.wordRest? {s : Text} (h : EndsHere s) (prev : Option Char) :
    escapeHead.wordRest? prev s = none := by
  obtain ⟨u, r, hu, rfl⟩ := h
  rw [Option.eq_none_iff_forall_ne_some]
  intro t ht
  obtain ⟨-, hrest⟩ := Head.wordRest?_eq_some_iff.1 ht
  obtain ⟨s₁, h₁, -⟩ := Option.bind_eq_some_iff.1 hrest
  have hs := Text.after?_eq_some_iff.1 h₁
  cases u with
  | nil => cases hs
  | cons c u =>
    obtain ⟨rfl, -⟩ := List.cons.inj hs
    have hblank := hu 'e' List.mem_cons_self
    rw [show Text.isBlank 'e' = false by decide] at hblank
    cases hblank

/-! ## One start more -/

section

variable {prev : Option Char} {s before rest inner after : Text}

theorem unwrapFrom_of_search_none (h : Text.search escapeHead.wordRest? prev s = none) :
    unwrapFrom prev s = s := by
  rw [unwrapFrom]
  split
  · rfl
  next h' => cases h.symm.trans h'

/-- An escape that is not closed stays, with all that is behind it. -/
theorem unwrapFrom_of_unclosed (h : Text.search escapeHead.wordRest? prev s = some (before, rest))
    (hopen : enclosed? ('(' :: rest) = none) : unwrapFrom prev s = s := by
  rw [unwrapFrom]
  split
  · rfl
  next h' =>
    obtain ⟨rfl, rfl⟩ := Prod.mk.inj (Option.some.inj (h.symm.trans h'))
    split
    · rfl
    next hclosed => cases hopen.symm.trans hclosed

/-- An escape that is closed is taken away when a statement ends behind it, and stays otherwise. -/
theorem unwrapFrom_of_closed (h : Text.search escapeHead.wordRest? prev s = some (before, rest))
    (hclosed : enclosed? ('(' :: rest) = some (inner, after)) :
    unwrapFrom prev s =
      if (Text.stripStart after).head? = some ';' then
        before ++ ("echo ".toList ++ Text.strip inner) ++
          unwrapFrom (Text.lastOr none ("echo ".toList ++ Text.strip inner)) after
      else Text.upTo s rest ++ unwrapFrom (some '(') rest := by
  have hne : "echo ".toList ++ Text.strip inner ≠ [] := by simp
  conv => lhs; rw [unwrapFrom]
  split
  next h' => cases h.symm.trans h'
  next h' =>
    obtain ⟨rfl, rfl⟩ := Prod.mk.inj (Option.some.inj (h.symm.trans h'))
    split
    next hopen => cases hclosed.symm.trans hopen
    next hclosed' =>
      obtain ⟨rfl, rfl⟩ := Prod.mk.inj (Option.some.inj (hclosed.symm.trans hclosed'))
      dsimp only
      rw [Text.lastOr_of_ne_nil hne prev none]

end

/-- A character at which no escaped echo starts is copied. -/
theorem unwrapFrom_cons {prev : Option Char} {c : Char} {s : Text}
    (h : escapeHead.wordRest? prev (c :: s) = none) :
    unwrapFrom prev (c :: s) = c :: unwrapFrom (some c) s := by
  have hsearch : Text.search escapeHead.wordRest? prev (c :: s) =
      (Text.search escapeHead.wordRest? (some c) s).map fun p => (c :: p.1, p.2) := by
    rw [Text.search, h]
  cases hs : Text.search escapeHead.wordRest? (some c) s with
  | none =>
    rw [hs] at hsearch
    rw [unwrapFrom_of_search_none hs, unwrapFrom_of_search_none hsearch]
  | some found =>
    obtain ⟨before, rest⟩ := found
    have hsearch : Text.search escapeHead.wordRest? prev (c :: s) = some (c :: before, rest) := by
      rw [hsearch, hs]
      rfl
    cases hclosed : enclosed? ('(' :: rest) with
    | none => rw [unwrapFrom_of_unclosed hs hclosed, unwrapFrom_of_unclosed hsearch hclosed]
    | some q =>
      obtain ⟨inner, after⟩ := q
      obtain ⟨u, rfl⟩ := Head.exists_word_of_search hs
      have hcut : before ++ (u ++ rest) = before ++ u ++ rest := (List.append_assoc _ _ _).symm
      rw [unwrapFrom_of_closed hs hclosed, unwrapFrom_of_closed hsearch hclosed, hcut,
        ← List.cons_append, Text.upTo_append, Text.upTo_append]
      split
      · rfl
      · rfl

/-- What is in front of the end of a statement does not matter to what comes behind it. -/
theorem EndsHere.unwrapFrom_eq {s : Text} (h : EndsHere s) (prev prev' : Option Char) :
    unwrapFrom prev s = unwrapFrom prev' s := by
  cases s with
  | nil =>
    obtain ⟨u, r, -, hs⟩ := h
    simp at hs
  | cons c s => rw [unwrapFrom_cons (h.wordRest? prev), unwrapFrom_cons (h.wordRest? prev')]

/-! ## One reading -/

theorem search_of_start {a h : Text} (hstart : EscapeStart a h) (r : Text) :
    Text.search escapeHead.wordRest? (Text.lastOr none a) (h ++ r) = some ([], r) := by
  have hrest : escapeHead.wordRest? (Text.lastOr none a) (h ++ r) = some r :=
    wordRest?_escapeHead_iff.2 ⟨h, hstart, rfl⟩
  obtain ⟨h', rfl⟩ := hstart.exists_cons
  rw [List.cons_append] at hrest ⊢
  rw [Text.search, hrest]

/-- Unwrapping makes of a text what is made of its parts. -/
theorem unwrapFrom_of_unwraps {a s : Text} {parts : List EscapePart} (h : Unwraps a s parts) :
    unwrapFrom (Text.lastOr none a) s = parts.flatMap EscapePart.result := by
  induction h with
  | nil =>
    refine unwrapFrom_of_search_none ?_
    rw [Text.search, Head.wordRest?]
    split <;> rfl
  | @plain a s c parts hplain _ ih =>
    have hnone : escapeHead.wordRest? (Text.lastOr none a) (c :: s) = none := by
      rw [Option.eq_none_iff_forall_ne_some]
      intro r hr
      obtain ⟨h, hstart, heq⟩ := wordRest?_escapeHead_iff.1 hr
      exact hplain h r heq hstart
    rw [Text.lastOr_append_of_ne_nil none a (List.cons_ne_nil c [])] at ih
    rw [unwrapFrom_cons hnone, List.flatMap_cons, ← ih]
    rfl
  | @unclosed a h r hstart hopen =>
    have hnone : enclosed? ('(' :: r) = none := by
      rw [Option.eq_none_iff_forall_ne_some]
      rintro ⟨inner, after⟩ hclosed
      obtain ⟨d, hd, hr, hinner⟩ := enclosed?_iff.1 hclosed
      obtain rfl := Option.some.inj hd
      exact hopen inner after hr hinner
    rw [unwrapFrom_of_unclosed (search_of_start hstart r) hnone]
    simp [EscapePart.result]
  | @kept a h inner after parts hstart hinner hafter _ ih =>
    -- the walk goes on inside, with the open bracket as the character in front
    have hclosed : enclosed? ('(' :: (inner ++ ')' :: after)) = some (inner, after) :=
      enclosed?_iff.2 ⟨')', rfl, rfl, hinner⟩
    have hlast : Text.lastOr none (a ++ h) = some '(' := by
      rw [Text.lastOr, List.getLast?_append, hstart.getLast?]
      rfl
    rw [hlast] at ih
    rw [unwrapFrom_of_closed (search_of_start hstart _) hclosed, if_neg (mt endsHere_iff.2 hafter),
      Text.upTo_append, ih]
    rfl
  | @echo a h inner after parts hstart hinner hafter _ ih =>
    have hclosed : enclosed? ('(' :: (inner ++ ')' :: after)) = some (inner, after) :=
      enclosed?_iff.2 ⟨')', rfl, rfl, hinner⟩
    rw [unwrapFrom_of_closed (search_of_start hstart _) hclosed, if_pos (endsHere_iff.1 hafter),
      hafter.unwrapFrom_eq _ (Text.lastOr none (a ++ (h ++ (inner ++ [')'])))), ih]
    rfl

/-- Every text can be read, by induction on its length. -/
theorem exists_unwraps (a s : Text) : ∃ parts, Unwraps a s parts := by
  induction hn : s.length using Nat.strongRecOn generalizing a s with
  | ind n ih =>
    subst hn
    cases hrest : escapeHead.wordRest? (Text.lastOr none a) s with
    | none =>
      cases s with
      | nil => exact ⟨[], .nil⟩
      | cons c s =>
        obtain ⟨parts, hparts⟩ := ih s.length (Nat.lt_succ_self _) (a ++ [c]) s rfl
        refine ⟨_, .plain (fun h r hs hstart => ?_) hparts⟩
        cases hrest.symm.trans (wordRest?_escapeHead_iff.2 ⟨h, hstart, hs⟩)
    | some r =>
      obtain ⟨h, hstart, rfl⟩ := wordRest?_escapeHead_iff.1 hrest
      have hlength : 0 < h.length := by
        obtain ⟨h', rfl⟩ := hstart.exists_cons
        exact Nat.succ_pos _
      by_cases hclosed : ∃ inner after, r = inner ++ ')' :: after ∧ Balanced .group inner
      · obtain ⟨inner, after, rfl, hinner⟩ := hclosed
        by_cases hafter : EndsHere after
        · obtain ⟨parts, hparts⟩ := ih after.length (by simp; omega)
            (a ++ (h ++ (inner ++ [')']))) after rfl
          exact ⟨_, .echo hstart hinner hafter hparts⟩
        · obtain ⟨parts, hparts⟩ := ih (inner ++ ')' :: after).length (by simp; omega) (a ++ h)
            (inner ++ ')' :: after) rfl
          exact ⟨_, .kept hstart hinner hafter hparts⟩
      · refine ⟨_, .unclosed hstart fun inner after hr hinner => ?_⟩
        exact hclosed ⟨inner, after, hr, hinner⟩

/-- **Unwrapping takes the helpers off and copies everything else.** The result is what is made of
the parts of the text, which are read once from left to right and are the whole of it. -/
theorem unwrapEscapes_eq_iff (s out : Text) :
    unwrapEscapes s = out ↔ ∃ parts, Unwraps [] s parts ∧
      s = parts.flatMap EscapePart.source ∧ out = parts.flatMap EscapePart.result := by
  constructor
  · rintro rfl
    obtain ⟨parts, hparts⟩ := exists_unwraps [] s
    exact ⟨parts, hparts, hparts.source.symm, unwrapFrom_of_unwraps hparts⟩
  · rintro ⟨parts, hparts, -, rfl⟩
    exact unwrapFrom_of_unwraps hparts

end Code

end TemplateTrace
