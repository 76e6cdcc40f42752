import TemplateTrace.Proofs.Include.Spliced
import TemplateTrace.Proofs.Marker.Tags

/-!
# Calls in a tagged template

A call is looked for in the tagged template, brackets and all, and its arguments are read after the
tags are taken out of them. A tag in an argument list is a balanced text in which no call starts, so
that the call is found where it was, ends where it ended, and describes what it described.

- `Code.quoteBehind`: the string that is open at a place of a text.
- `Code.Balanced.image`: tags outside of strings keep a text balanced.
- `IncludeSite.starts_image`: tags start no call.
- `IncludeSite.FirstCall`: the first call of a template, and `IncludeSite.FirstCall.Folded` where
  its line feeds stand.
- `IncludeSite.FirstCall.find_tagLines`: it is read alike with and without tags.
- `IncludeSite.FirstCall.exists_tag_completed`: a tag can complete a comment that starts in the
  template.
-/

namespace TemplateTrace

/-! ## Tags in balanced texts -/

namespace Code

/-- The quote of the string that is open behind a text, given the one that is open in front. -/
def quoteBehind : Option Char → Text → Option Char
  | q, [] => q
  | none, c :: s => quoteBehind (if c = '\'' ∨ c = '"' then some c else none) s
  | some q, '\\' :: _ :: s => quoteBehind (some q) s
  | some q, c :: s => quoteBehind (if c = q then none else some q) s

/-- Whether every line feed of a text stands outside of strings. -/
def Folded (s : Text) : Prop := ∀ a b, s = a ++ '\n' :: b → quoteBehind none a = none

instance (s : Text) : Decidable (Folded s) :=
  decidable_of_iff
    (∀ i < s.length, (s.drop i).head? = some '\n' → quoteBehind none (s.take i) = none) (by
      constructor
      · rintro h a b rfl
        have hplace := h a.length (by simp) (by rw [List.drop_left]; rfl)
        rwa [List.take_left] at hplace
      · intro h i _ hline
        obtain ⟨b, hb⟩ := List.head?_eq_some_iff.1 hline
        exact h (s.take i) b (by rw [← hb, List.take_append_drop]))

/-- Inside a string a quote is open. -/
theorem QuotedBody.quoteBehind_ne_none {q : Char} (hback : q ≠ '\\') {body : Text}
    (h : QuotedBody q body) {a b : Text} (hbody : body = a ++ b) :
    quoteBehind (some q) a ≠ none := by
  induction h generalizing a with
  | nil =>
    obtain ⟨rfl, -⟩ := List.append_eq_nil_iff.1 hbody.symm
    exact Option.some_ne_none q
  | @escape c body _ ih =>
    -- a front that ends between the backslash and its character is within the string too
    cases a with
    | nil => exact Option.some_ne_none q
    | cons d a =>
      rw [List.cons_append, List.cons.injEq] at hbody
      obtain ⟨rfl, hbody⟩ := hbody
      cases a with
      | nil =>
        rw [quoteBehind, if_neg (Ne.symm hback)]
        · exact Option.some_ne_none q
        · exact fun _ _ _ h => by cases h
      | cons e a =>
        rw [List.cons_append, List.cons.injEq] at hbody
        show quoteBehind (some q) a ≠ none
        exact ih hbody.2
  | @plain c body hq hplain _ ih =>
    cases a with
    | nil => exact Option.some_ne_none q
    | cons d a =>
      rw [List.cons_append, List.cons.injEq] at hbody
      obtain ⟨rfl, hbody⟩ := hbody
      rw [quoteBehind, if_neg hq]
      · exact ih hbody
      · exact fun _ _ heq _ => absurd heq hplain

/-- Behind a string with its closing quote no string is open. -/
theorem QuotedBody.quoteBehind_append {q : Char} (hback : q ≠ '\\') {body : Text}
    (h : QuotedBody q body) (s : Text) :
    quoteBehind (some q) (body ++ q :: s) = quoteBehind none s := by
  induction h with
  | nil =>
    rw [List.nil_append, quoteBehind, if_pos rfl]
    exact fun _ _ heq _ => absurd heq hback
  | escape c _ ih => exact ih
  | @plain c body hq hplain _ ih =>
    rw [List.cons_append, quoteBehind, if_neg hq]
    · exact ih
    · exact fun _ _ heq _ => absurd heq hplain

theorem ne_backslash_of_quote {q : Char} (h : q = '\'' ∨ q = '"') : q ≠ '\\' := by
  rintro rfl
  exact absurd h (by decide)

theorem quoteBehind_cons {c : Char} (h : c ≠ '\'' ∧ c ≠ '"') (s : Text) :
    quoteBehind none (c :: s) = quoteBehind none s := by
  rw [quoteBehind, if_neg (not_or.2 h)]

/-- Behind a balanced text no string is open. -/
theorem Balanced.quoteBehind_append {e : Extent} {s : Text} (h : Balanced e s) (r : Text) :
    quoteBehind none (s ++ r) = quoteBehind none r := by
  induction h generalizing r with
  | nil => rfl
  | plain hc _ ih =>
    obtain ⟨hquotes, -⟩ := plain_of_stops hc
    rw [List.cons_append, quoteBehind_cons hquotes, ih]
  | @string e q body s hq hbody _ ih =>
    rw [List.cons_append, List.append_assoc, List.cons_append, quoteBehind, if_pos hq,
      hbody.quoteBehind_append (ne_backslash_of_quote hq), ih]
  | @group e o d inner s hd _ _ ihinner ih =>
    obtain ⟨hopen, hclose, -⟩ := closer?_spec hd
    rw [List.cons_append, List.append_assoc, List.cons_append, quoteBehind_cons hopen, ihinner,
      quoteBehind_cons hclose, ih]

theorem Folded.left {a b : Text} (h : Folded (a ++ b)) : Folded a := by
  rintro u v rfl
  exact h u (v ++ b) (by rw [List.append_assoc, List.cons_append])

theorem Folded.right {a b : Text} (h : Folded (a ++ b))
    (ha : ∀ s, quoteBehind none (a ++ s) = quoteBehind none s) : Folded b := by
  rintro u v rfl
  rw [← ha]
  exact h (a ++ u) v (List.append_assoc _ _ _).symm

/-- Tags outside of strings keep a text balanced. -/
theorem Balanced.image (t : Tagging) {s : Text} (h : Balanced .group s) (hs : Folded s) (i : Nat) :
    Balanced .group (t.image i s) := by
  generalize he : Extent.group = e at h
  induction h generalizing i with
  | nil => exact .nil
  | @plain e c s hc h ih =>
    subst he
    obtain ⟨hquotes, -⟩ := plain_of_stops hc
    have hrest : Folded s := Folded.right (a := [c]) hs (quoteBehind_cons hquotes)
    by_cases hline : c = '\n'
    · subst hline
      rw [t.image_newline]
      exact .plain hc ((t.marker (i + 1)).balanced_encode.append (ih hrest (i + 1) rfl))
    · rw [t.image_cons hline]
      exact .plain hc (ih hrest i rfl)
  | @string e q body s hq hbody h ih =>
    subst he
    have hquote : Balanced .group (q :: (body ++ [q])) := .string hq hbody .nil
    have hcut : q :: (body ++ q :: s) = q :: (body ++ [q]) ++ s := by simp
    rw [hcut] at hs ⊢
    -- a line feed in the body would be one behind an open quote
    have hline : '\n' ∉ q :: (body ++ [q]) := by
      have hquoted : '\n' ≠ q := by
        rintro rfl
        exact absurd hq (by decide)
      intro hmem
      rcases List.mem_cons.1 hmem with heq | hmem
      · exact hquoted heq
      rcases List.mem_append.1 hmem with hmem | hmem
      · obtain ⟨a, b, rfl⟩ := List.append_of_mem hmem
        have hnone := hs (q :: a) (b ++ [q] ++ s) (by simp)
        rw [quoteBehind, if_pos hq] at hnone
        exact hbody.quoteBehind_ne_none (ne_backslash_of_quote hq) rfl hnone
      · exact hquoted (List.mem_singleton.1 hmem)
    rw [t.image_append, t.image_of_not_mem hline]
    exact hquote.append (ih (hs.right hquote.quoteBehind_append) _ rfl)
  | @group e o d inner s hd hinner h ihinner ih =>
    subst he
    obtain ⟨hopen, hclose, -⟩ := closer?_spec hd
    have hbrackets : o ≠ '\n' ∧ d ≠ '\n' := by
      unfold closer? at hd
      split at hd
      all_goals cases hd
      all_goals decide
    have hbehind : Folded (inner ++ d :: s) :=
      Folded.right (a := [o]) hs (quoteBehind_cons hopen)
    have hrest : Folded s :=
      Folded.right (a := [d]) (hbehind.right hinner.quoteBehind_append) (quoteBehind_cons hclose)
    rw [t.image_cons hbrackets.1, t.image_append, t.image_cons hbrackets.2]
    exact .group hd (ihinner hbehind.left i rfl) (ih hrest _ rfl)

end Code

open IncludeSite

/-- Whether the strings of the tags hold no call. -/
structure Tagging.Plain (t : Tagging) : Prop where
  template : CallFree t.template
  path : CallFree t.path
  stack : ∀ f ∈ t.stack, f.Plain

/-- The image of a call in the tagged template. -/
def Tagging.site (t : Tagging) (site : IncludeSite) : IncludeSite :=
  let i := lineBehind 0 site.before
  { before := (t.marker 0).encode ++ t.image 0 site.before
    text := t.image i site.text
    call := site.call
    rest := t.image (lineBehind i site.text) site.rest }

namespace IncludeSite

open Tagging

variable {t : Tagging}

/-! ## Tags and the starts of calls -/

theorem barred_tag (ht : t.Plain) (i : Nat) : Barred (t.marker i).encode :=
  Marker.barred_encode ⟨ht.template, ht.path, ht.stack⟩

/-- Behind a tag a word can start. -/
theorem wordStart_tag (a : Text) (m : Marker) : WordStart (a ++ m.encode) := by
  have hcut : a ++ m.encode = (a ++ m.encode).dropLast ++ ['/'] := by
    unfold Marker.encode
    rw [show " */".toList = " *".toList ++ ['/'] by decide]
    simp only [← List.append_assoc, List.dropLast_concat]
  rw [hcut, wordStart_concat]
  decide

/-- A call that starts in an image starts in the piece, because no call runs over a tag. -/
theorem StartsAt.of_image {a s : Text} {i : Nat} (h : StartsAt a (t.image i s)) : StartsAt a s := by
  by_cases hline : '\n' ∈ s
  · obtain ⟨x, y, rfl, hx⟩ := List.eq_append_cons_of_mem hline
    rw [t.image_append, t.image_of_not_mem hx, image_newline, Marker.encode_eq_cons,
      List.cons_append] at h
    have hcall := h.of_seal (y := ['\n']) (c := '/') (by decide) (by decide)
    exact hcall.append _
  · rwa [t.image_of_not_mem hline] at h

/-- Where a word can start behind a text, it can start behind the tagged text. -/
theorem wordStart_image {s : Text} {i : Nat} (h : WordStart s) :
    WordStart ((t.marker i).encode ++ t.image i s) := by
  rcases List.eq_nil_or_concat s with rfl | ⟨s, c, rfl⟩
  · rw [image_nil, List.append_nil]
    exact wordStart_tag [] (t.marker i)
  rw [List.concat_eq_append] at h ⊢
  rw [t.image_append]
  by_cases hc : c = '\n'
  · subst hc
    rw [image_newline, image_nil, List.append_nil, ← List.singleton_append, ← List.append_assoc,
      ← List.append_assoc]
    exact wordStart_tag _ _
  · rw [t.image_cons hc, image_nil, ← List.append_assoc, wordStart_concat]
    exact (wordStart_concat s c).1 h

/-- Where no call starts, none starts in the image. -/
theorem starts_image (ht : t.Plain) {a a' u v : Text} {i : Nat} (ha : WordStart a' → WordStart a)
    (h : starts a u v = 0) : starts a' (t.image i u) (t.image (lineBehind i u) v) = 0 := by
  induction u generalizing a a' i with
  | nil => rfl
  | cons c u ih =>
    rw [starts, Nat.add_eq_zero_iff] at h
    obtain ⟨hhere, hthere⟩ := h
    have hnot : ¬ StartsAt a (c :: u ++ v) := fun hstarts => by
      rw [if_pos hstarts] at hhere
      cases hhere
    by_cases hc : c = '\n'
    · subst hc
      have hrest : starts (a' ++ ['\n'] ++ (t.marker (i + 1)).encode) (t.image (i + 1) u)
          (t.image (lineBehind (i + 1) u) v) = 0 :=
        ih (fun _ => (wordStart_concat a '\n').2 (by decide)) hthere
      have hline : ∀ w, starts a' ['\n'] w = 0 := fun w => barred_of_not_mem (by decide) a' w
      rw [image_newline, lineBehind_newline, ← List.singleton_append, starts_append, starts_append,
        hline, barred_tag ht, hrest]
    · have hrest : starts (a' ++ [c]) (t.image i u) (t.image (lineBehind i u) v) = 0 :=
        ih (fun hword => by rwa [wordStart_concat] at hword ⊢) hthere
      have hfree : ¬ StartsAt a' (c :: t.image i u ++ t.image (lineBehind i u) v) := by
        intro hstarts
        rw [← t.image_cons hc, ← lineBehind_cons hc, ← t.image_append] at hstarts
        exact hnot (hstarts.of_image.transfer ha fun _ he _ _ => he)
      rw [t.image_cons hc, lineBehind_cons hc, starts, if_neg hfree, hrest]

/-! ## The first call -/

/-- The first call of a text, if its brackets close and it is rendered. -/
structure FirstCall (source : Text) where
  before : Text
  /-- The start of the call, up to its opening bracket. -/
  opening : Text
  inner : Text
  /-- The end of the call, behind its closing bracket and up to its `;`. -/
  ending : Text
  rest : Text
  source_eq : source = before ++ (opening ++ (inner ++ ')' :: (ending ++ rest)))
  search : Text.search head.wordRest? none source =
    some (before, inner ++ ')' :: (ending ++ rest))
  closes : Code.enclosed? ('(' :: (inner ++ ')' :: (ending ++ rest))) = some (inner, ending ++ rest)
  renders : tail.rest? (ending ++ rest) = some rest

namespace FirstCall

variable {source : Text} (c : FirstCall source)

/-- The line feeds of a call stand among its arguments and outside of strings. -/
structure Folded : Prop where
  opening : '\n' ∉ c.opening
  inner : Code.Folded c.inner
  ending : '\n' ∉ c.ending

/-- The call as written, up to its closing bracket. -/
def made : Text := c.opening ++ (c.inner ++ [')'])

/-- The call is what its arguments without comments describe. -/
theorem find_eq : find none source =
    match IncludeCall.ofArguments (stripMarkers c.inner) with
    | .error fault => .error (.malformed fault c.made)
    | .ok call => .ok (some ⟨c.before, c.made ++ c.ending, call, c.rest⟩) := by
  have hdrop : source.drop c.before.length =
      c.opening ++ (c.inner ++ ')' :: (c.ending ++ c.rest)) :=
    (congrArg (List.drop c.before.length) c.source_eq).trans List.drop_left
  have hmade : Text.upTo (source.drop c.before.length) (c.ending ++ c.rest) = c.made := by
    rw [hdrop, ← Text.upTo_append c.made (c.ending ++ c.rest), made]
    simp
  have htext : Text.upTo (source.drop c.before.length) c.rest = c.made ++ c.ending := by
    rw [hdrop, ← Text.upTo_append (c.made ++ c.ending) c.rest, made]
    simp
  unfold find
  rw [c.search]
  dsimp only
  rw [c.closes]
  dsimp only
  rw [c.renders]
  cases IncludeCall.ofArguments (stripMarkers c.inner) with
  | error fault =>
    dsimp only
    rw [hmade]
  | ok call =>
    dsimp only
    rw [htext]

/-- The start of the call, and with it anything can follow. -/
theorem rest?_opening : WordStart c.before ∧ ∀ r, head.rest? (c.opening ++ r) = some r := by
  obtain ⟨s, hs, hmatch⟩ := Text.search_eq_some_lastOr c.search
  have hs := List.append_cancel_left (hs.symm.trans c.source_eq)
  obtain ⟨hword, hmatch⟩ := Code.Head.wordRest?_eq_some_iff.1 hmatch
  rw [hs, head_eq] at hmatch
  obtain ⟨e, he, -, hrest, -⟩ := Code.Head.exists_extent (by decide) hmatch
  rw [List.append_cancel_right he]
  exact ⟨hword, hrest⟩

theorem rest?_ending (r : Text) : tail.rest? (c.ending ++ r) = some r := by
  have hmatch := c.renders
  rw [tail_eq] at hmatch
  obtain ⟨e, he, -, hrest, -⟩ := Code.Head.exists_extent (by decide) hmatch
  rw [List.append_cancel_right he]
  exact hrest r

/-- No call starts in front of the first one. -/
theorem starts_before : starts [] c.before (c.opening ++ (c.inner ++ ')' :: (c.ending ++ c.rest))) =
    0 := by
  refine starts_eq_zero_iff.2 fun u₁ u₂ hu hne hstarts => ?_
  have hnone := Text.search_first c.search c.source_eq hu hne
  rw [StartsAt, List.nil_append, hnone] at hstarts
  cases hstarts

/-- The image of a folded call and of what follows it. -/
theorem image_eq (hc : c.Folded) (i : Nat) :
    t.image i (c.opening ++ (c.inner ++ ')' :: (c.ending ++ c.rest))) =
      c.opening ++ (t.image i c.inner ++
        ')' :: (c.ending ++ t.image (lineBehind i c.inner) c.rest)) := by
  rw [t.image_append, t.image_of_not_mem hc.opening, lineBehind_of_not_mem hc.opening,
    t.image_append, t.image_cons (by decide), t.image_append, t.image_of_not_mem hc.ending,
    lineBehind_of_not_mem hc.ending]

/-- The image of the first call is the first call of the tagged template. -/
def tagged (hc : c.Folded) (ht : t.Plain) :
    FirstCall (tagLines source t.template t.path t.stack) where
  before := (t.marker 0).encode ++ t.image 0 c.before
  opening := c.opening
  inner := t.image (lineBehind 0 c.before) c.inner
  ending := c.ending
  rest := t.image (lineBehind (lineBehind 0 c.before) c.inner) c.rest
  source_eq := by
    have himage := congrArg (t.image 0) c.source_eq
    rw [t.image_append, c.image_eq hc] at himage
    rw [t.tagLines_eq, himage, List.append_assoc]
  search := by
    have himage := congrArg (t.image 0) c.source_eq
    rw [t.image_append] at himage
    have hword : WordStart ((t.marker 0).encode ++ t.image 0 c.before) :=
      wordStart_image c.rest?_opening.1
    -- no call starts in the first tag, and none in the image of what is in front of the call
    have hstarts : starts [] ((t.marker 0).encode ++ t.image 0 c.before)
        (t.image (lineBehind 0 c.before) (c.opening ++ (c.inner ++ ')' :: (c.ending ++ c.rest)))) =
          0 := by
      rw [starts_append, barred_tag ht, Nat.zero_add]
      exact starts_image ht (fun _ => rfl) c.starts_before
    rw [t.tagLines_eq, himage, ← List.append_assoc]
    refine Text.search_append (fun u₁ u₂ hu hne => ?_) ?_
    · exact Option.not_isSome_iff_eq_none.1 (starts_eq_zero_iff.1 hstarts u₁ u₂ hu hne)
    · rw [c.image_eq hc]
      exact Code.Head.wordRest?_eq_some_iff.2 ⟨hword, c.rest?_opening.2 _⟩
  closes := by
    obtain ⟨d, hd, hcut, hinner⟩ := Code.enclosed?_iff.1 c.closes
    exact Code.enclosed?_iff.2 ⟨')', rfl, rfl, hinner.image t hc.inner _⟩
  renders := c.rest?_ending _

/-- **A call is read alike with and without tags**: either it is found in both texts, and it renders
and passes the same, or its arguments are malformed in both, for the same reason. No comment may
start in the arguments and be completed by a tag. -/
theorem find_tagLines (hc : c.Folded) (ht : t.Plain) (hsource : Unmarked source)
    (hinner : ∀ a b, c.inner = a ++ b →
      Marker.shape? (t.image (lineBehind 0 (c.before ++ c.opening ++ a)) b) = none) :
    (∃ site, find none source = .ok (some site) ∧
      find none (tagLines source t.template t.path t.stack) = .ok (some (t.site site))) ∨
    ∃ fault made, find none source = .error (.malformed fault made) ∧
      find none (tagLines source t.template t.path t.stack) =
        .error (.malformed fault (t.image (lineBehind 0 c.before) made)) := by
  -- the arguments hold no markers, and stripping the tagged ones gives them back
  have hplain : stripMarkers c.inner = c.inner := by
    have hcut : source = c.before ++ c.opening ++ (c.inner ++ ')' :: (c.ending ++ c.rest)) :=
      c.source_eq.trans (List.append_assoc _ _ _).symm
    exact Unmarked.inner (hcut ▸ hsource)
  have hstripped : stripMarkers (c.tagged hc ht).inner = c.inner := by
    refine t.stripMarkers_image fun a b hab => ?_
    have hpiece := hinner a b hab
    rwa [lineBehind_append, lineBehind_append, lineBehind_of_not_mem hc.opening] at hpiece
  -- the tagged call is the tagged image of the call
  have hmade : (c.tagged hc ht).made = t.image (lineBehind 0 c.before) c.made := by
    rw [made, made, t.image_append, t.image_of_not_mem hc.opening,
      lineBehind_of_not_mem hc.opening, t.image_append]
    rfl
  have hfind := c.find_eq
  have hfind' := (c.tagged hc ht).find_eq
  rw [hplain] at hfind
  rw [hstripped, hmade] at hfind'
  cases hcall : IncludeCall.ofArguments c.inner with
  | error fault =>
    rw [hcall] at hfind hfind'
    exact .inr ⟨fault, c.made, hfind, hfind'⟩
  | ok call =>
    rw [hcall] at hfind hfind'
    refine .inl ⟨_, hfind, hfind'.trans ?_⟩
    -- nothing is tagged behind the arguments, up to the end of the call
    have htext : t.image (lineBehind 0 c.before) (c.made ++ c.ending) =
        t.image (lineBehind 0 c.before) c.made ++ c.ending := by
      rw [t.image_append, t.image_of_not_mem hc.ending]
    have hline : lineBehind (lineBehind 0 c.before) (c.made ++ c.ending) =
        lineBehind (lineBehind 0 c.before) c.inner := by
      have hbracket : '\n' ∉ [')'] := by decide
      rw [lineBehind_append, lineBehind_of_not_mem hc.ending, made, lineBehind_append,
        lineBehind_of_not_mem hc.opening, lineBehind_append, lineBehind_of_not_mem hbracket]
    rw [Tagging.site, htext, hline]
    rfl

/-- The strings of a tag may hold whatever ends strings, groups and comments in host code. -/
theorem find_tagLines_quoted :
    let source := "<?php echo $__env->make('item',\n['k' => 1])->render(); ?>".toList
    let t : Tagging := ⟨"a'\"])".toList, "/b */".toList, [⟨"c\\".toList, 1, none⟩]⟩
    Unmarked source ∧ t.Plain ∧ ∃ call before text rest before' text' rest',
      find none source = .ok (some ⟨before, text, call, rest⟩) ∧
      find none (tagLines source t.template t.path t.stack) =
        .ok (some ⟨before', text', call, rest'⟩) := by
  intro source t
  let c : FirstCall source := {
    before := "<?php ".toList
    opening := "echo $__env->make(".toList
    inner := "'item',\n['k' => 1]".toList
    ending := "->render();".toList
    rest := " ?>".toList
    source_eq := by decide
    search := by decide +kernel
    closes := by decide +kernel
    renders := by decide +kernel }
  have hsource : Unmarked source := by decide +kernel
  have ht : t.Plain := by
    refine ⟨by decide +kernel, by decide +kernel, fun f hf => ?_⟩
    obtain rfl := List.mem_singleton.1 hf
    exact ⟨by decide +kernel, fun name h => by cases h⟩
  have hc : c.Folded := ⟨by decide, by decide, by decide⟩
  have hinner : ¬ "/** template_name=\"".toList <:+: c.inner := by decide +kernel
  refine ⟨hsource, ht, ?_⟩
  rcases c.find_tagLines hc ht hsource (fun a b hab => by
    rw [lineBehind_append]
    exact t.shape?_image_of_not_infix hinner _ hab) with ⟨site, h, h'⟩ | ⟨fault, made, h, -⟩
  · exact ⟨site.call, _, _, _, _, _, _, h, h'⟩
  · have hfound : (find none source).toOption.isSome = true := by decide +kernel
    rw [h] at hfound
    cases hfound

/-- A tag can complete a comment that starts in a string of the template: the comment is taken out,
and the arguments no longer balance. -/
theorem exists_tag_completed :
    ∃ (source : Text) (t : Tagging) (c : FirstCall source),
      c.Folded ∧ t.Plain ∧ Unmarked source ∧
      (∃ site, find none source = .ok (some site)) ∧
      (find none (tagLines source t.template t.path t.stack)).toOption = none := by
  refine ⟨"<?php echo $__env->make(\"x/** template_name=\"\n, $y)->render(); ?>".toList,
    ⟨", template_path=".toList, ", line=5, stack=".toList, []⟩, {
      before := "<?php ".toList
      opening := "echo $__env->make(".toList
      inner := "\"x/** template_name=\"\n, $y".toList
      ending := "->render();".toList
      rest := " ?>".toList
      source_eq := by decide
      search := by decide +kernel
      closes := by decide +kernel
      renders := by decide +kernel },
    ⟨by decide, by decide, by decide⟩, ?_, by decide +kernel, ?_, ?_⟩
  · exact ⟨by decide +kernel, by decide +kernel, fun f hf => by cases hf⟩
  · exact ⟨⟨"<?php ".toList, "echo $__env->make(\"x/** template_name=\"\n, $y)->render();".toList,
      ⟨.literal "x/** template_name=".toList, some (.expression "$y".toList), none⟩, " ?>".toList⟩,
      by decide +kernel⟩
  · decide +kernel

end FirstCall

end IncludeSite

end TemplateTrace
