import Mathlib.Data.List.Infix
import TemplateTrace.Proofs.Code.Balanced
import TemplateTrace.Proofs.Include.Data

/-!
# Tags in a template

Tagging puts a marker at the start of every line. Seen from inside the template, a line feed gets a
comment behind it and everything else stays, so that every piece of the template has an image in the
tagged text. The readers of host code take the comment for a balanced text, whatever its strings
hold, and taking out the comments gives the piece back, unless a piece of the template starts a
comment that a tag completes.

- `Unmarked`: a text in which nothing has the shape of a marker.
- `Marker.balanced_encode`: the comment of a marker is balanced.
- `Tagging`, `Tagging.image`: the tags of a template, and the image of a piece of it.
- `Tagging.tagLines_eq`: a tagged template is the first tag and the image of the template.
- `Tagging.stripMarkers_image`: an image without comments is the piece.
- `Tagging.shape?_image_of_not_infix`: when no piece of the template starts a comment.
- `tagLines_undone`: a tagged template reads back.
-/

namespace TemplateTrace

/-! ## Texts without markers -/

/-- A text in which nothing has the shape of a marker. -/
def Unmarked (s : Text) : Prop := ∀ a b, s = a ++ b → Marker.shape? b = none

instance (s : Text) : Decidable (Unmarked s) :=
  decidable_of_iff (∀ b ∈ s.tails, Marker.shape? b = none) (by
    constructor
    · exact fun h a b hs => h b ((List.mem_tails b s).2 ⟨a, hs.symm⟩)
    · intro h b hb
      obtain ⟨a, ha⟩ := (List.mem_tails b s).1 hb
      exact h a b ha.symm)

theorem Unmarked.inner {a u b : Text} (h : Unmarked (a ++ (u ++ b))) : stripMarkers u = u := by
  refine stripMarkers_inner (a := a) (b := b) (stripMarkers_of_forall fun v w hs => h v w ?_)
  rw [← hs, List.append_assoc]

/-- A marker comment at the start of a text is taken off. -/
theorem stripMarkers_of_shape? {s r : Text} {p : Marker.Shape}
    (h : Marker.shape? s = some (p, r)) : stripMarkers s = stripMarkers r := by
  rw [stripMarkers]
  split
  next h' =>
    rw [h] at h'
    obtain ⟨-, rfl⟩ := Prod.mk.inj (Option.some.inj h')
    rfl
  next h' =>
    rw [h] at h'
    cases h'

theorem stripMarkers_cons {c : Char} {s : Text} (h : Marker.shape? (c :: s) = none) :
    stripMarkers (c :: s) = c :: stripMarkers s := by
  rw [stripMarkers]
  split
  next h' =>
    rw [h] at h'
    cases h'
  · rfl

theorem stripMarkers_nil : stripMarkers [] = [] := stripMarkers_of_forall fun a b h => by
  obtain ⟨-, rfl⟩ := List.append_eq_nil_iff.1 h.symm
  rfl

/-! ## Comments are balanced -/

/-- What stands between the quotes of a JSON string stands between quotes of host code. -/
theorem Json.Body.quoted {s t : Text} (h : Json.Body s t) : Code.QuotedBody '"' t := by
  induction h with
  | nil => exact .nil
  | slash _ ih => exact .plain (by decide) (by decide) (.escape '/' ih)
  | char c _ ih =>
    rcases Json.escape_cases c with ⟨a, b, d, e, heq, -, -, halpha⟩ | ⟨e, -, heq, -⟩ |
      ⟨heq, hquote, hback, -⟩
    · have hplain : ∀ x ∈ [a, b, d, e], x ≠ '"' ∧ x ≠ '\\' := by
        intro x hx
        have hx := halpha x hx
        constructor
        · rintro rfl
          exact absurd hx (by decide)
        · rintro rfl
          exact absurd hx (by decide)
      simp only [List.forall_mem_cons] at hplain
      rw [heq]
      exact .escape 'u' (.plain hplain.1.1 hplain.1.2 (.plain hplain.2.1.1 hplain.2.1.2
        (.plain hplain.2.2.1.1 hplain.2.2.1.2 (.plain hplain.2.2.2.1.1 hplain.2.2.2.1.2 ih))))
    · rw [heq]
      exact .escape e ih
    · rw [heq]
      exact .plain hquote hback ih

namespace Json

variable {f : Text → Text} (hf : Spelling f)
include hf

theorem balanced_quote (s : Text) : Code.Balanced .group (f (quote s)) := by
  rw [hf.quote]
  exact .string (.inr rfl) (hf.body s).quoted .nil

theorem balanced_of_plain {s : Text} (hstar : '*' ∉ s)
    (hplain : s.any Code.isBracketOrQuote = false) : Code.Balanced .group (f s) := by
  rw [hf.eq_self hstar]
  exact .of_any hplain

theorem balanced_nat (n : Nat) : Code.Balanced .group (f (nat n).compact) := by
  refine balanced_of_plain hf (fun hstar => ?_) (List.any_eq_false.2 fun c hc hsign => ?_)
  · exact absurd (Text.isDigit_of_mem_decimal hstar) (by decide)
  · have hsigns : "()[]\x7b\x7d'\"".toList.any Char.isDigit = false := by decide
    have hdigit := List.any_eq_false.1 hsigns c (List.contains_iff_mem.1 hsign)
    exact hdigit (Text.isDigit_of_mem_decimal hc)

mutual

/-- The text of a value is balanced, however its strings are spelled. -/
theorem balanced_compact : ∀ v : Json, v.plain = true → Code.Balanced .group (f v.compact)
  | .null, _ => balanced_of_plain hf (by decide) (by decide)
  | .bool true, _ => balanced_of_plain hf (by decide) (by decide)
  | .bool false, _ => balanced_of_plain hf (by decide) (by decide)
  | .nat n, _ => balanced_nat hf n
  | .number _, hv => by cases hv
  | .string s, _ => balanced_quote hf s
  | .broken, hv => by cases hv
  | .array vs, hv => by
    have hitems := balanced_compactItems vs hv
    show Code.Balanced .group (f ('[' :: (compactItems vs ++ [']'])))
    rw [hf.cons _ (by decide), hf.append_cons_self _ [] ⟨by decide, by decide⟩, hf.nil]
    exact .group rfl hitems .nil
  | .object fs, hv => by
    have hfields := balanced_compactFields fs hv
    show Code.Balanced .group (f ('\x7b' :: (compactFields fs ++ ['\x7d'])))
    rw [hf.cons _ (by decide), hf.append_cons_self _ [] ⟨by decide, by decide⟩, hf.nil]
    exact .group rfl hfields .nil

theorem balanced_compactItems : ∀ vs : List Json, plainItems vs = true →
    Code.Balanced .group (f (compactItems vs))
  | [], _ => by
    rw [compactItems, hf.nil]
    exact .nil
  | [v], hv => by
    rw [plainItems, Bool.and_eq_true] at hv
    exact balanced_compact v hv.1
  | v :: w :: vs, hv => by
    rw [plainItems, Bool.and_eq_true] at hv
    have hhere := balanced_compact v hv.1
    have hrest := balanced_compactItems (w :: vs) hv.2
    show Code.Balanced .group (f (v.compact ++ ',' :: compactItems (w :: vs)))
    rw [hf.append_cons_self _ _ ⟨by decide, by decide⟩]
    exact hhere.append (.plain (by decide) hrest)

/-- The fields of an object are balanced in the JSON that is written of them. -/
theorem balanced_compactFields : ∀ fs : List (Text × Json), plainFields fs = true →
    Code.Balanced .group (f (compactFields fs))
  | [], _ => by
    rw [compactFields, hf.nil]
    exact .nil
  | [(k, v)], hv => by
    rw [plainFields, Bool.and_eq_true] at hv
    have hhere := balanced_compact v hv.1
    show Code.Balanced .group (f (quote k ++ ':' :: v.compact))
    rw [hf.append_cons_self _ _ ⟨by decide, by decide⟩]
    exact (balanced_quote hf k).append (.plain (by decide) hhere)
  | (k, v) :: g :: fs, hv => by
    rw [plainFields, Bool.and_eq_true] at hv
    have hhere := balanced_compact v hv.1
    have hrest := balanced_compactFields (g :: fs) hv.2
    show Code.Balanced .group (f (quote k ++ ':' :: v.compact ++ ',' :: compactFields (g :: fs)))
    rw [hf.append_cons_self _ _ ⟨by decide, by decide⟩,
      hf.append_cons_self _ _ ⟨by decide, by decide⟩]
    have hcolon : Code.Balanced .group (':' :: f v.compact) := .plain (by decide) hhere
    have hcomma : Code.Balanced .group (',' :: f (compactFields (g :: fs))) :=
      .plain (by decide) hrest
    exact ((balanced_quote hf k).append hcolon).append hcomma

end

end Json

/-- The comment of a marker is balanced, whatever its strings hold. -/
theorem Marker.balanced_encode (m : Marker) : Code.Balanced .group m.encode := by
  have hspelling := Json.Spelling.commentSafe
  have hstring := Json.balanced_quote hspelling
  have hline := Json.balanced_nat Json.Spelling.id m.line.toNat
  have hstack := Json.balanced_compact hspelling _ (plain_stackToJson m.stack)
  unfold encode
  exact (((((((Code.Balanced.append (.of_any (by decide)) (hstring m.template)).append
    (.of_any (by decide))).append (hstring m.path)).append (.of_any (by decide))).append
      hline).append (.of_any (by decide))).append hstack).append (.of_any (by decide))

/-! ## Images -/

/-- What the tags of a template say, apart from their lines. -/
structure Tagging where
  template : Text
  path : Text
  stack : List Frame

namespace Tagging

variable (t : Tagging)

/-- The marker of the line with the 0-based index `i`. -/
def marker (i : Nat) : Marker :=
  { template := t.template, path := t.path, line := UInt32.ofNat (i + 1), stack := t.stack }

/-- A piece of a template that starts in the line `i`, with a tag behind every line feed. -/
def image (i : Nat) : Text → Text
  | [] => []
  | c :: s =>
    if c = '\n' then '\n' :: ((t.marker (i + 1)).encode ++ image (i + 1) s) else c :: image i s

/-- The index of the line in which a text ends that starts in the line `i`. -/
def lineBehind (i : Nat) (s : Text) : Nat := i + s.count '\n'

@[simp] theorem image_nil (i : Nat) : t.image i [] = [] := rfl

@[simp] theorem lineBehind_nil (i : Nat) : lineBehind i [] = i := rfl

theorem image_newline (i : Nat) (s : Text) :
    t.image i ('\n' :: s) = '\n' :: ((t.marker (i + 1)).encode ++ t.image (i + 1) s) := rfl

theorem image_cons {c : Char} (hc : c ≠ '\n') (i : Nat) (s : Text) :
    t.image i (c :: s) = c :: t.image i s := if_neg hc

theorem lineBehind_newline (i : Nat) (s : Text) :
    lineBehind i ('\n' :: s) = lineBehind (i + 1) s := by
  rw [lineBehind, lineBehind, List.count_cons_self]
  omega

theorem lineBehind_cons {c : Char} (hc : c ≠ '\n') (i : Nat) (s : Text) :
    lineBehind i (c :: s) = lineBehind i s := by
  rw [lineBehind, lineBehind, List.count_cons_of_ne hc]

theorem lineBehind_of_not_mem {s : Text} (h : '\n' ∉ s) (i : Nat) : lineBehind i s = i := by
  rw [lineBehind, List.count_eq_zero.2 h, Nat.add_zero]

theorem lineBehind_append (i : Nat) (a b : Text) :
    lineBehind i (a ++ b) = lineBehind (lineBehind i a) b := by
  rw [lineBehind, lineBehind, lineBehind, List.count_append, Nat.add_assoc]

/-- The tagged image of a text is made part by part, from the line that each part starts on. -/
theorem image_append (i : Nat) (a b : Text) :
    t.image i (a ++ b) = t.image i a ++ t.image (lineBehind i a) b := by
  induction a generalizing i with
  | nil => rfl
  | cons c a ih =>
    by_cases hc : c = '\n'
    · subst hc
      rw [List.cons_append, image_newline, image_newline, ih, lineBehind_newline, List.cons_append,
        List.append_assoc]
    · rw [List.cons_append, t.image_cons hc, t.image_cons hc, ih, lineBehind_cons hc,
        List.cons_append]

/-- On one line nothing changes. -/
theorem image_of_not_mem {s : Text} (h : '\n' ∉ s) (i : Nat) : t.image i s = s := by
  induction s with
  | nil => rfl
  | cons c s ih =>
    rw [List.mem_cons, not_or] at h
    rw [t.image_cons (Ne.symm h.1), ih h.2]

/-- A tagged template is the tag of its first line and the image of the template. -/
theorem tagLines_eq (source : Text) :
    tagLines source t.template t.path t.stack = (t.marker 0).encode ++ t.image 0 source := by
  have hjoin : ∀ (a l : Text) (ls : List Text),
      Text.joinWith ['\n'] ((a ++ l) :: ls) = a ++ Text.joinWith ['\n'] (l :: ls) := by
    intro a l ls
    cases ls with
    | nil => rfl
    | cons l' ls => simp [Text.joinWith]
  -- behind its own tag, a line is followed by the tagged lines below it
  have hlines : ∀ (s l : Text) (ls : List Text) (i : Nat), Text.lines s = l :: ls →
      Text.joinWith ['\n'] (l :: ls.mapIdx fun j l' => (t.marker (j + (i + 1))).encode ++ l') =
        t.image i s := by
    intro s
    induction s with
    | nil =>
      intro l ls i hs
      obtain ⟨rfl, rfl⟩ := List.cons.inj hs
      rfl
    | cons c s ih =>
      intro l ls i hs
      obtain ⟨l', ls', hs'⟩ := List.exists_cons_of_ne_nil (Text.splitOn_ne_nil '\n' s)
      have hs' : Text.lines s = l' :: ls' := hs'
      by_cases hc : c = '\n'
      · subst hc
        rw [Text.lines, Text.splitOn_cons_self] at hs
        obtain ⟨rfl, rfl⟩ := List.cons.inj hs
        rw [image_newline, ← ih l' ls' (i + 1) hs', ← hjoin, show Text.splitOn '\n' s = _ from hs',
          List.mapIdx_cons]
        simp only [Text.joinWith, Nat.zero_add, Nat.add_assoc, Nat.add_comm 1]
        rfl
      · rw [Text.lines, Text.splitOn_cons_ne hc, show Text.splitOn '\n' s = _ from hs'] at hs
        obtain ⟨rfl, rfl⟩ := List.cons.inj hs
        rw [t.image_cons hc, ← ih l' ls' i hs']
        exact hjoin [c] l' _
  obtain ⟨l, ls, hs⟩ := List.exists_cons_of_ne_nil (Text.splitOn_ne_nil '\n' source)
  have hs : Text.lines source = l :: ls := hs
  rw [tagLines, hs, List.mapIdx_cons, ← hlines source l ls 0 hs, ← hjoin]
  rfl

/-- Taking out the comments of an image gives the piece back, if none starts in the piece. -/
theorem stripMarkers_image {i : Nat} {s : Text}
    (h : ∀ a b, s = a ++ b → Marker.shape? (t.image (lineBehind i a) b) = none) :
    stripMarkers (t.image i s) = s := by
  induction s generalizing i with
  | nil => exact stripMarkers_nil
  | cons c s ih =>
    have hhere := h [] (c :: s) rfl
    rw [lineBehind_nil] at hhere
    by_cases hc : c = '\n'
    · subst hc
      have hrest := ih (i := i + 1) fun a b hs => by
        have hpiece := h ('\n' :: a) b (by rw [hs, List.cons_append])
        rwa [lineBehind_newline] at hpiece
      rw [image_newline] at hhere ⊢
      rw [stripMarkers_cons hhere, stripMarkers_of_shape? (Marker.shape?_encode_append _ _), hrest]
    · have hrest := ih (i := i) fun a b hs => by
        have hpiece := h (c :: a) b (by rw [hs, List.cons_append])
        rwa [lineBehind_cons hc] at hpiece
      rw [t.image_cons hc] at hhere ⊢
      rw [stripMarkers_cons hhere, hrest]

/-- What stands in front of the first tag of an image stands in front of the piece. -/
theorem exists_eq_append_of_image {i : Nat} {s p v : Text} (hp : '\n' ∉ p)
    (h : t.image i s = p ++ v) : ∃ s', s = p ++ s' := by
  induction p generalizing s with
  | nil => exact ⟨s, rfl⟩
  | cons c p ih =>
    rw [List.mem_cons, not_or] at hp
    cases s with
    | nil => cases h
    | cons d s =>
      by_cases hd : d = '\n'
      · subst hd
        exact absurd (List.cons.inj h).1 hp.1
      · rw [t.image_cons hd] at h
        obtain ⟨rfl, htail⟩ := List.cons.inj h
        obtain ⟨s', rfl⟩ := ih hp.2 htail
        exact ⟨s', rfl⟩

/-- No comment starts in a piece that does not hold the start of one. -/
theorem shape?_image_of_not_infix {s : Text} (h : ¬ "/** template_name=\"".toList <:+: s) (i : Nat)
    {a b : Text} (hs : s = a ++ b) : Marker.shape? (t.image (lineBehind i a) b) = none := by
  cases hshape : Marker.shape? (t.image (lineBehind i a) b) with
  | none => rfl
  | some p =>
    simp only [Marker.shape?, Option.bind_eq_bind, Option.bind_eq_some_iff] at hshape
    obtain ⟨r, hstart, q, hquoted, -⟩ := hshape
    have hstart := Text.after?_eq_some_iff.1 hstart
    have hquote : ∃ r', r = '"' :: r' := by
      unfold Marker.rawString? at hquoted
      split at hquoted
      · exact ⟨_, rfl⟩
      · cases hquoted
    obtain ⟨r', rfl⟩ := hquote
    -- the start of a comment is on one line, so that no tag is in it
    refine absurd ?_ h
    obtain ⟨b', hb⟩ := t.exists_eq_append_of_image (p := "/** template_name=\"".toList) (v := r')
      (by decide) (hstart.trans (by simp))
    exact ⟨a, b', by rw [hs, hb, List.append_assoc]⟩

end Tagging

/-! ## Tagged templates read back -/

/-- Without its comments a tagged template is the template, if no comment starts in it. -/
theorem stripMarkers_tagLines {source : Text} (h : ¬ "/** template_name=\"".toList <:+: source)
    (name path : Text) (stack : List Frame) :
    stripMarkers (tagLines source name path stack) = source := by
  let t : Tagging := ⟨name, path, stack⟩
  have himage : stripMarkers (t.image 0 source) = source :=
    t.stripMarkers_image fun a b hs => t.shape?_image_of_not_infix h 0 hs
  have hfirst := Marker.shape?_encode_append (t.marker 0) (t.image 0 source)
  rw [show tagLines source name path stack = _ from t.tagLines_eq source,
    stripMarkers_of_shape? hfirst, himage]

/-- A line of a tagged template is the tag with its number and the line of the template. -/
theorem decode?_of_lines_tagLines {source line : Text} {i : Nat}
    (h : (Text.lines source)[i]? = some line) (hi : i + 1 < UInt32.size) (name path : Text)
    (stack : List Frame) :
    ∃ tagged n, (Text.lines (tagLines source name path stack))[i]? = some tagged ∧
      n.toNat = i + 1 ∧ Marker.decode? tagged = some (⟨name, path, n, stack⟩, line) := by
  refine ⟨tagLine name path stack i line, UInt32.ofNat (i + 1), ?_, ?_, ?_⟩
  · rw [lines_tagLines, List.getElem?_mapIdx, h]
    rfl
  · exact UInt32.toNat_ofNat_of_lt' hi
  · exact Marker.decode?_encode_append _ line

/-- **Tagging loses nothing.** When no comment starts in a template, the tagged template without
its comments is the template; and whatever its name, path and stack hold, each of its lines reads
back as the marker of the line and the line, and it has as many lines as the template. -/
theorem tagLines_undone {source : Text} (h : ¬ "/** template_name=\"".toList <:+: source)
    (name path : Text) (stack : List Frame) :
    stripMarkers (tagLines source name path stack) = source ∧
      (Text.lines (tagLines source name path stack)).length = (Text.lines source).length ∧
      ∀ i line, (Text.lines source)[i]? = some line → i + 1 < UInt32.size →
        ∃ tagged n, (Text.lines (tagLines source name path stack))[i]? = some tagged ∧
          n.toNat = i + 1 ∧ Marker.decode? tagged = some (⟨name, path, n, stack⟩, line) := by
  refine ⟨stripMarkers_tagLines h name path stack, ?_, fun i line hline hi => ?_⟩
  · rw [lines_tagLines, List.length_mapIdx]
  · exact decode?_of_lines_tagLines hline hi name path stack

/-- A line may end in all of a comment's start but the quote, with a name that would complete it. -/
theorem tagLines_undone_lookalike :
    let source := "a/** template_name=\n*/b".toList
    let name := "\", template_path=\"\", line=1, stack=[] */".toList
    ¬ "/** template_name=\"".toList <:+: source ∧
      stripMarkers (tagLines source name name [⟨name, 1, some name⟩]) = source ∧
      ∃ tagged n, (Text.lines (tagLines source name name [⟨name, 1, some name⟩]))[1]? = some tagged ∧
        n.toNat = 2 ∧
        Marker.decode? tagged = some (⟨name, name, n, [⟨name, 1, some name⟩]⟩, "*/b".toList) := by
  intro source name
  have h : ¬ "/** template_name=\"".toList <:+: source := by decide
  obtain ⟨hstrip, -, hlines⟩ := tagLines_undone h name name [⟨name, 1, some name⟩]
  exact ⟨h, hstrip, hlines 1 "*/b".toList (by decide) (by decide)⟩

end TemplateTrace
