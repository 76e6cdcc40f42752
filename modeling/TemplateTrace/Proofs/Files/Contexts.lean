import TemplateTrace.Proofs.Files.Scratch
import TemplateTrace.Proofs.Marker.RoundTrip

/-!
# Contexts of scratch files

A scratch file is named by a digest of a path and a stack, written one behind the other with nothing
between them. A path may hold whole stacks, and so may the names in a stack. The two are told apart
nevertheless: a stack that is not empty opens with a bracket, a brace, a quote and a letter, which
stand nowhere else in it, since a quote in a string has a backslash in front.

- `Json.opening_infix_append`, `Json.opening_infix_quote`: where the opening of a stack can stand.
- `eq_of_suffix_stackJson`: no stack is the end of another one.
- `scratchKey_eq_iff`: what is hashed determines the path and the stack.
- `scratchKey_eq_iff_and_scratchPath_eq_iff`: and so does the path of a scratch file, up to a
  collision of digests.
-/

namespace TemplateTrace

namespace Json

/-! ## The opening of a stack -/

/-- How a stack with frames opens. -/
def stackOpening : Text := ['[', '{', '"', 'f']

theorem opening_infix_cons {c : Char} {s : Text} (hc : c ≠ '[')
    (h : stackOpening <:+: c :: s) : stackOpening <:+: s := by
  rcases List.infix_cons_iff.1 h with hprefix | h
  · exact absurd (List.cons_prefix_cons.1 hprefix).1.symm hc
  · exact h

/-- No opening starts in a text without brackets. -/
theorem opening_infix_append {a s : Text} (ha : '[' ∉ a) (h : stackOpening <:+: a ++ s) :
    stackOpening <:+: s := by
  induction a with
  | nil => exact h
  | cons c a ih =>
    rw [List.mem_cons, not_or] at ha
    exact ih ha.2 (opening_infix_cons (Ne.symm ha.1) h)

/-- An escaped character starts with a backslash, or it is the character, which is no quote. -/
theorem escape_eq_cons {c x : Char} {r : Text} (h : escape c = x :: r) :
    x = '\\' ∨ (x = c ∧ r = [] ∧ x ≠ '"') := by
  rcases escape_cases c with ⟨a, b, d, e, heq, -⟩ | ⟨e, -, heq, -⟩ | ⟨heq, hquote, -⟩
  · rw [heq] at h
    exact .inl (List.cons.inj h).1.symm
  · rw [heq] at h
    exact .inl (List.cons.inj h).1.symm
  · rw [heq] at h
    obtain ⟨rfl, rfl⟩ := List.cons.inj h
    exact .inr ⟨rfl, rfl, hquote⟩

/-- What starts the rest of a string is an escaped character of it, or its closing quote. -/
theorem flatMap_escape_eq_cons {s r t : Text} {x : Char} (hx : x ≠ '\\')
    (h : s.flatMap escape ++ '"' :: r = x :: t) :
    (s = [] ∧ x = '"' ∧ r = t) ∨
      ∃ s', s = x :: s' ∧ x ≠ '"' ∧ s'.flatMap escape ++ '"' :: r = t := by
  cases s with
  | nil =>
    obtain ⟨rfl, rfl⟩ := List.cons.inj h
    exact .inl ⟨rfl, rfl, rfl⟩
  | cons c s =>
    rw [List.flatMap_cons, List.append_assoc] at h
    cases hc : escape c with
    | nil =>
      rcases escape_cases c with ⟨a, b, d, e, heq, -⟩ | ⟨e, -, heq, -⟩ | ⟨heq, -⟩ <;>
        rw [heq] at hc <;> cases hc
    | cons y r' =>
      rw [hc, List.cons_append] at h
      obtain ⟨rfl, hrest⟩ := List.cons.inj h
      rcases escape_eq_cons hc with hy | ⟨rfl, rfl, hquote⟩
      · exact absurd hy hx
      · exact .inr ⟨s, rfl, hquote, hrest⟩

/-- No opening starts in a string, unless its last letter stands behind the string. -/
theorem opening_infix_quote {s r : Text} (hr : r.head? ≠ some 'f')
    (h : stackOpening <:+: quote s ++ r) : stackOpening <:+: r := by
  have hbody : stackOpening <:+: s.flatMap escape ++ '"' :: r := by
    have hcons : quote s ++ r = '"' :: (s.flatMap escape ++ '"' :: r) := by simp [quote]
    rw [hcons] at h
    exact opening_infix_cons (by decide) h
  clear h
  induction s with
  | nil => exact opening_infix_cons (by decide) hbody
  | cons c s ih =>
    rw [List.flatMap_cons, List.append_assoc] at hbody
    by_cases hc : '[' ∈ escape c
    · -- the bracket stands for itself, and a string has no quote behind its brace
      have hbracket : escape c = ['['] := by
        rcases mem_escape hc with ⟨rfl, -⟩ | h | h | h
        · rfl
        · exact absurd h (by decide)
        · exact absurd h (by decide)
        · exact absurd h (by decide)
      rw [hbracket, List.singleton_append] at hbody
      rcases List.infix_cons_iff.1 hbody with hprefix | hrest
      · obtain ⟨t, ht⟩ := (List.cons_prefix_cons.1 hprefix).2
        rcases flatMap_escape_eq_cons (by decide) ht.symm with ⟨-, h, -⟩ | ⟨s', -, -, hs'⟩
        · exact absurd h (by decide)
        · rcases flatMap_escape_eq_cons (by decide) hs' with ⟨-, -, h⟩ | ⟨_, -, h, -⟩
          · rw [h] at hr
            exact absurd rfl hr
          · exact absurd rfl h
      · exact ih hrest
    · exact ih (opening_infix_append hc hbody)

end Json

open Json

/-! ## Stacks in stacks -/

namespace Frame

/-- No opening starts in a frame. -/
theorem opening_infix_toJson {f : Frame} {r : Text}
    (h : stackOpening <:+: f.toJson.compact ++ r) : stackOpening <:+: r := by
  have hcut : f.toJson.compact ++ r = "\x7b\"file\":".toList ++ (quote f.file ++
      (",\"line\":".toList ++ (Text.decimal f.line.toNat ++
        (",\"name\":".toList ++ ((Json.ofText? f.name).compact ++ '\x7d' :: r))))) := by
    simp only [toJson, compact, compactFields, List.cons_append, List.append_assoc]
    rfl
  have hdigits : '[' ∉ Text.decimal f.line.toNat :=
    fun hmem => absurd (Text.isDigit_of_mem_decimal hmem) (by decide)
  rw [hcut] at h
  have hline := opening_infix_quote (by simp) (opening_infix_append (by decide) h)
  have hname := opening_infix_append (by decide)
    (opening_infix_append hdigits (opening_infix_append (by decide) hline))
  have hbehind : stackOpening <:+: '\x7d' :: r := by
    cases hn : f.name with
    | none =>
      rw [hn] at hname
      exact opening_infix_append (by decide) hname
    | some name =>
      rw [hn] at hname
      exact opening_infix_quote (by simp) hname
  exact opening_infix_cons (by decide) hbehind

theorem getLast?_compact_toJson (f : Frame) : f.toJson.compact.getLast? = some '\x7d' := by
  rw [toJson, compact]
  exact List.getLast?_concat

end Frame

/-- No stack opens among the frames of a stack. -/
theorem opening_infix_compactItems {stack : List Frame} {r : Text}
    (h : stackOpening <:+: compactItems (stack.map Frame.toJson) ++ r) : stackOpening <:+: r := by
  induction stack with
  | nil => exact h
  | cons f stack ih =>
    cases stack with
    | nil => exact f.opening_infix_toJson h
    | cons g stack =>
      rw [List.map_cons, List.map_cons, compactItems, List.append_assoc, List.cons_append] at h
      · exact ih (opening_infix_cons (by decide) (f.opening_infix_toJson h))
      · exact List.cons_ne_nil _ _

/-- The frames of a stack end in a brace. -/
theorem getLast?_compactItems {stack : List Frame} (hne : stack ≠ []) :
    (compactItems (stack.map Frame.toJson)).getLast? = some '\x7d' := by
  induction stack with
  | nil => exact absurd rfl hne
  | cons f stack ih =>
    cases stack with
    | nil => exact f.getLast?_compact_toJson
    | cons g stack =>
      rw [List.map_cons, List.map_cons, compactItems, List.getLast?_append, List.getLast?_cons]
      · rw [← List.map_cons, ih (List.cons_ne_nil _ _)]
        rfl
      · exact List.cons_ne_nil _ _

theorem stackJson_eq (stack : List Frame) :
    stackJson stack = '[' :: (compactItems (stack.map Frame.toJson) ++ [']']) := by
  rw [stackJson, stackToJson, compact]
  rfl

/-- Different stacks have different JSON. -/
theorem stackJson_injective {stack stack' : List Frame} (h : stackJson stack = stackJson stack') :
    stack = stack' := by
  have hparse := parse?_compact (plain_stackToJson stack)
  have hread : (stackToJson stack).compact = (stackToJson stack').compact := h
  rw [hread, parse?_compact (plain_stackToJson stack')] at hparse
  have hdata := stackOfJson?_stackToJson stack
  rw [← Option.some.inj hparse, stackOfJson?_stackToJson] at hdata
  exact (Option.some.inj hdata).symm

/-- The JSON of a stack with frames starts as such stacks do. -/
theorem opening_prefix_stackJson (f : Frame) (stack : List Frame) :
    stackOpening <+: stackJson (f :: stack) := by
  have hframe : ∃ t, f.toJson.compact = '\x7b' :: '"' :: 'f' :: t := by
    have hkey : quote "file".toList = '"' :: 'f' :: "ile\"".toList := by decide
    rw [Frame.toJson, compact, compactFields, hkey]
    · exact ⟨_, rfl⟩
    · exact List.cons_ne_nil _ _
  obtain ⟨t, ht⟩ := hframe
  rw [stackJson_eq, List.map_cons]
  cases stack with
  | nil => exact ⟨_, by rw [List.map_nil, compactItems, ht]; rfl⟩
  | cons g stack =>
    refine ⟨t ++ ',' :: compactItems ((g :: stack).map Frame.toJson) ++ [']'], ?_⟩
    rw [compactItems, ht]
    · rfl
    · exact List.cons_ne_nil _ _

/-- No stack is the end of another one. -/
theorem eq_of_suffix_stackJson {stack stack' : List Frame}
    (h : stackJson stack' <:+ stackJson stack) : stack' = stack := by
  obtain ⟨x, hx⟩ := h
  cases stack' with
  | nil =>
    -- only the empty stack has its brackets side by side at the end
    by_cases hne : stack = []
    · exact hne.symm
    · have hlast : (x ++ ['[']).getLast? =
          ('[' :: compactItems (stack.map Frame.toJson)).getLast? := by
        rw [stackJson_eq stack] at hx
        have hcut : x ++ ['['] ++ [']'] =
            '[' :: compactItems (stack.map Frame.toJson) ++ [']'] := by
          rw [List.cons_append, ← hx, List.append_assoc]
          rfl
        exact congrArg List.getLast? (List.append_cancel_right hcut)
      rw [List.getLast?_concat, List.getLast?_cons, getLast?_compactItems hne] at hlast
      exact absurd hlast (by decide)
  | cons f stack' =>
    cases x with
    | nil => exact stackJson_injective hx
    | cons c x =>
      -- the opening of the second stack stands behind that of the first one
      obtain ⟨r, hr⟩ := opening_prefix_stackJson f stack'
      rw [stackJson_eq stack] at hx
      have hrest : x ++ stackJson (f :: stack') = compactItems (stack.map Frame.toJson) ++ [']'] :=
        (List.cons.inj hx).2
      have hinfix : stackOpening <:+: compactItems (stack.map Frame.toJson) ++ [']'] :=
        ⟨x, r, by rw [List.append_assoc, hr, hrest]⟩
      have hnone := (opening_infix_compactItems hinfix).length_le
      exact absurd hnone (by decide)

/-- What is hashed determines the path and the stack, though nothing stands between them. -/
theorem scratchKey_eq_iff {path path' : Text} {stack stack' : List Frame} :
    scratchKey path stack = scratchKey path' stack' ↔ path = path' ∧ stack = stack' := by
  constructor
  · intro h
    have hstack : stack = stack' := by
      rcases List.append_eq_append_iff.1 h with ⟨u, -, hu⟩ | ⟨u, -, hu⟩
      · exact (eq_of_suffix_stackJson ⟨u, hu.symm⟩).symm
      · exact eq_of_suffix_stackJson ⟨u, hu.symm⟩
    subst hstack
    exact ⟨List.append_cancel_right h, rfl⟩
  · rintro ⟨rfl, rfl⟩
    rfl

/-! ## Names -/

/-- The loop that lists the bytes of an array, by what it has listed and what is left. -/
theorem Utf8.toList_loop (b : ByteArray) (i : Nat) (r : List UInt8) :
    ByteArray.toList.loop b i r = r.reverse ++ b.data.toList.drop i := by
  fun_induction ByteArray.toList.loop b i r with
  | case1 i r h ih =>
    have hi : i < b.data.toList.length := h
    have hget : b.get! i = b.data.toList[i] := getElem!_pos b.data i h
    rw [ih, hget, List.reverse_cons, List.append_assoc, List.drop_eq_getElem_cons hi,
      List.singleton_append]
  | case2 i r h =>
    rw [List.drop_eq_nil_of_le (Nat.not_lt.1 h), List.append_nil]

theorem Utf8.encode_injective {s t : Text} (h : Utf8.encode s = Utf8.encode t) : s = t := by
  have hdata : ∀ b : ByteArray, b.toList = b.data.toList := fun b => toList_loop b 0 []
  rw [Utf8.encode, Utf8.encode, hdata, hdata] at h
  exact String.ofList_injective (String.toByteArray_inj.1 (ByteArray.ext (Array.toList_inj.1 h)))

/-- A digest is written with two digits per byte. -/
theorem Sha256.hex_injective {m m' : List UInt8} (h : Sha256.hex m = Sha256.hex m') :
    Sha256.digest m = Sha256.digest m' := by
  have hdigit : ∀ i j : Fin 16, Nat.digitChar i = Nat.digitChar j → i = j := by decide
  have hbyte : ∀ b c : UInt8, Sha256.hexByte b = Sha256.hexByte c → b = c := by
    intro b c hbc
    obtain ⟨hhigh, hlow⟩ := List.cons.inj hbc
    have hb := b.toNat_lt
    have hc := c.toNat_lt
    have hdiv := congrArg Fin.val (hdigit ⟨b.toNat / 16, by omega⟩ ⟨c.toNat / 16, by omega⟩ hhigh)
    have hmod := congrArg Fin.val
      (hdigit ⟨b.toNat % 16, by omega⟩ ⟨c.toNat % 16, by omega⟩ (List.cons.inj hlow).1)
    exact UInt8.toNat_inj.1 (by dsimp only at hdiv hmod; omega)
  rw [Sha256.hex, Sha256.hex] at h
  generalize Sha256.digest m = l at h ⊢
  generalize Sha256.digest m' = l' at h ⊢
  induction l generalizing l' with
  | nil =>
    cases l' with
    | nil => rfl
    | cons c l' => cases h
  | cons b l ih =>
    cases l' with
    | nil => cases h
    | cons c l' =>
      obtain ⟨hhead, htail⟩ := List.append_inj h rfl
      rw [hbyte b c hhead, ih l' htail]

/-- **Different contexts have different scratch files.** What is hashed determines the path and the
stack; and unless the digests of the two contexts collide, so does the path of the scratch file, and
the place to which it leads. -/
theorem scratchKey_eq_iff_and_scratchPath_eq_iff (wd : Place) (dir path path' : Text)
    (stack stack' : List Frame) :
    (scratchKey path stack = scratchKey path' stack' ↔ path = path' ∧ stack = stack') ∧
    ((Sha256.digest (Utf8.encode (scratchKey path stack)) =
        Sha256.digest (Utf8.encode (scratchKey path' stack')) →
      Utf8.encode (scratchKey path stack) = Utf8.encode (scratchKey path' stack')) →
      (scratchPath dir path stack = scratchPath dir path' stack' ↔
        path = path' ∧ stack = stack') ∧
      (Path.target wd (scratchPath dir path stack) = Path.target wd (scratchPath dir path' stack') ↔
        path = path' ∧ stack = stack')) := by
  refine ⟨scratchKey_eq_iff, fun hcollision => ?_⟩
  have htarget : Path.target wd (scratchPath dir path stack) =
      Path.target wd (scratchPath dir path' stack') → path = path' ∧ stack = stack' := by
    intro h
    rw [target_scratchPath, target_scratchPath] at h
    have hname : scratchName path stack = scratchName path' stack' :=
      (List.cons.inj (List.append_cancel_left h)).1
    have hdigest := Sha256.hex_injective (List.append_cancel_right hname)
    exact scratchKey_eq_iff.1 (Utf8.encode_injective (hcollision hdigest))
  have hsame : path = path' ∧ stack = stack' →
      scratchPath dir path stack = scratchPath dir path' stack' := by
    rintro ⟨rfl, rfl⟩
    rfl
  exact ⟨⟨fun h => htarget (congrArg (Path.target wd) h), hsame⟩,
    ⟨htarget, fun h => congrArg (Path.target wd) (hsame h)⟩⟩

/-- A template in a frame, and a template whose path ends in an empty stack. -/
theorem scratchPath_ne_lookalike :
    let stack : List Frame := [⟨"/c.php[]".toList, 3, none⟩]
    (Sha256.digest (Utf8.encode (scratchKey "/a".toList stack)) =
        Sha256.digest (Utf8.encode (scratchKey "/a[]".toList [])) →
      Utf8.encode (scratchKey "/a".toList stack) = Utf8.encode (scratchKey "/a[]".toList [])) ∧
    scratchPath "s".toList "/a".toList stack ≠ scratchPath "s".toList "/a[]".toList [] := by
  intro stack
  have hapart : Sha256.digest (Utf8.encode (scratchKey "/a".toList stack)) ≠
      Sha256.digest (Utf8.encode (scratchKey "/a[]".toList [])) := by
    decide +kernel
  have hcollision : Sha256.digest (Utf8.encode (scratchKey "/a".toList stack)) =
        Sha256.digest (Utf8.encode (scratchKey "/a[]".toList [])) →
      Utf8.encode (scratchKey "/a".toList stack) = Utf8.encode (scratchKey "/a[]".toList []) :=
    fun h => absurd h hapart
  obtain ⟨-, hpaths⟩ :=
    scratchKey_eq_iff_and_scratchPath_eq_iff [] "s".toList "/a".toList "/a[]".toList stack []
  refine ⟨hcollision, fun h => ?_⟩
  have hsame := (hpaths hcollision).1.1 h
  exact absurd hsame.2 (List.cons_ne_nil _ _)

end TemplateTrace
