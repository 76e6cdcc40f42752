import TemplateTrace.Marker.Tagging
import TemplateTrace.Proofs.Json.Compact
import TemplateTrace.Proofs.Marker.Extent
import TemplateTrace.Proofs.Text.Lines

/-!
# Markers read back

The comment of a marker reads back as that marker, and what follows the comment is the rest. The
four payloads are JSON, which escapes quotes and line feeds, and `*/` never stands inside them, so
that no payload runs into the next one.

- `Json.Spelling.commentSafe`: keeping `*/` out of JSON text changes nothing but its spelling.
- `stackOfJson?_stackToJson`: the JSON of a stack describes that stack.
- `Marker.decode?_encode_append`: a comment reads back, whatever follows it.
- `Marker.not_mem_newline_encode`: a comment stands on one line.
- `Marker.exists_encode_eq_append`: it closes at its end and nowhere before.
- `lines_tagLines`: the lines of a tagged template.
-/

namespace TemplateTrace

/-! ## Text without comment ends -/

theorem commentSafe_cons {c : Char} (s : Text) (hc : c ≠ '*') :
    commentSafe (c :: s) = c :: commentSafe s := by
  rw [commentSafe]
  rintro s' rfl rfl
  exact hc rfl

/-- Making a text safe works part by part, unless a slash stands behind the cut. -/
theorem commentSafe_append_cons (a : Text) {c : Char} (b : Text) (hc : c ≠ '/') :
    commentSafe (a ++ c :: b) = commentSafe a ++ commentSafe (c :: b) := by
  fun_induction commentSafe a with
  | case1 s ih =>
    simp only [List.cons_append, commentSafe, ih]
  | case2 d s hs ih =>
    rw [List.cons_append, commentSafe, ih]
    · rfl
    · rintro s' rfl heq
      cases s with
      | nil => exact hc (List.cons.inj heq).1
      | cons e s => exact hs s rfl (by rw [(List.cons.inj heq).1])
  | case3 => rfl

/-- Nothing but backslashes is added. -/
theorem mem_commentSafe {c : Char} {s : Text} (h : c ∈ commentSafe s) : c ∈ s ∨ c = '\\' := by
  fun_induction commentSafe s with
  | case1 s ih =>
    simp only [List.mem_cons] at h ⊢
    rcases h with h | h | h | h
    · exact .inl (.inl h)
    · exact .inr h
    · exact .inl (.inr (.inl h))
    · exact (ih h).imp_left fun h => .inr (.inr h)
  | case2 d s _ ih =>
    rcases List.mem_cons.1 h with h | h
    · exact .inl (List.mem_cons.2 (.inl h))
    · exact (ih h).imp_left (List.mem_cons_of_mem d)
  | case3 => exact absurd h List.not_mem_nil

theorem head_commentSafe {s t : Text} {c : Char} (h : commentSafe s = c :: t) :
    ∃ s', s = c :: s' := by
  fun_cases commentSafe s with
  | case1 s' =>
    rw [commentSafe] at h
    exact ⟨_, by rw [(List.cons.inj h).1]⟩
  | case2 d s' hs =>
    rw [commentSafe] at h
    · exact ⟨s', by rw [(List.cons.inj h).1]⟩
    · exact hs
  | case3 => cases h

/-- No comment ends inside of comment-safe text. -/
theorem not_infix_commentSafe (s : Text) : ¬ ['*', '/'] <:+: commentSafe s := by
  fun_induction commentSafe s with
  | case1 s ih =>
    intro h
    rcases List.infix_cons_iff.1 h with h | h
    · exact absurd (List.cons_prefix_cons.1 (List.cons_prefix_cons.1 h).2).1 (by decide)
    · rcases List.infix_cons_iff.1 h with h | h
      · exact absurd (List.cons_prefix_cons.1 h).1 (by decide)
      · rcases List.infix_cons_iff.1 h with h | h
        · exact absurd (List.cons_prefix_cons.1 h).1 (by decide)
        · exact ih h
  | case2 c s hs ih =>
    intro h
    rcases List.infix_cons_iff.1 h with h | h
    · obtain ⟨hc, t, ht⟩ := List.cons_prefix_cons.1 h
      obtain ⟨s', rfl⟩ := head_commentSafe ht.symm
      exact hs s' hc.symm rfl
    · exact ih h
  | case3 =>
    intro h
    exact absurd (List.eq_nil_of_infix_nil h) (List.cons_ne_nil _ _)

/-- A text in a string stays one when comment ends are kept out of it. -/
theorem body_commentSafe (s : Text) : Json.Body s (commentSafe (s.flatMap Json.escape)) := by
  fun_induction commentSafe s with
  | case1 s ih =>
    have h : commentSafe (('*' :: '/' :: s).flatMap Json.escape) =
        '*' :: '\\' :: '/' :: commentSafe (s.flatMap Json.escape) := rfl
    rw [h]
    exact .slash ih
  | case2 c s hs ih =>
    have happend : ∀ (a t : Text), '*' ∉ a → commentSafe (a ++ t) = a ++ commentSafe t := by
      intro a t ha
      induction a with
      | nil => rfl
      | cons d a iha =>
        rw [List.mem_cons, not_or] at ha
        rw [List.cons_append, commentSafe_cons _ (Ne.symm ha.1), iha ha.2, List.cons_append]
    -- an asterisk is kept as it is: no slash follows it, for the escape of none starts with one
    by_cases hc : c = '*'
    · subst hc
      have hstar : commentSafe ('*' :: s.flatMap Json.escape) =
          '*' :: commentSafe (s.flatMap Json.escape) := by
        rw [commentSafe]
        rintro t - ht
        cases s with
        | nil => cases ht
        | cons d s =>
          rw [List.flatMap_cons] at ht
          rcases Json.escape_cases d with ⟨_, _, _, _, heq, -⟩ | ⟨_, -, heq, -⟩ | ⟨heq, -⟩
          · rw [heq] at ht
            exact absurd (List.cons.inj ht).1 (by decide)
          · rw [heq] at ht
            exact absurd (List.cons.inj ht).1 (by decide)
          · rw [heq] at ht
            exact hs s rfl (by rw [(List.cons.inj ht).1])
      rw [List.flatMap_cons, show Json.escape '*' = ['*'] from rfl, List.singleton_append, hstar]
      exact Json.Body.char '*' ih
    · have hstar : '*' ∉ Json.escape c := by
        intro h
        rcases Json.mem_escape h with ⟨h, -⟩ | h | h | h
        · exact hc h.symm
        · exact absurd h (by decide)
        · exact absurd h (by decide)
        · exact absurd h (by decide)
      rw [List.flatMap_cons, happend _ _ hstar]
      exact .char c ih
  | case3 => exact .nil

/-- Keeping comment ends out of JSON text changes nothing but the spelling of its strings. -/
theorem Json.Spelling.commentSafe : Json.Spelling TemplateTrace.commentSafe where
  nil := rfl
  cons s hc := commentSafe_cons s hc
  append_cons a _ b hc := commentSafe_append_cons a b hc
  body := body_commentSafe

/-! ## Payloads -/

namespace Marker

/-- A text in a string is read up to the closing quote. -/
theorem rawQuoted?_body {s t : Text} (h : Json.Body s t) (r : Text) :
    rawQuoted? (t ++ '"' :: r) = some (t ++ ['"'], r) := by
  induction h with
  | nil => rfl
  | slash _ ih => simp [rawQuoted?, ih]
  | @char c s t _ ih =>
    rcases Json.escape_cases c with ⟨a, b, d, e, heq, -, -, halpha⟩ | ⟨e, hmem, heq, -⟩ |
      ⟨heq, hq, hb, -⟩
    · have hne : ∀ x ∈ [a, b, d, e], x ≠ '"' ∧ x ≠ '\\' := by
        intro x hx
        refine ⟨?_, ?_⟩
        · rintro rfl
          exact absurd (halpha _ hx) (by decide)
        · rintro rfl
          exact absurd (halpha _ hx) (by decide)
      simp only [List.mem_cons, List.not_mem_nil, or_false, forall_eq_or_imp, forall_eq] at hne
      simp [heq, rawQuoted?, hne, ih]
    · have hne : e ≠ '\n' := by
        rintro rfl
        exact absurd hmem (by decide)
      simp [heq, rawQuoted?, hne, ih]
    · rw [heq, List.singleton_append, List.cons_append, rawQuoted?]
      · rw [ih]
        rfl
      · exact hq
      · exact hb

theorem rawString?_quote (s r : Text) :
    rawString? (commentSafe (Json.quote s) ++ r) = some (commentSafe (Json.quote s), r) := by
  rw [Json.Spelling.commentSafe.quote, List.append_assoc, List.cons_append, rawString?,
    List.singleton_append, rawQuoted?_body (body_commentSafe s)]
  rfl

theorem rawDigits?_decimal (n : Nat) {c : Char} (hc : Text.isDigit c = false) (r : Text) :
    rawDigits? (Text.decimal n ++ c :: r) = some (Text.decimal n, c :: r) := by
  refine rawDigits?_append_cons (Text.decimal_ne_nil n) (fun d hd => ?_) hc r
  rw [Text.isDigit, Text.isDigit_of_mem_decimal hd, Bool.true_or]

/-- The end of a comment is found behind a payload without comment ends. -/
theorem breakOn?_commentEnd {s : Text} (h : ¬ ['*', '/'] <:+: s) (r : Text) :
    Text.breakOn? " */".toList (s ++ (" */".toList ++ r)) = some (s, r) := by
  refine (Text.breakOn?_eq_some_iff (by decide)).2
    ⟨(List.append_assoc _ _ _).symm, fun hspan => h ?_⟩
  -- no comment end runs into the blank and the asterisk behind the payload
  have hend : ['*'] ++ ['/'] <:+: s ++ [' '] ++ ['*'] := by
    rw [List.append_assoc]
    exact (List.suffix_cons ' ' ['*', '/']).isInfix.trans hspan
  exact Text.infix_of_infix_concat (by decide) (Text.infix_of_infix_concat (by decide) hend)

theorem toWord32?_decimal (n : UInt32) : Text.toWord32? (Text.decimal n.toNat) = some n := by
  have hall : (Text.decimal n.toNat).all Char.isDigit = true :=
    List.all_eq_true.2 fun c => Text.isDigit_of_mem_decimal
  rw [Text.toWord32?, Text.toNat?, if_pos ⟨Text.decimal_ne_nil _, hall⟩, Option.bind_some,
    Text.appendDigits_decimal, if_pos n.toNat_lt_size, UInt32.ofNat_toNat]

end Marker

/-! ## Fields of records -/

namespace Json

theorem word32?_toNat (n : UInt32) : word32? (.nat n.toNat) = some n := by
  rw [word32?, if_pos n.toNat_lt_size, UInt32.ofNat_toNat]

theorem optionalText?_ofText? (s : Option Text) : optionalText? (ofText? s) = some s := by
  cases s <;> rfl

end Json

/-! ## Stacks -/

/-- A frame that is written as JSON is read back. -/
theorem Frame.ofJson?_toJson (f : Frame) : Frame.ofJson? f.toJson = some f := by
  obtain ⟨file, line, name⟩ := f
  have hrecord : Json.record? ["file".toList, "line".toList, "name".toList]
      (Frame.toJson ⟨file, line, name⟩) =
        some [some (.string file), some (.nat line.toNat), some (Json.ofText? name)] := rfl
  simp only [Frame.ofJson?, hrecord, Json.toText?, Json.word32?_toNat, Json.optionalText?_ofText?,
    Fields.orElse?, Option.bind_eq_bind, Option.bind_some]
  rfl

/-- Values that read back one by one read back as a list. -/
theorem mapM_map_eq_some {α β : Type} {write : α → β} {read? : β → Option α}
    (h : ∀ a, read? (write a) = some a) (as : List α) : (as.map write).mapM read? = some as := by
  induction as with
  | nil => rfl
  | cons a as ih => simp [List.mapM_cons, h, ih]

/-- The JSON of a stack describes that stack. -/
theorem stackOfJson?_stackToJson (stack : List Frame) :
    stackOfJson? (stackToJson stack) = some stack :=
  mapM_map_eq_some Frame.ofJson?_toJson stack

theorem Frame.plain_toJson (f : Frame) : f.toJson.plain = true := by
  obtain ⟨file, line, name⟩ := f
  cases name <;> rfl

theorem plain_stackToJson (stack : List Frame) : (stackToJson stack).plain = true :=
  Json.plainItems_map Frame.plain_toJson stack

/-! ## Comments -/

namespace Marker

/-- The raw payloads that the comment of a marker is made of. -/
def payloads (m : Marker) : Shape where
  name := commentSafe (Json.quote m.template)
  path := commentSafe (Json.quote m.path)
  line := Text.decimal m.line.toNat
  stack := commentSafe (stackJson m.stack)

theorem marker?_payloads (m : Marker) : m.payloads.marker? = some m := by
  have hstring : ∀ s : Text, Json.parse? (commentSafe (Json.quote s)) = some (.string s) :=
    fun s => Json.parse?_spelled Json.Spelling.commentSafe (v := .string s) rfl
  have hstack : Json.parse? (commentSafe (stackJson m.stack)) = some (stackToJson m.stack) :=
    Json.parse?_spelled Json.Spelling.commentSafe (plain_stackToJson m.stack)
  simp [payloads, Shape.marker?, hstring, hstack, Json.toText?, toWord32?_decimal,
    stackOfJson?_stackToJson]

/-- No line feed stands in a stack. -/
theorem not_mem_newline_stack (stack : List Frame) : '\n' ∉ commentSafe (stackJson stack) := by
  intro h
  rcases mem_commentSafe h with h | h
  · exact Json.not_mem_newline_compact _ (plain_stackToJson stack) h
  · exact absurd h (by decide)

/-- A marker has the shape of a marker, with its payloads, whatever stands behind it. -/
theorem shape?_encode_append (m : Marker) (r : Text) :
    shape? (m.encode ++ r) = some (m.payloads, r) := by
  have hdigits : ∀ t : Text, rawDigits? (Text.decimal m.line.toNat ++ (", stack=".toList ++ t)) =
      some (Text.decimal m.line.toNat, ", stack=".toList ++ t) := by
    have hcomma : Text.isDigit ',' = false := by decide
    rw [show ", stack=".toList = ',' :: " stack=".toList by simp]
    exact fun t => rawDigits?_decimal _ hcomma _
  have hnewline : (commentSafe (stackJson m.stack)).contains '\n' = false := by
    simpa using not_mem_newline_stack m.stack
  unfold shape? encode
  simp only [List.append_assoc, Text.after?_append, rawString?_quote, hdigits,
    breakOn?_commentEnd (not_infix_commentSafe _), Option.bind_eq_bind, Option.bind_some, hnewline,
    Bool.false_eq_true, if_false, payloads]

/-- **A comment reads back**: it is the marker that it was written for, whatever follows. -/
theorem decode?_encode_append (m : Marker) (r : Text) : decode? (m.encode ++ r) = some (m, r) := by
  simp only [decode?, shape?_encode_append, bind, Option.bind, marker?_payloads]
  rfl

theorem decode?_encode (m : Marker) : decode? m.encode = some (m, []) := by
  have h := decode?_encode_append m []
  rwa [List.append_nil] at h

theorem encode_eq_cons (m : Marker) : m.encode = '/' :: m.encode.tail := by
  unfold encode
  simp only [List.append_assoc]
  rw [show "/** template_name=".toList = '/' :: "** template_name=".toList by decide]
  rfl

/-- A comment stands on one line. -/
theorem not_mem_newline_encode (m : Marker) : '\n' ∉ m.encode := by
  have hquote : ∀ s : Text, '\n' ∉ commentSafe (Json.quote s) := by
    intro s h
    rcases mem_commentSafe h with h | h
    · exact Json.not_mem_newline_quote s h
    · exact absurd h (by decide)
  have hline : '\n' ∉ Text.decimal m.line.toNat :=
    fun h => absurd (Text.isDigit_of_mem_decimal h) (by decide)
  have hstack := not_mem_newline_stack m.stack
  unfold encode
  simp only [List.mem_append, not_or]
  refine ⟨⟨⟨⟨⟨⟨⟨⟨?_, hquote _⟩, ?_⟩, hquote _⟩, ?_⟩, hline⟩, ?_⟩, hstack⟩, ?_⟩ <;> simp

/-! ## The end of a comment -/

/-- Texts without comment ends, side by side: no comment ends where they meet, unless the second
one starts with a slash. -/
theorem not_infix_append {s t : Text} (hs : ¬ ['*', '/'] <:+: s) (ht : ¬ ['*', '/'] <:+: t)
    (hhead : t.head? ≠ some '/') : ¬ ['*', '/'] <:+: s ++ t := by
  rintro ⟨a, b, h⟩
  rw [List.append_assoc] at h
  rcases List.append_eq_append_iff.1 h with ⟨u, rfl, hu⟩ | ⟨u, rfl, rfl⟩
  · -- the occurrence starts in the first text
    match u, hu with
    | [], hu => exact ht ⟨[], b, by simpa using hu⟩
    | [c], hu =>
      obtain ⟨-, rfl⟩ := by simpa using hu
      exact hhead rfl
    | c :: d :: u, hu =>
      obtain ⟨rfl, rfl, -⟩ := by simpa using hu
      exact hs ⟨a, u, by simp⟩
  · exact ht ⟨u, b, by simp⟩

/-- A comment ends at its end and nowhere before. -/
theorem exists_encode_eq_append (m : Marker) :
    ∃ body, m.encode = body ++ ['*', '/'] ∧ ¬ ['*', '/'] <:+: body ++ ['*'] := by
  have hplain : ∀ {s : Text}, '/' ∉ s → ¬ ['*', '/'] <:+: s := fun hs h =>
    hs (h.subset (by simp))
  have hdigits : '/' ∉ Text.decimal m.line.toNat :=
    fun h => absurd (Text.isDigit_of_mem_decimal h) (by decide)
  have hstack : (commentSafe (stackJson m.stack)).head? ≠ some '/' := by
    intro h
    obtain ⟨t, ht⟩ := List.head?_eq_some_iff.1 h
    obtain ⟨s, hs⟩ := head_commentSafe ht
    cases hs
  have hquote : ∀ s : Text, (commentSafe (Json.quote s)).head? ≠ some '/' := by
    intro s
    rw [Json.Spelling.commentSafe.quote]
    simp
  refine ⟨"/** template_name=".toList ++ commentSafe (Json.quote m.template) ++
    ", template_path=".toList ++ commentSafe (Json.quote m.path) ++
    ", line=".toList ++ Text.decimal m.line.toNat ++
    ", stack=".toList ++ commentSafe (stackJson m.stack) ++ [' '], ?_, ?_⟩
  · unfold encode
    rw [show " */".toList = [' '] ++ ['*', '/'] by decide, ← List.append_assoc]
  · rw [List.append_assoc, List.singleton_append]
    -- one payload or one label more at each step, and no step puts a slash behind an asterisk
    refine not_infix_append ?_ (hplain (by decide)) (by simp)
    refine not_infix_append ?_ (not_infix_commentSafe _) hstack
    refine not_infix_append ?_ (hplain (by decide)) (by simp)
    refine not_infix_append ?_ (hplain hdigits) fun h => hdigits (List.mem_of_mem_head? h)
    refine not_infix_append ?_ (hplain (by decide)) (by simp)
    refine not_infix_append ?_ (not_infix_commentSafe _) (hquote _)
    refine not_infix_append ?_ (hplain (by decide)) (by simp)
    refine not_infix_append ?_ (not_infix_commentSafe _) (hquote _)
    simp [List.infix_cons_iff]

/-- **Markers round-trip, and their comments are closed once.** A comment reads back as its marker
and leaves what follows it; it is one line, and the only place at which it closes is its end. -/
theorem decode?_encode_append_and_closed_once (m : Marker) (tail : Text) :
    decode? (m.encode ++ tail) = some (m, tail) ∧ '\n' ∉ m.encode ∧
      ∃ body, ∀ a b, m.encode = a ++ "*/".toList ++ b ↔ a = body ∧ b = [] := by
  obtain ⟨body, hencode, hfree⟩ := m.exists_encode_eq_append
  have hclose : "*/".toList = ['*', '/'] := by decide
  refine ⟨m.decode?_encode_append tail, m.not_mem_newline_encode, body, fun a b => ⟨?_, ?_⟩⟩
  · rw [hencode, hclose]
    intro h
    cases List.eq_nil_or_concat b with
    | inl hb =>
      subst hb
      rw [List.append_nil] at h
      exact ⟨(List.append_cancel_right h).symm, rfl⟩
    | inr hb =>
      -- with more behind it, the occurrence lies in front of the last character
      obtain ⟨b, c, rfl⟩ := hb
      have hcut : body ++ ['*'] = a ++ ['*', '/'] ++ b := by
        have hdrop := congrArg List.dropLast h
        rwa [List.concat_eq_append, ← List.append_assoc, List.dropLast_concat,
          show body ++ ['*', '/'] = body ++ ['*'] ++ ['/'] by simp, List.dropLast_concat] at hdrop
      exact absurd ⟨a, b, hcut.symm⟩ hfree
  · rintro ⟨rfl, rfl⟩
    rw [hencode, hclose, List.append_nil]

end Marker

/-! ## Tagged templates -/

/-- A tag stands on its line, so that tagging keeps the lines of a template apart. -/
theorem lines_tagLines (source name path : Text) (stack : List Frame) :
    Text.lines (tagLines source name path stack) =
      (Text.lines source).mapIdx (tagLine name path stack) := by
  refine Text.lines_joinWith ?_ fun l hl => ?_
  · rw [Ne, List.mapIdx_eq_nil_iff]
    exact Text.splitOn_ne_nil '\n' source
  · obtain ⟨i, hi, rfl⟩ := List.mem_mapIdx.1 hl
    rw [tagLine, List.mem_append, not_or]
    exact ⟨Marker.not_mem_newline_encode _, Text.not_mem_of_mem_splitOn (List.getElem_mem hi)⟩

end TemplateTrace
