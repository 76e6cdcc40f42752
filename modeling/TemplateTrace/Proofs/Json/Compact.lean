import TemplateTrace.Json.Reader

/-!
# Reading compact JSON back

Compact JSON reads back as the value that it writes, also when its strings are spelled with the
optional escape of the slash behind an asterisk.

- `Json.Body`: the ways in which a text stands between the quotes of a JSON string.
- `Json.Spelling`: a change of JSON text that touches nothing but the insides of strings.
- `Json.plain`: the values without numbers beyond plain digits and without broken strings.
- `Json.value?_spelled`, `Json.parse?_spelled`: a plain value reads back from every spelling.
-/

namespace TemplateTrace

/-! ## Decimal digits -/

namespace Text

theorem isDigit_of_mem_decimal {n : Nat} {c : Char} (h : c ∈ decimal n) : c.isDigit = true :=
  Nat.isDigit_of_mem_toDigits (by decide) (by decide) h

theorem decimal_ne_nil (n : Nat) : decimal n ≠ [] := Nat.toDigits_ne_nil

theorem exists_decimal_cons (n : Nat) : ∃ d ds, decimal n = d :: ds ∧ d.isDigit = true := by
  cases hn : decimal n with
  | nil => exact absurd hn (decimal_ne_nil n)
  | cons d ds => exact ⟨d, ds, rfl, isDigit_of_mem_decimal (hn ▸ List.mem_cons_self)⟩

/-- The digits of a number write that number. -/
theorem appendDigits_decimal (n : Nat) : appendDigits 0 (decimal n) = n := by
  have h : ∀ (ds : Text) (m : Nat), appendDigits m ds = Nat.ofDigitChars 10 ds m := by
    intro ds
    induction ds with
    | nil => intro m; rfl
    | cons d ds ih =>
      intro m
      rw [Nat.ofDigitChars_cons, ← ih, Nat.mul_comm]
      rfl
  rw [h]
  exact Nat.ofDigitChars_ten_toDigits

/-- A number in digits has no leading zero unless it is zero. -/
theorem decimal_eq_zero_cons {n : Nat} {s : Text} (h : decimal n = '0' :: s) : s = [] := by
  induction n using Nat.strongRecOn generalizing s with
  | _ n ih =>
    by_cases hn : n < 10
    · rw [decimal, Nat.toDigits_of_lt_base hn] at h
      exact (List.cons.inj h).2.symm
    · have hsplit : decimal n = decimal (n / 10) ++ [Nat.digitChar (n % 10)] :=
        Nat.toDigits_of_base_le (by decide) (Nat.not_lt.1 hn)
      obtain ⟨d, ds, hd, -⟩ := exists_decimal_cons (n / 10)
      rw [hsplit, hd, List.cons_append] at h
      obtain ⟨rfl, -⟩ := List.cons.inj h
      -- the leading digit is that of `n / 10`, which then is zero
      have hds := ih (n / 10) (by omega) hd
      subst hds
      have hzero : n / 10 = 0 := by
        rw [← appendDigits_decimal (n / 10), hd]
        rfl
      omega

end Text

namespace Json

/-! ## Strings -/

/-- The ways in which a text stands between the quotes of a JSON string: each character escaped as
the writer escapes it, and a slash behind an asterisk escaped or not. -/
inductive Body : Text → Text → Prop where
  | nil : Body [] []
  | slash {s t : Text} : Body s t → Body ('*' :: '/' :: s) ('*' :: '\\' :: '/' :: t)
  | char (c : Char) {s t : Text} : Body s t → Body (c :: s) (escape c ++ t)

theorem body_flatMap_escape (s : Text) : Body s (s.flatMap escape) := by
  induction s with
  | nil => exact .nil
  | cons c s ih => exact .char c ih

/-- The shape of an escaped character: a control is a `\u` escape with its four digits, a few
characters are a letter behind a backslash, and all others stand for themselves. -/
theorem escape_cases (c : Char) :
    (∃ a b d e, escape c = ['\\', 'u', a, b, d, e] ∧ Text.hexNumber? [a, b, d, e] = some c.toNat ∧
        c.toNat < 32 ∧ ∀ x ∈ [a, b, d, e], x.isAlphanum = true) ∨
      (∃ e ∈ "\"\\nrtbf".toList, escape c = ['\\', e] ∧ unescape? e = some c) ∨
      (escape c = [c] ∧ c ≠ '"' ∧ c ≠ '\\' ∧ 32 ≤ c.toNat) := by
  have hcontrol : ∀ n : Nat, n < 32 → ∃ a b d e, hex4 n = [a, b, d, e] ∧
      Text.hexNumber? [a, b, d, e] = some n ∧ ∀ x ∈ [a, b, d, e], x.isAlphanum = true := by
    intro n hn
    have hlen : ∀ m : Fin 32, (hex4 m).length = 4 ∧ Text.hexNumber? (hex4 m) = some m.val ∧
        (hex4 m).all (·.isAlphanum) = true := by
      decide
    obtain ⟨h4, hnumber, hall⟩ := hlen ⟨n, hn⟩
    match hds : hex4 n, h4, hnumber, hall with
    | [a, b, d, e], _, hnumber, hall =>
      exact ⟨a, b, d, e, rfl, hnumber, List.all_eq_true.1 hall⟩
  unfold escape
  split
  · exact .inr (.inl ⟨'"', by decide, rfl, rfl⟩)
  · exact .inr (.inl ⟨'\\', by decide, rfl, rfl⟩)
  · exact .inr (.inl ⟨'n', by decide, rfl, rfl⟩)
  · exact .inr (.inl ⟨'r', by decide, rfl, rfl⟩)
  · exact .inr (.inl ⟨'t', by decide, rfl, rfl⟩)
  · exact .inr (.inl ⟨'b', by decide, rfl, rfl⟩)
  · exact .inr (.inl ⟨'f', by decide, rfl, rfl⟩)
  next hquote hback _ _ _ _ _ =>
    split
    next hlt =>
      obtain ⟨a, b, d, e, heq, hnum, halpha⟩ := hcontrol c.toNat hlt
      exact .inl ⟨a, b, d, e, by rw [heq], hnum, hlt, halpha⟩
    next hge => exact .inr (.inr ⟨rfl, hquote, hback, Nat.not_lt.1 hge⟩)

/-- Reading an escaped character gives one part of a string, which writes that character. -/
theorem stringParts?_escape (c : Char) (t : Text) :
    ∃ p, (∀ ps, joinParts? (p :: ps) = (joinParts? ps).map (c :: ·)) ∧
      stringParts? (escape c ++ t) = (stringParts? t).map fun (ps, r) => (p :: ps, r) := by
  rcases escape_cases c with ⟨a, b, d, e, heq, hnum, hlt, -⟩ | ⟨e, hmem, heq, he⟩ |
    ⟨heq, hq, hb, hge⟩
  · -- a control is no half of a surrogate pair, so that it is a character of its own
    refine ⟨.unit c.toNat, fun ps => ?_, ?_⟩
    · have hhigh : isHighSurrogate c.toNat = false := by
        simp only [isHighSurrogate, Bool.and_eq_false_iff, decide_eq_false_iff_not]
        omega
      have hlow : isLowSurrogate c.toNat = false := by
        simp only [isLowSurrogate, Bool.and_eq_false_iff, decide_eq_false_iff_not]
        omega
      rw [joinParts?.eq_def]
      simp [hhigh, hlow]
    · rw [heq]
      simp only [List.cons_append, List.nil_append, stringParts?, hnum]
      cases stringParts? t <;> rfl
  · refine ⟨.char c, fun ps => rfl, ?_⟩
    rw [heq]
    simp only [List.cons_append, List.nil_append]
    rw [stringParts?]
    · rw [he]
      cases stringParts? t <;> rfl
    · rintro a b c' d s rfl
      exact absurd hmem (by decide)
  · refine ⟨.char c, fun ps => rfl, ?_⟩
    rw [heq]
    simp only [List.cons_append, List.nil_append]
    rw [stringParts?]
    · rw [if_neg (Nat.not_lt.2 hge)]
    · exact hq
    · intro a b c' d s hcons
      exact absurd hcons hb
    · intro e s hcons
      exact absurd hcons hb

/-- A text reads back from every way in which it stands in a string. -/
theorem stringParts?_body {s t : Text} (h : Body s t) (r : Text) :
    ∃ ps, stringParts? (t ++ '"' :: r) = some (ps, r) ∧ joinParts? ps = some s := by
  induction h with
  | nil => exact ⟨[], rfl, rfl⟩
  | @slash s t _ ih =>
    obtain ⟨ps, hps, hjoin⟩ := ih
    refine ⟨.char '*' :: .char '/' :: ps, ?_, ?_⟩
    · simp [stringParts?, unescape?, hps]
    · simp [joinParts?, hjoin]
  | @char c s t _ ih =>
    obtain ⟨ps, hps, hjoin⟩ := ih
    obtain ⟨p, hp, hread⟩ := stringParts?_escape c (t ++ '"' :: r)
    refine ⟨p :: ps, ?_, ?_⟩
    · rw [List.append_assoc, hread, hps]
      rfl
    · rw [hp, hjoin]
      rfl

/-- The characters of an escape are the character itself, or are used in escapes only. -/
theorem mem_escape {x c : Char} (h : x ∈ escape c) :
    (x = c ∧ 32 ≤ x.toNat) ∨ x = '\\' ∨ x = '"' ∨ x.isAlphanum = true := by
  rcases escape_cases c with ⟨a, b, d, e, heq, -, -, halpha⟩ | ⟨e, hmem, heq, -⟩ | ⟨heq, -, -, hge⟩
  · rw [heq] at h
    rcases List.mem_cons.1 h with rfl | h
    · exact .inr (.inl rfl)
    · rcases List.mem_cons.1 h with rfl | h
      · exact .inr (.inr (.inr rfl))
      · exact .inr (.inr (.inr (halpha x h)))
  · rw [heq] at h
    rcases List.mem_cons.1 h with rfl | h
    · exact .inr (.inl rfl)
    · rw [List.mem_singleton.1 h]
      have hall : "\"\\nrtbf".toList.all
          (fun e => e == '\\' || (e == '"' || e.isAlphanum)) = true := by decide
      have he := List.all_eq_true.1 hall e hmem
      simp only [Bool.or_eq_true, beq_iff_eq] at he
      exact .inr he
  · rw [heq] at h
    rw [List.mem_singleton.1 h]
    exact .inl ⟨rfl, hge⟩

/-- No line feed stands in a string. -/
theorem Body.not_mem_newline {s t : Text} (h : Body s t) : '\n' ∉ t := by
  induction h with
  | nil => exact List.not_mem_nil
  | slash _ ih => simpa using ih
  | char c _ ih =>
    refine fun hmem => (List.mem_append.1 hmem).elim (fun hmem => ?_) ih
    rcases mem_escape hmem with ⟨-, h⟩ | h | h | h <;> exact absurd h (by decide)

theorem not_mem_newline_quote (s : Text) : '\n' ∉ quote s := by
  have h := (body_flatMap_escape s).not_mem_newline
  simp only [quote, List.cons_append, List.mem_cons, List.mem_append, List.not_mem_nil, or_false]
  rintro (h' | h' | h')
  · exact absurd h' (by decide)
  · exact h h'
  · exact absurd h' (by decide)

/-! ## Spellings -/

/-- A change of JSON text that leaves all as it is outside of strings, and inside them changes only
how a text stands there. -/
structure Spelling (f : Text → Text) : Prop where
  nil : f [] = []
  cons : ∀ {c : Char} (s : Text), c ≠ '*' → f (c :: s) = c :: f s
  append_cons : ∀ (a : Text) {c : Char} (b : Text), c ≠ '/' → f (a ++ c :: b) = f a ++ f (c :: b)
  body : ∀ s : Text, Body s (f (s.flatMap escape))

/-- Text as the writer spells it. -/
theorem Spelling.id : Spelling fun s => s where
  nil := rfl
  cons _ _ := rfl
  append_cons _ _ _ _ := rfl
  body := body_flatMap_escape

namespace Spelling

variable {f : Text → Text} (hf : Spelling f)
include hf

/-- A character outside of strings stays in its place. -/
theorem append_cons_self (a : Text) {c : Char} (b : Text) (hc : c ≠ '/' ∧ c ≠ '*') :
    f (a ++ c :: b) = f a ++ c :: f b := by
  rw [hf.append_cons a b hc.1, hf.cons b hc.2]

theorem eq_self {s : Text} (h : '*' ∉ s) : f s = s := by
  induction s with
  | nil => exact hf.nil
  | cons c s ih =>
    rw [List.mem_cons, not_or] at h
    rw [hf.cons s (Ne.symm h.1), ih h.2]

theorem decimal (n : Nat) : f (Text.decimal n) = Text.decimal n := by
  refine hf.eq_self fun h => ?_
  exact absurd (Text.isDigit_of_mem_decimal h) (by decide)

theorem quote (s : Text) : f (Json.quote s) = '"' :: f (s.flatMap escape) ++ ['"'] := by
  rw [Json.quote, List.cons_append, hf.cons _ (by decide),
    hf.append_cons_self _ [] ⟨by decide, by decide⟩, hf.nil, List.cons_append]

end Spelling

/-! ## Plain values -/

mutual

/-- A value that its compact text determines: numbers are plain digits and strings are texts. -/
def plain : Json → Bool
  | number _ => false
  | broken => false
  | array vs => plainItems vs
  | object fs => plainFields fs
  | _ => true

/-- Whether every item is plain. -/
def plainItems : List Json → Bool
  | [] => true
  | v :: vs => plain v && plainItems vs

/-- Whether every field is plain. -/
def plainFields : List (Text × Json) → Bool
  | [] => true
  | (_, v) :: fs => plain v && plainFields fs

end

theorem plainItems_map {α : Type} {toJson : α → Json} (h : ∀ a, (toJson a).plain = true)
    (as : List α) : plainItems (as.map toJson) = true := by
  induction as with
  | nil => rfl
  | cons a as ih =>
    rw [List.map_cons, plainItems, h a, ih]
    rfl

/-- What may follow a value inside a text: nothing, a comma or a closing bracket. -/
def Follows (r : Text) : Prop := ∀ c s, r = c :: s → c = ',' ∨ c = ']' ∨ c = '}'

theorem follows_nil : Follows [] := by
  intro c s h
  cases h

theorem follows_cons {c : Char} (hc : c = ',' ∨ c = ']' ∨ c = '}') (s : Text) :
    Follows (c :: s) := by
  intro c' s' h
  obtain ⟨rfl, -⟩ := List.cons.inj h
  exact hc

theorem Follows.isDigit {r : Text} (h : Follows r) : ∀ c s, r = c :: s → c.isDigit = false := by
  intro c s hr
  rcases h c s hr with rfl | rfl | rfl <;> decide

/-- The digits of a number end where no digit follows. -/
theorem takeWhile_isDigit_decimal {n : Nat} {r : Text}
    (hr : ∀ c s, r = c :: s → c.isDigit = false) :
    (Text.decimal n ++ r).takeWhile Char.isDigit = Text.decimal n ∧
      (Text.decimal n ++ r).dropWhile Char.isDigit = r := by
  have hall : ∀ c ∈ Text.decimal n, c.isDigit = true := fun c => Text.isDigit_of_mem_decimal
  rw [List.takeWhile_append_of_pos hall, List.dropWhile_append_of_pos hall]
  cases r with
  | nil => simp
  | cons c s => simp [hr c s rfl]

theorem digits?_decimal {n : Nat} {r : Text} (hr : ∀ c s, r = c :: s → c.isDigit = false) :
    digits? (Text.decimal n ++ r) = some (Text.decimal n, r) := by
  obtain ⟨htake, hdrop⟩ := takeWhile_isDigit_decimal (n := n) hr
  rw [digits?, htake, hdrop]
  obtain ⟨d, ds, hn, -⟩ := Text.exists_decimal_cons n
  rw [hn]

/-- A number in digits reads back. -/
theorem number?_decimal (n : Nat) {r : Text} (hr : Follows r) :
    number? (Text.decimal n ++ r) = some (.nat n, r) := by
  obtain ⟨d, ds, hn, hd⟩ := Text.exists_decimal_cons n
  -- nothing that follows a value goes on with a number
  have hfraction : fraction? r = some ([], r) := by
    cases r with
    | nil => rfl
    | cons c s => rcases hr c s rfl with rfl | rfl | rfl <;> rfl
  have hexponent : exponent? r = some ([], r) := by
    cases r with
    | nil => rfl
    | cons c s => rcases hr c s rfl with rfl | rfl | rfl <;> rfl
  have hunsigned : unsigned? (Text.decimal n ++ r) = some (Text.decimal n, [], r) := by
    unfold unsigned?
    split
    next r' h =>
      rw [hn, List.cons_append] at h
      obtain ⟨rfl, rfl⟩ := List.cons.inj h
      have hds := Text.decimal_eq_zero_cons hn
      subst hds
      simp [hn, hfraction, hexponent]
    · simp [digits?_decimal hr.isDigit, hfraction, hexponent]
  rw [hn, List.cons_append] at hunsigned ⊢
  rw [number?]
  · rw [hunsigned, ← hn]
    simp [Text.appendDigits_decimal]
  · rintro s h
    exact absurd ((List.cons.inj h).1 ▸ hd) (by decide)

mutual

/-- A plain value stands on one line. -/
theorem not_mem_newline_compact : ∀ v : Json, v.plain = true → '\n' ∉ v.compact
  | .null, _ => by decide
  | .bool true, _ => by decide
  | .bool false, _ => by decide
  | .nat n, _ => fun h => absurd (Text.isDigit_of_mem_decimal h) (by decide)
  | .number _, hv => by cases hv
  | .string s, _ => not_mem_newline_quote s
  | .broken, hv => by cases hv
  | .array vs, hv => by
    have h := not_mem_newline_compactItems vs hv
    simpa [compact] using h
  | .object fs, hv => by
    have h := not_mem_newline_compactFields fs hv
    simpa [compact] using h

/-- Items are written without line feeds. -/
theorem not_mem_newline_compactItems : ∀ vs : List Json, plainItems vs = true →
    '\n' ∉ compactItems vs
  | [], _ => List.not_mem_nil
  | [v], hv => by
    rw [plainItems, Bool.and_eq_true] at hv
    exact not_mem_newline_compact v hv.1
  | v :: w :: vs, hv => by
    rw [plainItems, Bool.and_eq_true] at hv
    have h₁ := not_mem_newline_compact v hv.1
    have h₂ := not_mem_newline_compactItems (w :: vs) hv.2
    simp [compactItems, h₁, h₂]

/-- Fields are written without line feeds. -/
theorem not_mem_newline_compactFields : ∀ fs : List (Text × Json), plainFields fs = true →
    '\n' ∉ compactFields fs
  | [], _ => List.not_mem_nil
  | [(k, v)], hv => by
    rw [plainFields, Bool.and_eq_true] at hv
    have h₁ := not_mem_newline_compact v hv.1
    simp [compactFields, not_mem_newline_quote k, h₁]
  | (k, v) :: g :: fs, hv => by
    rw [plainFields, Bool.and_eq_true] at hv
    have h₁ := not_mem_newline_compact v hv.1
    have h₂ := not_mem_newline_compactFields (g :: fs) hv.2
    simp [compactFields, not_mem_newline_quote k, h₁, h₂]

end

/-! ## Values -/

/-- A value that starts with a digit is a number. -/
theorem value?_eq_number? {n : Nat} {d : Char} {s : Text} (hd : d.isDigit = true) :
    value? (n + 1) (d :: s) = number? (d :: s) := by
  have hne : ∀ c : Char, c.isDigit = false → d ≠ c := by
    rintro c hc rfl
    exact absurd hd (by rw [hc]; decide)
  rw [value?.eq_def]
  dsimp only
  split
  next h => exact absurd (List.cons.inj h).1 (hne 'n' rfl)
  next h => exact absurd (List.cons.inj h).1 (hne 't' rfl)
  next h => exact absurd (List.cons.inj h).1 (hne 'f' rfl)
  next h => exact absurd (List.cons.inj h).1 (hne '"' rfl)
  next h => exact absurd (List.cons.inj h).1 (hne '[' rfl)
  next h => exact absurd (List.cons.inj h).1 (hne '\x7b' rfl)
  · rfl

theorem value?_quoted {n : Nat} {s t : Text} (h : Body s t) (r : Text) :
    value? (n + 1) ('"' :: t ++ '"' :: r) = some (.string s, r) := by
  obtain ⟨ps, hps, hjoin⟩ := stringParts?_body h r
  simp [value?, hps, hjoin]

/-- The fields that were read with their names are the fields of the object. -/
theorem ofFields_map_some (fs : List (Text × Json)) :
    ofFields (fs.map fun (k, v) => (some k, v)) = .object fs := by
  have h : ((fs.map fun (k, v) => ((some k, v) : Option Text × Json)).mapM fun f =>
      f.1.map (·, f.2)) = some fs := by
    induction fs with
    | nil => rfl
    | cons f fs ih => simp [List.mapM_cons, ih]
  rw [ofFields, h]
  rfl

section Reading

variable {f : Text → Text} (hf : Spelling f)
include hf

/-- A value starts with a character that is neither a blank nor closes an array. -/
theorem exists_head_spelled {v : Json} (hv : v.plain = true) :
    ∃ c t, f v.compact = c :: t ∧ Text.isAsciiBlank c = false ∧ c ≠ ']' := by
  cases v with
  | null => exact ⟨'n', "ull".toList, hf.eq_self (by decide), rfl, by decide⟩
  | bool b =>
    cases b with
    | true => exact ⟨'t', "rue".toList, hf.eq_self (by decide), rfl, by decide⟩
    | false => exact ⟨'f', "alse".toList, hf.eq_self (by decide), rfl, by decide⟩
  | nat n =>
    obtain ⟨d, ds, hn, hd⟩ := Text.exists_decimal_cons n
    refine ⟨d, ds, by rw [compact, hf.decimal, hn], ?_, ?_⟩
    · refine Bool.eq_false_iff.2 fun h => ?_
      simp only [Text.isAsciiBlank, Bool.or_eq_true, beq_iff_eq] at h
      rcases h with ((rfl | rfl) | rfl) | rfl <;> exact absurd hd (by decide)
    · rintro rfl
      exact absurd hd (by decide)
  | number l => cases hv
  | string s => exact ⟨'"', _, hf.quote s, rfl, by decide⟩
  | broken => cases hv
  | array vs => exact ⟨'[', _, hf.cons _ (by decide), rfl, by decide⟩
  | object fs => exact ⟨'\x7b', _, hf.cons _ (by decide), rfl, by decide⟩

theorem skip_spelled {v : Json} (hv : v.plain = true) (r : Text) :
    skip (f v.compact ++ r) = f v.compact ++ r := by
  obtain ⟨c, t, heq, hc, -⟩ := exists_head_spelled hf hv
  rw [heq, List.cons_append, skip, List.dropWhile_cons_of_neg (by simp [hc])]

/-- Items that are written start with no blank, and not with the end of the list. -/
theorem exists_head_items {vs : List Json} (hne : vs ≠ []) (hvs : plainItems vs = true) :
    ∃ c t, f (compactItems vs) = c :: t ∧ Text.isAsciiBlank c = false ∧ c ≠ ']' := by
  match vs, hne, hvs with
  | [v], _, hv =>
    rw [plainItems, Bool.and_eq_true] at hv
    exact exists_head_spelled hf hv.1
  | v :: w :: vs, _, hv =>
    rw [plainItems, Bool.and_eq_true] at hv
    obtain ⟨c, t, heq, hc⟩ := exists_head_spelled hf hv.1
    refine ⟨c, t ++ ',' :: f (compactItems (w :: vs)), ?_, hc⟩
    rw [compactItems, hf.append_cons_self _ _ ⟨by decide, by decide⟩, heq, List.cons_append]
    exact List.cons_ne_nil _ _

/-- Fields that are written start with a quote. -/
theorem exists_head_fields {fs : List (Text × Json)} (hne : fs ≠ []) :
    ∃ t, f (compactFields fs) = '"' :: t := by
  match fs, hne with
  | [(k, v)], _ =>
    rw [compactFields, hf.append_cons_self _ _ ⟨by decide, by decide⟩, hf.quote]
    exact ⟨_, rfl⟩
  | (k, v) :: g :: fs, _ =>
    rw [compactFields, List.append_assoc, List.cons_append,
      hf.append_cons_self _ _ ⟨by decide, by decide⟩, hf.quote]
    · exact ⟨_, rfl⟩
    · exact List.cons_ne_nil _ _

/-- One field reads back, and what follows it says whether there are more. -/
theorem fields?_field {k : Text} {v : Json} {n : Nat} {c : Char} {r : Text} (hv : v.plain = true)
    (hc : c = ',' ∨ c = '\x7d') (hvalue : value? n (f v.compact ++ c :: r) = some (v, c :: r)) :
    fields? (n + 1) (f (Json.quote k) ++ ':' :: (f v.compact ++ c :: r)) =
      if c = ',' then (fields? n r).bind fun p => some ((some k, v) :: p.1, p.2)
      else some ([(some k, v)], r) := by
  obtain ⟨ps, hps, hjoin⟩ := stringParts?_body (hf.body k) (':' :: (f v.compact ++ c :: r))
  have hquote : f (Json.quote k) ++ ':' :: (f v.compact ++ c :: r) =
      '"' :: (f (k.flatMap escape) ++ '"' :: ':' :: (f v.compact ++ c :: r)) := by
    rw [hf.quote]
    simp
  have hskip : ∀ t : Text, skip ('"' :: t) = '"' :: t := fun t =>
    List.dropWhile_cons_of_neg (by decide)
  have hcolon : ∀ t : Text, skip (':' :: t) = ':' :: t := fun t =>
    List.dropWhile_cons_of_neg (by decide)
  have hafter : skip (c :: r) = c :: r := by
    rcases hc with rfl | rfl <;> exact List.dropWhile_cons_of_neg (by decide)
  rw [hquote, fields?, hskip]
  simp only [bind, Option.bind, hps, hcolon, skip_spelled hf hv, hvalue, hafter, hjoin]
  rcases hc with rfl | rfl
  · rfl
  · rfl

mutual

/-- A plain value reads back from every spelling of its compact text, whatever follows it. Its
length suffices as the bound on the calls. -/
theorem value?_spelled : ∀ (v : Json) (n : Nat) (r : Text), v.plain = true →
    (f v.compact).length ≤ n → Follows r → value? n (f v.compact ++ r) = some (v, r)
  | v, 0, r, hv, hn, _ => by
    -- no value is an empty text
    obtain ⟨c, t, heq, -, -⟩ := exists_head_spelled hf hv
    rw [heq] at hn
    exact absurd hn (Nat.not_succ_le_zero _)
  | .null, n + 1, r, _, _, _ => by
    rw [hf.eq_self (s := Json.null.compact) (by decide)]
    rfl
  | .bool true, n + 1, r, _, _, _ => by
    rw [hf.eq_self (s := (Json.bool true).compact) (by decide)]
    rfl
  | .bool false, n + 1, r, _, _, _ => by
    rw [hf.eq_self (s := (Json.bool false).compact) (by decide)]
    rfl
  | .nat m, n + 1, r, _, _, hr => by
    have hread := number?_decimal m hr
    obtain ⟨d, ds, hm, hd⟩ := Text.exists_decimal_cons m
    rw [compact, hf.decimal, hm, List.cons_append, value?_eq_number? hd, ← List.cons_append, ← hm,
      hread]
  | .number _, _ + 1, _, hv, _, _ => by cases hv
  | .broken, _ + 1, _, hv, _, _ => by cases hv
  | .string s, n + 1, r, _, _, _ => by
    rw [compact, hf.quote, List.append_assoc, List.singleton_append]
    exact value?_quoted (hf.body s) r
  | .array [], n + 1, r, _, _, _ => by
    rw [hf.eq_self (s := (Json.array []).compact) (by decide)]
    rfl
  | .array (v :: vs), n + 1, r, hv, hn, _ => by
    have htext : f (Json.array (v :: vs)).compact =
        '[' :: (f (compactItems (v :: vs)) ++ [']']) := by
      rw [compact, List.cons_append, hf.cons _ (by decide),
        hf.append_cons_self _ [] ⟨by decide, by decide⟩, hf.nil]
    rw [htext] at hn ⊢
    have hlen : (f (compactItems (v :: vs))).length + 1 ≤ n := by
      simp only [List.length_cons, List.length_append, List.length_nil] at hn
      omega
    have hitems := items?_spelled (v :: vs) n r (List.cons_ne_nil _ _) hv hlen
    obtain ⟨c, t, heq, hblank, hclose⟩ := exists_head_items hf (List.cons_ne_nil v vs) hv
    have happend : '[' :: (f (compactItems (v :: vs)) ++ [']']) ++ r =
        '[' :: c :: (t ++ ']' :: r) := by
      rw [heq]
      simp
    have hskip : skip (c :: (t ++ ']' :: r)) = c :: (t ++ ']' :: r) :=
      List.dropWhile_cons_of_neg (by simp [hblank])
    rw [heq, List.cons_append] at hitems
    rw [happend, value?, hskip]
    split
    next r' h => exact absurd (List.cons.inj h).1 hclose
    · rw [hitems]
      rfl
  | .object [], n + 1, r, _, _, _ => by
    rw [hf.eq_self (s := (Json.object []).compact) (by decide)]
    rfl
  | .object ((k, v) :: fs), n + 1, r, hv, hn, _ => by
    have htext : f (Json.object ((k, v) :: fs)).compact =
        '\x7b' :: (f (compactFields ((k, v) :: fs)) ++ ['\x7d']) := by
      rw [compact, List.cons_append, hf.cons _ (by decide),
        hf.append_cons_self _ [] ⟨by decide, by decide⟩, hf.nil]
    rw [htext] at hn ⊢
    have hlen : (f (compactFields ((k, v) :: fs))).length + 1 ≤ n := by
      simp only [List.length_cons, List.length_append, List.length_nil] at hn
      omega
    have hfields := fields?_spelled ((k, v) :: fs) n r (List.cons_ne_nil _ _) hv hlen
    obtain ⟨t, heq⟩ := exists_head_fields hf (List.cons_ne_nil (k, v) fs)
    have happend : '\x7b' :: (f (compactFields ((k, v) :: fs)) ++ ['\x7d']) ++ r =
        '\x7b' :: '"' :: (t ++ '\x7d' :: r) := by
      rw [heq]
      simp
    have hskip : skip ('"' :: (t ++ '\x7d' :: r)) = '"' :: (t ++ '\x7d' :: r) :=
      List.dropWhile_cons_of_neg (by decide)
    rw [heq, List.cons_append] at hfields
    rw [happend, value?, hskip]
    show (fields? n ('"' :: (t ++ '\x7d' :: r))).map _ = _
    rw [hfields, ← ofFields_map_some]
    rfl

/-- Items that are spelled as the JSON writer spells them are read back, up to the bracket behind
them. -/
theorem items?_spelled : ∀ (vs : List Json) (n : Nat) (r : Text), vs ≠ [] →
    plainItems vs = true → (f (compactItems vs)).length + 1 ≤ n →
    items? n (f (compactItems vs) ++ ']' :: r) = some (vs, r)
  | [], _, _, hne, _, _ => absurd rfl hne
  | _ :: _, 0, _, _, _, hn => absurd hn (Nat.not_succ_le_zero _)
  | [v], n + 1, r, _, hv, hn => by
    rw [plainItems, Bool.and_eq_true] at hv
    rw [compactItems] at hn ⊢
    have hvalue := value?_spelled v n (']' :: r) hv.1 (by omega)
      (follows_cons (.inr (.inl rfl)) r)
    rw [items?, skip_spelled hf hv.1, hvalue]
    rfl
  | v :: w :: vs, n + 1, r, _, hv, hn => by
    rw [plainItems, Bool.and_eq_true] at hv
    have htext : f (compactItems (v :: w :: vs)) =
        f v.compact ++ ',' :: f (compactItems (w :: vs)) := by
      rw [compactItems, hf.append_cons_self _ _ ⟨by decide, by decide⟩]
      exact List.cons_ne_nil _ _
    rw [htext] at hn ⊢
    simp only [List.length_append, List.length_cons] at hn
    have hvalue := value?_spelled v n (',' :: (f (compactItems (w :: vs)) ++ ']' :: r)) hv.1
      (by omega) (follows_cons (.inl rfl) _)
    have hitems := items?_spelled (w :: vs) n r (List.cons_ne_nil _ _) hv.2 (by omega)
    rw [List.append_assoc, List.cons_append, items?, skip_spelled hf hv.1, hvalue]
    have hskip : skip (',' :: (f (compactItems (w :: vs)) ++ ']' :: r)) =
        ',' :: (f (compactItems (w :: vs)) ++ ']' :: r) :=
      List.dropWhile_cons_of_neg (by decide)
    simp only [bind, Option.bind, hskip, hitems]

/-- Fields that are spelled as the JSON writer spells them are read back, up to the brace behind
them. -/
theorem fields?_spelled : ∀ (fs : List (Text × Json)) (n : Nat) (r : Text), fs ≠ [] →
    plainFields fs = true → (f (compactFields fs)).length + 1 ≤ n →
    fields? n (f (compactFields fs) ++ '\x7d' :: r) =
      some (fs.map fun (k, v) => (some k, v), r)
  | [], _, _, hne, _, _ => absurd rfl hne
  | _ :: _, 0, _, _, _, hn => absurd hn (Nat.not_succ_le_zero _)
  | [(k, v)], n + 1, r, _, hv, hn => by
    rw [plainFields, Bool.and_eq_true] at hv
    -- the last field, behind which the object ends
    have htext : f (compactFields [(k, v)]) = f (Json.quote k) ++ ':' :: f v.compact := by
      rw [compactFields, hf.append_cons_self _ _ ⟨by decide, by decide⟩]
    rw [htext] at hn ⊢
    simp only [List.length_append, List.length_cons] at hn
    have hvalue := value?_spelled v n ('\x7d' :: r) hv.1 (by omega)
      (follows_cons (.inr (.inr rfl)) r)
    rw [List.append_assoc, List.cons_append, fields?_field hf hv.1 (.inr rfl) hvalue]
    rfl
  | (k, v) :: g :: fs, n + 1, r, _, hv, hn => by
    rw [plainFields, Bool.and_eq_true] at hv
    -- a field and those behind its comma
    have htext : f (compactFields ((k, v) :: g :: fs)) =
        f (Json.quote k) ++ ':' :: (f v.compact ++ ',' :: f (compactFields (g :: fs))) := by
      rw [compactFields, List.append_assoc, List.cons_append,
        hf.append_cons_self _ _ ⟨by decide, by decide⟩,
        hf.append_cons_self _ _ ⟨by decide, by decide⟩]
      exact List.cons_ne_nil _ _
    rw [htext] at hn ⊢
    simp only [List.length_append, List.length_cons] at hn
    have hvalue := value?_spelled v n (',' :: (f (compactFields (g :: fs)) ++ '\x7d' :: r)) hv.1
      (by omega) (follows_cons (.inl rfl) _)
    have hfields := fields?_spelled (g :: fs) n r (List.cons_ne_nil _ _) hv.2 (by omega)
    rw [List.append_assoc, List.cons_append, List.append_assoc, List.cons_append,
      fields?_field hf hv.1 (.inl rfl) hvalue, if_pos rfl, hfields]
    rfl

end

/-- A plain value reads back from a text that holds nothing else. -/
theorem parse?_spelled {v : Json} (hv : v.plain = true) : parse? (f v.compact) = some v := by
  have hskip : skip (f v.compact) = f v.compact := by
    simpa using skip_spelled hf hv []
  have hvalue := value?_spelled hf v (2 * (f v.compact).length + 1) [] hv (by omega) follows_nil
  rw [List.append_nil] at hvalue
  rw [parse?, hskip, hvalue]
  rfl

end Reading

/-- A plain value reads back from its compact text. -/
theorem parse?_compact {v : Json} (hv : v.plain = true) : parse? v.compact = some v :=
  parse?_spelled Spelling.id hv

end Json

end TemplateTrace
