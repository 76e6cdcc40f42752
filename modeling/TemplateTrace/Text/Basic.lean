/-!
# Texts

A text is the list of its characters, and every reader of the library takes the front of a text
off and returns what is left. Offsets are measured in UTF-8 bytes, the unit in which reports count.

- `Text.bytes`: the length of a text in bytes.
- `Text.cut?`: the two parts of a text at a byte offset.
- `Text.after?`, `Text.breakOn?`: what follows a given start, and the first occurrence of a part.
- `Text.search`: the first place at which a recogniser succeeds.
- `Text.lines`, `Text.joinWith`: the pieces between line feeds, and pieces put together again.
-/

namespace TemplateTrace

/-- A text is the list of its characters. -/
abbrev Text := List Char

namespace Text

/-! ## Byte offsets -/

/-- The length of a text in UTF-8 bytes. -/
def bytes (s : Text) : Nat := s.foldr (fun c n => c.utf8Size + n) 0

@[simp] theorem bytes_nil : bytes [] = 0 := rfl

@[simp] theorem bytes_cons (c : Char) (s : Text) : bytes (c :: s) = c.utf8Size + bytes s := rfl

@[simp] theorem bytes_append (a b : Text) : bytes (a ++ b) = bytes a + bytes b := by
  induction a with
  | nil => simp
  | cons c a ih => rw [List.cons_append, bytes_cons, bytes_cons, ih, Nat.add_assoc]

/-- Cuts a text at a byte offset. There is no cut inside a character or past the end. -/
def cut? : Text → Nat → Option (Text × Text)
  | s, 0 => some ([], s)
  | [], _ + 1 => none
  | c :: s, n + 1 =>
    if c.utf8Size ≤ n + 1 then
      (cut? s (n + 1 - c.utf8Size)).map fun (a, b) => (c :: a, b)
    else none

/-- A cut loses nothing, and its first part has the length asked for. -/
theorem cut?_eq_some {s : Text} {n : Nat} {a b : Text} (h : cut? s n = some (a, b)) :
    s = a ++ b ∧ bytes a = n := by
  fun_induction cut? s n generalizing a b with
  | case1 s =>
    obtain ⟨rfl, rfl⟩ := by simpa using h
    simp
  | case2 n => simp at h
  | case3 c s n hc ih =>
    obtain ⟨⟨a', b'⟩, hcut, heq⟩ := Option.map_eq_some_iff.1 h
    obtain ⟨rfl, rfl⟩ := by simpa using heq
    obtain ⟨rfl, hb⟩ := ih hcut
    exact ⟨rfl, by simp only [bytes_cons, hb]; omega⟩
  | case4 c s n hc => simp at h

/-- Cuts a text at the first character that starts at or after a byte offset. -/
def cutFrom : Text → Nat → Text × Text
  | s, 0 => ([], s)
  | [], _ + 1 => ([], [])
  | c :: s, n + 1 =>
    let (a, b) := cutFrom s (n + 1 - c.utf8Size)
    (c :: a, b)

/-! ## Starts and occurrences -/

/-- What follows `p` in a text that starts with `p`. -/
def after? : Text → Text → Option Text
  | [], s => some s
  | _ :: _, [] => none
  | p :: ps, c :: s => if p = c then after? ps s else none

theorem after?_eq_some_iff {p s r : Text} : after? p s = some r ↔ s = p ++ r := by
  fun_induction after? p s with
  | case1 s => simp [eq_comm]
  | case2 p ps => simp
  | case3 p ps s ih => simp [ih]
  | case4 p ps c s h => simpa using fun h' => absurd h'.symm h

/-- The parts of a text before and after the first occurrence of `p`. -/
def breakOn? (p : Text) : Text → Option (Text × Text)
  | [] => (after? p []).map ([], ·)
  | c :: s =>
    match after? p (c :: s) with
    | some r => some ([], r)
    | none => (breakOn? p s).map fun (a, b) => (c :: a, b)

/-- Breaking a text loses nothing but the occurrence. -/
theorem breakOn?_eq_some {p s a b : Text} (h : breakOn? p s = some (a, b)) :
    s = a ++ p ++ b := by
  fun_induction breakOn? p s generalizing a b with
  | case1 =>
    obtain ⟨r, hr, heq⟩ := Option.map_eq_some_iff.1 h
    obtain ⟨rfl, rfl⟩ := by simpa using heq
    simpa using after?_eq_some_iff.1 hr
  | case2 c s r hr =>
    obtain ⟨rfl, rfl⟩ := by simpa using h
    simpa using after?_eq_some_iff.1 hr
  | case3 c s _ ih =>
    obtain ⟨⟨a', b'⟩, hb, heq⟩ := Option.map_eq_some_iff.1 h
    obtain ⟨rfl, rfl⟩ := by simpa using heq
    simpa using ih hb

/-- The first place of a text at which a recogniser succeeds: the text before it, and the answer.
The recogniser sees the character in front of its place and the text from there on. -/
def search {α : Type} (recognise : Option Char → Text → Option α) :
    Option Char → Text → Option (Text × α)
  | prev, [] => (recognise prev []).map ([], ·)
  | prev, c :: s =>
    match recognise prev (c :: s) with
    | some a => some ([], a)
    | none => (search recognise (some c) s).map fun (b, a) => (c :: b, a)

/-- A search ends at a place of the text where the recogniser gives its answer. -/
theorem search_eq_some {α : Type} {m : Option Char → Text → Option α} {prev : Option Char}
    {s b : Text} {a : α} (h : search m prev s = some (b, a)) :
    ∃ p t, s = b ++ t ∧ m p t = some a := by
  fun_induction search m prev s generalizing b a with
  | case1 prev =>
    obtain ⟨a', ha, heq⟩ := Option.map_eq_some_iff.1 h
    obtain ⟨rfl, rfl⟩ := by simpa using heq
    exact ⟨prev, [], rfl, ha⟩
  | case2 prev c s a' ha =>
    obtain ⟨rfl, rfl⟩ := by simpa using h
    exact ⟨prev, c :: s, rfl, ha⟩
  | case3 prev c s _ ih =>
    obtain ⟨⟨b', a'⟩, hs, heq⟩ := Option.map_eq_some_iff.1 h
    obtain ⟨rfl, rfl⟩ := by simpa using heq
    obtain ⟨p, t, rfl, ht⟩ := ih hs
    exact ⟨p, t, rfl, ht⟩

/-- The part of `s` in front of its ending `rest`. -/
def upTo (s rest : Text) : Text := s.take (s.length - rest.length)

@[simp] theorem upTo_append (a rest : Text) : upTo (a ++ rest) rest = a := by
  simp [upTo]

theorem upTo_append_append (a b rest : Text) : upTo (a ++ (b ++ rest)) rest = a ++ b := by
  rw [← List.append_assoc, upTo_append]

/-- The last character of a text, or the one in front of the text when it is empty. -/
def lastOr (prev : Option Char) (s : Text) : Option Char := s.getLast? <|> prev

/-! ## Pieces -/

/-- The pieces of a text between occurrences of `sep`; there is always at least one. -/
def splitOn (sep : Char) : Text → List Text
  | [] => [[]]
  | c :: s =>
    if c = sep then [] :: splitOn sep s
    else match splitOn sep s with
      | [] => [[c]]
      | l :: ls => (c :: l) :: ls

/-- The pieces of a text between line feeds. -/
abbrev lines (s : Text) : List Text := splitOn '\n' s

/-- Pieces put together with `sep` between them. -/
def joinWith (sep : Text) : List Text → Text
  | [] => []
  | [l] => l
  | l :: ls => l ++ sep ++ joinWith sep ls

theorem splitOn_ne_nil (sep : Char) (s : Text) : splitOn sep s ≠ [] := by
  cases s with
  | nil => simp [splitOn]
  | cons c s =>
    rw [splitOn]
    split
    · simp
    · split <;> simp

/-- The pieces of a text put together again are the text. -/
theorem joinWith_splitOn (sep : Char) (s : Text) : joinWith [sep] (splitOn sep s) = s := by
  induction s with
  | nil => rfl
  | cons c s ih =>
    rw [splitOn]
    cases hs : splitOn sep s with
    | nil => exact absurd hs (splitOn_ne_nil sep s)
    | cons l ls =>
      rw [hs] at ih
      by_cases hc : c = sep
      · simp [hc, joinWith, ih]
      · cases ls with
        | nil => simp_all [joinWith]
        | cons m ls => simp_all [joinWith]

/-- A line without the carriage return at its end. -/
def dropReturn (l : Text) : Text := if l.getLast? = some '\r' then l.dropLast else l

/-- The lines of a text that end in a line feed, or in a carriage return and a line feed. A last
piece without a line feed is a line unless it is empty, and it keeps its carriage return. -/
def endedLines (s : Text) : List Text :=
  let pieces := lines s
  let last := pieces.getLastD []
  pieces.dropLast.map dropReturn ++ (if last = [] then [] else [last])

/-! ## Trimming -/

/-- A text without the characters at its start that satisfy `p`. -/
abbrev trimStart (p : Char → Bool) (s : Text) : Text := s.dropWhile p

/-- A text without the characters at its end that satisfy `p`. -/
def trimEnd (p : Char → Bool) (s : Text) : Text := (s.reverse.dropWhile p).reverse

/-- A text without the characters at either end that satisfy `p`. -/
def trim (p : Char → Bool) (s : Text) : Text := trimEnd p (trimStart p s)

end Text

end TemplateTrace
