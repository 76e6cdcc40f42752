import TemplateTrace.Include.Call
import TemplateTrace.Include.Shadow
import TemplateTrace.Proofs.Except
import TemplateTrace.Proofs.Json.Compact
import TemplateTrace.Proofs.Text.Lines
import TemplateTrace.Proofs.Text.Trimming

/-!
# The code of shadowing statements

The statements around a fragment stay on the line that they are put on, and those behind it are
made of words and a few signs, so that no tag of host code hides in them.

- `isStatementChar`: the characters of the statements behind a fragment.
- `Shadow.all_isStatementChar_leave`: they have no others.
- `Shadow.not_mem_newline_enter`: the statements in front of a fragment are one line.
- `IncludeCall.OneLine`: a call whose expressions are one line each, as all calls that are read.
-/

namespace TemplateTrace

/-- A letter, a digit or one of the signs in the statements behind a fragment. -/
def isStatementChar (c : Char) : Bool := c.isAlphanum || "_$ =;()\x7b\x7d,".toList.contains c

theorem not_mem_of_all_isStatementChar {s : Text} {c : Char} (h : s.all isStatementChar = true)
    (hc : isStatementChar c = false) : c ∉ s := by
  intro hmem
  rw [List.all_eq_true.1 h c hmem] at hc
  cases hc

/-- Identifiers are written in characters of statements. -/
theorem all_isStatementChar_of_isIdentifier {name : Text} (h : isIdentifier name = true) :
    name.all isStatementChar = true := by
  cases name with
  | nil => rfl
  | cons c s =>
    simp only [isIdentifier, Bool.and_eq_true, Bool.or_eq_true, beq_iff_eq, List.all_eq_true] at h
    rw [List.all_eq_true]
    intro d hd
    rcases List.mem_cons.1 hd with rfl | hd
    · rcases h.1 with halpha | rfl
      · simp [isStatementChar, Char.isAlphanum, halpha]
      · decide
    · rcases h.2 d hd with halnum | rfl
      · simp [isStatementChar, halnum]
      · decide

theorem all_isStatementChar_decimal (n : Nat) : (Text.decimal n).all isStatementChar = true := by
  rw [List.all_eq_true]
  intro c hc
  simp [isStatementChar, Char.isAlphanum, Text.isDigit_of_mem_decimal hc]

namespace Shadow

/-- The names of helper variables are written in characters of statements. -/
theorem all_isStatementChar_helper {role : String} (hrole : role.toList.all isStatementChar = true)
    (depth : Nat) {name : Text} (hname : name.all isStatementChar = true) :
    (helper role depth name).all isStatementChar = true := by
  have hpre : "__lens_".toList.all isStatementChar = true := by decide
  have hsep : isStatementChar '_' = true := by decide
  have hdigits := all_isStatementChar_decimal depth
  unfold helper
  simp only [List.all_append, List.all_cons, hpre, hrole, hsep, hdigits, hname, Bool.and_self]

/-- The characters of statements are those of each of them, and the blanks between them. -/
theorem mem_statementsCode {statements : List ShadowStatement} {c : Char}
    (h : c ∈ statementsCode statements) : c = ' ' ∨ ∃ s ∈ statements, c ∈ s.code := by
  fun_induction statementsCode statements with
  | case1 => cases h
  | case2 s => exact .inr ⟨s, List.mem_cons_self, h⟩
  | case3 s rest _ ih =>
    rcases List.mem_append.1 h with h | h
    · exact .inr ⟨s, List.mem_cons_self, h⟩
    · rcases List.mem_cons.1 h with rfl | h
      · exact .inl rfl
      · rcases ih h with rfl | ⟨s', hs', hc⟩
        · exact .inl rfl
        · exact .inr ⟨s', List.mem_cons_of_mem _ hs', hc⟩

/-- The names that are shadowed are names of variables. -/
theorem isIdentifier_of_mem_names {depth : Nat} {pairs : List (Text × Text)} {name : Text}
    (h : name ∈ (Shadow.of depth pairs).names) : isIdentifier name = true := by
  obtain ⟨entry, hentry, rfl⟩ := List.mem_map.1 h
  exact (List.mem_filter.1 hentry).2

/-- The statements that give a variable back are written in the characters of statements. -/
theorem all_isStatementChar_giveBack (s : Shadow) {name : Text} (h : isIdentifier name = true)
    {statement : ShadowStatement} (hs : statement ∈ s.giveBack name) :
    statement.code.all isStatementChar = true := by
  have hname := all_isStatementChar_of_isIdentifier h
  have hvariable : ∀ n : Text, n.all isStatementChar = true →
      (variableCode n).all isStatementChar = true := by
    intro n hn
    rw [variableCode, List.all_cons, hn]
    decide
  have hhad : (variableCode (s.had name)).all isStatementChar = true :=
    hvariable _ (all_isStatementChar_helper (by decide) s.depth hname)
  have hsaved : (variableCode (s.saved name)).all isStatementChar = true :=
    hvariable _ (all_isStatementChar_helper (by decide) s.depth hname)
  have hargument : (variableCode (s.argument name)).all isStatementChar = true :=
    hvariable _ (all_isStatementChar_helper (by decide) s.depth hname)
  rw [giveBack, List.mem_cons, List.mem_singleton] at hs
  rcases hs with rfl | rfl
  · unfold ShadowStatement.code
    simp only [List.all_append, hhad, hsaved, hvariable name hname, Bool.and_true]
    decide
  · unfold ShadowStatement.code
    simp only [List.map_cons, List.map_nil, commaList, List.all_append, hargument, hsaved, hhad,
      Bool.and_true]
    decide

/-- The statements behind a fragment are made of words and a few signs. -/
theorem all_isStatementChar_leave (depth : Nat) (pairs : List (Text × Text)) :
    (statementsCode (Shadow.of depth pairs).leave).all isStatementChar = true := by
  rw [List.all_eq_true]
  intro c hc
  rcases mem_statementsCode hc with rfl | ⟨s, hs, hc⟩
  · decide
  · obtain ⟨name, hname, hs⟩ := List.mem_flatMap.1 hs
    have hident := isIdentifier_of_mem_names (List.mem_reverse.1 hname)
    exact List.all_eq_true.1 (all_isStatementChar_giveBack _ hident hs) c hc

/-- The statements in front of a fragment are one line when the values are. -/
theorem not_mem_newline_enter {depth : Nat} {pairs : List (Text × Text)}
    (h : ∀ entry ∈ pairs, '\n' ∉ entry.2) :
    '\n' ∉ statementsCode (Shadow.of depth pairs).enter := by
  have hname : ∀ {name : Text}, isIdentifier name = true → ∀ role : String,
      role.toList.all isStatementChar = true → '\n' ∉ helper role depth name := by
    intro name hname role hrole
    have hall := all_isStatementChar_of_isIdentifier hname
    exact not_mem_of_all_isStatementChar (all_isStatementChar_helper hrole depth hall) (by decide)
  intro hmem
  obtain ⟨s, hs, hmem⟩ := (mem_statementsCode hmem).resolve_left (by decide)
  revert hmem
  rcases List.mem_append.1 hs with hs | hs
  · -- the value of an entry is computed into its helper
    obtain ⟨entry, hentry, rfl⟩ := List.mem_map.1 hs
    obtain ⟨hmem, hident⟩ := List.mem_filter.1 hentry
    have hargument := hname hident "arg" (by decide)
    have hvalue := h entry hmem
    unfold compute ShadowStatement.code variableCode ShadowValue.code argument
    simp [Shadow.of, hargument, hvalue]
  · -- a name is taken in three statements, of the name and its helpers
    obtain ⟨name, hmem, hs⟩ := List.mem_flatMap.1 hs
    have hident := isIdentifier_of_mem_names hmem
    have hplain : '\n' ∉ name := not_mem_of_all_isStatementChar
      (all_isStatementChar_of_isIdentifier hident) (by decide)
    have hargument := hname hident "arg" (by decide)
    have hhad := hname hident "had" (by decide)
    have hsaved := hname hident "saved" (by decide)
    rw [take, List.mem_cons, List.mem_cons, List.mem_singleton] at hs
    rcases hs with rfl | rfl | rfl
    · unfold ShadowStatement.code variableCode ShadowValue.code had
      simp [Shadow.of, hhad, hplain]
    · unfold ShadowStatement.code variableCode ShadowValue.code saved
      simp [Shadow.of, variableCode, hsaved, hplain]
    · unfold ShadowStatement.code variableCode ShadowValue.code argument
      simp [Shadow.of, variableCode, hargument, hplain]

end Shadow

/-! ## Calls on one line -/

namespace IncludeCall

/-- Whether the values that a call passes are one line each. -/
def OneLine (call : IncludeCall) : Prop := ∀ entry ∈ call.dataPairs, '\n' ∉ entry.2

theorem not_mem_joinWith {c : Char} {sep : Text} (hsep : c ∉ sep) {pieces : List Text}
    (h : ∀ l ∈ pieces, c ∉ l) : c ∉ Text.joinWith sep pieces := by
  induction pieces with
  | nil => exact List.not_mem_nil
  | cons l rest ih =>
    have hl := h l List.mem_cons_self
    have hrest := ih fun l' hl' => h l' (List.mem_cons_of_mem _ hl')
    cases rest with
    | nil => exact hl
    | cons l' rest =>
      rw [Text.joinWith, List.mem_append, List.mem_append, not_or, not_or]
      · exact ⟨⟨hl, hsep⟩, hrest⟩
      · exact List.cons_ne_nil _ _

theorem not_mem_of_mem_endedLines {s l : Text} (h : l ∈ Text.endedLines s) : '\n' ∉ l := by
  rcases List.mem_append.1 h with h | h
  · obtain ⟨l', hl', rfl⟩ := List.mem_map.1 h
    have hfree := Text.not_mem_of_mem_splitOn ((List.dropLast_sublist _).subset hl')
    unfold Text.dropReturn
    split
    · exact fun hmem => hfree ((List.dropLast_sublist _).subset hmem)
    · exact hfree
  · split at h
    · cases h
    · rw [List.mem_singleton.1 h]
      exact Text.not_mem_lastLine s

theorem not_mem_singleLine (e : Text) : '\n' ∉ singleLine e := by
  refine not_mem_joinWith (by decide) fun l hl => ?_
  obtain ⟨l', hl', rfl⟩ := List.mem_map.1 hl
  exact Text.not_mem_strip (not_mem_of_mem_endedLines hl')

/-- Data with keys are read from the items of an array. -/
theorem exists_of_readData {argument : Text} {entries : List (Text × Text)}
    (h : readData argument = .ok (.pairs entries)) :
    ∃ inner items, Code.array? argument = some inner ∧ Code.items? inner = some items ∧
      (items.filter (Text.strip · ≠ [])).mapM readEntry = .ok entries := by
  unfold readData at h
  split at h
  · cases h
  next inner harray =>
  split at h
  · cases h
  next items hitems =>
  obtain ⟨entries', hread, h⟩ := Except.bind_eq_ok_iff.1 h
  obtain rfl := IncludeData.pairs.inj (Except.ok.inj h)
  exact ⟨inner, items, harray, hitems, hread⟩

/-- The values of data are put on one line each as they are read. -/
theorem not_mem_newline_of_readData {argument : Text} {entries : List (Text × Text)}
    (h : readData argument = .ok (.pairs entries)) {entry : Text × Text} (he : entry ∈ entries) :
    '\n' ∉ entry.2 := by
  obtain ⟨-, items, -, -, hread⟩ := exists_of_readData h
  obtain ⟨item, -, hitem⟩ := Except.exists_of_mem_mapM hread he
  unfold readEntry at hitem
  split at hitem
  next key e _ =>
    rw [← Except.ok.inj hitem]
    exact not_mem_singleLine e
  · cases hitem

/-- An entry behind setting one is that one, or was there before. -/
theorem mem_setEntry {entries : List (Text × Text)} {entry e : Text × Text}
    (h : e ∈ setEntry entries entry) : e = entry ∨ e ∈ entries := by
  induction entries with
  | nil => exact .inl (List.mem_singleton.1 h)
  | cons e' entries ih =>
    unfold setEntry at h
    split at h
    · rcases List.mem_cons.1 h with h | h
      · exact .inl h
      · exact .inr (List.mem_cons_of_mem _ h)
    · rcases List.mem_cons.1 h with rfl | h
      · exact .inr List.mem_cons_self
      · exact (ih h).imp_right (List.mem_cons_of_mem _)

/-- Entries that are set one after another are the given ones or those at the start. -/
theorem mem_foldl_setEntry {entries start : List (Text × Text)} {e : Text × Text}
    (h : e ∈ entries.foldl setEntry start) : e ∈ entries ∨ e ∈ start := by
  induction entries generalizing start with
  | nil => exact .inr h
  | cons entry entries ih =>
    rcases ih h with h | h
    · exact .inl (List.mem_cons_of_mem _ h)
    · rcases mem_setEntry h with rfl | h
      · exact .inl List.mem_cons_self
      · exact .inr h

/-- The data of a call that was read is the data of an argument, if there is any. -/
theorem data_of_ofArguments {arguments : Text} {call : IncludeCall}
    (h : ofArguments arguments = .ok call) {data : IncludeData} (hdata : call.data = some data) :
    ∃ items argument, Code.items? arguments = some items ∧ argument ∈ items.map Text.strip ∧
      readData argument = .ok data := by
  unfold ofArguments at h
  split at h
  · cases h
  next items hitems =>
  dsimp only at h
  have hsub : (if (items.map Text.strip).getLast? = some [] then (items.map Text.strip).dropLast
      else items.map Text.strip) ⊆ items.map Text.strip := by
    split
    · exact (List.dropLast_sublist _).subset
    · exact List.Subset.refl _
  generalize (if (items.map Text.strip).getLast? = some [] then (items.map Text.strip).dropLast
    else items.map Text.strip) = items' at h hsub
  split at h
  · cases h
  -- one, two or three arguments: data are the second one, or the last one if it is no list
  split at h
  · obtain rfl := Except.ok.inj h
    cases hdata
  next target last _ =>
    split at h
    next list _ =>
      obtain ⟨names, -, h⟩ := Except.bind_eq_ok_iff.1 h
      obtain rfl := Except.ok.inj h
      cases hdata
    · obtain ⟨data', hread, h⟩ := Except.bind_eq_ok_iff.1 h
      obtain rfl := Except.ok.inj h
      obtain rfl := Option.some.inj hdata
      exact ⟨items, last, hitems, hsub (by simp), hread⟩
  next target second last _ =>
    split at h
    · cases h
    obtain ⟨data', hread, h⟩ := Except.bind_eq_ok_iff.1 h
    split at h
    next list _ =>
      obtain ⟨names, -, h⟩ := Except.bind_eq_ok_iff.1 h
      obtain rfl := Except.ok.inj h
      obtain rfl := Option.some.inj hdata
      exact ⟨items, second, hitems, hsub (by simp), hread⟩
    · cases h
  · cases h

/-- The values that a call passes are one line each. -/
theorem oneLine_of_ofArguments {arguments : Text} {call : IncludeCall}
    (h : ofArguments arguments = .ok call) : call.OneLine := by
  intro entry hentry
  unfold dataPairs at hentry
  split at hentry
  next entries hdata =>
    obtain ⟨-, argument, -, -, hread⟩ := data_of_ofArguments h hdata
    rcases mem_foldl_setEntry hentry with hmem | hmem
    · exact not_mem_newline_of_readData hread hmem
    · cases hmem
  · cases hentry

end IncludeCall

end TemplateTrace
