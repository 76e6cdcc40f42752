import TemplateTrace.Include.Call
import TemplateTrace.Proofs.Code.Scan
import TemplateTrace.Proofs.Except

/-!
# Lists in the arguments of a call

The arguments of a call, the entries of its data and the names that it leaves out are lists, which
are cut at the commas outside brackets and strings. Cutting loses nothing, and it succeeds exactly
for balanced texts. The inside of an array literal is one, so that a call is never at fault because
a list in it is not balanced.

- `Code.HasOuterComma`: a comma that would cut a text.
- `IncludeCall.ne_of_ofArguments_eq_error`: the faults that no argument list has.
- `IncludeSite.items?_of_scan`: cutting at commas agrees with a scan.
-/

namespace TemplateTrace

namespace Code

/-- Whether a comma stands in a text where a scan is in code and expects no bracket. -/
def HasOuterComma (s : Text) : Prop :=
  ∃ a b, s = a ++ ',' :: b ∧ (Scan.code []).run a = .code []

/-- A balanced item has no comma that would cut it. -/
theorem Balanced.not_hasOuterComma {s : Text} (h : Balanced .item s) : ¬ HasOuterComma s := by
  rintro ⟨a, b, rfl, ha⟩
  -- the first comma outside brackets and strings ends an item
  obtain ⟨item, t, hitem, ht⟩ : ∃ item t, Balanced .item item ∧
      a ++ ',' :: b = item ++ ',' :: t := by
    obtain ⟨item, items, hall, rfl⟩ := (balanced_iff_run.2 ha).exists_items
    cases items with
    | nil => exact ⟨item, b, hall item List.mem_cons_self, rfl⟩
    | cons next items =>
      refine ⟨item, Text.joinWith [','] (next :: items) ++ ',' :: b,
        hall item List.mem_cons_self, ?_⟩
      rw [Text.joinWith]
      · simp
      · exact List.cons_ne_nil _ _
  have hone := items?_of_balanced h
  rw [ht, items?_append_comma hitem] at hone
  obtain ⟨rest, hrest, hnil⟩ := Option.map_eq_some_iff.1 hone
  obtain ⟨-, rfl⟩ := List.cons.inj hnil
  exact (items?_eq_some_iff.1 hrest).1 rfl

end Code

/-! ## Faults -/

namespace IncludeCall

/-- The inside of an array literal has items. -/
theorem exists_items?_of_array? {s inner : Text} (h : Code.array? s = some inner) :
    ∃ items, Code.items? inner = some items := by
  obtain ⟨-, -, -, -, -, -, hinner⟩ := Code.exists_of_array? h
  exact Option.isSome_iff_exists.1 (Code.isSome_items?_iff.2 hinner)

/-- The only fault of data is an entry without a key. -/
theorem eq_of_readData_eq_error {argument : Text} {fault : CallFault}
    (h : readData argument = .error fault) : fault = .entryNotKeyed := by
  unfold readData at h
  split at h
  · cases h
  next inner harray =>
    obtain ⟨items, hitems⟩ := exists_items?_of_array? harray
    rw [hitems] at h
    rcases Except.bind_eq_error_iff.1 h with hentries | ⟨entries, -, h⟩
    · obtain ⟨item, -, hitem⟩ := Except.exists_of_mapM_eq_error hentries
      unfold readEntry at hitem
      split at hitem
      · cases hitem
      · exact (Except.error.inj hitem).symm
    · cases h

/-- The faults of an exclusion list are that it is no array, and that one of its items is no
literal. -/
theorem eq_of_readExclusions_eq_error {list : Text} {fault : CallFault}
    (h : readExclusions list = .error fault) :
    fault = .exclusionsNotArray ∨ fault = .exclusionNotLiteral := by
  unfold readExclusions at h
  split at h
  · exact .inl (Except.error.inj h).symm
  next inner harray =>
    obtain ⟨items, hitems⟩ := exists_items?_of_array? harray
    rw [hitems] at h
    obtain ⟨item, -, hitem⟩ := Except.exists_of_mapM_eq_error h
    unfold readExclusion at hitem
    split at hitem
    · cases hitem
    · exact .inr (Except.error.inj hitem).symm

/-- No argument list is at fault because a list in it is not balanced. -/
theorem ne_of_ofArguments_eq_error {arguments : Text} {fault : CallFault}
    (h : ofArguments arguments = .error fault) :
    fault ≠ .unbalancedData ∧ fault ≠ .unbalancedExclusions := by
  -- neither list that is read reports a list that is unbalanced
  have hdata : ∀ {argument : Text}, readData argument = .error fault →
      fault ≠ .unbalancedData ∧ fault ≠ .unbalancedExclusions := by
    intro argument hread
    obtain rfl := eq_of_readData_eq_error hread
    decide
  have hlocals : ∀ {list : Text}, readExclusions list = .error fault →
      fault ≠ .unbalancedData ∧ fault ≠ .unbalancedExclusions := by
    intro list hread
    rcases eq_of_readExclusions_eq_error hread with rfl | rfl <;> decide
  unfold ofArguments at h
  split at h
  · obtain rfl := Except.error.inj h
    decide
  next items _ =>
    dsimp only at h
    -- whatever the arguments are without a trailing comma, by their number
    generalize (if (items.map Text.strip).getLast? = some [] then (items.map Text.strip).dropLast
      else items.map Text.strip) = arguments at h
    split at h
    · obtain rfl := Except.error.inj h
      exact ⟨nofun, nofun⟩
    split at h
    · cases h
    · split at h
      · rcases Except.bind_eq_error_iff.1 h with hread | ⟨_, -, hdone⟩
        · exact hlocals hread
        · cases hdone
      · rcases Except.bind_eq_error_iff.1 h with hread | ⟨_, -, hdone⟩
        · exact hdata hread
        · cases hdone
    · split at h
      · obtain rfl := Except.error.inj h
        decide
      rcases Except.bind_eq_error_iff.1 h with hread | ⟨data, -, h⟩
      · exact hdata hread
      split at h
      · rcases Except.bind_eq_error_iff.1 h with hread | ⟨_, -, hdone⟩
        · exact hlocals hread
        · cases hdone
      · obtain rfl := Except.error.inj h
        decide
    · obtain rfl := Except.error.inj h
      exact ⟨nofun, nofun⟩

end IncludeCall

namespace IncludeSite

/-- A search for calls ends with no fault of an array in the arguments. -/
theorem exists_of_find_eq_error {prev : Option Char} {s : Text} {e : MapError}
    (h : find prev s = .error e) :
    ∃ fault call, e = .malformed fault call ∧ fault ≠ .unbalancedData ∧
      fault ≠ .unbalancedExclusions := by
  unfold find at h
  split at h
  · cases h
  dsimp only at h
  split at h
  · exact ⟨_, _, (Except.error.inj h).symm, by decide, by decide⟩
  split at h
  · exact ⟨_, _, (Except.error.inj h).symm, by decide, by decide⟩
  split at h
  next fault hfault =>
    exact ⟨fault, _, (Except.error.inj h).symm, IncludeCall.ne_of_ofArguments_eq_error hfault⟩
  · cases h

/-- **Cutting at commas.** A text has items exactly if a scan of it ends in code that expects no
bracket. The items with commas between them are the text again, each of them is balanced, and none
has a comma that would cut it. So the inside of every group has items, and no include call is at
fault because its data array or its exclusion list is not balanced. -/
theorem items?_of_scan (s : Text) :
    ((Code.items? s).isSome = true ↔ (Code.Scan.code []).run s = .code []) ∧
    (∀ items, Code.items? s = some items → items ≠ [] ∧ Text.joinWith [','] items = s ∧
      ∀ item ∈ items, (Code.Scan.code []).run item = .code [] ∧ ¬ Code.HasOuterComma item) ∧
    (∀ i j, Code.closeAt? s i = some j → ∃ front inside rest, s = front ++ inside ++ rest ∧
      Text.bytes front = i + 1 ∧ Text.bytes (front ++ inside) = j ∧
      (Code.items? inside).isSome = true) ∧
    ∀ prev snippet, find prev s ≠ .error (.malformedInclude .unbalancedData snippet) ∧
      find prev s ≠ .error (.malformedInclude .unbalancedExclusions snippet) := by
  refine ⟨Code.isSome_items?_iff.trans Code.balanced_iff_run, fun items hitems => ?_,
    fun i j hclose => ?_, fun prev snippet => ⟨fun h => ?_, fun h => ?_⟩⟩
  · obtain ⟨hne, hs, hall⟩ := Code.items?_eq_some_iff.1 hitems
    refine ⟨hne, hs.symm, fun item hitem => ⟨?_, (hall item hitem).not_hasOuterComma⟩⟩
    exact Code.balanced_iff_run.1 (hall item hitem).inGroup
  · obtain ⟨before, o, inside, d, rest, rfl, rfl, rfl, hd, hinside⟩ :=
      Code.closes_iff_balanced.1 (Code.closeAt?_eq_some_iff_closes.1 hclose)
    refine ⟨before ++ [o], inside, d :: rest, by simp, ?_, by simp,
      Code.isSome_items?_iff.2 hinside⟩
    simp [(Code.utf8Size_of_closer? hd).1]
  · obtain ⟨fault, call, he, hdata, -⟩ := exists_of_find_eq_error h
    exact hdata (MapError.malformedInclude.inj he).1.symm
  · obtain ⟨fault, call, he, -, hexclusions⟩ := exists_of_find_eq_error h
    exact hexclusions (MapError.malformedInclude.inj he).1.symm

end IncludeSite

end TemplateTrace
