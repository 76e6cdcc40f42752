import Mathlib.Data.List.Nodup
import TemplateTrace.Check.Bindings

/-!
# The names of bindings

A set of bindings is meant to hold each name once. Inserting keeps it so. Filling a gap looks the
name of a binding up, and a look-up reads the name once more as a variable's name: a name that
changes on the way is not found, although it is bound. A list of records is taken as it comes.

- `TypeBindings.names`: the bound names, in order.
- `TypeBindings.fill_of_mem`, `TypeBindings.fill_of_not_mem`: when filling adds a binding.
- `TypeBindings.Building`: the ways to build a set, and `Building.build`, the set.
- `TypeBindings.nodup_names_build_iff`: when a set that is built holds each name once.
- `TypeBindings.exists_repeated_name`: a list of records with a name twice.
-/

namespace TemplateTrace

namespace TypeBindings

/-- The bound names, in order. -/
def names (bs : TypeBindings) : List Text := bs.entries.map (·.name)

variable {bs : TypeBindings} {b : TypeBinding}

theorem mem_names {n : Text} : n ∈ bs.names ↔ ∃ b ∈ bs.entries, b.name = n := by
  simp [names]

/-! ## Filling a gap -/

/-- A name is looked up as a variable's name. -/
theorem isSome_get? {n : Text} : (bs.get? n).isSome = true ↔ variableName n ∈ bs.names := by
  rw [get?, Option.isSome_map, List.find?_isSome, mem_names]
  simp only [beq_iff_eq]

theorem fill_of_mem (h : variableName b.name ∈ bs.names) : bs.fill b = bs := by
  have hsome : (bs.get? b.name).isSome = true := isSome_get?.2 h
  rw [fill, if_neg]
  intro hnone
  rw [Option.isNone_iff_eq_none] at hnone
  rw [hnone] at hsome
  cases hsome

theorem fill_of_not_mem (h : variableName b.name ∉ bs.names) :
    bs.fill b = { entries := bs.entries ++ [b] } := by
  have hsome : ¬ (bs.get? b.name).isSome = true := fun hsome => h (isSome_get?.1 hsome)
  rw [fill, if_pos]
  rwa [Option.isNone_iff_eq_none, ← Option.not_isSome_iff_eq_none]

theorem names_fill_of_not_mem (h : variableName b.name ∉ bs.names) :
    (bs.fill b).names = bs.names ++ [b.name] := by
  rw [fill_of_not_mem h, names, List.map_append]
  rfl

theorem names_subset_fill (bs : TypeBindings) (b : TypeBinding) : bs.names ⊆ (bs.fill b).names := by
  intro n hn
  by_cases h : variableName b.name ∈ bs.names
  · rwa [fill_of_mem h]
  · rw [names_fill_of_not_mem h]
    exact List.mem_append_left _ hn

theorem mem_names_fill {n : Text} (h : n ∈ (bs.fill b).names) : n ∈ bs.names ∨ n = b.name := by
  by_cases hb : variableName b.name ∈ bs.names
  · rw [fill_of_mem hb] at h
    exact .inl h
  · rw [names_fill_of_not_mem hb] at h
    simpa using h

/-- A name of a set that is filled up is one of the set or of the list. -/
theorem mem_names_withAmbient {l : List TypeBinding} {n : Text}
    (h : n ∈ (bs.withAmbient l).names) : n ∈ bs.names ∨ ∃ b ∈ l, b.name = n := by
  induction l generalizing bs with
  | nil => exact .inl h
  | cons b l ih =>
    rcases ih h with hn | ⟨c, hc, rfl⟩
    · rcases mem_names_fill hn with hn | rfl
      · exact .inl hn
      · exact .inr ⟨b, List.mem_cons_self, rfl⟩
    · exact .inr ⟨c, List.mem_cons_of_mem b hc, rfl⟩

/-! ## Names that are held once -/

/-- Filling keeps names apart unless a name that is bound is not found. -/
theorem nodup_names_fill_iff : (bs.fill b).names.Nodup ↔
    bs.names.Nodup ∧ (b.name ∈ bs.names → variableName b.name ∈ bs.names) := by
  by_cases h : variableName b.name ∈ bs.names
  · simp [fill_of_mem h, h]
  · rw [names_fill_of_not_mem h, ← List.concat_eq_append, List.nodup_concat]
    simp [h, and_comm]

/-- Inserting keeps the order of the names: a name that is there stays at its place, and a new one
comes last. -/
theorem names_insertEntry (b : TypeBinding) (es : List TypeBinding) :
    (insertEntry b es).map (·.name) =
      if b.name ∈ es.map (·.name) then es.map (·.name) else es.map (·.name) ++ [b.name] := by
  induction es with
  | nil => rfl
  | cons e es ih =>
    rw [insertEntry]
    by_cases he : e.name = b.name
    · simp [he]
    · have hmem : b.name ∈ (e :: es).map (·.name) ↔ b.name ∈ es.map (·.name) :=
        List.mem_cons.trans (or_iff_right (Ne.symm he))
      rw [if_neg he, List.map_cons, ih]
      by_cases h : b.name ∈ es.map (·.name)
      · rw [if_pos h, if_pos (hmem.2 h)]
        rfl
      · rw [if_neg h, if_neg (mt hmem.1 h)]
        rfl

/-- Inserting keeps names apart, and does not set them apart. -/
theorem nodup_names_insert_iff : (bs.insert b).names.Nodup ↔ bs.names.Nodup := by
  rw [insert, names, names_insertEntry]
  by_cases h : b.name ∈ bs.entries.map (·.name)
  · rw [if_pos h]
    rfl
  · rw [if_neg h, ← List.concat_eq_append, List.nodup_concat]
    exact and_iff_right h

theorem mem_names_insert {n : Text} (h : n ∈ (bs.insert b).names) : n ∈ bs.names ∨ n = b.name := by
  rw [insert, names, names_insertEntry] at h
  split at h
  · exact .inl h
  · simpa [names] using h

theorem nodup_names_ofList (l : List TypeBinding) : (ofList l).names.Nodup := by
  have hfrom : ∀ bs : TypeBindings, bs.names.Nodup → (l.foldl insert bs).names.Nodup := by
    induction l with
    | nil => exact fun bs h => h
    | cons b l ih => exact fun bs h => ih _ (nodup_names_insert_iff.2 h)
  exact hfrom {} List.nodup_nil

/-- The names of bindings that are collected are those of the list. -/
theorem mem_names_ofList {l : List TypeBinding} {n : Text} (h : n ∈ (ofList l).names) :
    ∃ b ∈ l, b.name = n := by
  have hfrom : ∀ bs : TypeBindings, n ∈ (l.foldl insert bs).names →
      n ∈ bs.names ∨ ∃ b ∈ l, b.name = n := by
    clear h
    induction l with
    | nil => exact fun bs h => .inl h
    | cons b l ih =>
      intro bs h
      rcases ih _ h with hn | ⟨c, hc, rfl⟩
      · rcases mem_names_insert hn with hn | rfl
        · exact .inl hn
        · exact .inr ⟨b, List.mem_cons_self, rfl⟩
      · exact .inr ⟨c, List.mem_cons_of_mem b hc, rfl⟩
  rcases hfrom {} h with hnil | hex
  · cases hnil
  · exact hex

/-- Whether bindings that are filled in one after another are found where they are bound. -/
def Finds (bs : TypeBindings) : List TypeBinding → Prop
  | [] => True
  | b :: l => (b.name ∈ bs.names → variableName b.name ∈ bs.names) ∧ (bs.fill b).Finds l

/-- A set that is filled up has no name twice just when it had none before and each added name that
is bound is found. -/
theorem nodup_names_withAmbient_iff {l : List TypeBinding} :
    (bs.withAmbient l).names.Nodup ↔ bs.names.Nodup ∧ bs.Finds l := by
  induction l generalizing bs with
  | nil => exact (and_iff_left trivial).symm
  | cons b l ih =>
    show ((bs.fill b).withAmbient l).names.Nodup ↔ _
    rw [ih, nodup_names_fill_iff, and_assoc]
    rfl

theorem finds_of_settled {l : List TypeBinding} (h : ∀ b ∈ l, variableName b.name = b.name) :
    bs.Finds l := by
  induction l generalizing bs with
  | nil => trivial
  | cons b l ih =>
    have hb := h b List.mem_cons_self
    exact ⟨fun hmem => hb.symm ▸ hmem, ih fun c hc => h c (List.mem_cons_of_mem b hc)⟩

/-! ## Building a set -/

/-- The ways to build a set of bindings. -/
inductive Building where
  | empty
  | insert (set : Building) (b : TypeBinding)
  | fill (set : Building) (b : TypeBinding)
  /-- Bindings are collected, a later one replacing the type of an earlier one of its name. -/
  | collect (l : List TypeBinding)
  /-- A list of records in JSON or YAML is taken as it comes. -/
  | records (l : List TypeBinding)
  | merge (explicit others : Building)
  | withAmbient (set : Building) (ambient : List TypeBinding)
  deriving DecidableEq, Repr

namespace Building

/-- The set that is built. -/
def build : Building → TypeBindings
  | empty => {}
  | insert set b => set.build.insert b
  | fill set b => set.build.fill b
  | collect l => .ofList l
  | records l => { entries := l }
  | merge explicit others => .merge explicit.build others.build
  | withAmbient set ambient => set.build.withAmbient ambient

/-- Whether no list of records that goes into the set holds a name twice, and every binding that is
filled in is found if it is bound. Of the bindings that are merged into others, only those that are
filled in count. -/
def Clean : Building → Prop
  | empty | collect _ => True
  | insert set _ => set.Clean
  | fill set b =>
    set.Clean ∧ (b.name ∈ set.build.names → variableName b.name ∈ set.build.names)
  | records l => (l.map (·.name)).Nodup
  | merge explicit others => explicit.Clean ∧ explicit.build.Finds others.build.entries
  | withAmbient set ambient => set.Clean ∧ set.build.Finds ambient

/-- All bindings that a set is built from. -/
def given : Building → List TypeBinding
  | empty => []
  | insert set b | fill set b => set.given ++ [b]
  | collect l | records l => l
  | merge explicit others => explicit.given ++ others.given
  | withAmbient set ambient => set.given ++ ambient

/-- Whether no list of records holds a name twice. -/
def RecordsApart : Building → Prop
  | empty | collect _ => True
  | insert set _ | fill set _ | withAmbient set _ => set.RecordsApart
  | records l => (l.map (·.name)).Nodup
  | merge explicit others => explicit.RecordsApart ∧ others.RecordsApart

/-- No name occurs twice just when the set is built cleanly, by induction on how it is built. -/
theorem nodup_names_iff_clean (s : Building) : s.build.names.Nodup ↔ s.Clean := by
  induction s with
  | empty => exact iff_of_true List.nodup_nil trivial
  | insert set b ih => exact nodup_names_insert_iff.trans ih
  | fill set b ih => exact nodup_names_fill_iff.trans (and_congr_left' ih)
  | collect l => exact iff_of_true (nodup_names_ofList l) trivial
  | records l => exact Iff.rfl
  | merge explicit others ih =>
    exact nodup_names_withAmbient_iff.trans (and_congr_left' ih)
  | withAmbient set ambient ih => exact nodup_names_withAmbient_iff.trans (and_congr_left' ih)

/-- No name comes from elsewhere. -/
theorem exists_given_of_mem_names {s : Building} {n : Text} (h : n ∈ s.build.names) :
    ∃ b ∈ s.given, b.name = n := by
  have hleft : ∀ {set : Building} {l : List TypeBinding},
      (∃ b ∈ set.given, b.name = n) → ∃ b ∈ set.given ++ l, b.name = n := by
    rintro set l ⟨b, hb, hn⟩
    exact ⟨b, List.mem_append_left l hb, hn⟩
  induction s with
  | empty => cases h
  | insert set b ih =>
    rcases mem_names_insert h with h | rfl
    · exact hleft (ih h)
    · exact ⟨b, List.mem_append_right _ (List.mem_singleton_self b), rfl⟩
  | fill set b ih =>
    rcases mem_names_fill h with h | rfl
    · exact hleft (ih h)
    · exact ⟨b, List.mem_append_right _ (List.mem_singleton_self b), rfl⟩
  | collect l => exact mem_names_ofList h
  | records l => exact mem_names.1 h
  | merge explicit others ih ih' =>
    rcases mem_names_withAmbient h with h | h
    · exact hleft (ih h)
    · obtain ⟨b, hb, rfl⟩ := ih' (mem_names.2 h)
      exact ⟨b, List.mem_append_right _ hb, rfl⟩
  | withAmbient set ambient ih =>
    rcases mem_names_withAmbient h with h | ⟨b, hb, rfl⟩
    · exact hleft (ih h)
    · exact ⟨b, List.mem_append_right _ hb, rfl⟩

theorem settled_build {s : Building} (h : ∀ b ∈ s.given, variableName b.name = b.name) :
    ∀ b ∈ s.build.entries, variableName b.name = b.name := by
  intro b hb
  obtain ⟨c, hc, hname⟩ := exists_given_of_mem_names (mem_names.2 ⟨b, hb, rfl⟩)
  rw [← hname]
  exact h c hc

/-- A set is clean when no name that it is built from changes as it is read as a variable's name,
and no list of records holds a name twice. -/
theorem clean_of_settled {s : Building} (h : ∀ b ∈ s.given, variableName b.name = b.name)
    (hrecords : s.RecordsApart) : s.Clean := by
  have hleft : ∀ {set : Building} {l : List TypeBinding},
      (∀ b ∈ set.given ++ l, variableName b.name = b.name) →
        ∀ b ∈ set.given, variableName b.name = b.name :=
    fun h b hb => h b (List.mem_append_left _ hb)
  induction s with
  | empty => trivial
  | insert set b ih => exact ih (hleft h) hrecords
  | fill set b ih =>
    have hb : variableName b.name = b.name :=
      h b (List.mem_append_right _ (List.mem_singleton_self b))
    exact ⟨ih (hleft h) hrecords, fun hmem => hb.symm ▸ hmem⟩
  | collect l => trivial
  | records l => exact hrecords
  | merge explicit others ih =>
    refine ⟨ih (hleft h) hrecords.1, finds_of_settled (settled_build fun b hb => ?_)⟩
    exact h b (List.mem_append_right _ hb)
  | withAmbient set ambient ih =>
    exact ⟨ih (hleft h) hrecords, finds_of_settled fun b hb => h b (List.mem_append_right _ hb)⟩

end Building

/-- **Names are held once** in a set of bindings exactly if no list of records that it is built from
brings a name twice and no binding is filled in whose name is bound and not found. For names that do
not change when they are read as variables' names, the records are all that counts. -/
theorem nodup_names_build_iff (s : Building) :
    (s.build.names.Nodup ↔ s.Clean) ∧
    ((∀ b ∈ s.given, variableName b.name = b.name) → s.RecordsApart → s.build.names.Nodup) := by
  refine ⟨s.nodup_names_iff_clean, fun h hrecords => ?_⟩
  exact s.nodup_names_iff_clean.2 (Building.clean_of_settled h hrecords)

/-- Bindings of a call, records that are merged into them, and what every template can see. -/
theorem nodup_names_build_merged :
    let call : Building := .collect [.of "$user".toList "User".toList, .of "id".toList "int".toList,
      .of "user".toList "Admin".toList]
    let data : Building := .records [.of "id".toList "string".toList, .of "tag".toList "int".toList]
    let s : Building := .withAmbient (.merge call data) [.of "errors".toList "Bag".toList]
    (∀ b ∈ s.given, variableName b.name = b.name) ∧ s.RecordsApart ∧ s.build.names.Nodup ∧
      s.build.names = ["user".toList, "id".toList, "tag".toList, "errors".toList] := by
  intro call data s
  have hgiven : ∀ b ∈ s.given, variableName b.name = b.name := by decide +kernel
  have hdata : (["id".toList, "tag".toList] : List Text).Nodup := by decide
  have hrecords : s.RecordsApart := ⟨trivial, hdata⟩
  exact ⟨hgiven, hrecords, (nodup_names_build_iff s).2 hgiven hrecords, by decide +kernel⟩

/-- A list of records that names a variable twice keeps both, and a name that reads as another one
is filled in again. -/
theorem exists_repeated_name :
    (∃ v bs, ofJson? v = some bs ∧ bs.names = ["a".toList, "a".toList]) ∧
    ∃ s : Building, s.RecordsApart ∧ s.build.names = [" x".toList, " x".toList] := by
  constructor
  · let v : Json := .array [(TypeBinding.of "a".toList "int".toList).toJson,
      (TypeBinding.of "a".toList "bool".toList).toJson]
    exact ⟨v, ⟨[⟨"a".toList, "int".toList⟩, ⟨"a".toList, "bool".toList⟩]⟩, by decide +kernel, rfl⟩
  · let s : Building := .fill (.fill .empty (.of "$ x".toList "int".toList))
      (.of "$ x".toList "bool".toList)
    exact ⟨s, trivial, by decide +kernel⟩

end TypeBindings

end TemplateTrace
