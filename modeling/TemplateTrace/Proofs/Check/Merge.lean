import TemplateTrace.Proofs.Check.Names

/-!
# Merging bindings

Merging fills the gaps of the explicit bindings with others. On sets that hold each name once, and
only names that stay as they are when they are read as variables' names, it is a union that prefers
the left side and keeps the order of both.

What every template can see is filled in binding by binding. That is a merge of what the bindings
come to by themselves, unless a binding is kept out by one of them that does not get in.

- `TypeBindings.Settled`: the sets on which merging is a union.
- `TypeBindings.get?_withAmbient`, `TypeBindings.entries_withAmbient`: what is bound, in what order.
- `TypeBindings.KeepsOut`, `TypeBindings.withAmbient_withAmbient_iff`: filling in two steps.
- `TypeBindings.merge_laws`: the laws of merging.
- `TypeBindings.exists_ambient_ne_merge`: two bindings that are not merged as they are filled in.
-/

namespace TemplateTrace

namespace TypeBindings

/-- A set that holds each name once, and whose names stay as they are when they are read as
variables' names. -/
structure Settled (bs : TypeBindings) : Prop where
  nodup : bs.names.Nodup
  normal : ∀ b ∈ bs.entries, variableName b.name = b.name

instance (bs : TypeBindings) : Decidable bs.Settled :=
  decidable_of_iff (bs.names.Nodup ∧ ∀ b ∈ bs.entries, variableName b.name = b.name)
    ⟨fun h => ⟨h.1, h.2⟩, fun h => ⟨h.nodup, h.normal⟩⟩

variable {bs : TypeBindings} {b : TypeBinding} {l : List TypeBinding}

/-! ## Looking names up -/

theorem get?_append (l l' : List TypeBinding) (n : Text) :
    get? { entries := l ++ l' } n = (get? { entries := l } n).or (get? { entries := l' } n) := by
  rw [get?, List.find?_append, Option.map_or]
  rfl

/-- A binding that is filled in is found behind those that are there. -/
theorem get?_fill (hb : variableName b.name = b.name) (n : Text) :
    (bs.fill b).get? n = (bs.get? n).or (get? { entries := [b] } n) := by
  by_cases h : variableName b.name ∈ bs.names
  · rw [fill_of_mem h]
    cases hget : bs.get? n with
    | some type => rfl
    | none =>
      -- the name that is bound is another one
      have hn : variableName n ∉ bs.names := by
        intro hmem
        have hsome := isSome_get?.2 hmem
        rw [hget] at hsome
        cases hsome
      have hne : b.name ≠ variableName n := by
        intro heq
        rw [hb, heq] at h
        exact hn h
      have hskip : get? { entries := [b] } n = none := by
        simp [get?, hne]
      rw [hskip]
      rfl
  · rw [fill_of_not_mem h]
    exact get?_append bs.entries [b] n

/-- A name is looked up in a set first, and then among what every template can see. -/
theorem get?_withAmbient (hl : ∀ b ∈ l, variableName b.name = b.name) (n : Text) :
    (bs.withAmbient l).get? n = (bs.get? n).or (get? { entries := l } n) := by
  induction l generalizing bs with
  | nil => exact (Option.or_none).symm
  | cons b l ih =>
    have hb := hl b List.mem_cons_self
    have hrest : ∀ c ∈ l, variableName c.name = c.name :=
      fun c hc => hl c (List.mem_cons_of_mem b hc)
    calc (bs.withAmbient (b :: l)).get? n
        = ((bs.fill b).get? n).or (get? { entries := l } n) := ih hrest
      _ = (bs.get? n).or ((get? { entries := [b] } n).or (get? { entries := l } n)) := by
          rw [get?_fill hb, Option.or_assoc]
      _ = (bs.get? n).or (get? { entries := b :: l } n) := by
          rw [← get?_append, List.singleton_append]

/-! ## What is added -/

/-- Of bindings with names of their own, those are added whose names are free. -/
theorem entries_withAmbient (hnodup : (l.map (·.name)).Nodup)
    (hl : ∀ b ∈ l, variableName b.name = b.name) :
    (bs.withAmbient l).entries = bs.entries ++ l.filter (·.name ∉ bs.names) := by
  induction l generalizing bs with
  | nil => exact (List.append_nil _).symm
  | cons b l ih =>
    rw [List.map_cons, List.nodup_cons] at hnodup
    have hb := hl b List.mem_cons_self
    have hrest : ((bs.fill b).withAmbient l).entries =
        (bs.fill b).entries ++ l.filter (·.name ∉ (bs.fill b).names) :=
      ih hnodup.2 fun c hc => hl c (List.mem_cons_of_mem b hc)
    show ((bs.fill b).withAmbient l).entries = _
    rw [hrest]
    by_cases h : variableName b.name ∈ bs.names
    · rw [fill_of_mem h, List.filter_cons_of_neg]
      simpa [hb] using h
    · -- the other bindings have other names
      have hother : ∀ c ∈ l, (c.name ∉ (bs.fill b).names) = (c.name ∉ bs.names) := by
        intro c hc
        have hne : c.name ≠ b.name := fun heq => hnodup.1 (heq ▸ List.mem_map_of_mem hc)
        rw [names_fill_of_not_mem h, List.mem_append, List.mem_singleton, or_iff_left hne]
      have hfilter : l.filter (·.name ∉ (bs.fill b).names) = l.filter (·.name ∉ bs.names) :=
        List.filter_congr fun c hc => by simp only [hother c hc]
      rw [hfilter, fill_of_not_mem h, List.filter_cons_of_pos, List.append_assoc,
        List.singleton_append]
      simpa [hb] using h

theorem names_withAmbient (hnodup : (l.map (·.name)).Nodup)
    (hl : ∀ b ∈ l, variableName b.name = b.name) :
    (bs.withAmbient l).names = bs.names ++ (l.map (·.name)).filter (· ∉ bs.names) := by
  rw [names, entries_withAmbient hnodup hl, List.map_append, List.filter_map]
  rfl

/-! ## Filling in two steps -/

theorem names_subset_withAmbient (bs : TypeBindings) (l : List TypeBinding) :
    bs.names ⊆ (bs.withAmbient l).names := by
  induction l generalizing bs with
  | nil => exact List.Subset.refl _
  | cons b l ih => exact List.Subset.trans (names_subset_fill bs b) (ih (bs.fill b))

/-- A name that stays as it is when it is read is bound once a binding of it has been filled in. -/
theorem mem_names_withAmbient_of_mem {n : Text} (hn : variableName n = n)
    (h : n ∈ l.map (·.name)) : n ∈ (bs.withAmbient l).names := by
  induction l generalizing bs with
  | nil => cases h
  | cons b l ih =>
    rcases List.mem_cons.1 h with rfl | h
    · refine names_subset_withAmbient (bs.fill b) l ?_
      by_cases hmem : variableName b.name ∈ bs.names
      · rw [fill_of_mem hmem]
        rwa [hn] at hmem
      · rw [names_fill_of_not_mem hmem]
        exact List.mem_append_right _ (List.mem_singleton_self b.name)
    · exact ih h

/-- Whether a set filled with others keeps out every binding that is filled into those others and
kept out of them. -/
def KeepsOut (bs others : TypeBindings) : List TypeBinding → Prop
  | [] => True
  | b :: l => (variableName b.name ∈ others.names →
      variableName b.name ∈ (bs.withAmbient others.entries).names) ∧ bs.KeepsOut (others.fill b) l

theorem withAmbient_fill {others : TypeBindings} (h : variableName b.name ∈ others.names →
    variableName b.name ∈ (bs.withAmbient others.entries).names) :
    bs.withAmbient (others.fill b).entries = (bs.withAmbient others.entries).fill b := by
  by_cases hb : variableName b.name ∈ others.names
  · rw [fill_of_mem hb, fill_of_mem (h hb)]
  · rw [fill_of_not_mem hb]
    exact List.foldl_append

/-- Bindings are added at the end, and their names, once read, are free. -/
theorem exists_added (bs : TypeBindings) (l : List TypeBinding) :
    ∃ added, (bs.withAmbient l).entries = bs.entries ++ added ∧
      ∀ b ∈ added, b ∈ l ∧ variableName b.name ∉ bs.names := by
  induction l generalizing bs with
  | nil => exact ⟨[], (List.append_nil _).symm, fun b hb => by cases hb⟩
  | cons c l ih =>
    obtain ⟨added, hentries, hadded⟩ := ih (bs.fill c)
    have hrest : ∀ b ∈ added, b ∈ c :: l ∧ variableName b.name ∉ bs.names := by
      intro b hb
      obtain ⟨hmem, hfree⟩ := hadded b hb
      exact ⟨List.mem_cons_of_mem c hmem, fun hbound => hfree (names_subset_fill bs c hbound)⟩
    by_cases hc : variableName c.name ∈ bs.names
    · rw [fill_of_mem hc] at hentries
      refine ⟨added, ?_, hrest⟩
      show ((bs.fill c).withAmbient l).entries = _
      rw [fill_of_mem hc, hentries]
    · refine ⟨c :: added, ?_, ?_⟩
      · show ((bs.fill c).withAmbient l).entries = _
        rw [hentries, fill_of_not_mem hc, List.append_assoc, List.singleton_append]
      · rw [List.forall_mem_cons]
        exact ⟨⟨List.mem_cons_self, hc⟩, hrest⟩

/-- Filling with what some bindings come to in another set is filling with that set first, exactly
if bindings that the other set keeps out are kept out in any case. -/
theorem withAmbient_withAmbient_iff (bs others : TypeBindings) (l : List TypeBinding) :
    bs.withAmbient (others.withAmbient l).entries = (bs.withAmbient others.entries).withAmbient l ↔
      bs.KeepsOut others l := by
  induction l generalizing others with
  | nil => exact iff_of_true rfl trivial
  | cons b l ih =>
    by_cases hb : variableName b.name ∈ others.names →
        variableName b.name ∈ (bs.withAmbient others.entries).names
    · have hfill := withAmbient_fill hb
      show bs.withAmbient ((others.fill b).withAmbient l).entries =
        ((bs.withAmbient others.entries).fill b).withAmbient l ↔ _
      rw [← hfill, ih]
      exact (and_iff_right hb).symm
    · refine iff_of_false (fun heq => ?_) fun h => hb h.1
      obtain ⟨hkept, hfree⟩ := Classical.not_imp.1 hb
      -- on the right the binding is the first one that is added, and on the left it is not added
      obtain ⟨added, hothers, hadded⟩ := exists_added others (b :: l)
      obtain ⟨left, hleft, hadds⟩ := exists_added (bs.withAmbient others.entries) added
      obtain ⟨right, hright, -⟩ := exists_added ((bs.withAmbient others.entries).fill b) l
      have hsplit : bs.withAmbient (others.withAmbient (b :: l)).entries =
          (bs.withAmbient others.entries).withAmbient added := by
        rw [hothers]
        exact List.foldl_append
      have hentries : (bs.withAmbient others.entries).entries ++ left =
          (bs.withAmbient others.entries).entries ++ ([b] ++ right) := by
        rw [← hleft, ← hsplit, heq, ← List.append_assoc]
        show (((bs.withAmbient others.entries).fill b).withAmbient l).entries = _
        rw [hright, fill_of_not_mem hfree]
      have hmem : b ∈ left := by
        rw [List.append_cancel_left hentries]
        exact List.mem_cons_self
      exact (hadded b (hadds b hmem).1).2 hkept

/-- Bindings whose names one normalisation settles are kept out. -/
theorem keepsOut_of_settled {others : TypeBindings}
    (hl : ∀ b ∈ l, variableName (variableName b.name) = variableName b.name) :
    bs.KeepsOut others l := by
  induction l generalizing others with
  | nil => trivial
  | cons b l ih =>
    have hb := hl b List.mem_cons_self
    refine ⟨fun hmem => mem_names_withAmbient_of_mem hb hmem, ih fun c hc => ?_⟩
    exact hl c (List.mem_cons_of_mem b hc)

/-! ## The laws -/

/-- Merging in bindings whose names are all bound changes nothing. -/
theorem merge_of_subset {e m : TypeBindings} (hm : m.Settled) (h : m.names ⊆ e.names) :
    e.merge m = e := by
  have hentries : (e.merge m).entries = e.entries := by
    have hnone : m.entries.filter (·.name ∉ e.names) = [] := by
      refine List.filter_eq_nil_iff.2 fun b hb => ?_
      have hmem : b.name ∈ e.names := h (mem_names.2 ⟨b, hb, rfl⟩)
      simpa using hmem
    rw [merge, entries_withAmbient hm.nodup hm.normal, hnone, List.append_nil]
  exact congrArg TypeBindings.mk hentries

theorem empty_merge {m : TypeBindings} (hm : m.Settled) : ({} : TypeBindings).merge m = m := by
  have hentries : (({} : TypeBindings).merge m).entries = m.entries := by
    rw [merge, entries_withAmbient hm.nodup hm.normal, List.filter_eq_self.2]
    · rfl
    · intro b _
      exact decide_eq_true List.not_mem_nil
  exact congrArg TypeBindings.mk hentries

/-- **Merging is a union that prefers the left side** and keeps the order of both sides. It is
associative, and the empty set and a set itself change nothing. Filling in bindings is merging what
they come to by themselves exactly if those that are kept out among themselves are kept out in any
case, and so it is if their names, read as variables' names, do not change when they are read
again. -/
theorem merge_laws {e m k : TypeBindings} (he : e.Settled) (hm : m.Settled) (hk : k.Settled)
    (ambient : List TypeBinding) :
    (∀ n, (e.merge m).get? n = (e.get? n).or (m.get? n)) ∧
    (e.merge m).names = e.names ++ m.names.filter (· ∉ e.names) ∧
    (e.merge m).merge k = e.merge (m.merge k) ∧
    (e.merge {} = e ∧ ({} : TypeBindings).merge e = e ∧ e.merge e = e) ∧
    ((e.merge m).withAmbient ambient =
      (e.merge m).merge (({} : TypeBindings).withAmbient ambient) ↔
        (e.merge m).KeepsOut {} ambient) ∧
    ((∀ b ∈ ambient, variableName (variableName b.name) = variableName b.name) →
      (e.merge m).withAmbient ambient =
        (e.merge m).merge (({} : TypeBindings).withAmbient ambient)) := by
  have hfill : (e.merge m).withAmbient ambient =
      (e.merge m).merge (({} : TypeBindings).withAmbient ambient) ↔
        (e.merge m).KeepsOut {} ambient :=
    eq_comm.trans (withAmbient_withAmbient_iff (e.merge m) {} ambient)
  refine ⟨get?_withAmbient hm.normal, names_withAmbient hm.nodup hm.normal, ?_,
    ⟨rfl, empty_merge he, merge_of_subset he (List.Subset.refl _)⟩, hfill,
    fun h => hfill.2 (keepsOut_of_settled h)⟩
  have hagain : ∀ b ∈ k.entries, variableName (variableName b.name) = variableName b.name :=
    fun b hb => congrArg variableName (hk.normal b hb)
  exact ((withAmbient_withAmbient_iff e m k.entries).2 (keepsOut_of_settled hagain)).symm

/-- The bindings of a call, merged data, and what every template can see. -/
theorem merge_laws_call :
    let e : TypeBindings := .ofList [.of "$user".toList "User".toList, .of "id".toList "int".toList]
    let m : TypeBindings := .ofList [.of "tag".toList "int".toList, .of "id".toList "Id".toList]
    let k : TypeBindings := .ofList [.of "tag".toList "Tag".toList, .of "n".toList "int".toList]
    let ambient : List TypeBinding := [.of "errors".toList "Bag".toList, .of "n".toList "N".toList,
      .of "errors".toList "array".toList]
    e.Settled ∧ m.Settled ∧ k.Settled ∧
      (∀ b ∈ ambient, variableName (variableName b.name) = variableName b.name) ∧
      (e.merge m).get? "$id".toList = some "int".toList ∧
      (e.merge m).names = ["user".toList, "id".toList, "tag".toList] ∧
      (e.merge m).merge k = e.merge (m.merge k) ∧ e.merge e = e ∧
      (e.merge m).withAmbient ambient =
        (e.merge m).merge (({} : TypeBindings).withAmbient ambient) := by
  intro e m k ambient
  have he : e.Settled := by decide +kernel
  have hm : m.Settled := by decide +kernel
  have hk : k.Settled := by decide +kernel
  have hambient : ∀ b ∈ ambient, variableName (variableName b.name) = variableName b.name := by
    decide +kernel
  obtain ⟨hget, hnames, hassoc, ⟨-, -, hself⟩, -, hfill⟩ := merge_laws he hm hk ambient
  refine ⟨he, hm, hk, hambient, ?_, ?_, hassoc, hself, hfill hambient⟩
  · rw [hget]
    decide +kernel
  · rw [hnames]
    decide +kernel

/-- A binding of ` y` is not filled in where `y` is bound, and one of ` $ y` is. By themselves the
first one stays and the second one does not. -/
theorem exists_ambient_ne_merge :
    ∃ (e m : TypeBindings) (ambient : List TypeBinding), e.Settled ∧ m.Settled ∧
      (e.merge m).withAmbient ambient ≠
        (e.merge m).merge (({} : TypeBindings).withAmbient ambient) := by
  let e : TypeBindings := .ofList [.of "y".toList "int".toList]
  let ambient : List TypeBinding :=
    [.of "$ y".toList "bool".toList, .of "$ $ y".toList "array".toList]
  exact ⟨e, {}, ambient, by decide +kernel, by decide +kernel, by decide +kernel⟩

end TypeBindings

end TemplateTrace
