import Mathlib.Data.List.Basic
import Mathlib.Data.List.Induction
import TemplateTrace.Analysis.Ledger
import TemplateTrace.Proofs.Files.Instant
import TemplateTrace.Proofs.Text.Lines

/-!
# What records say together

A record reads back from its line, so a text of ended lines with a record's line behind it holds the
records that it held, and that one. The records say together what the last one about each caller and
template says.

- `Text.Ended`: a text whose last line is ended, and `Text.endedLines_append`.
- `DependencyRecord.readAll_line`: a record is read back from its line.
- `Index.mem_entries_iff`: the entries of a sorted index are what its keys are looked up as.
- `Dependencies.lastTime`, `Dependencies.time?_ofRecords`: the last record wins.
- `Dependencies.WellFormed`: keys ascend, and no caller stands without a template.
-/

namespace TemplateTrace

/-! ## Ended lines -/

namespace Text

/-- Nothing stands behind the last line feed of a text. -/
def Ended (s : Text) : Prop := s = [] ∨ ∃ t, s = t ++ ['\n']

theorem endedLines_nil : endedLines [] = [] := rfl

/-- A line feed ends a line: the lines in front of it and those behind it are read apart. -/
theorem endedLines_append_newline (a b : Text) :
    endedLines (a ++ '\n' :: b) = (lines a).map dropReturn ++ endedLines b := by
  have hne : lines b ≠ [] := splitOn_ne_nil _ _
  have hlast : (lines a ++ lines b).getLastD [] = (lines b).getLastD [] := by
    rw [List.getLastD_eq_getLast?, List.getLastD_eq_getLast?,
      List.getLast?_append_of_ne_nil _ hne]
  unfold endedLines
  rw [lines_append_cons]
  dsimp only
  rw [hlast, List.dropLast_append_of_ne_nil hne, List.map_append, List.append_assoc]

/-- Lines go on behind an ended line. -/
theorem endedLines_append {a : Text} (h : Ended a) (b : Text) :
    endedLines (a ++ b) = endedLines a ++ endedLines b := by
  rcases h with rfl | ⟨t, rfl⟩
  · rfl
  · rw [List.append_assoc, List.singleton_append, endedLines_append_newline,
      endedLines_append_newline, endedLines_nil, List.append_nil]

theorem Ended.append {a b : Text} (ha : Ended a) (hb : Ended b) : Ended (a ++ b) := by
  rcases hb with rfl | ⟨t, rfl⟩
  · rw [List.append_nil]
    exact ha
  · exact .inr ⟨a ++ t, (List.append_assoc _ _ _).symm⟩

/-- A single ended line. -/
theorem endedLines_line {l : Text} (hline : '\n' ∉ l) (hreturn : l.getLast? ≠ some '\r') :
    endedLines (l ++ ['\n']) = [l] := by
  rw [endedLines_append_newline, endedLines_nil, List.append_nil, lines, splitOn_of_not_mem hline,
    List.map_singleton, dropReturn, if_neg hreturn]

end Text

/-! ## Records -/

namespace DependencyRecord

theorem plain_toJson (r : DependencyRecord) : r.toJson.plain = true := rfl

/-- A record that is written as JSON is read back, if its two times can be written. -/
theorem ofJson?_toJson {r : DependencyRecord} (hmodified : r.modified.Writable)
    (hrecorded : r.recordedAt.Writable) : ofJson? r.toJson = some r := by
  have hfields : r.toJson.record? ["caller".toList, "template".toList, "mtime".toList,
      "recorded_at".toList] =
        some [some (.string r.caller), some (.string r.template),
          some (.string r.modified.write), some (.string r.recordedAt.write)] := rfl
  simp only [ofJson?, hfields, Json.toText?, Option.bind_eq_bind, Option.bind_some,
    Instant.read?_write hmodified, Instant.read?_write hrecorded]
  rfl

theorem ended_line (r : DependencyRecord) : Text.Ended r.line := .inr ⟨_, rfl⟩

theorem read?_compact {r : DependencyRecord} (hmodified : r.modified.Writable)
    (hrecorded : r.recordedAt.Writable) : read? r.toJson.compact = some r := by
  rw [read?, Json.parse?_compact r.plain_toJson, Option.bind_some,
    ofJson?_toJson hmodified hrecorded]

/-- Text without a line feed in front of a record's line is on that line. -/
theorem endedLines_append_line (r : DependencyRecord) {t : Text} (ht : '\n' ∉ t) :
    Text.endedLines (t ++ r.line) = [t ++ r.toJson.compact] := by
  have hclosed : (t ++ r.toJson.compact).getLast? = some '}' := by
    rw [toJson, Json.compact, ← List.append_assoc, List.getLast?_concat]
  rw [line, ← List.append_assoc]
  refine Text.endedLines_line (fun h => ?_) (by rw [hclosed]; decide)
  exact (List.mem_append.1 h).elim ht (Json.not_mem_newline_compact _ r.plain_toJson)

/-- A record is read back from its line, whatever its caller and its template are called. -/
theorem readAll_line {r : DependencyRecord} (hmodified : r.modified.Writable)
    (hrecorded : r.recordedAt.Writable) : readAll r.line = [r] := by
  have hline := r.endedLines_append_line (t := []) List.not_mem_nil
  rw [List.nil_append, List.nil_append] at hline
  rw [readAll, hline, List.filterMap_cons_some (read?_compact hmodified hrecorded),
    List.filterMap_nil]

theorem readAll_append {a : Text} (h : a.Ended) (b : Text) :
    readAll (a ++ b) = readAll a ++ readAll b := by
  rw [readAll, Text.endedLines_append h, List.filterMap_append]
  rfl

end DependencyRecord

/-! ## Indexes -/

namespace Index

variable {α : Type} {x : Index α}

/-- The entries of a sorted index are what its keys are looked up as. -/
theorem mem_entries_iff (hx : x.Sorted) {key : Text} {value : α} :
    (key, value) ∈ x.entries ↔ x.get? key = some value := by
  obtain ⟨es⟩ := x
  simp only [Sorted, keys] at hx
  simp only [get?]
  induction es with
  | nil => simp
  | cons e es ih =>
    obtain ⟨k, v⟩ := e
    rw [List.map_cons, List.pairwise_cons] at hx
    by_cases hk : k = key
    · subst hk
      rw [List.find?_cons_of_pos (by simp), Option.map_some, List.mem_cons]
      constructor
      · rintro (heq | hmem)
        · exact congrArg some (Prod.mk.inj heq).2.symm
        · exact absurd (hx.1 k (List.mem_map.2 ⟨_, hmem, rfl⟩)) (List.lt_irrefl k)
      · intro h
        exact .inl (congrArg (Prod.mk k) (Option.some.inj h).symm)
    · rw [List.find?_cons_of_neg (by simpa using hk), ← ih hx.2, List.mem_cons]
      constructor
      · rintro (heq | hmem)
        · exact absurd (Prod.mk.inj heq).1.symm hk
        · exact hmem
      · exact .inr

theorem sorted_empty : ({} : Index α).Sorted := List.Pairwise.nil

end Index

/-! ## Dependencies -/

namespace Dependencies

/-- The time that the last record about a caller and a template gives. -/
def lastTime (rs : List DependencyRecord) (caller template : Text) : Option Instant :=
  (rs.reverse.find? fun r => r.caller = caller ∧ r.template = template).map (·.modified)

/-- The last time of a caller and template is that of the last record that is theirs. -/
theorem lastTime_concat (rs : List DependencyRecord) (r : DependencyRecord)
    (caller template : Text) :
    lastTime (rs ++ [r]) caller template =
      if r.caller = caller ∧ r.template = template then some r.modified
      else lastTime rs caller template := by
  rw [lastTime, List.reverse_concat, List.find?_cons]
  by_cases h : r.caller = caller ∧ r.template = template
  · rw [if_pos h, decide_eq_true h]
    rfl
  · rw [if_neg h, decide_eq_false h]
    rfl

theorem ofRecords_concat (rs : List DependencyRecord) (r : DependencyRecord) :
    ofRecords (rs ++ [r]) = add (ofRecords rs) r := by
  rw [ofRecords, List.foldl_append]
  rfl

/-- **The last record wins.** -/
theorem time?_ofRecords (rs : List DependencyRecord) (caller template : Text) :
    (ofRecords rs).time? caller template = lastTime rs caller template := by
  induction rs using List.reverseRecOn with
  | nil => rfl
  | append_singleton rs r ih => rw [ofRecords_concat, time?_add, lastTime_concat, ih]

/-- Callers ascend, the templates of each caller ascend, and every caller has one. -/
structure WellFormed (d : Dependencies) : Prop where
  sorted : d.Sorted
  templates : ∀ caller x, d.get? caller = some x → x.Sorted ∧ ∃ template, x.get? template ≠ none

/-- A record keeps callers and templates in order, by whether the caller is that of the record. -/
theorem WellFormed.add {d : Dependencies} (h : d.WellFormed) (r : DependencyRecord) :
    (add d r).WellFormed := by
  refine ⟨Index.sorted_insert h.sorted _ _, fun caller x hx => ?_⟩
  rw [Dependencies.add, Index.get?_insert] at hx
  by_cases hc : r.caller = caller
  · rw [if_pos hc] at hx
    obtain rfl := Option.some.inj hx
    have hold : ((d.get? r.caller).getD {}).Sorted := by
      cases hget : d.get? r.caller with
      | none => exact Index.sorted_empty
      | some x => exact (h.templates _ x hget).1
    refine ⟨Index.sorted_insert hold _ _, r.template, ?_⟩
    rw [Index.get?_insert, if_pos rfl]
    exact Option.some_ne_none _
  · rw [if_neg hc] at hx
    exact h.templates caller x hx

theorem wellFormed_ofRecords (rs : List DependencyRecord) : (ofRecords rs).WellFormed := by
  induction rs using List.reverseRecOn with
  | nil => exact ⟨Index.sorted_empty, fun caller x hx => nomatch hx⟩
  | append_singleton rs r ih =>
    rw [ofRecords_concat]
    exact ih.add r

/-- A caller stands in the dependencies exactly if there is a record about it. -/
theorem mem_keys_ofRecords (rs : List DependencyRecord) (caller : Text) :
    caller ∈ (ofRecords rs).keys ↔ ∃ template, lastTime rs caller template ≠ none := by
  have hwell := wellFormed_ofRecords rs
  constructor
  · intro h
    obtain ⟨⟨k, x⟩, hmem, rfl⟩ := List.mem_map.1 h
    have hget := (Index.mem_entries_iff hwell.sorted).1 hmem
    obtain ⟨template, htemplate⟩ := (hwell.templates k x hget).2
    refine ⟨template, ?_⟩
    rw [← time?_ofRecords, time?, hget]
    exact htemplate
  · rintro ⟨template, h⟩
    rw [← time?_ofRecords, time?] at h
    cases hget : (ofRecords rs).get? caller with
    | none => exact absurd (congrArg (Option.bind · _) hget) h
    | some x => exact List.mem_map.2 ⟨_, (Index.mem_entries_iff hwell.sorted).2 hget, rfl⟩

/-- The callers that have an entry with a property, in ascending order. -/
theorem mem_callers_iff {d : Dependencies} (hd : d.WellFormed) (p : Text → Instant → Bool)
    (caller : Text) :
    caller ∈ (d.entries.filter fun (_, x) => x.entries.any fun (t, m) => p t m).map (·.1) ↔
      ∃ template time, d.time? caller template = some time ∧ p template time = true := by
  constructor
  · intro h
    obtain ⟨⟨k, x⟩, hmem, rfl⟩ := List.mem_map.1 h
    obtain ⟨hmem, hany⟩ := List.mem_filter.1 hmem
    obtain ⟨⟨t, m⟩, htm, hp⟩ := List.any_eq_true.1 hany
    have hget := (Index.mem_entries_iff hd.sorted).1 hmem
    refine ⟨t, m, ?_, hp⟩
    rw [time?, hget, Option.bind_some]
    exact (Index.mem_entries_iff (hd.templates k x hget).1).1 htm
  · rintro ⟨t, m, htime, hp⟩
    obtain ⟨x, hget, hx⟩ := Option.bind_eq_some_iff.1 htime
    refine List.mem_map.2 ⟨(caller, x), List.mem_filter.2
      ⟨(Index.mem_entries_iff hd.sorted).2 hget, List.any_eq_true.2 ⟨(t, m), ?_, hp⟩⟩, rfl⟩
    exact (Index.mem_entries_iff (hd.templates caller x hget).1).2 hx

theorem pairwise_callers {d : Dependencies} (hd : d.WellFormed) (p : Text × Index Instant → Bool) :
    ((d.entries.filter p).map (·.1)).Pairwise (· < ·) :=
  hd.sorted.sublist (List.filter_sublist.map _)

end Dependencies

end TemplateTrace
