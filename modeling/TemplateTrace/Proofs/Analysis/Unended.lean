import TemplateTrace.Proofs.Analysis.Ledger
import TemplateTrace.Proofs.Json.Joined

/-!
# Records behind an unended line

A record is added to whatever the file of a ledger holds, and nothing ends the last line of the file
first. When something else than blanks is left on that line, as by a writer that was interrupted,
the record ends up on a line that no longer holds any: it is lost, and with it the record that the
line held, if it held one.

- `Text.endedPart`: the lines of a text that are ended.
- `DependencyRecord.readAll_append_line`: what a ledger holds when a record is added.
- `Dependencies.Keeps`: a record is told, and what was told of others still is.
- `Ledger.keeps_iff_of_record`: when a record that is made is kept, and the others with it.
-/

namespace TemplateTrace

namespace Text

/-- A text up to its last line feed. -/
def endedPart (s : Text) : Text := upTo s (lastLine s)

/-- Whether nothing but blanks stands behind the last line feed of a text. -/
def FreshEnd (s : Text) : Prop := (lastLine s).all isAsciiBlank = true

instance (s : Text) : Decidable s.FreshEnd :=
  inferInstanceAs (Decidable ((lastLine s).all isAsciiBlank = true))

theorem endedPart_eq {s a : Text} (h : s = a ++ lastLine s) : endedPart s = a :=
  (congrArg (upTo · (lastLine s)) h).trans (upTo_append a _)

theorem endedPart_append_lastLine (s : Text) : endedPart s ++ lastLine s = s := by
  obtain ⟨a, ha⟩ := lastLine_suffix s
  rw [endedPart_eq ha.symm, ha]

theorem endedPart_of_not_mem {s : Text} (h : '\n' ∉ s) : endedPart s = [] :=
  endedPart_eq (lastLine_of_not_mem h).symm

theorem ended_endedPart (s : Text) : Ended (endedPart s) := by
  by_cases h : '\n' ∈ s
  · obtain ⟨a, ha, -⟩ := exists_lastLine_of_mem h
    exact .inr ⟨a, endedPart_eq (by simpa using ha)⟩
  · exact .inl (endedPart_of_not_mem h)

/-- A last line that is not ended is a line unless it is empty. -/
theorem endedLines_of_not_mem {s : Text} (h : '\n' ∉ s) :
    endedLines s = if s = [] then [] else [s] := by
  simp [endedLines, lines, splitOn_of_not_mem h]

end Text

/-! ## Records -/

namespace DependencyRecord

variable {r : DependencyRecord}

/-- A record's object starts with the name of its caller's field. -/
theorem exists_namedObject (r : DependencyRecord) : ∃ w, r.toJson.NamedObject w :=
  ⟨_, r.plain_toJson, rfl, 'c', _, rfl, rfl⟩

/-- A line on which a record ends holds that record or none. -/
theorem read?_append_compact (hmodified : r.modified.Writable) (hrecorded : r.recordedAt.Writable)
    (t : Text) : read? (t ++ r.toJson.compact) =
      if t.all Text.isAsciiBlank = true then some r else none := by
  obtain ⟨w, hw⟩ := r.exists_namedObject
  rw [read?, hw.parse?_append_compact]
  split
  · exact ofJson?_toJson hmodified hrecorded
  · rfl

theorem read?_of_blank {t : Text} (h : t.all Text.isAsciiBlank = true) : read? t = none := by
  have hskip : Json.skip t = [] := List.dropWhile_eq_nil_iff.2 (List.all_eq_true.1 h)
  rw [read?, Json.parse?, hskip]
  rfl

/-- The records of a text are those of its ended lines, and that of the last line, if it holds
one. -/
theorem readAll_eq (s : Text) :
    readAll s = readAll (Text.endedPart s) ++ (read? (Text.lastLine s)).toList := by
  have hlast : readAll (Text.lastLine s) = (read? (Text.lastLine s)).toList := by
    rw [readAll, Text.endedLines_of_not_mem (Text.not_mem_lastLine s)]
    split
    next hnil => rw [hnil]; rfl
    next => rw [List.filterMap_cons]; cases read? (Text.lastLine s) <;> rfl
  conv_lhs => rw [← Text.endedPart_append_lastLine s]
  rw [readAll_append (Text.ended_endedPart s), hlast]

/-- **A record behind an unended line.** It is held if only blanks are in front of it, and then it
is the last one; otherwise its line holds no record, whatever it held before. -/
theorem readAll_append_line (hmodified : r.modified.Writable) (hrecorded : r.recordedAt.Writable)
    (s : Text) : readAll (s ++ r.line) = readAll (Text.endedPart s) ++
      if s.FreshEnd then [r] else [] := by
  have hread : read? (Text.lastLine s ++ r.toJson.compact) = if s.FreshEnd then some r else none :=
    read?_append_compact hmodified hrecorded (Text.lastLine s)
  have hline : readAll (Text.lastLine s ++ r.line) = if s.FreshEnd then [r] else [] := by
    rw [readAll, r.endedLines_append_line (Text.not_mem_lastLine s), List.filterMap_cons, hread]
    by_cases h : s.FreshEnd
    · rw [if_pos h, if_pos h]
      rfl
    · rw [if_neg h, if_neg h]
      rfl
  conv_lhs => rw [← Text.endedPart_append_lastLine s, List.append_assoc]
  rw [readAll_append (Text.ended_endedPart s), hline]

end DependencyRecord

/-! ## What is kept -/

namespace Dependencies

/-- The time that was just recorded for a caller and a template is told, and so is all that was told
of others. -/
structure Keeps (d d' : Dependencies) (caller template : Text) (time : Instant) : Prop where
  told : d'.time? caller template = some time
  kept : ∀ c t x, (c, t) ≠ (caller, template) → d.time? c t = some x → d'.time? c t = some x

variable {caller template : Text} {time : Instant} {d : Dependencies} {rs : List DependencyRecord}

/-- A record that is the last one is told, and hides no others. -/
theorem keeps_concat {r : DependencyRecord} (hcaller : r.caller = caller)
    (htemplate : r.template = template)
    (hd : ∀ c t x, d.time? c t = some x → lastTime rs c t = some x) :
    Keeps d (ofRecords (rs ++ [r])) caller template r.modified where
  told := by rw [time?_ofRecords, lastTime_concat, if_pos ⟨hcaller, htemplate⟩]
  kept c t x hne hx := by
    rw [time?_ofRecords, lastTime_concat, if_neg, hd c t x hx]
    rintro ⟨rfl, rfl⟩
    exact hne (by rw [hcaller, htemplate])

/-- Without the new record and the one on the unended line, something is kept only if the ended
lines told the same. -/
theorem keeps_iff_of_lost {o : Option DependencyRecord}
    (hd : ∀ c t x, d.time? c t = some x → lastTime (rs ++ o.toList) c t = some x) :
    Keeps d (ofRecords rs) caller template time ↔
      lastTime rs caller template = some time ∧ ∀ r, o = some r →
        d.time? r.caller r.template = some r.modified →
          r.caller = caller ∧ r.template = template ∨
            lastTime rs r.caller r.template = some r.modified := by
  constructor
  · intro h
    refine ⟨?_, fun r hr hold => ?_⟩
    · rw [← time?_ofRecords]
      exact h.told
    · -- a lost record is one of the recorded pair, or its time is one that must be kept
      by_cases hpair : r.caller = caller ∧ r.template = template
      · exact .inl hpair
      · rw [← time?_ofRecords]
        refine .inr (h.kept _ _ _ (fun heq => hpair ?_) hold)
        exact Prod.mk.inj heq
  · rintro ⟨htold, hlost⟩
    refine ⟨by rw [time?_ofRecords, htold], fun c t x hne hx => ?_⟩
    have hbefore := hd c t x hx
    rw [time?_ofRecords]
    -- without a record that is lost nothing changes
    cases o with
    | none => rwa [Option.toList_none, List.append_nil] at hbefore
    | some r =>
      rw [Option.toList_some, lastTime_concat] at hbefore
      split at hbefore
      next hpair =>
        obtain ⟨rfl, rfl⟩ := hpair
        obtain rfl := Option.some.inj hbefore
        rcases hlost r rfl hx with ⟨rfl, rfl⟩ | hsame
        · exact absurd rfl hne
        · exact hsame
      next => exact hbefore

end Dependencies

/-! ## The ledger -/

open FileStore

namespace Ledger

variable {l : Ledger} {fs fs' : FileStore} {caller template : Text} {s : Text} {d : Dependencies}

/-- What a ledger says is what its file holds, or nothing if its path does not lead there yet. -/
theorem lastTime_of_dependencies (hs : (fs.content? (l.place fs)).getD (.text []) = .text s)
    (hd : l.dependencies fs = .ok d) (c t : Text) (x : Instant) (hx : d.time? c t = some x) :
    Dependencies.lastTime (DependencyRecord.readAll s) c t = some x := by
  unfold Ledger.dependencies at hd
  split at hd
  next s' hread =>
    obtain rfl := Except.ok.inj hd
    rw [place, content?_of_readText hread] at hs
    obtain rfl := Content.text.inj hs
    rwa [Dependencies.time?_ofRecords] at hx
  next =>
    obtain rfl := Except.ok.inj hd
    cases hx
  next => cases hd

/-- What a ledger says when a record was made. -/
theorem dependencies_of_record (hs : (fs.content? (l.place fs)).getD (.text []) = .text s)
    (hclock : fs.clock.Writable) (hwritable : ∀ m, fs.modified template = .ok m → m.Writable)
    (hrecord : l.record fs caller template = (.ok (), fs')) :
    ∃ m, fs.modified template = .ok m ∧ l.dependencies fs' =
      .ok (.ofRecords (DependencyRecord.readAll (Text.endedPart s) ++
        if s.FreshEnd then [⟨caller, template, m, fs.clock⟩] else [])) := by
  have hmakes := l.makesOnly_makeDirectory fs
  have hrecording := l.recording fs caller template
  rw [hrecord] at hrecording
  cases hrecording with
  | @recorded m fs₁ _ hmodified hmake happend =>
    rw [hmake] at hmakes
    have hsame : fs₁.clock = fs.clock := hmakes.clock
    have hplace : l.place fs₁ = l.place fs := by rw [place, place, hmakes.workingDirectory]
    rw [← hplace, ← hmakes.content?_eq] at hs
    obtain ⟨hcontent, hlocate⟩ := content?_append happend hs
    refine ⟨m, hmodified, ?_⟩
    rw [Ledger.dependencies, readText_of_content hlocate hcontent]
    rw [← hsame] at hclock ⊢
    exact congrArg (Except.ok ∘ Dependencies.ofRecords)
      (DependencyRecord.readAll_append_line (r := ⟨caller, template, m, fs₁.clock⟩)
        (hwritable m hmodified) hclock s)

/-- **When a record is kept.** A record that is made is told, together with all that was told of
others, if only blanks are left behind the last line feed of the file. Otherwise the last line is
lost with the record on it: then nothing is missing only if the ended lines told the same time of
the caller and the template already, and a record that the lost line held is about these, too, or is
repeated by the ended lines. The times are any that can be read back. -/
theorem keeps_iff_of_record (hs : (fs.content? (l.place fs)).getD (.text []) = .text s)
    (hclock : fs.clock.Writable) (hwritable : ∀ m, fs.modified template = .ok m → m.Writable)
    (hrecord : l.record fs caller template = (.ok (), fs')) :
    ∃ m d', fs.modified template = .ok m ∧ l.dependencies fs' = .ok d' ∧
      d' = .ofRecords (DependencyRecord.readAll (Text.endedPart s) ++
        if s.FreshEnd then [⟨caller, template, m, fs.clock⟩] else []) ∧
      ∀ d, l.dependencies fs = .ok d → (Dependencies.Keeps d d' caller template m ↔
        s.FreshEnd ∨
          Dependencies.lastTime (DependencyRecord.readAll (Text.endedPart s)) caller template =
            some m ∧
          ∀ r, DependencyRecord.read? (Text.lastLine s) = some r →
            d.time? r.caller r.template = some r.modified →
              r.caller = caller ∧ r.template = template ∨
                Dependencies.lastTime (DependencyRecord.readAll (Text.endedPart s)) r.caller
                  r.template = some r.modified) := by
  obtain ⟨m, hm, hafter⟩ := dependencies_of_record hs hclock hwritable hrecord
  refine ⟨m, _, hm, hafter, rfl, fun d hd => ?_⟩
  have htold := lastTime_of_dependencies hs hd
  rw [DependencyRecord.readAll_eq s] at htold
  by_cases hblank : s.FreshEnd
  · rw [DependencyRecord.read?_of_blank hblank, Option.toList_none, List.append_nil] at htold
    rw [if_pos hblank]
    exact iff_of_true (Dependencies.keeps_concat rfl rfl htold) (.inl hblank)
  · rw [if_neg hblank, List.append_nil, Dependencies.keeps_iff_of_lost htold]
    exact (or_iff_right hblank).symm

/-- Files with a template and a ledger that holds some text. -/
def storeWith (text : Text) : FileStore :=
  ⟨[(["a".toList], ⟨.file (.text "x".toList), day⟩), (["scratch".toList], ⟨.directory, day⟩),
    (["scratch".toList, "dependencies.jsonl".toList], ⟨.file (.text text), day⟩)], [], day⟩

theorem writable_day : day.Writable := by decide

theorem modified_storeWith (text : Text) : (storeWith text).modified "a".toList = .ok day := rfl

theorem writable_of_storeWith {text : Text} {m : Instant}
    (h : (storeWith text).modified "a".toList = .ok m) : m.Writable := by
  obtain rfl := Except.ok.inj ((modified_storeWith text).symm.trans h)
  exact writable_day

theorem readText_storeWith (text : Text) :
    (storeWith text).readText (inDirectory "scratch".toList).path = .ok text := rfl

theorem content?_storeWith (text : Text) :
    ((storeWith text).content? ((inDirectory "scratch".toList).place (storeWith text))).getD
      (.text []) = .text text := rfl

theorem exists_record_storeWith (text caller : Text) : ∃ fs',
    (inDirectory "scratch".toList).record (storeWith text) caller "a".toList = (.ok (), fs') :=
  ⟨_, rfl⟩

/-- A record is kept behind a damaged line that is ended, and blanks. -/
theorem keeps_iff_of_record_blank :
    let l := inDirectory "scratch".toList
    ∃ fs' d', l.record (storeWith "torn\n ".toList) "/b.php".toList "a".toList = (.ok (), fs') ∧
      l.dependencies fs' = .ok d' ∧
        Dependencies.Keeps {} d' "/b.php".toList "a".toList day := by
  intro l
  obtain ⟨fs', hrecord⟩ := exists_record_storeWith "torn\n ".toList "/b.php".toList
  obtain ⟨m, d', hm, hd', -, hkeeps⟩ := keeps_iff_of_record (content?_storeWith _)
    writable_day (fun _ => writable_of_storeWith) hrecord
  obtain rfl := Except.ok.inj ((modified_storeWith _).symm.trans hm)
  exact ⟨fs', d', hrecord, hd', (hkeeps {} rfl).2 (.inl (by decide))⟩

/-- A record that is made behind one that is not ended: the ledger told of that one, and now it says
nothing at all. -/
theorem exists_lost_record :
    let l := inDirectory "scratch".toList
    let r : DependencyRecord := ⟨"/a.php".toList, "a".toList, day, day⟩
    ∃ fs' d,
      l.record (storeWith r.toJson.compact) "/b.php".toList "a".toList = (.ok (), fs') ∧
        l.dependencies (storeWith r.toJson.compact) = .ok d ∧
          d.time? r.caller r.template = some r.modified ∧ l.dependencies fs' = .ok {} := by
  intro l r
  have hline := Json.not_mem_newline_compact _ r.plain_toJson
  have hlast := Text.lastLine_of_not_mem hline
  have hpart := Text.endedPart_of_not_mem hline
  have hread : DependencyRecord.readAll r.toJson.compact = [r] := by
    rw [DependencyRecord.readAll_eq, hpart, hlast,
      DependencyRecord.read?_compact writable_day writable_day]
    rfl
  have hbrace : ¬ r.toJson.compact.FreshEnd := by
    rw [Text.FreshEnd, hlast]
    exact fun hall => absurd (List.all_eq_true.1 hall '\x7b' List.mem_cons_self) (by decide)
  generalize r.toJson.compact = text at hpart hread hbrace ⊢
  obtain ⟨fs', hrecord⟩ := exists_record_storeWith text "/b.php".toList
  obtain ⟨m, -, hafter⟩ := dependencies_of_record (content?_storeWith text) writable_day
    (fun _ => writable_of_storeWith) hrecord
  rw [if_neg hbrace, hpart] at hafter
  refine ⟨fs', .ofRecords [r], hrecord, ?_, ?_, hafter⟩
  · rw [dependencies, readText_storeWith]
    exact congrArg (Except.ok ∘ Dependencies.ofRecords) hread
  · rw [Dependencies.time?_ofRecords]
    rfl

end Ledger

end TemplateTrace
