import TemplateTrace.Proofs.Analysis.Batch
import TemplateTrace.Proofs.Code.Snippet

/-!
# Results that stay

A result can be kept as long as nothing that it was made of has changed. A check records the
template that its request names, and asks the files for the templates that this one includes as
well; so the ledger speaks for the templates that it holds, and the others and the look-ups have to
be known to be the same.

- `Ledger.exists_modified_of_fresh`: a template whose caller is not stale is there, and no later than
  it was recorded.
- `Analyser.Edited`: changes to the files behind a check that leave alone what checks write.
- `Analyser.edited_of_edits`: they come about by files being put and removed and directories made.
- `Analyser.Covered`: the ledger speaks for what a request asks for, or it is the same.
- `Analyser.time?_of_check`: a check records the template that its request names.
- `Analyser.check_of_fresh`: a caller that is not stale has the result that it had.
- `Analyser.exists_unnoticed_change`: changes that the ledger does not speak for.
-/

namespace TemplateTrace

open TemplateTrace.Path FileStore IncludeSite

variable {fs fs' : FileStore} {path : Text}

/-! ## Templates of callers that are not stale -/

namespace FileStore

/-- A path whose text can be read leads to a file. -/
theorem exists_place_of_readText {text : Text} (h : fs.readText path = .ok text) :
    ∃ q, fs.locate path = .ok q ∧ fs.kind? q = some false := by
  cases hentry : fs.entry path with
  | error e =>
    rw [readText, read, hentry] at h
    cases h
  | ok e =>
    obtain ⟨q, hlocate, hat⟩ := entry_eq_ok_iff.1 hentry
    refine ⟨q, hlocate, ?_⟩
    rw [readText, read_of_entry hentry] at h
    rw [kind?_of_at? hat]
    cases hnode : e.node with
    | directory =>
      rw [hnode] at h
      cases h
    | file c => rfl

end FileStore

namespace Ledger

variable {l : Ledger} {d : Dependencies} {caller template : Text} {m : Instant}

/-- Where something is recorded, the file of the ledger holds records. -/
theorem exists_records (hdeps : l.dependencies fs = .ok d)
    (htime : d.time? caller template = some m) :
    ∃ text, fs.readText l.path = .ok text ∧ d = .ofRecords (DependencyRecord.readAll text) := by
  unfold dependencies at hdeps
  split at hdeps
  next text htext => exact ⟨text, htext, (Except.ok.inj hdeps).symm⟩
  next =>
    obtain rfl := Except.ok.inj hdeps
    cases htime
  next => cases hdeps

/-- A template whose caller is not stale is there, and no later than it was recorded. -/
theorem exists_modified_of_fresh (hdeps : l.dependencies fs = .ok d)
    (hfresh : ∀ cs, l.staleCallers fs = .ok cs → caller ∉ cs)
    (htime : d.time? caller template = some m) :
    ∃ current, fs.modified template = .ok current ∧ m.before current = false := by
  obtain ⟨text, -, rfl⟩ := exists_records hdeps htime
  obtain ⟨cs, hcs, -, hmem⟩ := (tells_of_dependencies hdeps).stale
  have hcurrent : ¬ Outdated fs template m := fun houtdated => hfresh cs hcs
    ((hmem caller).2 ⟨template, m, (Dependencies.time?_ofRecords _ _ _).symm.trans htime, houtdated⟩)
  unfold Outdated at hcurrent
  cases hmodified : fs.modified template with
  | error e => exact absurd (.inl ⟨e, hmodified⟩) hcurrent
  | ok current =>
    refine ⟨current, rfl, Bool.eq_false_iff.2 fun hbefore => hcurrent ?_⟩
    exact .inr ⟨current, hmodified, hbefore⟩

/-- A scratch file is written beside the ledger. -/
theorem Holds.writeScratch {rs : List DependencyRecord} (h : l.Holds fs rs) (dir template : Text)
    (stack : List Frame) (text : Text)
    (helsewhere : target fs.workingDirectory (scratchPath dir template stack) ≠ l.place fs) :
    l.Holds (fs.writeScratch dir template stack text).2 rs := by
  have hmakes := makesOnly_createDirAll fs dir
  have hwriting := fs.writing dir template stack text
  generalize fs.writeScratch dir template stack text = x at hwriting
  cases hwriting with
  | homeless hmake =>
    rw [hmake] at hmakes
    exact h.makes hmakes
  | refused hmake hwrite =>
    rw [hmake] at hmakes
    exact h.makes hmakes
  | written hmake hwrite =>
    rw [hmake] at hmakes
    refine (h.makes hmakes).put (fun hlocate => helsewhere ?_) hwrite
    rw [place, hmakes.workingDirectory, locate_eq_ok_iff] at hlocate
    rw [← hmakes.workingDirectory]
    exact hlocate.2.1

/-- Code lines are given to the checker beside the ledger. -/
theorem Holds.checkLines {a : Analyser} {rs : List DependencyRecord} (h : l.Holds fs rs)
    (r : CheckRequest) (path : Text) (lines : List CodeLine)
    (helsewhere : ∀ template stack,
      target fs.workingDirectory (scratchPath a.config.scratchDir template stack) ≠ l.place fs) :
    l.Holds (a.checkLines fs r path lines).files rs := by
  unfold Analyser.checkLines
  split
  · exact h
  · have hscratch := h.writeScratch a.config.scratchDir path [r.caller]
      (CheckerFile.synthesize (a.bindings r) lines).text (helsewhere _ _)
    dsimp only
    split
    next hwrite => rwa [hwrite] at hscratch
    next hwrite => rwa [hwrite] at hscratch

end Ledger

namespace Analyser

variable {a : Analyser} {r : CheckRequest} {l : Ledger} {d : Dependencies} {o : CheckOutcome}
  {steps : Nat}

/-! ## Changes behind a check -/

theorem writes_scratch (a : Analyser) (template : Text) (stack : List Frame)
    (h : fs.kind? (target fs.workingDirectory (scratchPath a.config.scratchDir template stack)) =
      some false) :
    a.Writes fs (target fs.workingDirectory (scratchPath a.config.scratchDir template stack)) :=
  ⟨.inr (.inl ⟨template, stack, rfl⟩), by rw [h]; nofun⟩

theorem writes_ledger (hledger : a.ledger = some l) (h : fs.kind? (l.place fs) = some false) :
    a.Writes fs (l.place fs) :=
  ⟨.inr (.inr ⟨l, hledger, target_mem_way⟩), by rw [h]; nofun⟩

/-- Changes to the files behind checks: directories stay, what checks write is left alone, and what
comes to hold something else was changed later. -/
structure Edited (a : Analyser) (fs fs' : FileStore) : Prop where
  workingDirectory : fs'.workingDirectory = fs.workingDirectory
  directory : ∀ q, fs.kind? q = some true → fs'.kind? q = some true
  written : ∀ q, a.Writes fs q → fs'.at? q = fs.at? q
  later : ∀ q e e', fs.at? q = some e → fs'.at? q = some e' → e'.node ≠ e.node →
    e.modified.before e'.modified = true

namespace Edited

variable {start : FileStore} {t : Instant}

theorem refl (a : Analyser) (fs : FileStore) : a.Edited fs fs := by
  refine ⟨rfl, fun _ h => h, fun _ _ => rfl, fun q e e' he he' hnode => ?_⟩
  cases he.symm.trans he'
  exact absurd rfl hnode

/-- A change at places that checks do not write, which puts other things there at later times. -/
theorem step (h : a.Edited start fs) (hwd : fs'.workingDirectory = fs.workingDirectory)
    (hdirs : ∀ q, fs.kind? q = some true → fs'.kind? q = some true)
    (hat : ∀ q, q ≠ [] → fs'.at? q = fs.at? q ∨ ¬ a.Writes start q ∧
      ∀ e e', start.at? q = some e → fs'.at? q = some e' → e'.node ≠ e.node →
        e.modified.before e'.modified = true) : a.Edited start fs' := by
  constructor
  · exact hwd.trans h.workingDirectory
  · exact fun q hq => hdirs q (h.directory q hq)
  · intro q hq
    rcases hat q (ne_root_of_kind? hq.2) with hsame | ⟨hapart, -⟩
    · exact hsame.trans (h.written q hq)
    · exact absurd hq hapart
  · intro q e e' he he' hnode
    by_cases hroot : q = []
    · subst hroot
      cases he
      cases he'
      exact absurd rfl hnode
    rcases hat q hroot with hsame | ⟨-, hlater⟩
    · exact h.later q e e' he (hsame.symm.trans he') hnode
    · exact hlater e e' he he' hnode

/-- A content is put into a file, later than what stood there at the start. -/
theorem put (h : a.Edited start fs) {f : Option Content → Content}
    (hput : FileStore.update { fs with clock := t } path f = .ok fs')
    (hapart : ¬ a.Writes start (target start.workingDirectory path))
    (hlater : ∀ e, start.at? (target start.workingDirectory path) = some e →
      e.modified.before t = true) : a.Edited start fs' := by
  have hdirs := (extends_update hput).directory
  obtain ⟨q, hlocate, -, -, rfl⟩ := update_eq_ok hput
  obtain rfl : target start.workingDirectory path = q := by
    rw [← h.workingDirectory]
    exact (locate_eq_ok_iff.1 hlocate).2.1
  refine h.step rfl (fun p hp => hdirs p (((alike_clock fs t).kind p).trans hp)) fun p hp => ?_
  by_cases hne : target start.workingDirectory path = p
  · subst hne
    refine .inr ⟨hapart, fun e e' he he' _ => ?_⟩
    cases (at?_set_self _ _ hp).symm.trans he'
    exact hlater e he
  · exact .inl ((at?_set_of_ne _ _ hne).trans (at?_clock fs t hp))

/-- A file is removed. -/
theorem remove (h : a.Edited start fs) (hremove : fs.remove path = .ok fs')
    (hapart : ¬ a.Writes start (target start.workingDirectory path)) : a.Edited start fs' := by
  obtain ⟨q, hlocate, hkind, rfl⟩ := remove_eq_ok hremove
  obtain rfl : target start.workingDirectory path = q := by
    rw [← h.workingDirectory]
    exact (locate_eq_ok_iff.1 hlocate).2.1
  refine h.step rfl (fun p hp => ?_) fun p hp => ?_
  · have hne : target start.workingDirectory path ≠ p := by
      rintro rfl
      cases hkind.symm.trans hp
    rw [kind?, at?_filter_of_ne fs hne]
    exact hp
  · by_cases hne : target start.workingDirectory path = p
    · subst hne
      refine .inr ⟨hapart, fun e e' _ he' => ?_⟩
      cases (at?_filter_self fs hp).symm.trans he'
    · exact .inl (at?_filter_of_ne fs hne)

/-- Directories are made, later than the files that stood in their places at the start. -/
theorem makeDirectory (h : a.Edited start fs)
    (hapart : ∀ q ∈ way start.workingDirectory path, ¬ a.Writes start q)
    (hlater : ∀ q ∈ way start.workingDirectory path, ∀ c m,
      start.at? q = some ⟨.file c, m⟩ → m.before t = true) :
    a.Edited start (FileStore.createDirAll { fs with clock := t } path).2 := by
  have hmakes := makesOnly_createDirAll { fs with clock := t } path
  have hway : way (FileStore.workingDirectory { fs with clock := t }) path =
      way start.workingDirectory path := by rw [← h.workingDirectory]
  rw [hway] at hmakes
  refine h.step hmakes.workingDirectory (fun p hp => ?_) fun p hp => ?_
  · exact hmakes.toExtends.directory p (((alike_clock fs t).kind p).trans hp)
  · rcases hmakes.at? p with hsame | ⟨hmem, -, hdir⟩
    · exact .inl (hsame.trans (at?_clock fs t hp))
    · refine .inr ⟨hapart p hmem, ?_⟩
      rintro ⟨node, m⟩ e' he he' hnode
      cases hdir.symm.trans he'
      cases node with
      | directory => exact absurd rfl hnode
      | file c => exact hlater p hmem c m he

theorem keeps (h : a.Edited fs fs') :
    Keeps (fun q => fs.kind? q = some false → a.Writes fs q) fs fs' := by
  refine ⟨h.workingDirectory, h.directory, fun q hwrites hkind => ?_⟩
  rw [kind?, h.written q (hwrites hkind)]
  exact hkind

/-- A file that is no later than it was holds what it held. -/
theorem read_eq (h : a.Edited fs fs') {m current : Instant} (hm : fs.modified path = .ok m)
    (hcurrent : fs'.modified path = .ok current) (hbefore : m.before current = false) :
    fs'.read path = fs.read path := by
  obtain ⟨e, hentry, rfl⟩ := entry_of_modified hm
  obtain ⟨e', hentry', rfl⟩ := entry_of_modified hcurrent
  obtain ⟨q, hlocate, hat⟩ := entry_eq_ok_iff.1 hentry
  obtain ⟨q', hlocate', hat'⟩ := entry_eq_ok_iff.1 hentry'
  obtain rfl := Except.ok.inj ((h.keeps.locate_eq_ok hlocate).symm.trans hlocate')
  have hnode : e'.node = e.node := by
    by_contra hnode
    cases hbefore.symm.trans (h.later _ e e' hat hat' hnode)
  rw [read_of_entry hentry, read_of_entry hentry', hnode]

/-- The ledger says what it said. -/
theorem dependencies_eq (h : a.Edited fs fs') (hledger : a.ledger = some l)
    (hdeps : l.dependencies fs = .ok d) {caller template : Text} {m : Instant}
    (htime : d.time? caller template = some m) : l.dependencies fs' = .ok d := by
  obtain ⟨text, htext, -⟩ := Ledger.exists_records hdeps htime
  obtain ⟨q, hlocate, hkind⟩ := exists_place_of_readText htext
  obtain rfl : l.place fs = q := (locate_eq_ok_iff.1 hlocate).2.1
  have hentry : fs'.entry l.path = fs.entry l.path := by
    rw [entry_of_locate hlocate, entry_of_locate (h.keeps.locate_eq_ok hlocate),
      h.written _ (writes_ledger hledger hkind)]
  rw [← hdeps, Ledger.dependencies, Ledger.dependencies, readText_congr (read_congr hentry)]

end Edited

/-- The files that come about when others put files, later than what stood there at the start,
remove files and make directories, away from what checks write. -/
inductive Edits (a : Analyser) (start : FileStore) : FileStore → Prop where
  | start : Edits a start start
  | put {fs fs' : FileStore} {path : Text} {t : Instant} {f : Option Content → Content}
      (h : Edits a start fs)
      (hput : FileStore.update { fs with clock := t } path f = .ok fs')
      (hapart : ¬ a.Writes start (target start.workingDirectory path))
      (hlater : ∀ e, start.at? (target start.workingDirectory path) = some e →
        e.modified.before t = true) : Edits a start fs'
  | remove {fs fs' : FileStore} {path : Text} (h : Edits a start fs)
      (hremove : fs.remove path = .ok fs')
      (hapart : ¬ a.Writes start (target start.workingDirectory path)) : Edits a start fs'
  | makeDirectory {fs : FileStore} {path : Text} {t : Instant} (h : Edits a start fs)
      (hapart : ∀ q ∈ way start.workingDirectory path, ¬ a.Writes start q)
      (hlater : ∀ q ∈ way start.workingDirectory path, ∀ c m,
        start.at? q = some ⟨.file c, m⟩ → m.before t = true) :
      Edits a start (FileStore.createDirAll { fs with clock := t } path).2

/-- Changes one after another, by induction on them. -/
theorem edited_of_edits {start : FileStore} (h : a.Edits start fs) : a.Edited start fs := by
  induction h with
  | start => exact .refl a start
  | put _ hput hapart hlater ih => exact ih.put hput hapart hlater
  | remove _ hremove hapart ih => exact ih.remove hremove hapart
  | makeDirectory _ hapart hlater ih => exact ih.makeDirectory hapart hlater

/-- What a request asks for is the same, as far as the ledger does not speak for it: names mean the
files that they meant, and a template that is not recorded for the caller holds what it held. -/
structure Covered (a : Analyser) (d : Dependencies) (fs fs' : FileStore) (r : CheckRequest) :
    Prop where
  locate : ∀ name, a.Asks fs r name → a.tools.locate fs' name = a.tools.locate fs name
  templates : ∀ name path, a.Asks fs r name → a.tools.locate fs name = some path →
    (∃ m, d.time? r.caller.file path = some m ∧ fs.modified path = .ok m) ∨
      fs'.read path = fs.read path

/-! ## Checks with a result -/

/-- A check that has findings has recorded its template and cut it into code lines. -/
theorem exists_lines_of_check {ds : List Diagnostic}
    (hpath : a.tools.locate fs r.template = some path) (hcheck : a.check steps fs r = some o)
    (hok : o.result = .ok ds) :
    ∃ fs₁ lines, a.record fs r.caller.file path = (.ok (), fs₁) ∧
      (a.codeLines steps fs₁ r.template path [r.caller]).run = some (.ok lines) ∧
      o = a.checkLines fs₁ r path lines := by
  rw [check, hpath] at hcheck
  dsimp only at hcheck
  split at hcheck
  · cases hcheck
    cases hok
  next fs₁ hrecord =>
    obtain ⟨result, hrun, rfl⟩ := Option.map_eq_some_iff.1 hcheck
    cases result with
    | error e => cases hok
    | ok lines => exact ⟨fs₁, lines, hrecord, hrun, rfl⟩

/-- A check of code lines leaves directories and files what they are. -/
theorem extends_checkLines (a : Analyser) (fs : FileStore) (r : CheckRequest) (path : Text)
    (lines : List CodeLine) : Extends fs (a.checkLines fs r path lines).files := by
  unfold checkLines
  split
  · exact .refl fs
  · have hext := extends_writeScratch fs a.config.scratchDir path [r.caller]
      (CheckerFile.synthesize (a.bindings r) lines).text
    dsimp only
    split
    next hwrite => rwa [hwrite] at hext
    next hwrite => rwa [hwrite] at hext

/-- A check records the template that its request names, in a ledger that holds records and is no
scratch file. -/
theorem time?_of_check {rs : List DependencyRecord} (hledger : a.ledger = some l)
    (hholds : l.Holds fs rs)
    (helsewhere : ∀ template stack,
      target fs.workingDirectory (scratchPath a.config.scratchDir template stack) ≠ l.place fs)
    (hpath : a.tools.locate fs r.template = some path) (hcheck : a.check steps fs r = some o)
    {ds : List Diagnostic} (hok : o.result = .ok ds) :
    ∃ d m, l.dependencies o.files = .ok d ∧ d.time? r.caller.file path = some m ∧
      fs.modified path = .ok m := by
  obtain ⟨fs₁, lines, hrecord, -, rfl⟩ := exists_lines_of_check hpath hcheck hok
  have hext := a.extends_record fs r.caller.file path
  rw [hrecord] at hext
  rw [record_eq_ok_iff hledger] at hrecord
  obtain ⟨m, hm⟩ := Ledger.modified_of_record hrecord
  have hrecords : (Ledger.Event.record r.caller.file path).records l fs =
      [⟨r.caller.file, path, m, fs.clock⟩] := by
    rw [Ledger.Event.records, hrecord, hm]
  have hholds₁ := hholds.record r.caller.file path
  rw [hrecords, hrecord] at hholds₁
  have hplace : l.place fs₁ = l.place fs := by rw [Ledger.place, Ledger.place, hext.workingDirectory]
  have hholds₂ : l.Holds (a.checkLines fs₁ r path lines).files _ :=
    hholds₁.checkLines r path lines fun template stack => by
      rw [hext.workingDirectory, hplace]
      exact helsewhere template stack
  rcases hholds₂.dependencies with hdeps | ⟨hnone, -⟩
  · refine ⟨_, m, hdeps, ?_, hm⟩
    rw [Dependencies.time?_ofRecords, Dependencies.lastTime_concat, if_pos ⟨rfl, rfl⟩]
  · exact absurd hnone (List.append_ne_nil_of_right_ne_nil _ (List.cons_ne_nil _ _))

/-- Code lines with findings have them again, as long as the scratch file is left where it is. -/
theorem checkLines_of_keeps (htextual : a.tools.Textual) {lines : List CodeLine}
    {ds : List Diagnostic} (hok : (a.checkLines fs r path lines).result = .ok ds)
    {W : Place → Prop} (hkeeps : Keeps W (a.checkLines fs r path lines).files fs')
    (hW : ∀ template stack,
      W (target fs.workingDirectory (scratchPath a.config.scratchDir template stack))) :
    (a.checkLines fs' r path lines).result = .ok ds := by
  unfold checkLines at hok hkeeps ⊢
  split at hok
  next hnone => rwa [if_pos hnone]
  next hnone =>
    rw [if_neg hnone] at hkeeps ⊢
    dsimp only at hok hkeeps ⊢
    split at hok
    · cases hok
    next scratch fs₁ hwrite =>
      have hext := extends_writeScratch fs a.config.scratchDir path [r.caller]
        (CheckerFile.synthesize (a.bindings r) lines).text
      rw [hwrite] at hkeeps hext
      have hscratch := hW path [r.caller]
      rw [← hext.workingDirectory] at hscratch
      obtain ⟨fs₂, hagain⟩ := writeScratch_of_keeps hwrite hkeeps hscratch
        (CheckerFile.synthesize (a.bindings r) lines).text
      rw [hagain]
      dsimp only
      rw [htextual.check fs₁ fs₂ scratch
        ((read_of_writeScratch hagain).trans (read_of_writeScratch hwrite).symm)]
      exact hok

/-- Behind changes that the ledger speaks for, what a request asks for reads as it did if its
caller is not stale. -/
theorem Covered.read_eq (hcovered : a.Covered d fs fs' r) (hapart : a.Apart fs r)
    (hcheck : a.check steps fs r = some o) (hedited : a.Edited o.files fs')
    (hdeps : l.dependencies fs' = .ok d)
    (hfresh : ∀ cs, l.staleCallers fs' = .ok cs → r.caller.file ∉ cs) {name p : Text}
    (hasks : a.Asks fs r name) (hfound : a.tools.locate fs name = some p) :
    fs'.read p = fs.read p := by
  rcases hcovered.templates name p hasks hfound with ⟨m, htime, hm⟩ | hsame
  · have hentry := hapart.entry_eq (changesOnly_leaves (leaves_of_check hcheck)) hasks hfound
    obtain ⟨current, hcurrent, hbefore⟩ := Ledger.exists_modified_of_fresh hdeps hfresh htime
    rw [hedited.read_eq ((modified_congr hentry).trans hm) hcurrent hbefore, read_congr hentry]
  · exact hsame

/-- **Results of callers that are not stale stay.** Behind changes that the ledger speaks for, a
request whose caller is not stale has the findings that it had. -/
theorem check_of_fresh (htextual : a.tools.Textual) (hledger : a.ledger = some l)
    (hpath : a.tools.locate fs r.template = some path) (hcheck : a.check steps fs r = some o)
    {ds : List Diagnostic} (hok : o.result = .ok ds) (hdeps : l.dependencies o.files = .ok d)
    {m : Instant} (hrecorded : d.time? r.caller.file path = some m) (hapart : a.Apart fs r)
    (hapart' : a.Apart fs' r) (hedited : a.Edited o.files fs') (hcovered : a.Covered d fs fs' r)
    (hfresh : ∀ cs, l.staleCallers fs' = .ok cs → r.caller.file ∉ cs) :
    (a.check steps fs' r).map (·.result) = some (.ok ds) := by
  have hdeps' := hedited.dependencies_eq hledger hdeps hrecorded
  have hread : ∀ name p, a.Asks fs r name → a.tools.locate fs name = some p →
      fs'.read p = fs.read p := fun name p hasks hfound =>
    hcovered.read_eq hapart hcheck hedited hdeps' hfresh hasks hfound
  obtain ⟨fs₁, lines, hrecord, hlines, ho⟩ := exists_lines_of_check hpath hcheck hok
  have hpath' : a.tools.locate fs' r.template = some path :=
    (hcovered.locate _ .template).trans hpath
  have hlater : Extends fs₁ o.files := ho ▸ a.extends_checkLines fs₁ r path lines
  -- the template is recorded again
  have hplace : o.files.kind? (l.place fs₁) = some false → a.Writes o.files (l.place fs₁) := by
    rw [Ledger.place, ← hlater.workingDirectory]
    exact writes_ledger hledger
  obtain ⟨current, hcurrent, -⟩ := Ledger.exists_modified_of_fresh hdeps' hfresh hrecorded
  obtain ⟨fs₂, hrecord', -⟩ : ∃ fs₂, l.record fs' r.caller.file path = (.ok (), fs₂) ∧
      Alike fs' fs₂ :=
    Ledger.record_of_keeps ((record_eq_ok_iff hledger).1 hrecord) (hlater.keeps_trans hedited.keeps)
      hplace hcurrent
  have hrecord' := (record_eq_ok_iff hledger).2 hrecord'
  have hext₁ := a.extends_record fs r.caller.file path
  have hext₂ := a.extends_record fs' r.caller.file path
  rw [hrecord] at hext₁
  rw [hrecord'] at hext₂
  -- it is expanded alike
  have hlines' : a.codeLines steps fs₂ r.template path [r.caller] =
      a.codeLines steps fs₁ r.template path [r.caller] := by
    have hchanges₁ := a.changesOnly_record fs r.caller.file path
    have hchanges₂ := a.changesOnly_record fs' r.caller.file path
    rw [hrecord] at hchanges₁
    rw [hrecord'] at hchanges₂
    rw [codeLines, codeLines, (hapart'.agrees htextual hext₂ hchanges₂ hpath').render_eq,
      (agrees_of_same htextual hpath hcovered.locate hread).render_eq,
      (hapart.agrees htextual hext₁ hchanges₁ hpath).render_eq]
  -- its code lines are given to the checker again
  have hresult : (a.checkLines fs₂ r path lines).result = .ok ds := by
    subst ho
    refine checkLines_of_keeps htextual hok (hedited.keeps.trans_extends hext₂) fun t stack => ?_
    rw [← hlater.workingDirectory]
    exact writes_scratch a t stack
  rw [result_of_check, hpath']
  dsimp only
  rw [hrecord']
  dsimp only
  rw [hlines', hlines]
  exact congrArg some hresult

/-! ## Checking again -/

/-- What a check answers and the ledger then holds, and behind a change who is stale and what the
check answers. -/
structure Recheck where
  result : CheckResult
  dependencies : Except PathError Dependencies
  stale : Except PathError (List Text)
  again : Option CheckResult
  deriving DecidableEq

/-- A check, and the check again behind a content that is put into a file at a later time. -/
def recheck (a : Analyser) (l : Ledger) (steps : Nat) (fs : FileStore) (r : CheckRequest)
    (path : Text) (c : Content) (t : Instant) : Option Recheck := do
  let o ← a.check steps fs r
  let fs' ← (FileStore.write { o.files with clock := t } path c).toOption
  return ⟨o.result, l.dependencies o.files, l.staleCallers fs',
    (a.check steps fs' r).map (·.result)⟩

/-- What a recheck reports comes from a check, from an edit of a template behind it at a later time,
and from a check of the edited files. -/
theorem exists_of_recheck {c : Content} {t : Instant} {x : Recheck}
    (h : a.recheck l steps fs r path c t = some x)
    (hway : ∀ q ∈ way fs.workingDirectory path, ¬ a.Writes fs q)
    (hlater : ∀ m, fs.modified path = .ok m → m.before t = true) :
    ∃ o fs', a.check steps fs r = some o ∧ a.Edits o.files fs' ∧ o.result = x.result ∧
      l.dependencies o.files = x.dependencies ∧ l.staleCallers fs' = x.stale ∧
      (a.check steps fs' r).map (·.result) = x.again := by
  obtain ⟨o, hcheck, h⟩ := Option.bind_eq_some_iff.1 h
  obtain ⟨fs', hwrite, h⟩ := Option.bind_eq_some_iff.1 h
  cases h
  have hext := extends_leaves (leaves_of_check hcheck)
  have hentry := (changesOnly_leaves (leaves_of_check hcheck)).entry_eq hway
  refine ⟨o, fs', hcheck, ?_, rfl, rfl, rfl, rfl⟩
  cases hput : FileStore.write { o.files with clock := t } path c with
  | error e =>
    rw [hput] at hwrite
    cases hwrite
  | ok fs₁ =>
    rw [hput] at hwrite
    cases hwrite
    obtain ⟨q, hlocate, -⟩ := update_eq_ok hput
    rw [(alike_clock o.files t).locate_eq] at hlocate
    obtain rfl : target o.files.workingDirectory path = q := (locate_eq_ok_iff.1 hlocate).2.1
    refine .put .start hput (fun hwrite => ?_) fun e hat => hlater _ ?_
    · rw [hext.workingDirectory] at hwrite
      exact hway _ target_mem_way (hwrite.of_extends hext)
    · rw [← modified_congr hentry, modified, entry_eq_ok_iff.2 ⟨_, hlocate, hat⟩]
      rfl

/-- A template and the one that it includes are recorded for a caller. When another file comes, its
check finds again what it found. -/
theorem check_of_fresh_included :
    let found : List RawDiagnostic := [{ message := "found".toList, line := 6 }]
    let locate (_ : FileStore) (name : Text) : Option Text :=
      if name = "a".toList then some "v/a.php".toList
      else if name = "b".toList then some "v/b.php".toList else none
    let l := Ledger.inDirectory "s".toList
    let a : Analyser := ⟨plainTools found locate, { scratchDir := "s".toList }, [], some l⟩
    let caller := "/c.php".toList
    let known := DependencyRecord.line ⟨caller, "v/b.php".toList, Ledger.day, Ledger.day⟩
    let fs : FileStore := ⟨[(["v".toList], ⟨.directory, Ledger.day⟩),
      (["v".toList, "a.php".toList],
        ⟨.file (.text "<?php echo $__env->make('b')->render(); ?>".toList), Ledger.day⟩),
      (["v".toList, "b.php".toList], ⟨.file (.text "<?php b(); ?>".toList), Ledger.day⟩),
      (["s".toList], ⟨.directory, Ledger.day⟩),
      (["s".toList, "dependencies.jsonl".toList], ⟨.file (.text known), Ledger.day⟩)], [],
      Ledger.day⟩
    let r : CheckRequest := { template := "a".toList, caller := ⟨caller, 1, none⟩ }
    ∃ o fs' d, a.check 9 fs r = some o ∧ o.result ≠ .ok [] ∧ l.dependencies o.files = .ok d ∧
      a.Edited o.files fs' ∧ l.staleCallers fs' = .ok [] ∧
      (a.check 9 fs' r).map (·.result) = some o.result := by
  intro found locate l a caller known fs r
  let later : Instant := ⟨Ledger.day.seconds, 1⟩
  let position : Marker := ⟨"b".toList, "v/b.php".toList, 1,
    [⟨caller, 1, none⟩, ⟨"v/a.php".toList, 1, some "a".toList⟩]⟩
  let d : Dependencies :=
    ⟨[(caller, ⟨[("v/a.php".toList, Ledger.day), ("v/b.php".toList, Ledger.day)]⟩)]⟩
  -- the whole course of both checks is evaluated once
  have hrecheck : a.recheck l 9 fs r "v/c.php".toList (.text []) later =
      some ⟨.ok [⟨"found".toList, none, position⟩], .ok d, .ok [],
        some (.ok [⟨"found".toList, none, position⟩])⟩ := by
    decide +kernel
  -- checks write below `s` only, and both templates stand below `v`
  have hways : ∀ path ∈ ["v/a.php".toList, "v/b.php".toList, "v/c.php".toList],
      ∀ q ∈ way [] path, q = [] ∨ q.head? = some "v".toList := by decide +kernel
  have hwrites : ∀ {fs' : FileStore} {q}, fs'.workingDirectory = [] → a.Writes fs' q →
      q.head? ≠ some "v".toList :=
    fun hwd => head?_of_writes hwd (by decide +kernel) (by decide +kernel)
  have hlocated : ∀ name path, locate fs name = some path →
      path = "v/a.php".toList ∨ path = "v/b.php".toList := by
    intro name path hpath
    dsimp only [locate] at hpath
    split at hpath
    · exact .inl (Option.some.inj hpath).symm
    · split at hpath
      · exact .inr (Option.some.inj hpath).symm
      · cases hpath
  have hapart : ∀ fs' : FileStore, fs'.workingDirectory = [] → a.Apart fs' r := by
    intro fs' hwd
    refine ⟨fun name _ fs'' _ _ => rfl, fun name path _ hpath => ?_⟩
    refine not_writes_of_head? (hwrites hwd) ?_
    rw [hwd]
    rcases hlocated name path hpath with rfl | rfl
    · exact hways _ (by decide)
    · exact hways _ (by decide)
  -- between the checks a file comes to a place where none stood
  have hnew : fs.modified "v/c.php".toList = .error .notFound := by decide +kernel
  obtain ⟨o, fs', hcheck, hedits, hresult, hdeps, hstale, -⟩ := exists_of_recheck hrecheck
    (not_writes_of_head? (hwrites rfl) (hways _ (by decide)))
    (fun m hm => nomatch hnew.symm.trans hm)
  have hedited : a.Edited o.files fs' := edited_of_edits hedits
  have hwd : fs'.workingDirectory = [] :=
    hedited.workingDirectory.trans (extends_leaves (leaves_of_check hcheck)).workingDirectory
  -- both templates that are looked up are in the ledger
  have hcovered : a.Covered d fs fs' r := by
    refine ⟨fun name _ => rfl, fun name path _ hpath => .inl ⟨Ledger.day, ?_⟩⟩
    rcases hlocated name path hpath with rfl | rfl
    · decide +kernel
    · decide +kernel
  have hfresh : ∀ cs, l.staleCallers fs' = .ok cs → caller ∉ cs := by
    intro cs hcs
    cases hcs.symm.trans hstale
    exact List.not_mem_nil
  have hagain := check_of_fresh (textual_plainTools _ _) rfl rfl hcheck hresult hdeps
    (by decide +kernel : d.time? caller "v/a.php".toList = some Ledger.day) (hapart fs rfl)
    (hapart fs' hwd) hedited hcovered hfresh
  refine ⟨o, fs', d, hcheck, ?_, hdeps, hedited, hstale, hagain.trans (congrArg some hresult.symm)⟩
  rw [hresult]
  decide +kernel

/-- Two changes that the ledger does not notice. A template that is included is changed, or a
template comes in front of the one that the request meant: the caller is not stale, and its check
comes to another end. -/
theorem exists_unnoticed_change :
    let finder : ViewFinder := ⟨["w".toList, "v".toList], ["php".toList], {}⟩
    let l := Ledger.inDirectory "s".toList
    let a : Analyser := ⟨plainTools [] finder.locate?, { scratchDir := "s".toList }, [], some l⟩
    let fs : FileStore := ⟨[(["v".toList], ⟨.directory, Ledger.day⟩),
      (["w".toList], ⟨.directory, Ledger.day⟩),
      (["v".toList, "a.php".toList],
        ⟨.file (.text "<?php echo $__env->make('b')->render(); ?>".toList), Ledger.day⟩),
      (["v".toList, "b.php".toList], ⟨.file (.text "b".toList), Ledger.day⟩)], [], Ledger.day⟩
    let r : CheckRequest := { template := "a".toList, caller := ⟨"/c.php".toList, 1, none⟩ }
    a.tools.Textual ∧ a.tools.locate fs r.template = some "v/a.php".toList ∧
      ∀ path ∈ ["v/b.php".toList, "w/a.php".toList], ∃ o fs' d, a.check 9 fs r = some o ∧
        o.result = .ok [] ∧ l.dependencies o.files = .ok d ∧
        d.time? r.caller.file "v/a.php".toList = some Ledger.day ∧ a.Edited o.files fs' ∧
        l.staleCallers fs' = .ok [] ∧
        (a.check 9 fs' r).map (·.result) = some (.error (.io path .notUtf8)) := by
  intro finder l a fs r
  let later : Instant := ⟨Ledger.day.seconds, 1⟩
  let d : Dependencies := ⟨[("/c.php".toList, ⟨[("v/a.php".toList, Ledger.day)]⟩)]⟩
  refine ⟨textual_plainTools _ _, by decide +kernel, fun path hpath => ?_⟩
  -- both courses are evaluated, one for each path that is changed
  have hrecheck : a.recheck l 9 fs r path (.bytes [0xff]) later =
      some ⟨.ok [], .ok d, .ok [], some (.error (.io path .notUtf8))⟩ := by
    revert path
    decide +kernel
  have hlater : ∀ m, fs.modified path = .ok m → m.before later = true := by
    have htimes : ∀ path ∈ ["v/b.php".toList, "w/a.php".toList],
        fs.modified path = .ok Ledger.day ∨ fs.modified path = .error .notFound := by
      decide +kernel
    intro m hm
    rcases htimes path hpath with h | h
    · cases hm.symm.trans h
      decide
    · cases hm.symm.trans h
  -- checks write below `s`, and no path leads there
  have hway : ∀ q ∈ way [] path, ¬ a.Writes fs q := by
    have hheads : ∀ path ∈ ["v/b.php".toList, "w/a.php".toList], ∃ n ∈ ["v".toList, "w".toList],
        ∀ q ∈ way [] path, q = [] ∨ q.head? = some n := by decide +kernel
    have hwrites : ∀ n ∈ ["v".toList, "w".toList], ∀ {q}, a.Writes fs q → q.head? ≠ some n :=
      fun n hn => head?_of_writes rfl (by revert n; decide +kernel) (by revert n; decide +kernel)
    obtain ⟨n, hn, hhead⟩ := hheads path hpath
    exact not_writes_of_head? (hwrites n hn) hhead
  obtain ⟨o, fs', hcheck, hedits, hresult, hdeps, hstale, hagain⟩ :=
    exists_of_recheck hrecheck hway hlater
  exact ⟨o, fs', d, hcheck, hresult, hdeps, by decide +kernel, edited_of_edits hedits, hstale,
    hagain⟩

end Analyser

end TemplateTrace
