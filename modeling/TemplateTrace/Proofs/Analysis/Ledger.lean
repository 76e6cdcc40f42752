import TemplateTrace.Proofs.Analysis.Dependencies
import TemplateTrace.Proofs.Files.Directory

/-!
# The ledger over a run

A ledger is written by checks, and its file lies among files that others write, so what it says is
about a run: records, files that come, change and go, text that others add to the ledger, and time
that passes. Its file holds ended lines at every point of a run, and the records in them are those
that were made, in order.

- `Ledger.Recording`: the ways in which a record goes, and `Ledger.recording`.
- `Ledger.Event`, `Ledger.Run`: what can happen, and the runs with the records made in them.
- `Ledger.Holds`: the invariant, `Ledger.Holds.event` and `Ledger.holds_of_run`.
- `Ledger.Tells`: what a ledger says of the records made, and `Ledger.tells_of_run`.
-/

namespace TemplateTrace

open TemplateTrace.Path FileStore

variable {fs fs' : FileStore} {q : Place} {path : Text}

/-! ## Contents and times -/

namespace FileStore

/-- Every time of a store is one of the calendar. -/
structure Timed (fs : FileStore) : Prop where
  clock : fs.clock.InCalendar
  modified : ∀ q e, fs.at? q = some e → e.modified.InCalendar

/-- All times of a store are in the calendar if its clock is, and those of its entries are. -/
theorem timed_of_entries (hclock : fs.clock.InCalendar)
    (h : ∀ x ∈ fs.entries, x.2.modified.InCalendar) : fs.Timed := by
  refine ⟨hclock, fun q e he => ?_⟩
  by_cases hroot : q = []
  · subst hroot
    obtain rfl := Option.some.inj he
    exact hclock
  · rw [at?_of_ne_nil _ hroot] at he
    obtain ⟨x, hx, rfl⟩ := Option.map_eq_some_iff.1 he
    exact h x (List.mem_of_find?_eq_some hx)

/-- An entry with a time in the calendar can be put anywhere. -/
theorem Timed.set (h : fs.Timed) {e : Entry} (he : e.modified.InCalendar) (q : Place) :
    (fs.set q e).Timed := by
  refine ⟨h.clock, fun p e' hp => ?_⟩
  by_cases hq : q = p
  · subst hq
    by_cases hroot : q = []
    · subst hroot
      exact h.modified [] e' hp
    · rw [at?_set_self fs e hroot] at hp
      obtain rfl := Option.some.inj hp
      exact he
  · rw [at?_set_of_ne fs e hq] at hp
    exact h.modified p e' hp

theorem MakesOnly.timed {W : List Place} (h : MakesOnly W fs fs') (ht : fs.Timed) :
    fs'.Timed := by
  refine ⟨h.clock ▸ ht.clock, fun q e he => ?_⟩
  rcases h.at? q with heq | ⟨-, -, hdir⟩
  · exact ht.modified q e (heq.symm.trans he)
  · obtain rfl := Option.some.inj (hdir.symm.trans he)
    exact ht.clock

theorem MakesOnly.content?_eq {W : List Place} (h : MakesOnly W fs fs') (q : Place) :
    fs'.content? q = fs.content? q := by
  rcases h.at? q with heq | ⟨-, hnone, hdir⟩
  · rw [content?, content?, heq]
  · rw [content?, content?, hnone, hdir]
    rfl

theorem modified_inCalendar (h : fs.Timed) {t : Instant} (ht : fs.modified path = .ok t) :
    t.InCalendar := by
  obtain ⟨e, hentry, rfl⟩ := entry_of_modified ht
  exact h.modified _ e (at?_of_entry hentry)

theorem readText_of_content {s : Text} (hlocate : fs.locate path = .ok q)
    (h : fs.content? q = some (.text s)) : fs.readText path = .ok s := by
  obtain ⟨⟨node, t⟩, hat, hnode⟩ := Option.bind_eq_some_iff.1 h
  cases node with
  | directory => cases hnode
  | file c =>
    obtain rfl := Option.some.inj hnode
    rw [readText, read, entry_eq_ok_iff.2 ⟨q, hlocate, hat⟩]
    rfl

/-- A text that is read is what stands where its path leads. -/
theorem content?_of_readText {s : Text} (h : fs.readText path = .ok s) :
    fs.content? (target fs.workingDirectory path) = some (.text s) := by
  cases hentry : fs.entry path with
  | error e =>
    rw [readText, read, hentry] at h
    cases h
  | ok e =>
    have hat := at?_of_entry hentry
    obtain ⟨node, t⟩ := e
    rw [readText, read, hentry] at h
    rw [content?, hat]
    cases node with
    | directory => cases h
    | file c =>
      cases c with
      | text s' => exact congrArg (some ∘ Content.text) (Except.ok.inj h)
      | bytes b => cases h

/-- Where no file stands, there is nothing to read. -/
theorem readText_of_content_eq_none
    (h : fs.content? (target fs.workingDirectory path) = none) :
    ∃ e, fs.readText path = .error e := by
  cases hentry : fs.entry path with
  | error e => exact ⟨e, by rw [readText, read, hentry]; rfl⟩
  | ok e =>
    have hat := at?_of_entry hentry
    obtain ⟨node, t⟩ := e
    rw [content?, hat] at h
    cases node with
    | directory => exact ⟨.isADirectory, by rw [readText, read, hentry]; rfl⟩
    | file c => cases h

/-- Text that is added to a file stands behind the text that the file held. -/
theorem content?_append {old s : Text} (happend : fs.append path (.text s) = .ok fs')
    (hold : (fs.content? (target fs.workingDirectory path)).getD (.text []) = .text old) :
    fs'.content? (target fs.workingDirectory path) = some (.text (old ++ s)) ∧
      fs'.locate path = .ok (target fs.workingDirectory path) := by
  have hext := extends_update happend
  obtain ⟨q, hlocate, -, hkind, rfl⟩ := update_eq_ok happend
  obtain ⟨-, rfl, -⟩ := locate_eq_ok_iff.1 hlocate
  refine ⟨?_, hext.locate_eq_ok hlocate⟩
  rw [content?, at?_set_self fs _ (ne_root_of_kind? hkind), hold]
  rfl

end FileStore

namespace Ledger

variable {l : Ledger} {caller template : Text}

/-! ## Recording -/

/-- The place of the file of a ledger. -/
def place (l : Ledger) (fs : FileStore) : Place := target fs.workingDirectory l.path

/-- Making the directory of a ledger makes directories on the way to the ledger, and nothing else.
-/
theorem makesOnly_makeDirectory (l : Ledger) (fs : FileStore) :
    MakesOnly (way fs.workingDirectory l.path) fs (l.makeDirectory fs).2 := by
  unfold makeDirectory
  split
  next dir hdir =>
    have hmade : MakesOnly (way fs.workingDirectory l.path) fs (fs.createDirAll dir).2 := by
      by_cases hnil : dir = []
      · subst hnil
        exact .refl _ _
      · exact (makesOnly_createDirAll fs dir).mono (way_parent hdir hnil)
    split
    next h => rwa [h] at hmade
    next h => rwa [h] at hmade
  · exact .refl _ _

/-- The ways in which a record goes: the template cannot be looked at, the directory of the ledger
cannot be made, its file cannot be added to, or a line is added. -/
inductive Recording (l : Ledger) (fs : FileStore) (caller template : Text) :
    Attempt PathError Unit → Prop where
  | unseen {e : FileError} (hmodified : fs.modified template = .error e) :
      Recording l fs caller template (.error (template, e), fs)
  | homeless {modified : Instant} {e : PathError} {fs₁ : FileStore}
      (hmodified : fs.modified template = .ok modified)
      (hmake : l.makeDirectory fs = (.error e, fs₁)) :
      Recording l fs caller template (.error e, fs₁)
  | refused {modified : Instant} {e : FileError} {fs₁ : FileStore}
      (hmodified : fs.modified template = .ok modified)
      (hmake : l.makeDirectory fs = (.ok (), fs₁))
      (happend : fs₁.append l.path
        (.text (DependencyRecord.line ⟨caller, template, modified, fs₁.clock⟩)) = .error e) :
      Recording l fs caller template (.error (l.path, e), fs₁)
  | recorded {modified : Instant} {fs₁ fs₂ : FileStore}
      (hmodified : fs.modified template = .ok modified)
      (hmake : l.makeDirectory fs = (.ok (), fs₁))
      (happend : fs₁.append l.path
        (.text (DependencyRecord.line ⟨caller, template, modified, fs₁.clock⟩)) = .ok fs₂) :
      Recording l fs caller template (.ok (), fs₂)

/-- How a record ends, by how far it comes: up to the template's time, to the directory, or to the
line that is added. -/
theorem recording (l : Ledger) (fs : FileStore) (caller template : Text) :
    Recording l fs caller template (l.record fs caller template) := by
  unfold record
  split
  next e hmodified => exact .unseen hmodified
  next modified hmodified =>
    split
    next e fs₁ hmake => exact .homeless hmodified hmake
    next fs₁ hmake =>
      dsimp only
      split
      next e happend => exact .refused hmodified hmake happend
      next fs₂ happend => exact .recorded hmodified hmake happend

/-- A record that fails leaves the file of the ledger as it was. -/
theorem content?_of_record_error {e : PathError}
    (h : l.record fs caller template = (.error e, fs')) (q : Place) :
    fs'.content? q = fs.content? q := by
  have hmakes := l.makesOnly_makeDirectory fs
  have hrecording := l.recording fs caller template
  rw [h] at hrecording
  cases hrecording with
  | unseen hmodified => rfl
  | homeless hmodified hmake =>
    rw [hmake] at hmakes
    exact hmakes.content?_eq q
  | refused hmodified hmake happend =>
    rw [hmake] at hmakes
    exact hmakes.content?_eq q

/-! ## Runs -/

/-- What can happen around a ledger. -/
inductive Event where
  | record (caller template : Text)
  | makeDirectory (path : Text)
  | put (path : Text) (content : Content)
  | touch (path : Text) (time : Instant)
  | remove (path : Text)
  /-- Text is added to the file of the ledger. -/
  | append (text : Text)
  /-- Time passes. -/
  | wait (time : Instant)
  deriving DecidableEq, Repr

namespace Event

/-- The files behind an event. Of the requests that fail only those that make directories change
anything. -/
def files (l : Ledger) (fs : FileStore) : Event → FileStore
  | record caller template => (l.record fs caller template).2
  | makeDirectory path => (fs.createDirAll path).2
  | put path content => (fs.write path content).toOption.getD fs
  | touch path time => (fs.touch path time).toOption.getD fs
  | remove path => (fs.remove path).toOption.getD fs
  | append text => (fs.append l.path (.text text)).toOption.getD fs
  | wait time => { fs with clock := time }

/-- The record that is made in an event: the caller, and the template with the time of its last
change. -/
def records (l : Ledger) (fs : FileStore) : Event → List DependencyRecord
  | record caller template =>
    match (l.record fs caller template).1, fs.modified template with
    | .ok (), .ok modified => [{ caller, template, modified, recordedAt := fs.clock }]
    | _, _ => []
  | _ => []

/-- An event that leaves the ledger to its records: files are put, touched and removed elsewhere,
and what is added to the ledger are ended lines without records. Times are those of the calendar.
-/
def Admissible (l : Ledger) (fs : FileStore) : Event → Prop
  | record _ _ => True
  | makeDirectory _ => True
  | put path _ => fs.locate path ≠ .ok (l.place fs)
  | touch path time => fs.locate path ≠ .ok (l.place fs) ∧ time.InCalendar
  | remove path => fs.locate path ≠ .ok (l.place fs)
  | append text => text.Ended ∧ DependencyRecord.readAll text = []
  | wait time => time.InCalendar

end Event

/-- The runs from some files on, with the files that they lead to and the records made on the
way. -/
inductive Run (l : Ledger) (start : FileStore) : FileStore → List DependencyRecord → Prop where
  | start : Run l start start []
  | next {fs : FileStore} {rs : List DependencyRecord} (h : Run l start fs rs) (e : Event)
      (he : e.Admissible l fs) : Run l start (e.files l fs) (rs ++ e.records l fs)

/-! ## What the file holds -/

/-- The file of a ledger holds ended lines, and in them the records. There is no file as long as
there is nothing in it. -/
structure Holds (l : Ledger) (fs : FileStore) (rs : List DependencyRecord) : Prop where
  timed : fs.Timed
  file : fs.content? (l.place fs) = none ∧ rs = [] ∨
    ∃ s, fs.content? (l.place fs) = some (.text s) ∧ s.Ended ∧
      DependencyRecord.readAll s = rs ∧ fs.locate l.path = .ok (l.place fs)

namespace Holds

variable {rs : List DependencyRecord}

/-- What happens elsewhere. -/
theorem frame (h : l.Holds fs rs) (hwd : fs'.workingDirectory = fs.workingDirectory)
    (hdirs : ∀ q, fs.kind? q = some true → fs'.kind? q = some true)
    (hcontent : fs'.content? (l.place fs) = fs.content? (l.place fs)) (htimed : fs'.Timed) :
    l.Holds fs' rs := by
  have hplace : l.place fs' = l.place fs := by rw [place, place, hwd]
  refine ⟨htimed, ?_⟩
  rw [hplace, hcontent]
  refine h.file.imp id ?_
  rintro ⟨s, hs, hended, hread, hlocate⟩
  exact ⟨s, hs, hended, hread, locate_eq_ok_of_directories hwd hdirs hlocate⟩

theorem makes (h : l.Holds fs rs) {W : List Place} (hmakes : MakesOnly W fs fs') :
    l.Holds fs' rs :=
  h.frame hmakes.workingDirectory hmakes.toExtends.directory (hmakes.content?_eq _)
    (hmakes.timed h.timed)

/-- Ended lines are added. -/
theorem append (h : l.Holds fs rs) {s : Text} (hs : s.Ended)
    (happend : fs.append l.path (.text s) = .ok fs') :
    l.Holds fs' (rs ++ DependencyRecord.readAll s) := by
  obtain ⟨old, hold, hended, hread⟩ : ∃ old, (fs.content? (l.place fs)).getD (.text []) =
      .text old ∧ old.Ended ∧ DependencyRecord.readAll old = rs := by
    rcases h.file with ⟨hnone, rfl⟩ | ⟨old, hsome, hended, hread, -⟩
    · exact ⟨[], by rw [hnone]; rfl, .inl rfl, rfl⟩
    · exact ⟨old, by rw [hsome]; rfl, hended, hread⟩
  obtain ⟨hcontent, hlocate⟩ := content?_append happend hold
  obtain ⟨q, -, -, -, rfl⟩ := update_eq_ok happend
  refine ⟨h.timed.set h.timed.clock q, .inr ⟨old ++ s, hcontent, hended.append hs, ?_, hlocate⟩⟩
  rw [DependencyRecord.readAll_append hended, hread]

/-- What is put at another place than that of the ledger leaves its records. -/
theorem put (h : l.Holds fs rs) {f : Option Content → Content}
    (helsewhere : fs.locate path ≠ .ok (l.place fs)) (hput : fs.update path f = .ok fs') :
    l.Holds fs' rs := by
  have hext := extends_update hput
  obtain ⟨q, hlocate, -, -, rfl⟩ := update_eq_ok hput
  have hne : q ≠ l.place fs := fun heq => helsewhere (heq ▸ hlocate)
  exact h.frame hext.workingDirectory hext.directory (content?_set_of_ne fs _ hne)
    (h.timed.set h.timed.clock q)

/-- Touching a file, or the ledger itself, leaves the records of the ledger. -/
theorem touch (h : l.Holds fs rs) {t : Instant} (ht : t.InCalendar)
    (htouch : fs.touch path t = .ok fs') : l.Holds fs' rs := by
  obtain ⟨q, e, -, hat, rfl⟩ := touch_eq_ok htouch
  -- a touched entry is what it was, except for its time
  have hsame : ∀ p, ((fs.set q { e with modified := t }).at? p).map (·.node) =
      (fs.at? p).map (·.node) := by
    intro p
    by_cases hp : q = p
    · subst hp
      by_cases hroot : q = []
      · subst hroot
        rfl
      · rw [at?_set_self fs _ hroot, hat]
        rfl
    · rw [at?_set_of_ne fs _ hp]
  exact h.frame rfl (fun p hp => (kind?_congr (hsame p)).trans hp) (content?_congr (hsame _))
    (h.timed.set ht q)

/-- Taking a file away leaves the records of the ledger, unless the file is the ledger. -/
theorem remove (h : l.Holds fs rs) (helsewhere : fs.locate path ≠ .ok (l.place fs))
    (hremove : fs.remove path = .ok fs') : l.Holds fs' rs := by
  obtain ⟨q, hlocate, hkind, rfl⟩ := remove_eq_ok hremove
  have hne : q ≠ l.place fs := fun heq => helsewhere (heq ▸ hlocate)
  have hroot : q ≠ [] := by
    rintro rfl
    cases hkind
  refine h.frame rfl (fun p hp => ?_) ?_ ⟨h.timed.clock, fun p e he => ?_⟩
  · have hpq : q ≠ p := by
      rintro rfl
      cases hkind.symm.trans hp
    rw [kind?, at?_filter_of_ne fs hpq]
    exact hp
  · rw [content?, content?, at?_filter_of_ne fs hne]
  · by_cases hpq : q = p
    · subst hpq
      cases (at?_filter_self fs hroot).symm.trans he
    · rw [at?_filter_of_ne fs hpq] at he
      exact h.timed.modified p e he

/-- Time that passes leaves the records of the ledger. -/
theorem wait (h : l.Holds fs rs) {t : Instant} (ht : t.InCalendar) :
    l.Holds { fs with clock := t } rs := by
  refine h.frame rfl (fun p hp => ((alike_clock fs t).kind p).trans hp) ?_ ⟨ht, fun p e he => ?_⟩
  · by_cases hroot : l.place fs = []
    · rw [hroot]
      rfl
    · rw [content?, content?, at?_clock fs t hroot]
  · by_cases hroot : p = []
    · subst hroot
      obtain rfl := Option.some.inj he
      exact ht
    · rw [at?_clock fs t hroot] at he
      exact h.timed.modified p e he

/-- A record that is made is added to those that the file holds. -/
theorem record (h : l.Holds fs rs) (caller template : Text) :
    l.Holds (l.record fs caller template).2
      (rs ++ (Event.record caller template).records l fs) := by
  have hmakes := l.makesOnly_makeDirectory fs
  have hrecording := l.recording fs caller template
  unfold Event.records
  dsimp only
  generalize l.record fs caller template = x at hrecording
  cases hrecording with
  | unseen hmodified =>
    dsimp only
    rw [List.append_nil]
    exact h
  | homeless hmodified hmake =>
    rw [hmake] at hmakes
    dsimp only
    rw [List.append_nil]
    exact h.makes hmakes
  | refused hmodified hmake happend =>
    rw [hmake] at hmakes
    dsimp only
    rw [List.append_nil]
    exact h.makes hmakes
  | recorded hmodified hmake happend =>
    rw [hmake] at hmakes
    rw [hmodified]
    have hnew := (h.makes hmakes).append (DependencyRecord.ended_line _) happend
    rw [hmakes.clock, DependencyRecord.readAll_line
      (modified_inCalendar h.timed hmodified).writable h.timed.clock.writable] at hnew
    exact hnew

/-- One event: the file holds the records that it held, and the one that is made. -/
theorem event (h : l.Holds fs rs) {e : Event} (he : e.Admissible l fs) :
    l.Holds (e.files l fs) (rs ++ e.records l fs) := by
  cases e with
  | record caller template => exact h.record caller template
  | makeDirectory path =>
    show l.Holds (fs.createDirAll path).2 (rs ++ [])
    rw [List.append_nil]
    exact h.makes (makesOnly_createDirAll fs path)
  | put path content =>
    show l.Holds ((fs.write path content).toOption.getD fs) (rs ++ [])
    rw [List.append_nil]
    cases hput : fs.write path content with
    | error e => exact h
    | ok fs' => exact h.put he hput
  | touch path time =>
    show l.Holds ((fs.touch path time).toOption.getD fs) (rs ++ [])
    rw [List.append_nil]
    cases htouch : fs.touch path time with
    | error e => exact h
    | ok fs' => exact h.touch he.2 htouch
  | remove path =>
    show l.Holds ((fs.remove path).toOption.getD fs) (rs ++ [])
    rw [List.append_nil]
    cases hremove : fs.remove path with
    | error e => exact h
    | ok fs' => exact h.remove he hremove
  | append text =>
    show l.Holds ((fs.append l.path (.text text)).toOption.getD fs) (rs ++ [])
    rw [List.append_nil]
    cases happend : fs.append l.path (.text text) with
    | error e => exact h
    | ok fs' =>
      have hnew := h.append he.1 happend
      rw [he.2, List.append_nil] at hnew
      exact hnew
  | wait time =>
    show l.Holds { fs with clock := time } (rs ++ [])
    rw [List.append_nil]
    exact h.wait he

end Holds

/-- The file of a ledger over a run, by induction on the run. -/
theorem holds_of_run {start : FileStore} {rs : List DependencyRecord} (hrun : l.Run start fs rs)
    (htimed : start.Timed) (habsent : start.content? (l.place start) = none) : l.Holds fs rs := by
  induction hrun with
  | start => exact ⟨htimed, .inl ⟨habsent, rfl⟩⟩
  | next _ e he ih => exact ih.event he

/-! ## What the ledger says -/

/-- A template is gone, or it was changed after a time. -/
def Outdated (fs : FileStore) (template : Text) (recorded : Instant) : Prop :=
  (∃ e, fs.modified template = .error e) ∨
    ∃ current, fs.modified template = .ok current ∧ recorded.before current = true

theorem isStale_iff {recorded : Instant} :
    isStale fs template recorded = true ↔ Outdated fs template recorded := by
  unfold isStale Outdated
  cases fs.modified template with
  | ok current => simp
  | error e => simp

/-- What a ledger says when some records were made, in this order: the last time per caller and
template and nothing else, and the callers with a template that is outdated, in ascending order. -/
structure Tells (l : Ledger) (fs : FileStore) (rs : List DependencyRecord) : Prop where
  dependencies : ∃ d, l.dependencies fs = .ok d ∧
    (∀ caller template, d.time? caller template = Dependencies.lastTime rs caller template) ∧
    ∀ caller, caller ∈ d.keys ↔ ∃ template, Dependencies.lastTime rs caller template ≠ none
  stale : ∃ cs, l.staleCallers fs = .ok cs ∧ cs.Pairwise (· < ·) ∧
    ∀ caller, caller ∈ cs ↔ ∃ template recorded,
      Dependencies.lastTime rs caller template = some recorded ∧ Outdated fs template recorded

theorem tells_of_dependencies {rs : List DependencyRecord}
    (h : l.dependencies fs = .ok (.ofRecords rs)) : l.Tells fs rs := by
  have hwell := Dependencies.wellFormed_ofRecords rs
  refine ⟨⟨_, h, Dependencies.time?_ofRecords rs, Dependencies.mem_keys_ofRecords rs⟩, ?_⟩
  refine ⟨_, by rw [staleCallers, h]; rfl, Dependencies.pairwise_callers hwell _, fun caller => ?_⟩
  rw [Dependencies.mem_callers_iff hwell (isStale fs)]
  simp only [Dependencies.time?_ofRecords, isStale_iff]

/-- The answer of a ledger whose file holds some records. -/
theorem Holds.dependencies {rs : List DependencyRecord} (h : l.Holds fs rs) :
    l.dependencies fs = .ok (.ofRecords rs) ∨
      rs = [] ∧ ∃ e, e ≠ .notFound ∧ l.dependencies fs = .error (l.path, e) := by
  rcases h.file with ⟨hnone, rfl⟩ | ⟨s, hs, -, rfl, hlocate⟩
  · obtain ⟨e, he⟩ := readText_of_content_eq_none hnone
    by_cases hmissing : e = .notFound
    · subst hmissing
      exact .inl (by rw [Ledger.dependencies, he]; rfl)
    · refine .inr ⟨rfl, e, hmissing, ?_⟩
      rw [Ledger.dependencies, he]
      cases e with
      | notFound => exact absurd rfl hmissing
      | _ => rfl
  · exact .inl (by rw [Ledger.dependencies, readText_of_content hlocate hs])

/-- **The ledger over a run.** Once a record was made, and before that as long as nothing but the
file itself is missing, the ledger says of each caller and template the time of the last record, to
the nanosecond, and lists the callers with an outdated template. Before the first record what stands
in the way of its file is reported instead. A record that fails leaves the file as it was. -/
theorem tells_of_run {start : FileStore} {rs : List DependencyRecord} (hrun : l.Run start fs rs)
    (htimed : start.Timed) (habsent : start.content? (l.place start) = none) :
    (l.Tells fs rs ∨ rs = [] ∧ ∃ e, e ≠ .notFound ∧ l.dependencies fs = .error (l.path, e) ∧
      l.staleCallers fs = .error (l.path, e)) ∧
    ∀ caller template e fs', l.record fs caller template = (.error e, fs') →
      fs'.content? (l.place fs) = fs.content? (l.place fs) := by
  refine ⟨?_, fun caller template e fs' h => content?_of_record_error h _⟩
  refine (holds_of_run hrun htimed habsent).dependencies.imp tells_of_dependencies ?_
  rintro ⟨hnone, e, he, h⟩
  exact ⟨hnone, e, he, h, by rw [staleCallers, h]; rfl⟩

/-- The start of a day in 2024. -/
def day : Instant := ⟨1706659200, 0⟩

/-- A caller whose name needs escapes is listed when its template is changed by a nanosecond. -/
theorem tells_of_run_touched :
    let l := Ledger.inDirectory "scratch".toList
    let start : FileStore := ⟨[(["v".toList], ⟨.file (.text "x".toList), day⟩)], [], day⟩
    let caller := "/a \"b\"\n\u00e9.php".toList
    ∃ fs rs cs, l.Run start fs rs ∧ start.Timed ∧ start.content? (l.place start) = none ∧
      l.staleCallers fs = .ok cs ∧ caller ∈ cs := by
  intro l start caller
  have hrun : l.Run start start [] := .start
  have hrecorded := (hrun.next (.record caller "v".toList) trivial).next
    (.append "\n".toList) ⟨.inr ⟨[], rfl⟩, by decide⟩
  have htouched := hrecorded.next (.touch "v".toList ⟨day.seconds, 1⟩) ⟨by decide, by decide⟩
  have htimed : start.Timed := timed_of_entries (by decide) (by decide)
  rcases (tells_of_run htouched htimed rfl).1 with htells | ⟨hnone, -⟩
  · obtain ⟨cs, hcs, -, hmem⟩ := htells.stale
    refine ⟨_, _, cs, htouched, htimed, rfl, hcs, (hmem caller).2 ⟨"v".toList, day, ?_, ?_⟩⟩
    · decide
    · exact .inr ⟨⟨day.seconds, 1⟩, by decide, by decide⟩
  · exact absurd hnone (by decide)

/-- Files in which the directory of a ledger is a file: nothing is recorded, and yet the ledger is
not read as an empty one. -/
theorem exists_blocked_run :
    let l := Ledger.inDirectory "scratch".toList
    ∃ start fs, l.Run start fs [] ∧ start.Timed ∧ start.at? (l.place start) = none ∧
      l.dependencies fs = .error (l.path, .notADirectory) := by
  intro l
  have hrun : l.Run ⟨[], [], day⟩ ⟨[], [], day⟩ [] := .start
  have helsewhere : FileStore.locate ⟨[], [], day⟩ "scratch".toList ≠
      .ok (l.place ⟨[], [], day⟩) := by decide
  have hput := hrun.next (.put "scratch".toList (.text "x".toList)) helsewhere
  exact ⟨_, _, hput, timed_of_entries (by decide) (by decide), rfl, by decide⟩

end Ledger

end TemplateTrace
