import TemplateTrace.Analysis.Analyser
import TemplateTrace.Proofs.Analysis.Ledger
import TemplateTrace.Proofs.Files.Scratch

/-!
# What checks write

A check adds a line to the ledger and writes a scratch file, and makes the directories of both. It
puts something only where there is no directory, takes nothing away, and what it made once it need
not make again.

- `Ledger.record_alike`, `Ledger.record_again`, `Ledger.record_of_extends`: recording in stores that
  are alike, behind another record, and in any later store.
- `Analyser.Writes`: the places at which checks can put something.
- `Analyser.Leaves`, `Analyser.leaves_of_check`: what a check leaves behind, with
  `Analyser.extends_leaves` and `Analyser.changesOnly_leaves`.
-/

namespace TemplateTrace

open TemplateTrace.Path FileStore

variable {fs fs' : FileStore}

/-! ## Adding to a file -/

namespace FileStore

theorem append_alike (h : Alike fs fs') (path : Text) (c c' : Content) :
    (∃ e, fs.append path c = .error e ∧ fs'.append path c' = .error e) ∨
      ∃ fs₁ fs₁', fs.append path c = .ok fs₁ ∧ fs'.append path c' = .ok fs₁' ∧ Alike fs₁ fs₁' :=
  update_alike h path _ _

/-- Where something was added, more can be added. -/
theorem append_of_keeps {path : Text} {c : Content} {fs₁ : FileStore}
    (h : fs.append path c = .ok fs₁) {W : Place → Prop} (hkeeps : Keeps W fs₁ fs')
    (hW : W (target fs₁.workingDirectory path)) (c' : Content) :
    ∃ fs₂, fs'.append path c' = .ok fs₂ ∧ Alike fs' fs₂ := by
  obtain ⟨q, hupdate, hkind⟩ := update_of_keeps h hkeeps hW
  exact ⟨_, hupdate, alike_set hkind _ _⟩

end FileStore

/-! ## Recording -/

namespace Ledger

variable {l : Ledger} {caller caller' template template' : Text}

theorem record_of_modified_error {e : FileError} (h : fs.modified template = .error e) :
    l.record fs caller template = (.error (template, e), fs) := by
  unfold record
  rw [h]

/-- Making the directory of a ledger is making its whole way. -/
theorem createDirAll_of_makeDirectory {dir : Text} {fs₁ : FileStore}
    (hdir : parent? l.path = some dir) (h : l.makeDirectory fs = (.ok (), fs₁)) :
    fs.createDirAll dir = (.ok (), fs₁) := by
  unfold makeDirectory at h
  rw [hdir] at h
  dsimp only at h
  split at h
  · cases h
  next hmake =>
    cases h
    exact hmake

/-- A directory of a ledger that is there need not be made again. -/
theorem makeDirectory_of_keeps {fs₁ : FileStore} (h : l.makeDirectory fs = (.ok (), fs₁))
    {W : Place → Prop} (hkeeps : Keeps W fs₁ fs') : l.makeDirectory fs' = (.ok (), fs') := by
  unfold makeDirectory at h ⊢
  split at h
  next dir _ =>
    split at h
    · cases h
    next hmake =>
      cases h
      have hmade := (isDirectory_of_createDirAll hmake).imp id hkeeps.isDirectory
      rw [createDirAll_of_isDirectory hmade]
  · rfl

theorem makeDirectory_again {fs₁ : FileStore} (h : l.makeDirectory fs = (.ok (), fs₁))
    (hext : Extends fs₁ fs') : l.makeDirectory fs' = (.ok (), fs') :=
  makeDirectory_of_keeps h (hext.keeps fun _ => False)

/-- The directory of a ledger is made in two stores that are alike with one answer. -/
theorem makeDirectory_alike (h : Alike fs fs') (l : Ledger) :
    SameAnswer (l.makeDirectory fs) (l.makeDirectory fs') := by
  unfold makeDirectory
  cases parent? l.path with
  | none => exact ⟨rfl, h⟩
  | some dir =>
    dsimp only
    rcases (createDirAll_alike h dir).cases with
      ⟨e, fs₁, fs₁', hmade, hmade', h₁⟩ | ⟨_, fs₁, fs₁', hmade, hmade', h₁⟩
    · rw [hmade, hmade']
      exact ⟨rfl, h₁⟩
    · rw [hmade, hmade']
      exact ⟨rfl, h₁⟩

/-- An attempt to make the directory of a ledger that fails leaves nothing behind. -/
def Settles (l : Ledger) (fs : FileStore) : Prop :=
  ∀ e fs', l.makeDirectory fs = (.error e, fs') → Alike fs fs'

/-- A record leaves directories and files what they are, whether it succeeds or fails. -/
theorem extends_record (l : Ledger) (fs : FileStore) (caller template : Text) :
    Extends fs (l.record fs caller template).2 := by
  have hmakes := (l.makesOnly_makeDirectory fs).toExtends
  have hrecording := l.recording fs caller template
  generalize l.record fs caller template = x at hrecording
  cases hrecording with
  | unseen hmodified => exact .refl fs
  | homeless hmodified hmake => rwa [hmake] at hmakes
  | refused hmodified hmake happend => rwa [hmake] at hmakes
  | recorded hmodified hmake happend =>
    rw [hmake] at hmakes
    exact hmakes.trans (extends_update happend)

/-- Nothing changes but on the way of the ledger. -/
theorem changesOnly_record (l : Ledger) (fs : FileStore) (caller template : Text) :
    ChangesOnly (fun q => q ∈ way fs.workingDirectory l.path ∧ fs.kind? q ≠ some true) fs
      (l.record fs caller template).2 := by
  have hmakes := l.makesOnly_makeDirectory fs
  have hdirs := hmakes.changesOnly
  have hrecording := l.recording fs caller template
  generalize l.record fs caller template = x at hrecording
  cases hrecording with
  | unseen hmodified => exact .refl _ fs
  | homeless hmodified hmake => rwa [hmake] at hdirs
  | refused hmodified hmake happend => rwa [hmake] at hdirs
  | recorded hmodified hmake happend =>
    rw [hmake] at hdirs hmakes
    refine hdirs.trans ((changesOnly_update happend).mono ?_)
    rintro q ⟨rfl, hkind⟩
    refine ⟨by rw [hmakes.workingDirectory]; exact target_mem_way, fun hdir => hkind ?_⟩
    exact hmakes.toExtends.directory _ hdir

/-- Templates that can be seen are recorded alike in stores that are alike. -/
theorem record_alike (h : Alike fs fs') {m m' : Instant} (hm : fs.modified template = .ok m)
    (hm' : fs'.modified template' = .ok m') :
    SameAnswer (l.record fs caller template) (l.record fs' caller' template') := by
  unfold record
  rw [hm, hm']
  dsimp only
  rcases (makeDirectory_alike h l).cases with
    ⟨e, fs₁, fs₁', hmade, hmade', h₁⟩ | ⟨_, fs₁, fs₁', hmade, hmade', h₁⟩
  · rw [hmade, hmade']
    exact ⟨rfl, h₁⟩
  · rw [hmade, hmade']
    dsimp only
    rcases append_alike h₁ l.path
      (.text (DependencyRecord.line ⟨caller, template, m, fs₁.clock⟩))
      (.text (DependencyRecord.line ⟨caller', template', m', fs₁'.clock⟩))
      with ⟨e, he, he'⟩ | ⟨fs₂, fs₂', hok, hok', h₂⟩
    · rw [he, he']
      exact ⟨rfl, h₁⟩
    · rw [hok, hok']
      exact ⟨rfl, h₂⟩

/-- Where one template is recorded, another one is that can be seen. -/
theorem record_of_record {fs₁ : FileStore} (h : l.record fs caller template = (.ok (), fs₁))
    {m : Instant} (hm : fs.modified template' = .ok m) :
    ∃ fs₂, l.record fs caller' template' = (.ok (), fs₂) ∧ Alike fs₁ fs₂ := by
  have hrecording := l.recording fs caller template
  rw [h] at hrecording
  cases hrecording with
  | recorded hmodified hmake happend =>
    have hsame : SameAnswer (l.record fs caller template) (l.record fs caller' template') :=
      record_alike (.refl fs) hmodified hm
    rw [h] at hsame
    exact ⟨(l.record fs caller' template').2, Prod.ext hsame.1 rfl, hsame.2⟩

/-- Where a record was made, others are made, as long as the ledger is left where it is. -/
theorem record_of_keeps {fs₁ : FileStore} (h : l.record fs caller template = (.ok (), fs₁))
    {W : Place → Prop} (hkeeps : Keeps W fs₁ fs') (hW : W (l.place fs₁)) {m : Instant}
    (hm : fs'.modified template' = .ok m) :
    ∃ fs₂, l.record fs' caller' template' = (.ok (), fs₂) ∧ Alike fs' fs₂ := by
  have hrecording := l.recording fs caller template
  rw [h] at hrecording
  cases hrecording with
  | recorded hmodified hmake happend =>
    have hmake' := makeDirectory_of_keeps hmake ((extends_update happend).keeps_trans hkeeps)
    obtain ⟨fs₂, happend', halike⟩ := append_of_keeps happend hkeeps hW
      (.text (DependencyRecord.line ⟨caller', template', m, fs'.clock⟩))
    refine ⟨fs₂, ?_, halike⟩
    unfold record
    rw [hm]
    dsimp only
    rw [hmake']
    dsimp only
    rw [happend']

theorem record_of_extends {fs₁ : FileStore} (h : l.record fs caller template = (.ok (), fs₁))
    (hext : Extends fs₁ fs') {m : Instant} (hm : fs'.modified template' = .ok m) :
    ∃ fs₂, l.record fs' caller' template' = (.ok (), fs₂) ∧ Alike fs' fs₂ :=
  record_of_keeps h (hext.keeps fun _ => True) trivial hm

/-- Behind a record, another one is made or refused as it is alone. -/
theorem record_again (hsettles : l.Settles fs) (caller template caller' : Text)
    (hseen : (l.record fs caller template).2.modified template' = fs.modified template') :
    (l.record (l.record fs caller template).2 caller' template').1 =
        (l.record fs caller' template').1 ∧
      ((l.record fs caller' template').1 = .ok () →
        Alike (l.record fs caller' template').2
          (l.record (l.record fs caller template).2 caller' template').2) := by
  cases hm' : fs.modified template' with
  | error e =>
    rw [record_of_modified_error hm', record_of_modified_error (hseen.trans hm')]
    exact ⟨rfl, fun h => nomatch h⟩
  | ok m' =>
    rw [hm'] at hseen
    suffices h : SameAnswer (l.record fs caller' template')
        (l.record (l.record fs caller template).2 caller' template') from ⟨h.1, fun _ => h.2⟩
    have hrecording := l.recording fs caller template
    generalize hx : l.record fs caller template = x at hrecording hseen
    cases hrecording with
    | unseen hmodified => exact record_alike (.refl fs) hm' hm'
    | homeless hmodified hmake => exact record_alike (hsettles _ _ hmake) hm' hseen
    | @refused m e fs₁ hmodified hmake happend =>
      -- what is refused once is refused again, whatever the line says
      have hagain := makeDirectory_again hmake (.refl fs₁)
      have hrefused : ∀ line, fs₁.append l.path (.text line) = .error e := by
        intro line
        rcases append_alike (.refl fs₁) l.path
          (.text (DependencyRecord.line ⟨caller, template, m, fs₁.clock⟩)) (.text line)
          with ⟨e', he, he'⟩ | ⟨_, _, hok, -, -⟩
        · cases he.symm.trans happend
          exact he'
        · cases hok.symm.trans happend
      unfold record
      dsimp only
      rw [hm', hseen]
      dsimp only
      rw [hmake, hagain]
      dsimp only
      rw [hrefused]
      exact ⟨rfl, .refl fs₁⟩
    | @recorded m fs₁ fs₂ hmodified hmake happend =>
      obtain ⟨fs₃, halone, halike⟩ : ∃ fs₃, l.record fs caller' template' = (.ok (), fs₃) ∧
          Alike fs₂ fs₃ := record_of_record hx hm'
      obtain ⟨fs₄, hagain, halike'⟩ : ∃ fs₄, l.record fs₂ caller' template' = (.ok (), fs₄) ∧
          Alike fs₂ fs₄ := record_of_extends hx (.refl fs₂) hseen
      show SameAnswer _ (l.record fs₂ caller' template')
      rw [halone, hagain]
      exact ⟨rfl, halike.symm.trans halike'⟩

/-- A record that is made sees its template. -/
theorem modified_of_record {fs₁ : FileStore} (h : l.record fs caller template = (.ok (), fs₁)) :
    ∃ m, fs.modified template = .ok m := by
  have hrecording := l.recording fs caller template
  rw [h] at hrecording
  cases hrecording with
  | recorded hmodified hmake happend => exact ⟨_, hmodified⟩

/-- Whether a ledger is settled depends on the kinds of the places alone. -/
theorem Settles.alike (h : l.Settles fs) (halike : Alike fs fs') : l.Settles fs' := by
  intro e fs₁' hmake'
  have hmade := makeDirectory_alike halike l
  rw [hmake'] at hmade
  generalize hmake : l.makeDirectory fs = x at hmade
  obtain ⟨r, fs₁⟩ := x
  obtain ⟨rfl, h₁⟩ := hmade
  exact halike.symm.trans ((h e fs₁ hmake).trans h₁)

theorem settles_of_made (h : (l.makeDirectory fs).1 = .ok ()) : l.Settles fs := by
  intro e fs' hfails
  rw [hfails] at h
  cases h

theorem settles_of_makeDirectory {fs₁ : FileStore} (h : l.makeDirectory fs = (.ok (), fs₁))
    (hext : Extends fs₁ fs') : l.Settles fs' := by
  intro e fs₂ hmake
  cases (makeDirectory_again h hext).symm.trans hmake

theorem settles_of_record {fs₁ : FileStore} (h : l.record fs caller template = (.ok (), fs₁))
    (hext : Extends fs₁ fs') : l.Settles fs' := by
  have hrecording := l.recording fs caller template
  rw [h] at hrecording
  cases hrecording with
  | recorded hmodified hmake happend =>
    exact settles_of_makeDirectory hmake ((extends_update happend).trans hext)

/-- A record that fails leaves a ledger settled, if it was so before. -/
theorem settles_of_record_error {e : PathError} {fs₁ : FileStore} (hsettles : l.Settles fs)
    (h : l.record fs caller template = (.error e, fs₁)) : l.Settles fs₁ := by
  have hrecording := l.recording fs caller template
  rw [h] at hrecording
  cases hrecording with
  | unseen hmodified => exact hsettles
  | homeless hmodified hmake => exact hsettles.alike (hsettles _ _ hmake)
  | refused hmodified hmake happend => exact settles_of_makeDirectory hmake (.refl fs₁)

/-- Behind a record that failed, another one that is made is one that could be made before. -/
theorem eq_of_record_error {e : PathError} {fs₁ fs₂ : FileStore} (hsettles : l.Settles fs)
    (h : l.record fs caller template = (.error e, fs₁))
    (h' : l.record fs₁ caller' template' = (.ok (), fs₂)) : fs₁ = fs := by
  have hrecording := l.recording fs caller template
  have hrecording' := l.recording fs₁ caller' template'
  rw [h] at hrecording
  rw [h'] at hrecording'
  cases hrecording' with
  | recorded hmodified' hmake' happend' =>
    cases hrecording with
    | unseen hmodified => rfl
    | homeless hmodified hmake =>
      have hmade := makeDirectory_alike (hsettles _ _ hmake) l
      rw [hmake, hmake'] at hmade
      cases hmade.1
    | refused hmodified hmake happend =>
      cases (makeDirectory_again hmake (.refl _)).symm.trans hmake'
      rcases append_alike (.refl _) l.path _ _ with ⟨e', he, he'⟩ | ⟨_, _, hok, hok', -⟩
      · cases he'.symm.trans happend'
      · cases hok.symm.trans happend

end Ledger

/-! ## Checking -/

namespace Analyser

variable {a : Analyser} {q : Place}

/-- With a ledger, a record is that of the ledger, whose errors become errors of the analyser. -/
theorem record_of_ledger {l : Ledger} (h : a.ledger = some l) (fs : FileStore)
    (caller template : Text) : a.record fs caller template =
      ((l.record fs caller template).1.mapError fun (path, e) => .io path e,
        (l.record fs caller template).2) := by
  unfold record
  rw [h]
  dsimp only
  generalize l.record fs caller template = x
  obtain ⟨_ | _, fs₁⟩ := x
  · rfl
  · rfl

theorem record_of_no_ledger (h : a.ledger = none) (fs : FileStore) (caller template : Text) :
    a.record fs caller template = (.ok (), fs) := by
  unfold record
  rw [h]

theorem record_eq_ok_iff {l : Ledger} (h : a.ledger = some l) {caller template : Text}
    {fs₁ : FileStore} : a.record fs caller template = (.ok (), fs₁) ↔
      l.record fs caller template = (.ok (), fs₁) := by
  rw [record_of_ledger h]
  generalize l.record fs caller template = x
  obtain ⟨_ | _, fs₂⟩ := x
  · exact ⟨fun h => (nomatch (Prod.mk.inj h).1), fun h => (nomatch (Prod.mk.inj h).1)⟩
  · exact ⟨fun h => by cases h; rfl, fun h => by cases h; rfl⟩

/-- The places at which checks can put something: where there is no directory, on the way of the
scratch directory or of the ledger, or at a scratch file. -/
def Writes (a : Analyser) (fs : FileStore) (q : Place) : Prop :=
  (q ∈ way fs.workingDirectory a.config.scratchDir ∨
    (∃ template stack,
      q = target fs.workingDirectory (scratchPath a.config.scratchDir template stack)) ∨
    ∃ l, a.ledger = some l ∧ q ∈ way fs.workingDirectory l.path) ∧
  fs.kind? q ≠ some true

theorem Writes.of_extends (hext : Extends fs fs') (h : a.Writes fs' q) : a.Writes fs q := by
  unfold Writes at h ⊢
  rw [hext.workingDirectory] at h
  exact ⟨h.1, fun hdir => h.2 (hext.directory q hdir)⟩

theorem extends_record (a : Analyser) (fs : FileStore) (caller template : Text) :
    Extends fs (a.record fs caller template).2 := by
  cases hledger : a.ledger with
  | none =>
    rw [record_of_no_ledger hledger]
    exact .refl fs
  | some l =>
    rw [record_of_ledger hledger]
    exact l.extends_record fs caller template

/-- A record changes the file of the ledger and directories on the way to it. -/
theorem changesOnly_record (a : Analyser) (fs : FileStore) (caller template : Text) :
    ChangesOnly (a.Writes fs) fs (a.record fs caller template).2 := by
  cases hledger : a.ledger with
  | none =>
    rw [record_of_no_ledger hledger]
    exact .refl _ fs
  | some l =>
    rw [record_of_ledger hledger]
    exact (l.changesOnly_record fs caller template).mono
      fun q ⟨hway, hkind⟩ => ⟨.inr (.inr ⟨l, hledger, hway⟩), hkind⟩

/-- What a check leaves behind: the files as they were, those with a record, or those with a scratch
file as well. -/
inductive Leaves (a : Analyser) (fs : FileStore) (r : CheckRequest) : FileStore → Prop where
  | unfound (hpath : a.tools.locate fs r.template = none) : Leaves a fs r fs
  | recorded {path : Text} (hpath : a.tools.locate fs r.template = some path) :
      Leaves a fs r (a.record fs r.caller.file path).2
  | scratch {path text : Text} {fs₁ : FileStore} (hpath : a.tools.locate fs r.template = some path)
      (hrecord : a.record fs r.caller.file path = (.ok (), fs₁)) :
      Leaves a fs r (fs₁.writeScratch a.config.scratchDir path [r.caller] text).2

/-- A check ends in one of three states, by how far it comes: up to the look-up of the template, up
to the record, or up to the scratch file. -/
theorem leaves_of_check {steps : Nat} {r : CheckRequest} {o : CheckOutcome}
    (h : a.check steps fs r = some o) : a.Leaves fs r o.files := by
  unfold check at h
  split at h
  next hpath =>
    obtain rfl := Option.some.inj h
    exact .unfound hpath
  next path hpath =>
    have hrecorded : a.Leaves fs r (a.record fs r.caller.file path).2 := .recorded hpath
    split at h
    next e fs₁ hrecord =>
      obtain rfl := Option.some.inj h
      rwa [hrecord] at hrecorded
    next fs₁ hrecord =>
      rw [hrecord] at hrecorded
      obtain ⟨result, -, rfl⟩ := Option.map_eq_some_iff.1 h
      cases result with
      | error e => exact hrecorded
      | ok lines =>
        dsimp only
        unfold checkLines
        split
        · exact hrecorded
        · have hscratch : a.Leaves fs r (fs₁.writeScratch a.config.scratchDir path [r.caller]
            (CheckerFile.synthesize (a.bindings r) lines).text).2 := .scratch hpath hrecord
          dsimp only
          split
          next hwrite => rwa [hwrite] at hscratch
          next hwrite => rwa [hwrite] at hscratch

/-- A check leaves directories and files what they are. -/
theorem extends_leaves {r : CheckRequest} (h : a.Leaves fs r fs') : Extends fs fs' := by
  cases h with
  | unfound => exact .refl fs
  | recorded => exact a.extends_record fs _ _
  | @scratch path text fs₁ _ hrecord =>
    have hext := a.extends_record fs r.caller.file path
    rw [hrecord] at hext
    exact hext.trans (extends_writeScratch fs₁ _ _ _ _)

/-- What a check leaves behind differs at places at which checks write. -/
theorem changesOnly_leaves {r : CheckRequest} (h : a.Leaves fs r fs') :
    ChangesOnly (a.Writes fs) fs fs' := by
  cases h with
  | unfound => exact .refl _ fs
  | recorded => exact a.changesOnly_record fs _ _
  | @scratch path text fs₁ _ hrecord =>
    have hext := a.extends_record fs r.caller.file path
    have hchanges := a.changesOnly_record fs r.caller.file path
    rw [hrecord] at hext hchanges
    refine hchanges.trans ((changesOnly_writeScratch fs₁ _ _ _ _).mono fun q hq => ?_)
    refine Writes.of_extends hext ⟨?_, hq.2⟩
    rcases hq.1 with hway | htarget
    · exact .inl hway
    · exact .inr (.inl ⟨_, _, htarget⟩)

end Analyser

end TemplateTrace
