import Mathlib.Data.List.Find
import TemplateTrace.Files.Finder
import TemplateTrace.Proofs.Analysis.Writes
import TemplateTrace.Proofs.Except
import TemplateTrace.Proofs.Include.Agreement

/-!
# Checks beside each other

Checks share the scratch directory and the ledger, and a check sees what the ones before it left
there. Where the tools are functions of the texts that they are given, the templates stand apart
from what checks write, and the directories of both can be made or leave nothing behind, no check
changes the findings of another.

- `Tools.Textual`: tools that are functions of the texts that they are given.
- `Analyser.Asks`: the names that a request asks for.
- `Analyser.Apart`, `Analyser.Settled`: look-ups apart from what checks write, and directories that
  leave nothing behind when they cannot be made.
- `ViewFinder.Tries`, `Analyser.apart_of_finder`: the paths at which a finder looks for a name; it is
  enough that what checks write is not on their way.
- `Analyser.Apart.agrees`: behind other checks a request is expanded as it is alone.
- `Analyser.sameWrites_of_leaves`: behind another check what is written about a request is written
  with the answer that it has alone.
- `Analyser.result_of_leaves`: behind another check a request has the result that it has alone.
- `Analyser.checkAll_results`: requests in a batch have the results that they have alone.
-/

namespace TemplateTrace

open TemplateTrace.Path FileStore IncludeSite

/-- Tools that are functions of the texts that they are given: of a template, and of what the file
holds that is to be checked. -/
structure Tools.Textual (t : Tools) : Prop where
  compile : ∀ fs fs', t.compile fs' = t.compile fs
  check : ∀ fs fs' path, fs'.read path = fs.read path → t.check fs' path = t.check fs path

/-! ## Finders -/

namespace ViewFinder

variable {f : ViewFinder} {fs fs' : FileStore} {name : Text}

/-- The paths at which a finder looks for a name. -/
def Tries (f : ViewFinder) (name path : Text) : Prop :=
  isAbsolute name = true ∧ path = name ∨ path ∈ f.candidates name

theorem tries_of_locate? {path : Text} (h : f.locate? fs name = some path) : f.Tries name path := by
  unfold locate? at h
  split at h
  next hname =>
    rw [Bool.and_eq_true] at hname
    exact .inl ⟨hname.1, (Option.some.inj h).symm⟩
  next => exact .inr (List.mem_of_find?_eq_some h)

/-- A finder asks about the paths at which it looks and about no others. -/
theorem locate?_congr (h : ∀ path, f.Tries name path → fs'.isFile path = fs.isFile path) :
    f.locate? fs' name = f.locate? fs name := by
  have hfind : (f.candidates name).find? fs'.isFile = (f.candidates name).find? fs.isFile :=
    List.find?_congr fun path hpath => h path (.inr hpath)
  have hname : (isAbsolute name && fs'.isFile name) = (isAbsolute name && fs.isFile name) := by
    cases habsolute : isAbsolute name with
    | false => rfl
    | true => rw [h name (.inl ⟨habsolute, rfl⟩)]
  rw [locate?, locate?, hfind, hname]

end ViewFinder

namespace Analyser

variable {a : Analyser} {fs fs' : FileStore} {r r' : CheckRequest}

/-! ## What a request asks for -/

/-- The names that a request asks for: its own, and those of the calls that its expansion meets. -/
inductive Asks (a : Analyser) (fs : FileStore) (r : CheckRequest) : Text → Prop where
  | template : Asks a fs r r.template
  | included {path done rest name : Text} {chain : List Text} {site : IncludeSite}
      (hpath : a.tools.locate fs r.template = some path)
      (hvisit : (a.expander fs).Visits (.rendering [] r.template path [r.caller])
        (.expanding chain done rest))
      (hfind : find (Text.lastOr none done) rest = .ok (some site))
      (htarget : site.call.target = .literal name) : Asks a fs r name

/-- A template without calls asks for nothing else. -/
theorem eq_template_of_asks {path source compiled name : Text}
    (hpath : a.tools.locate fs r.template = some path) (hsource : fs.readText path = .ok source)
    (hcompile : a.tools.compile fs (tagLines source r.template path [r.caller]) = .ok compiled)
    (hnone : find none compiled = .ok none) (h : a.Asks fs r name) : name = r.template := by
  cases h with
  | template => rfl
  | included hpath' hvisit hfind =>
    obtain rfl := Option.some.inj (hpath.symm.trans hpath')
    rcases Expander.visits_of_no_call hsource hcompile hnone hvisit with hstage | hstage
    · cases hstage
    · cases hstage
      cases hnone.symm.trans hfind

/-- The look-ups of a request stand apart from what checks write: no name that it asks for comes to
mean another file, and no file that it means is on the way of what is written. -/
structure Apart (a : Analyser) (fs : FileStore) (r : CheckRequest) : Prop where
  locate : ∀ name, a.Asks fs r name → ∀ fs', Extends fs fs' → ChangesOnly (a.Writes fs) fs fs' →
    a.tools.locate fs' name = a.tools.locate fs name
  templates : ∀ name path, a.Asks fs r name → a.tools.locate fs name = some path →
    ∀ q ∈ way fs.workingDirectory path, ¬ a.Writes fs q

/-- A finder that looks apart from what is written finds apart from it. -/
theorem apart_of_finder {f : ViewFinder} (hlocate : a.tools.locate = f.locate?)
    (h : ∀ name path, a.Asks fs r name → f.Tries name path →
      ∀ q ∈ way fs.workingDirectory path, ¬ a.Writes fs q) : a.Apart fs r := by
  constructor
  · intro name hname fs' _ hchanges
    rw [hlocate]
    exact ViewFinder.locate?_congr fun path htries =>
      isFile_congr (hchanges.entry_eq (h name path hname htries))
  · intro name path hname hpath
    rw [hlocate] at hpath
    exact h name path hname (ViewFinder.tries_of_locate? hpath)

/-- A template that is rendered is one that was asked for. -/
theorem asks_of_visits {path name p : Text} {chain : List Text} {stack : List Frame}
    (hpath : a.tools.locate fs r.template = some path)
    (hvisit : (a.expander fs).Visits (.rendering [] r.template path [r.caller])
      (.rendering chain name p stack)) : a.Asks fs r name ∧ a.tools.locate fs name = some p := by
  cases hvisit with
  | start => exact ⟨.template, hpath⟩
  | next h hnext =>
    cases hnext with
    | included hfind hfate =>
      obtain ⟨htarget, -, -, hlocate⟩ := Expander.included_spec hfate
      exact ⟨.included hpath h hfind htarget, hlocate⟩

/-- A request is expanded alike over files in which what it asks for is the same. -/
theorem agrees_of_same {path : Text} (htextual : a.tools.Textual)
    (hpath : a.tools.locate fs r.template = some path)
    (hlocate : ∀ name, a.Asks fs r name → a.tools.locate fs' name = a.tools.locate fs name)
    (hread : ∀ name p, a.Asks fs r name → a.tools.locate fs name = some p →
      fs'.read p = fs.read p) :
    (a.expander fs).Agrees (a.expander fs') (.rendering [] r.template path [r.caller]) where
  compile := htextual.compile fs fs'
  maxDepth := rfl
  source chain name p stack hvisit := by
    obtain ⟨hasks, hfound⟩ := asks_of_visits hpath hvisit
    exact readText_congr (hread name p hasks hfound)
  locate chain done rest site name hvisit hfind htarget :=
    hlocate name (.included hpath hvisit hfind htarget)

/-- Behind other checks what a request asks for is as it was. -/
theorem Apart.entry_eq (h : a.Apart fs r) (hchanges : ChangesOnly (a.Writes fs) fs fs')
    {name path : Text} (hasks : a.Asks fs r name) (hpath : a.tools.locate fs name = some path) :
    fs'.entry path = fs.entry path :=
  hchanges.entry_eq (h.templates name path hasks hpath)

/-- Behind other checks a request is expanded as it is alone. -/
theorem Apart.agrees (h : a.Apart fs r) (htextual : a.tools.Textual) (hext : Extends fs fs')
    (hchanges : ChangesOnly (a.Writes fs) fs fs') {path : Text}
    (hpath : a.tools.locate fs r.template = some path) :
    (a.expander fs).Agrees (a.expander fs') (.rendering [] r.template path [r.caller]) :=
  agrees_of_same htextual hpath (fun name hname => h.locate name hname fs' hext hchanges)
    fun _ _ hasks hfound => read_congr (h.entry_eq hchanges hasks hfound)

/-- Look-ups that stand apart from what checks write stand apart from it behind a check: they find
the same files, and checks write nowhere else than before. -/
theorem Apart.later (h : a.Apart fs r) (htextual : a.tools.Textual) (hext : Extends fs fs')
    (hchanges : ChangesOnly (a.Writes fs) fs fs') : a.Apart fs' r := by
  have hlocate := h.locate _ .template fs' hext hchanges
  have hwrites : ∀ q, a.Writes fs' q → a.Writes fs q := fun q => Writes.of_extends hext
  have hasks : ∀ name, a.Asks fs' r name → a.Asks fs r name := by
    intro name hname
    cases hname with
    | template => exact .template
    | included hpath hvisit hfind htarget =>
      have hpath := hlocate.symm.trans hpath
      exact .included hpath ((h.agrees htextual hext hchanges hpath).visits hvisit) hfind htarget
  constructor
  · intro name hname fs'' hext' hchanges'
    rw [h.locate name (hasks name hname) fs'' (hext.trans hext')
      (hchanges.trans (hchanges'.mono hwrites)), h.locate name (hasks name hname) fs' hext hchanges]
  · intro name path hname hpath q hq hwrite
    rw [h.locate name (hasks name hname) fs' hext hchanges] at hpath
    rw [hext.workingDirectory] at hq
    exact h.templates name path (hasks name hname) hpath q hq (hwrites q hwrite)

/-! ## Directories that settle -/

/-- The directory of the ledger, and behind a record the scratch directory, can be made or leave
nothing behind. -/
structure Settled (a : Analyser) (fs : FileStore) : Prop where
  ledger : ∀ l, a.ledger = some l → l.Settles fs
  scratch : ∀ caller template fs₁, a.record fs caller template = (.ok (), fs₁) →
    fs₁.Settles a.config.scratchDir

/-- A ledger in the scratch directory makes that directory, so that only one has to settle. -/
theorem settled_of_ledger {l : Ledger} (hledger : a.ledger = some l)
    (hdir : parent? l.path = some a.config.scratchDir) (hsettles : l.Settles fs) : a.Settled fs := by
  constructor
  · intro l' hledger'
    obtain rfl := Option.some.inj (hledger.symm.trans hledger')
    exact hsettles
  · intro caller template fs₁ hrecord
    have hrecording := l.recording fs caller template
    rw [(record_eq_ok_iff hledger).1 hrecord] at hrecording
    cases hrecording with
    | @recorded m fs₂ _ hmodified hmake happend =>
      have hmade := isDirectory_of_createDirAll (Ledger.createDirAll_of_makeDirectory hdir hmake)
      exact settles_of_isDirectory (hmade.imp id (extends_update happend).isDirectory)

/-- Behind a record that succeeded, a record that succeeds changes the kind of no place: there is no
directory left to make. -/
theorem alike_of_record {caller caller' template template' : Text} {fs₁ fs₂ : FileStore}
    (h : a.record fs caller template = (.ok (), fs₁)) (hext : Extends fs₁ fs')
    (h' : a.record fs' caller' template' = (.ok (), fs₂)) : Alike fs' fs₂ := by
  cases hledger : a.ledger with
  | none =>
    rw [record_of_no_ledger hledger] at h'
    obtain rfl := (Prod.mk.inj h').2
    exact .refl fs'
  | some l =>
    rw [record_eq_ok_iff hledger] at h h'
    obtain ⟨m, hm⟩ := Ledger.modified_of_record h'
    obtain ⟨fs₃, h₃, halike⟩ : ∃ fs₃, l.record fs' caller' template' = (.ok (), fs₃) ∧
        Alike fs' fs₃ := Ledger.record_of_extends h hext hm
    obtain rfl := (Prod.mk.inj (h'.symm.trans h₃)).2
    exact halike

/-- Directories settle behind a check as they did in front of it. -/
theorem Settled.of_leaves (h : a.Settled fs) (hleaves : a.Leaves fs r fs') : a.Settled fs' := by
  cases hleaves with
  | unfound hpath => exact h
  | @recorded path hpath =>
    cases hledger : a.ledger with
    | none =>
      rw [record_of_no_ledger hledger]
      exact h
    | some l =>
      rw [record_of_ledger hledger]
      have hsettles := h.ledger l hledger
      generalize hrecord : l.record fs r.caller.file path = x
      obtain ⟨result, fs₁⟩ := x
      cases result with
      | error e =>
        constructor
        · intro l' hledger'
          obtain rfl := Option.some.inj (hledger.symm.trans hledger')
          exact Ledger.settles_of_record_error hsettles hrecord
        · intro caller template fs₂ hrecord'
          -- the record failed: one that succeeds behind it starts from the same store
          have hsame := Ledger.eq_of_record_error hsettles hrecord
            ((record_eq_ok_iff hledger).1 hrecord')
          subst hsame
          exact h.scratch caller template fs₂ hrecord'
      | ok =>
        -- the record succeeded: a later one makes no directory any more
        have hmade := (record_eq_ok_iff hledger).2 hrecord
        constructor
        · intro l' hledger'
          obtain rfl := Option.some.inj (hledger.symm.trans hledger')
          exact Ledger.settles_of_record hrecord (.refl fs₁)
        · intro caller template fs₂ hrecord'
          exact (h.scratch _ _ _ hmade).alike (alike_of_record hmade (.refl fs₁) hrecord')
  | @scratch path text fs₁ hpath hrecord =>
    have hext := extends_writeScratch fs₁ a.config.scratchDir path [r.caller] text
    have hsettles := settles_writeScratch (h.scratch _ _ _ hrecord) path [r.caller] text
    constructor
    · intro l hledger
      exact Ledger.settles_of_record ((record_eq_ok_iff hledger).1 hrecord) hext
    · intro caller template fs₂ hrecord'
      exact hsettles.alike (alike_of_record hrecord hext hrecord')

/-! ## Results -/

/-- The result of a check, stage by stage. -/
theorem result_of_check (a : Analyser) (steps : Nat) (fs : FileStore) (r : CheckRequest) :
    (a.check steps fs r).map (·.result) =
      match a.tools.locate fs r.template with
      | none => some (.ok [])
      | some path =>
        match a.record fs r.caller.file path with
        | (.error e, _) => some (.error e)
        | (.ok (), fs) => (a.codeLines steps fs r.template path [r.caller]).run.map fun
          | .error e => .error e
          | .ok lines => (a.checkLines fs r path lines).result := by
  unfold check
  cases a.tools.locate fs r.template with
  | none => rfl
  | some path =>
    dsimp only
    generalize a.record fs r.caller.file path = x
    obtain ⟨_ | _, fs₁⟩ := x
    · rfl
    · dsimp only
      rw [Option.map_map]
      congr 1
      funext result
      cases result <;> rfl

/-- Code lines are given to the checker with the same result where scratch files are written with
the same answer. -/
theorem checkLines_result (htextual : a.tools.Textual) {path : Text}
    (h : ∀ text, (fs'.writeScratch a.config.scratchDir path [r.caller] text).1 =
      (fs.writeScratch a.config.scratchDir path [r.caller] text).1) (lines : List CodeLine) :
    (a.checkLines fs' r path lines).result = (a.checkLines fs r path lines).result := by
  unfold checkLines
  split
  · rfl
  · dsimp only
    have hsame := h (CheckerFile.synthesize (a.bindings r) lines).text
    generalize hx : fs.writeScratch a.config.scratchDir path [r.caller]
      (CheckerFile.synthesize (a.bindings r) lines).text = x at hsame ⊢
    generalize hy : fs'.writeScratch a.config.scratchDir path [r.caller]
      (CheckerFile.synthesize (a.bindings r) lines).text = y at hsame ⊢
    obtain ⟨result, fs₁⟩ := x
    obtain ⟨result', fs₁'⟩ := y
    obtain rfl : result' = result := hsame
    cases result' with
    | error e => rfl
    | ok scratch =>
      dsimp only
      rw [htextual.check fs₁ fs₁' scratch
        ((read_of_writeScratch hy).trans (read_of_writeScratch hx).symm)]

/-- What is written about a request, the record and the scratch file, is written with one answer in
two stores. -/
def SameWrites (a : Analyser) (fs fs' : FileStore) (caller path : Text) : Prop :=
  (a.record fs' caller path).1 = (a.record fs caller path).1 ∧
    ((a.record fs caller path).1 = .ok () → ∀ template stack text,
      ((a.record fs' caller path).2.writeScratch a.config.scratchDir template stack text).1 =
        ((a.record fs caller path).2.writeScratch a.config.scratchDir template stack text).1)

/-- Behind a record of another check, what is written about a request has the answer that it had in
front of it. -/
theorem sameWrites_of_record {l : Ledger} (hledger : a.ledger = some l) (hsettles : l.Settles fs)
    (caller' path' caller : Text) {path : Text}
    (hseen : (l.record fs caller' path').2.modified path = fs.modified path) :
    a.SameWrites fs (l.record fs caller' path').2 caller path := by
  rw [SameWrites, record_of_ledger hledger, record_of_ledger hledger]
  obtain ⟨hsame, halike⟩ := Ledger.record_again hsettles caller' path' caller hseen
  rw [hsame]
  refine ⟨rfl, fun hok template stack text => ?_⟩
  have hmade : (l.record fs caller path).1 = .ok () := by
    generalize (l.record fs caller path).1 = x at hok
    cases x with
    | error e => cases hok
    | ok => rfl
  exact (writeScratch_alike (halike hmade) _ template stack text text).1

/-- Behind a check that has made its record and written its scratch file, what is written about a
request has the answer that it had in front of the check. -/
theorem sameWrites_of_scratch {l : Ledger} (hledger : a.ledger = some l) {fs₁ : FileStore}
    {caller' path' : Text} (hrecord : l.record fs caller' path' = (.ok (), fs₁))
    (hscratch : fs₁.Settles a.config.scratchDir) (template' : Text) (stack' : List Frame)
    (text' caller : Text) {path : Text}
    (hseen : (fs₁.writeScratch a.config.scratchDir template' stack' text').2.modified path =
      fs.modified path) :
    a.SameWrites fs (fs₁.writeScratch a.config.scratchDir template' stack' text').2 caller path := by
  have hext := extends_writeScratch fs₁ a.config.scratchDir template' stack' text'
  rw [SameWrites, record_of_ledger hledger, record_of_ledger hledger]
  cases hm : fs.modified path with
  | error e =>
    rw [Ledger.record_of_modified_error hm, Ledger.record_of_modified_error (hseen.trans hm)]
    exact ⟨rfl, fun hok => nomatch hok⟩
  | ok m =>
    obtain ⟨fs₂, halone, h₂⟩ : ∃ fs₂, l.record fs caller path = (.ok (), fs₂) ∧ Alike fs₁ fs₂ :=
      Ledger.record_of_record hrecord hm
    obtain ⟨fs₃, hagain, h₃⟩ : ∃ fs₃,
        l.record (fs₁.writeScratch a.config.scratchDir template' stack' text').2 caller path =
          (.ok (), fs₃) ∧ Alike _ fs₃ :=
      Ledger.record_of_extends hrecord hext (hseen.trans hm)
    rw [halone, hagain]
    refine ⟨rfl, fun _ template stack text => ?_⟩
    -- the line in the ledger changes no answer, and neither does the other scratch file
    calc (fs₃.writeScratch a.config.scratchDir template stack text).1
      _ = ((fs₁.writeScratch a.config.scratchDir template' stack' text').2.writeScratch
          a.config.scratchDir template stack text).1 :=
        (writeScratch_alike h₃ _ template stack text text).1
      _ = (fs₁.writeScratch a.config.scratchDir template stack text).1 :=
        writeScratch_again hscratch _ _ _ _ _ _
      _ = (fs₂.writeScratch a.config.scratchDir template stack text).1 :=
        (writeScratch_alike h₂ _ template stack text text).1.symm

/-- Behind another check what is written about a request is written with the answer that it has
alone. -/
theorem sameWrites_of_leaves (hsettled : a.Settled fs) (hleaves : a.Leaves fs r' fs')
    (caller : Text) {path : Text} (hseen : fs'.modified path = fs.modified path) :
    a.SameWrites fs fs' caller path := by
  cases hledger : a.ledger with
  | none =>
    rw [SameWrites, record_of_no_ledger hledger, record_of_no_ledger hledger]
    refine ⟨rfl, fun _ template stack text => ?_⟩
    cases hleaves with
    | unfound hpath => rfl
    | recorded hpath => rw [record_of_no_ledger hledger]
    | scratch hpath hrecord =>
      have hscratch := hsettled.scratch _ _ _ hrecord
      rw [record_of_no_ledger hledger] at hrecord
      obtain rfl := (Prod.mk.inj hrecord).2
      exact writeScratch_again hscratch _ _ _ _ _ _
  | some l =>
    cases hleaves with
    | unfound hpath => exact ⟨rfl, fun _ _ _ _ => rfl⟩
    | recorded hpath =>
      rw [record_of_ledger hledger] at hseen ⊢
      exact sameWrites_of_record hledger (hsettled.ledger l hledger) _ _ _ hseen
    | scratch hpath hrecord =>
      exact sameWrites_of_scratch hledger ((record_eq_ok_iff hledger).1 hrecord)
        (hsettled.scratch _ _ _ hrecord) _ _ _ _ hseen

/-- **A check changes no other check.** Behind another check a request has the result that it has
alone. -/
theorem result_of_leaves (htextual : a.tools.Textual) (hsettled : a.Settled fs)
    (hapart : a.Apart fs r) (hleaves : a.Leaves fs r' fs') (steps : Nat) :
    (a.check steps fs' r).map (·.result) = (a.check steps fs r).map (·.result) := by
  have hext := extends_leaves hleaves
  have hchanges := changesOnly_leaves hleaves
  rw [result_of_check, result_of_check, hapart.locate _ .template fs' hext hchanges]
  cases hpath : a.tools.locate fs r.template with
  | none => rfl
  | some path =>
    have hseen : fs'.modified path = fs.modified path :=
      modified_congr (hapart.entry_eq hchanges .template hpath)
    -- the two records, and the two scratch files, have the same answers
    obtain ⟨hrecord, hscratch⟩ := sameWrites_of_leaves hsettled hleaves r.caller.file hseen
    have hext₁ := a.extends_record fs r.caller.file path
    have hext₂ := hext.trans (a.extends_record fs' r.caller.file path)
    have hchanges₁ := a.changesOnly_record fs r.caller.file path
    have hchanges₂ := hchanges.trans ((a.changesOnly_record fs' r.caller.file path).mono
      fun q => Writes.of_extends hext)
    dsimp only
    generalize a.record fs r.caller.file path = x at hrecord hscratch hext₁ hchanges₁ ⊢
    generalize a.record fs' r.caller.file path = y at hrecord hscratch hext₂ hchanges₂ ⊢
    obtain ⟨result, fs₁⟩ := x
    obtain ⟨result', fs₂⟩ := y
    obtain rfl : result' = result := hrecord
    cases result' with
    | error e => rfl
    | ok =>
      -- both expansions read what no check writes
      have hlines : a.codeLines steps fs₂ r.template path [r.caller] =
          a.codeLines steps fs₁ r.template path [r.caller] := by
        rw [codeLines, codeLines,
          (hapart.agrees htextual hext₁ hchanges₁ hpath).render_eq,
          (hapart.agrees htextual hext₂ hchanges₂ hpath).render_eq]
      dsimp only
      rw [hlines]
      congr 1
      funext lines
      cases lines with
      | error e => rfl
      | ok lines =>
        exact checkLines_result htextual (hscratch rfl path [r.caller]) lines

/-- **Checks do not disturb each other.** The requests of a batch have, in order, the results that
they have alone, by induction on the batch. -/
theorem checkAll_results (htextual : a.tools.Textual) (hsettled : a.Settled fs)
    {rs : List CheckRequest} (hapart : ∀ r ∈ rs, a.Apart fs r) (steps : Nat) :
    (a.checkAll steps fs rs).map (·.map (·.result)) =
      rs.mapM fun r => (a.check steps fs r).map (·.result) := by
  induction rs generalizing fs with
  | nil => rfl
  | cons r rs ih =>
    rw [checkAll, List.mapM_cons]
    cases hcheck : a.check steps fs r with
    | none => rfl
    | some o =>
      have hleaves := leaves_of_check hcheck
      have hlater : ∀ r' ∈ rs, a.Apart o.files r' := fun r' hr' =>
        (hapart r' (List.mem_cons_of_mem _ hr')).later htextual (extends_leaves hleaves)
          (changesOnly_leaves hleaves)
      have hrest := (ih (hsettled.of_leaves hleaves) hlater).trans
        (Option.mapM_congr_mem fun r' hr' => result_of_leaves htextual hsettled
          (hapart r' (List.mem_cons_of_mem _ hr')) hleaves steps)
      simp only [Option.bind_eq_bind, Option.bind_some, Option.map_some, ← hrest]
      cases a.checkAll steps o.files rs <;> rfl

/-- Nothing is written in a part of the files that neither the scratch directory nor the ledger is
in. -/
theorem head?_of_writes {n : Text} (hwd : fs.workingDirectory = [])
    (hdir : target [] a.config.scratchDir ≠ [] ∧
      ∀ q ∈ way [] a.config.scratchDir, q.head? ≠ some n)
    (hledger : ∀ l ∈ a.ledger, ∀ q ∈ way [] l.path, q.head? ≠ some n) {q : Place}
    (h : a.Writes fs q) : q.head? ≠ some n := by
  unfold Writes at h
  rw [hwd] at h
  rcases h.1 with hway | ⟨template, stack, rfl⟩ | ⟨l, hl, hway⟩
  · exact hdir.2 q hway
  · rw [target_scratchPath, List.head?_append_of_ne_nil _ hdir.1]
    exact hdir.2 _ target_mem_way
  · exact hledger l hl q hway

/-- A path is apart from what is written if its way lies in a part of the files in which nothing is
written. -/
theorem not_writes_of_head? {n path : Text} (hwrites : ∀ {q}, a.Writes fs q → q.head? ≠ some n)
    (hway : ∀ q ∈ way fs.workingDirectory path, q = [] ∨ q.head? = some n) :
    ∀ q ∈ way fs.workingDirectory path, ¬ a.Writes fs q := by
  intro q hq hwrite
  rcases hway q hq with rfl | hhead
  · exact hwrite.2 rfl
  · exact hwrites hwrite hhead

/-- Tools that leave templates as they are and find the same in every file that can be read. -/
def plainTools (found : List RawDiagnostic) (locate : FileStore → Text → Option Text) : Tools where
  compile _ text := .ok text
  check fs path := ((fs.read path).mapError (.spawn path)).map fun _ => found
  locate := locate

theorem textual_plainTools (found : List RawDiagnostic)
    (locate : FileStore → Text → Option Text) : (plainTools found locate).Textual where
  compile _ _ := rfl
  check fs fs' path h := by simp only [plainTools, h]

/-- A template checked for two lines of its caller, and one that is missing checked in between. The
scratch directory is made by the first check. -/
theorem checkAll_results_repeated :
    let finder : ViewFinder := ⟨["v".toList], ["php".toList], {}⟩
    let ledger := Ledger.inDirectory "s".toList
    let a : Analyser := ⟨plainTools [] finder.locate?, { scratchDir := "s".toList }, [], some ledger⟩
    let code := "<?php a(); ?>".toList
    let fs : FileStore := ⟨[(["v".toList], ⟨.directory, Ledger.day⟩),
      (["v".toList, "a.php".toList], ⟨.file (.text code), Ledger.day⟩)], [], Ledger.day⟩
    let request (name : Text) (line : UInt32) : CheckRequest :=
      { template := name, caller := ⟨"/c.php".toList, line, none⟩ }
    let rs := [request "a".toList 1, request "z".toList 2, request "a".toList 3]
    a.tools.Textual ∧ a.Settled fs ∧ (∀ r ∈ rs, a.Apart fs r) ∧
      (a.checkAll 9 fs rs).map (·.map (·.result)) =
        rs.mapM fun r => (a.check 9 fs r).map (·.result) := by
  intro finder ledger a code fs request rs
  have htextual : a.tools.Textual := textual_plainTools _ _
  have hmake : (ledger.makeDirectory fs).1 = .ok () := by decide +kernel
  have hsettled : a.Settled fs :=
    settled_of_ledger rfl (by decide +kernel) (Ledger.settles_of_made hmake)
  -- checks write below `s`, and all that is looked up stands below `v`
  have hwrites : ∀ {q}, a.Writes fs q → q.head? ≠ some "v".toList :=
    head?_of_writes rfl (by decide +kernel) (by decide +kernel)
  have hways : ∀ path ∈ ["v/a.php".toList, "v/z.php".toList], ∀ q ∈ way [] path,
      q = [] ∨ q.head? = some "v".toList := by decide +kernel
  have hfound : a.tools.locate fs "a".toList = some "v/a.php".toList := by decide +kernel
  have hmissing : a.tools.locate fs "z".toList = none := by decide +kernel
  have hsource : fs.readText "v/a.php".toList = .ok code := by decide +kernel
  -- no template includes another one, so that each request asks for its own
  have hasks : ∀ r ∈ rs, ∀ name, a.Asks fs r name → name = r.template := by
    intro r hr name hname
    simp only [rs, List.mem_cons, List.not_mem_nil, or_false] at hr
    rcases hr with rfl | rfl | rfl
    · exact eq_template_of_asks hfound hsource rfl (by decide +kernel) hname
    · cases hname with
      | template => rfl
      | included hpath => cases hmissing.symm.trans hpath
    · exact eq_template_of_asks hfound hsource rfl (by decide +kernel) hname
  have hpaths : ∀ r ∈ rs, isAbsolute r.template = false ∧
      ∀ path ∈ finder.candidates r.template, path ∈ ["v/a.php".toList, "v/z.php".toList] := by
    decide +kernel
  have hapart : ∀ r ∈ rs, a.Apart fs r := by
    refine fun r hr => apart_of_finder rfl fun name path hname htries => ?_
    obtain rfl := hasks r hr name hname
    have hpath : path ∈ ["v/a.php".toList, "v/z.php".toList] := by
      rcases htries with ⟨habsolute, -⟩ | hpath
      · exact nomatch (hpaths r hr).1.symm.trans habsolute
      · exact (hpaths r hr).2 path hpath
    exact not_writes_of_head? hwrites (hways path hpath)
  exact ⟨htextual, hsettled, hapart, checkAll_results htextual hsettled hapart 9⟩

/-- Nothing lies in the scratch directory. -/
def Outside (a : Analyser) (fs : FileStore) : Prop :=
  ∀ e ∈ fs.entries, ¬ target fs.workingDirectory a.config.scratchDir <+: e.1

/-- Two requests for one template that come to different ends, with nothing in the scratch
directory. The directory cannot be made and is left half made behind the first check: the second one
fails for another reason. Or the first check makes a directory that a root of the finder leads
through: the second one finds another template. -/
theorem exists_disturbed_batch :
    let r : CheckRequest := { template := "a".toList, caller := ⟨"/c.php".toList, 1, none⟩ }
    let results (a : Analyser) (fs : FileStore) := (a.checkAll 9 fs [r, r]).map (·.map (·.result))
    let alone (a : Analyser) (fs : FileStore) :=
      [r, r].mapM fun r => (a.check 9 fs r).map (·.result)
    (∃ a fs, a.tools.Textual ∧ a.Outside fs ∧ a.Apart fs r ∧ results a fs ≠ alone a fs) ∧
      ∃ a fs, a.tools.Textual ∧ a.Outside fs ∧ a.Settled fs ∧ results a fs ≠ alone a fs := by
  intro r results alone
  constructor
  · -- the scratch path leads through `x`, which the first check makes before it fails at `f`
    let a : Analyser :=
      ⟨plainTools [] fun _ _ => some "a.php".toList, { scratchDir := "x/../f/y".toList }, [], none⟩
    let fs : FileStore := ⟨[(["f".toList], ⟨.file (.text []), Ledger.day⟩),
      (["a.php".toList], ⟨.file (.text "<?php a(); ?>".toList), Ledger.day⟩)], [], Ledger.day⟩
    have hwrites : ∀ {q}, a.Writes fs q → q.head? ≠ some "a.php".toList :=
      head?_of_writes rfl (by decide +kernel) (by decide +kernel)
    have hway : ∀ q ∈ way [] "a.php".toList, q = [] ∨ q.head? = some "a.php".toList := by
      decide +kernel
    refine ⟨a, fs, textual_plainTools _ _, by unfold Outside; decide +kernel, ?_, by decide +kernel⟩
    refine ⟨fun name _ fs' _ _ => rfl, fun name path _ hpath => ?_⟩
    obtain rfl := Option.some.inj hpath
    exact not_writes_of_head? hwrites hway
  · -- one root leads through `s`, which the first check makes
    let finder : ViewFinder := ⟨["s/../w".toList, "v".toList], ["php".toList], {}⟩
    let ledger := Ledger.inDirectory "s".toList
    let a : Analyser := ⟨plainTools [] finder.locate?, { scratchDir := "s".toList }, [], some ledger⟩
    let fs : FileStore := ⟨[(["v".toList], ⟨.directory, Ledger.day⟩),
      (["w".toList], ⟨.directory, Ledger.day⟩),
      (["v".toList, "a.php".toList], ⟨.file (.text "a".toList), Ledger.day⟩),
      (["w".toList, "a.php".toList], ⟨.file (.bytes [0xff]), Ledger.day⟩)], [], Ledger.day⟩
    have hmake : (ledger.makeDirectory fs).1 = .ok () := by decide +kernel
    have hsettled : a.Settled fs :=
      settled_of_ledger rfl (by decide +kernel) (Ledger.settles_of_made hmake)
    exact ⟨a, fs, textual_plainTools _ _, by unfold Outside; decide +kernel, hsettled,
      by decide +kernel⟩

end Analyser

end TemplateTrace
