import TemplateTrace.Proofs.Files.Change

/-!
# Making directories

A directory is made by making the ones above it first, where they are missing. Whether that succeeds
or fails on the way, directories are added at places of the path where nothing stood, and nothing
else changes.

- `FileStore.MakesOnly`, `FileStore.makesOnly_createDirAll`: what making directories changes.
- `FileStore.isDirectory_of_createDirAll`, `createDirAll_of_isDirectory`: what is made is there, and
  need not be made again.
- `FileStore.createDirAll_alike`: the same directories are made in stores that are alike.
-/

namespace TemplateTrace

namespace FileStore

open TemplateTrace.Path

variable {fs fs' : FileStore} {path : Text} {p q : Place}

/-! ## What is made -/

/-- Directories are made at some of the places `W`, where nothing stood, and nothing else changes.
-/
structure MakesOnly (W : List Place) (fs fs' : FileStore) : Prop where
  workingDirectory : fs'.workingDirectory = fs.workingDirectory
  clock : fs'.clock = fs.clock
  at? : ∀ q, fs'.at? q = fs.at? q ∨
    q ∈ W ∧ fs.at? q = none ∧ fs'.at? q = some ⟨.directory, fs.clock⟩

namespace MakesOnly

variable {W W' : List Place}

theorem refl (W : List Place) (fs : FileStore) : MakesOnly W fs fs := ⟨rfl, rfl, fun _ => .inl rfl⟩

/-- Two steps that only make directories are one such step. -/
theorem trans {fs'' : FileStore} (h : MakesOnly W fs fs') (h' : MakesOnly W fs' fs'') :
    MakesOnly W fs fs'' := by
  refine ⟨h'.workingDirectory.trans h.workingDirectory, h'.clock.trans h.clock, fun q => ?_⟩
  rcases h.at? q with hq | ⟨hW, hnone, hdir⟩
  · rcases h'.at? q with hq' | ⟨hW, hnone, hdir⟩
    · exact .inl (hq'.trans hq)
    · exact .inr ⟨hW, hq.symm.trans hnone, h.clock ▸ hdir⟩
  · rcases h'.at? q with hq' | ⟨-, hnone', -⟩
    · exact .inr ⟨hW, hnone, hq'.trans hdir⟩
    · cases hdir.symm.trans hnone'

theorem mono (h : MakesOnly W fs fs') (hW : ∀ q ∈ W, q ∈ W') : MakesOnly W' fs fs' :=
  ⟨h.workingDirectory, h.clock, fun q => (h.at? q).imp id fun ⟨hq, h⟩ => ⟨hW q hq, h⟩⟩

theorem toExtends (h : MakesOnly W fs fs') : Extends fs fs' := by
  refine ⟨h.workingDirectory, fun q k hk => ?_⟩
  rcases h.at? q with hq | ⟨-, hnone, -⟩
  · rw [kind?, hq]
    exact hk
  · rw [kind?_eq_none_iff.2 hnone] at hk
    cases hk

theorem changesOnly (h : MakesOnly W fs fs') :
    ChangesOnly (fun q => q ∈ W ∧ fs.kind? q ≠ some true) fs fs' := by
  refine ⟨h.workingDirectory, fun q hq => (h.at? q).resolve_right ?_⟩
  rintro ⟨hW, hnone, -⟩
  exact hq ⟨hW, by rw [kind?_eq_none_iff.2 hnone]; exact nofun⟩

end MakesOnly

/-- Making a directory asks whether anything stands at its place. -/
theorem createDir_of_locate (h : fs.locate (withoutEndSlash path) = .ok q) :
    fs.createDir path = if fs.kind? q = none then .ok (fs.set q ⟨.directory, fs.clock⟩)
      else .error .fileExists := by
  rw [createDir, h]
  dsimp only [bind, Except.bind]
  cases hat : fs.at? q with
  | none => rw [if_pos (kind?_eq_none_iff.2 hat)]
  | some e => rw [if_neg (by rw [kind?_eq_none_iff, hat]; exact nofun)]

theorem createDir_of_locate_error {e : FileError}
    (h : fs.locate (withoutEndSlash path) = .error e) : fs.createDir path = .error e := by
  rw [createDir, h]
  rfl

/-- A directory is made at a place where nothing stands. -/
theorem createDir_eq_ok (h : fs.createDir path = .ok fs') :
    ∃ q, fs.locate (withoutEndSlash path) = .ok q ∧ q = target fs.workingDirectory path ∧
      fs.at? q = none ∧ fs' = fs.set q ⟨.directory, fs.clock⟩ := by
  cases hlocate : fs.locate (withoutEndSlash path) with
  | error e => cases (createDir_of_locate_error hlocate).symm.trans h
  | ok q =>
    rw [createDir_of_locate hlocate] at h
    split at h
    next hnone =>
      have htarget := (locate_eq_ok_iff.1 hlocate).2.1
      rw [target_withoutEndSlash] at htarget
      exact ⟨q, rfl, htarget.symm, kind?_eq_none_iff.1 hnone, (Except.ok.inj h).symm⟩
    · cases h

theorem ne_root_of_at? (h : fs.at? q = none) : q ≠ [] := by
  rintro rfl
  cases h

/-- One directory that is made is on the way to the path. -/
theorem makesOnly_createDir (h : fs.createDir path = .ok fs') :
    MakesOnly (way fs.workingDirectory path) fs fs' := by
  obtain ⟨q, -, rfl, hnone, rfl⟩ := createDir_eq_ok h
  refine ⟨rfl, rfl, fun p => ?_⟩
  by_cases hp : target fs.workingDirectory path = p
  · subst hp
    exact .inr ⟨target_mem_way, hnone, at?_set_self fs _ (ne_root_of_at? hnone)⟩
  · exact .inl (at?_set_of_ne fs _ hp)

theorem isDirectory_of_createDir (h : fs.createDir path = .ok fs') :
    fs'.isDirectory path = true := by
  have hext := (makesOnly_createDir h).toExtends
  obtain ⟨q, hlocate, -, hnone, rfl⟩ := createDir_eq_ok h
  have hkind := kind?_of_at? (at?_set_self fs ⟨.directory, fs.clock⟩ (ne_root_of_at? hnone))
  exact isDirectory_iff.2
    ⟨q, locate_of_withoutEndSlash (hext.locate_eq_ok hlocate) hkind, hkind⟩

theorem createDir_of_isDirectory (h : fs.isDirectory path = true) :
    fs.createDir path = .error .fileExists := by
  obtain ⟨q, hlocate, hkind⟩ := isDirectory_iff.1 h
  rw [createDir_of_locate (locate_withoutEndSlash hlocate), if_neg (by rw [hkind]; exact nofun)]

/-- Making a directory, and those above it, makes directories on the way of the path only, by
induction on the steps: a parent path leads through places of the path. -/
theorem makesOnly_createDirs (fs : FileStore) (steps : Nat) (path : Text) :
    MakesOnly (way fs.workingDirectory path) fs (fs.createDirs steps path).2 := by
  induction steps generalizing fs path with
  | zero => exact .refl _ _
  | succ steps ih =>
    rw [createDirs]
    by_cases hempty : path = []
    · rw [if_pos hempty]
      exact .refl _ _
    rw [if_neg hempty]
    split
    next fs₁ h => exact makesOnly_createDir h
    · split
      · exact .refl _ _
      next parent hparent =>
        have hup : MakesOnly (way fs.workingDirectory path) fs (fs.createDirs steps parent).2 := by
          by_cases hnil : parent = []
          · subst hnil
            cases steps <;> exact .refl _ _
          · exact (ih fs parent).mono (way_parent hparent hnil)
        split
        next e fs₁ h => rwa [h] at hup
        next fs₁ h =>
          rw [h] at hup
          split
          next fs₂ h₂ => exact hup.trans (hup.workingDirectory ▸ makesOnly_createDir h₂)
          · exact hup
    · exact .refl _ _

theorem isDirectory_of_makingFailed {e : FileError} (h : fs.makingFailed path e = .ok ()) :
    fs.isDirectory path = true := by
  unfold makingFailed at h
  split at h
  next hd => exact hd
  · cases h

/-- Where making a directory succeeds there is one, made now or found to be there. -/
theorem isDirectory_of_createDirs {steps : Nat}
    (h : fs.createDirs steps path = (.ok (), fs')) : path = [] ∨ fs'.isDirectory path = true := by
  cases steps with
  | zero => cases h
  | succ steps =>
    rw [createDirs] at h
    by_cases hempty : path = []
    · exact .inl hempty
    rw [if_neg hempty] at h
    refine .inr ?_
    split at h
    next fs₁ h₁ =>
      cases h
      exact isDirectory_of_createDir h₁
    · split at h
      · cases h
      · split at h
        · cases h
        · split at h
          next h₂ =>
            cases h
            exact isDirectory_of_createDir h₂
          · obtain ⟨hok, rfl⟩ := Prod.mk.inj h
            exact isDirectory_of_makingFailed hok
    · obtain ⟨hok, rfl⟩ := Prod.mk.inj h
      exact isDirectory_of_makingFailed hok

/-- What making a directory changes. -/
theorem makesOnly_createDirAll (fs : FileStore) (path : Text) :
    MakesOnly (way fs.workingDirectory path) fs (fs.createDirAll path).2 :=
  makesOnly_createDirs fs _ path

/-- A directory that is made is there. -/
theorem isDirectory_of_createDirAll (h : fs.createDirAll path = (.ok (), fs')) :
    path = [] ∨ fs'.isDirectory path = true :=
  isDirectory_of_createDirs h

/-- A directory that is there need not be made. -/
theorem createDirAll_of_isDirectory (h : path = [] ∨ fs.isDirectory path = true) :
    fs.createDirAll path = (.ok (), fs) := by
  rw [createDirAll, createDirs]
  by_cases hempty : path = []
  · rw [if_pos hempty]
  · have hd := h.resolve_left hempty
    rw [if_neg hempty, createDir_of_isDirectory hd]
    show (fs.makingFailed path .fileExists, fs) = _
    rw [makingFailed, if_pos hd]

/-! ### In stores that are alike -/

/-- A directory is made in both of two stores that are alike, or in none. -/
theorem createDir_alike (h : Alike fs fs') (path : Text) :
    (∃ e, fs.createDir path = .error e ∧ fs'.createDir path = .error e) ∨
      ∃ fs₁ fs₁', fs.createDir path = .ok fs₁ ∧ fs'.createDir path = .ok fs₁' ∧
        Alike fs₁ fs₁' := by
  cases hlocate : fs.locate (withoutEndSlash path) with
  | error e =>
    exact .inl ⟨e, createDir_of_locate_error hlocate,
      createDir_of_locate_error ((h.locate_eq _).trans hlocate)⟩
  | ok q =>
    rw [createDir_of_locate hlocate, createDir_of_locate ((h.locate_eq _).trans hlocate), h.kind]
    by_cases hnone : fs.kind? q = none
    · rw [if_pos hnone, if_pos hnone]
      refine .inr ⟨_, _, rfl, rfl, h.workingDirectory, fun p => ?_⟩
      have hroot := ne_root_of_at? (kind?_eq_none_iff.1 hnone)
      by_cases hp : q = p
      · subst hp
        rw [kind?_of_at? (at?_set_self fs _ hroot), kind?_of_at? (at?_set_self fs' _ hroot)]
      · rw [kind?, kind?, at?_set_of_ne fs _ hp, at?_set_of_ne fs' _ hp]
        exact h.kind p
    · rw [if_neg hnone, if_neg hnone]
      exact .inl ⟨_, rfl, rfl⟩

/-- The same directories are made in two stores that are alike, by induction on the steps; every
answer on the way is the same in both. -/
theorem createDirs_alike (h : Alike fs fs') (steps : Nat) (path : Text) :
    SameAnswer (fs.createDirs steps path) (fs'.createDirs steps path) := by
  -- what becomes of a failure depends on whether a directory is there
  have hfailed : ∀ {fs fs' : FileStore} (_ : Alike fs fs') (path : Text) (e : FileError),
      SameAnswer (fs.makingFailed path e, fs) (fs'.makingFailed path e, fs') := by
    intro fs fs' h path e
    refine ⟨?_, h⟩
    show fs'.makingFailed path e = fs.makingFailed path e
    rw [makingFailed, makingFailed, h.isDirectory_eq]
  induction steps generalizing fs fs' path with
  | zero => exact ⟨rfl, h⟩
  | succ steps ih =>
    rw [createDirs, createDirs]
    by_cases hempty : path = []
    · rw [if_pos hempty, if_pos hempty]
      exact ⟨rfl, h⟩
    rw [if_neg hempty, if_neg hempty]
    rcases createDir_alike h path with ⟨e, he, he'⟩ | ⟨fs₁, fs₁', hok, hok', h₁⟩
    · rw [he, he']
      -- only a missing parent is made, one level up
      by_cases hnone : e = .notFound
      · subst hnone
        dsimp only
        cases parent? path with
        | none => exact ⟨rfl, h⟩
        | some parent =>
          dsimp only
          rcases (ih h parent).cases with
            ⟨e, fs₁, fs₁', hup, hup', h₁⟩ | ⟨_, fs₁, fs₁', hup, hup', h₁⟩
          · rw [hup, hup']
            exact ⟨rfl, h₁⟩
          · rw [hup, hup']
            dsimp only
            -- with the parent made, the directory is tried once more
            rcases createDir_alike h₁ path with ⟨e, he, he'⟩ | ⟨fs₂, fs₂', hok, hok', h₂⟩
            · rw [he, he']
              exact hfailed h₁ path e
            · rw [hok, hok']
              exact ⟨rfl, h₂⟩
      · cases e with
        | notFound => exact absurd rfl hnone
        | _ => exact hfailed h path _
    · rw [hok, hok']
      exact ⟨rfl, h₁⟩

theorem createDirAll_alike (h : Alike fs fs') (path : Text) :
    SameAnswer (fs.createDirAll path) (fs'.createDirAll path) :=
  createDirs_alike h _ path

end FileStore

end TemplateTrace
