import TemplateTrace.Proofs.Files.Locate

/-!
# What changes of a file store keep

No request takes a directory away or puts a file in its place, so that a path leads where it led.
What is not at the place that a request changes stays what it was.

- `FileStore.Extends`, `FileStore.Alike`, `FileStore.Keeps`: directories and files that stay what
  they are, and `FileStore.locate_eq_ok_of_directories`.
- `FileStore.ChangesOnly`: nothing changes but at some places.
- `FileStore.SameAnswer`: attempts that end alike in two stores.
- `FileStore.update_eq_ok`, `FileStore.update_alike`: putting a content into a file.
- `FileStore.touch_eq_ok`, `FileStore.remove_eq_ok`: touching and removing.
-/

namespace TemplateTrace

namespace FileStore

open TemplateTrace.Path

variable {fs fs' : FileStore} {path : Text} {p q : Place}

/-! ## Directories and files that stay what they are -/

/-- A later state in which directories are directories and files are files still. -/
structure Extends (fs fs' : FileStore) : Prop where
  workingDirectory : fs'.workingDirectory = fs.workingDirectory
  kind : ∀ q k, fs.kind? q = some k → fs'.kind? q = some k

/-- The same directories and files, whatever the files hold. -/
structure Alike (fs fs' : FileStore) : Prop where
  workingDirectory : fs'.workingDirectory = fs.workingDirectory
  kind : ∀ q, fs'.kind? q = fs.kind? q

theorem Extends.refl (fs : FileStore) : Extends fs fs := ⟨rfl, fun _ _ h => h⟩

theorem Extends.trans {fs'' : FileStore} (h : Extends fs fs') (h' : Extends fs' fs'') :
    Extends fs fs'' :=
  ⟨h'.workingDirectory.trans h.workingDirectory, fun q k hk => h'.kind q k (h.kind q k hk)⟩

theorem Alike.refl (fs : FileStore) : Alike fs fs := ⟨rfl, fun _ => rfl⟩

theorem Alike.symm (h : Alike fs fs') : Alike fs' fs :=
  ⟨h.workingDirectory.symm, fun q => (h.kind q).symm⟩

theorem Alike.trans {fs'' : FileStore} (h : Alike fs fs') (h' : Alike fs' fs'') : Alike fs fs'' :=
  ⟨h'.workingDirectory.trans h.workingDirectory, fun q => (h'.kind q).trans (h.kind q)⟩

theorem Alike.locate_eq (h : Alike fs fs') (path : Text) : fs'.locate path = fs.locate path :=
  locate_congr h.workingDirectory fun q _ => h.kind q

/-- A later state in which directories are directories still, and at some places files are files. -/
structure Keeps (W : Place → Prop) (fs fs' : FileStore) : Prop where
  workingDirectory : fs'.workingDirectory = fs.workingDirectory
  directory : ∀ q, fs.kind? q = some true → fs'.kind? q = some true
  file : ∀ q, W q → fs.kind? q = some false → fs'.kind? q = some false

theorem alike_clock (fs : FileStore) (t : Instant) : Alike fs { fs with clock := t } := by
  refine ⟨rfl, fun q => ?_⟩
  by_cases h : q = []
  · subst h
    rfl
  · rw [kind?, kind?, at?_clock fs t h]

/-- A path leads where it led as long as directories stay directories. -/
theorem locate_eq_ok_of_directories (hwd : fs'.workingDirectory = fs.workingDirectory)
    (hdirs : ∀ q, fs.kind? q = some true → fs'.kind? q = some true)
    (hq : fs.locate path = .ok q) : fs'.locate path = .ok q := by
  obtain ⟨hpath, htarget, hthrough⟩ := locate_eq_ok_iff.1 hq
  refine locate_eq_ok_iff.2 ⟨hpath, ?_, fun p hp => ?_⟩
  · rw [hwd, htarget]
  · rw [hwd] at hp
    exact hdirs p (hthrough p hp)

theorem Keeps.locate_eq_ok {W : Place → Prop} (h : Keeps W fs fs') (hq : fs.locate path = .ok q) :
    fs'.locate path = .ok q :=
  locate_eq_ok_of_directories h.workingDirectory h.directory hq

theorem Extends.keeps (h : Extends fs fs') (W : Place → Prop) : Keeps W fs fs' :=
  ⟨h.workingDirectory, fun q => h.kind q true, fun q _ => h.kind q false⟩

theorem Extends.keeps_trans {W : Place → Prop} {fs'' : FileStore} (h : Extends fs fs')
    (h' : Keeps W fs' fs'') : Keeps W fs fs'' :=
  ⟨h'.workingDirectory.trans h.workingDirectory, fun q hq => h'.directory q (h.kind q true hq),
    fun q hW hq => h'.file q hW (h.kind q false hq)⟩

theorem Keeps.trans_extends {W : Place → Prop} {fs'' : FileStore} (h : Keeps W fs fs')
    (h' : Extends fs' fs'') : Keeps W fs fs'' :=
  ⟨h'.workingDirectory.trans h.workingDirectory, fun q hq => h'.kind q true (h.directory q hq),
    fun q hW hq => h'.kind q false (h.file q hW hq)⟩

theorem Extends.directory (h : Extends fs fs') :
    ∀ q, fs.kind? q = some true → fs'.kind? q = some true :=
  fun q => h.kind q true

theorem Extends.locate_eq_ok (h : Extends fs fs') (hq : fs.locate path = .ok q) :
    fs'.locate path = .ok q :=
  locate_eq_ok_of_directories h.workingDirectory h.directory hq

/-- Putting a file where a file or nothing stood. -/
theorem extends_set (hp : fs.kind? p ≠ some true) (c : Content) (t : Instant) :
    Extends fs (fs.set p ⟨.file c, t⟩) := by
  have hroot : p ≠ [] := by
    rintro rfl
    exact hp rfl
  refine ⟨rfl, fun q k hk => ?_⟩
  by_cases hq : p = q
  · subst hq
    rw [kind?_of_at? (at?_set_self fs _ hroot)]
    cases k with
    | true => exact absurd hk hp
    | false => rfl
  · rw [kind?, at?_set_of_ne fs _ hq]
    exact hk

/-- Puts of a file at one place, before and after in stores that are alike. -/
theorem Alike.set (h : Alike fs fs') (hp : p ≠ []) {c c' : Content} {t t' : Instant} :
    Alike (fs.set p ⟨.file c, t⟩) (fs'.set p ⟨.file c', t'⟩) := by
  refine ⟨h.workingDirectory, fun q => ?_⟩
  by_cases hq : p = q
  · subst hq
    rw [kind?_of_at? (at?_set_self fs _ hp), kind?_of_at? (at?_set_self fs' _ hp)]
    rfl
  · rw [kind?, kind?, at?_set_of_ne fs _ hq, at?_set_of_ne fs' _ hq]
    exact h.kind q

/-- Putting a file where a file stood. -/
theorem alike_set (hp : fs.kind? p = some false) (c : Content) (t : Instant) :
    Alike fs (fs.set p ⟨.file c, t⟩) := by
  have hroot : p ≠ [] := by
    rintro rfl
    cases hp
  refine ⟨rfl, fun q => ?_⟩
  by_cases hq : p = q
  · subst hq
    rw [kind?_of_at? (at?_set_self fs _ hroot), hp]
    rfl
  · rw [kind?, kind?, at?_set_of_ne fs _ hq]

theorem Keeps.isDirectory {W : Place → Prop} (h : Keeps W fs fs')
    (hd : fs.isDirectory path = true) : fs'.isDirectory path = true := by
  obtain ⟨q, hlocate, hkind⟩ := isDirectory_iff.1 hd
  exact isDirectory_iff.2 ⟨q, h.locate_eq_ok hlocate, h.directory q hkind⟩

theorem Extends.isDirectory (h : Extends fs fs') (hd : fs.isDirectory path = true) :
    fs'.isDirectory path = true :=
  (h.keeps fun _ => False).isDirectory hd

theorem Alike.isDirectory_eq (h : Alike fs fs') (path : Text) :
    fs'.isDirectory path = fs.isDirectory path := by
  rw [Bool.eq_iff_iff, isDirectory_iff, isDirectory_iff, h.locate_eq]
  simp only [h.kind]

/-! ## Changes at some places -/

/-- Nothing changes but at some places. -/
structure ChangesOnly (W : Place → Prop) (fs fs' : FileStore) : Prop where
  workingDirectory : fs'.workingDirectory = fs.workingDirectory
  at? : ∀ q, ¬ W q → fs'.at? q = fs.at? q

namespace ChangesOnly

variable {W W' : Place → Prop}

theorem refl (W : Place → Prop) (fs : FileStore) : ChangesOnly W fs fs := ⟨rfl, fun _ _ => rfl⟩

theorem trans {fs'' : FileStore} (h : ChangesOnly W fs fs') (h' : ChangesOnly W fs' fs'') :
    ChangesOnly W fs fs'' :=
  ⟨h'.workingDirectory.trans h.workingDirectory, fun q hq => (h'.at? q hq).trans (h.at? q hq)⟩

theorem mono (h : ChangesOnly W fs fs') (hW : ∀ q, W q → W' q) : ChangesOnly W' fs fs' :=
  ⟨h.workingDirectory, fun q hq => h.at? q fun hmem => hq (hW q hmem)⟩

/-- A path whose way avoids the places leads to what it led to. -/
theorem entry_eq (h : ChangesOnly W fs fs') (hway : ∀ q ∈ way fs.workingDirectory path, ¬ W q) :
    fs'.entry path = fs.entry path :=
  entry_congr h.workingDirectory fun q hq => h.at? q (hway q hq)

end ChangesOnly

/-! ## Attempts in stores that are alike -/

/-- The same answers, and stores that are alike. -/
def SameAnswer {ε α : Type} (x y : Attempt ε α) : Prop := y.1 = x.1 ∧ Alike x.2 y.2

/-- Attempts with the same answers fail alike or succeed alike. -/
theorem SameAnswer.cases {ε α : Type} {x y : Attempt ε α} (h : SameAnswer x y) :
    (∃ e fs fs', x = (.error e, fs) ∧ y = (.error e, fs') ∧ Alike fs fs') ∨
      ∃ a fs fs', x = (.ok a, fs) ∧ y = (.ok a, fs') ∧ Alike fs fs' := by
  obtain ⟨r, fs⟩ := x
  obtain ⟨r', fs'⟩ := y
  obtain ⟨rfl, halike⟩ := h
  cases r' with
  | error e => exact .inl ⟨e, fs, fs', rfl, rfl, halike⟩
  | ok a => exact .inr ⟨a, fs, fs', rfl, rfl, halike⟩

/-! ## Putting contents into files -/

variable {f f' : Option Content → Content}

theorem update_of_locate_error {e : FileError}
    (h : fs.locate (withoutEndSlash path) = .error e) : fs.update path f = .error e := by
  rw [update, h]
  rfl

theorem update_of_endSlash (h : fs.locate (withoutEndSlash path) = .ok q)
    (hlast : path.getLast? = some '/') : fs.update path f = .error .isADirectory := by
  rw [update, h]
  show (if path.getLast? = some '/' then _ else _) = _
  rw [if_pos hlast]
  rfl

theorem update_of_locate (h : fs.locate path = .ok q) (hlast : path.getLast? ≠ some '/') :
    fs.update path f = if fs.kind? q = some true then .error .isADirectory
      else .ok (fs.set q ⟨.file (f (fs.content? q)), fs.clock⟩) := by
  rw [update, withoutEndSlash_eq_self hlast, h, content?, kind?]
  dsimp only [bind, Except.bind]
  rw [if_neg hlast]
  rcases fs.at? q with _ | ⟨_ | c, t⟩ <;> rfl

/-- A content is put into a file that is there, or into a new one. -/
theorem update_eq_ok (h : fs.update path f = .ok fs') :
    ∃ q, fs.locate path = .ok q ∧ path.getLast? ≠ some '/' ∧ fs.kind? q ≠ some true ∧
      fs' = fs.set q ⟨.file (f (fs.content? q)), fs.clock⟩ := by
  cases hlocate : fs.locate (withoutEndSlash path) with
  | error e => cases (update_of_locate_error hlocate).symm.trans h
  | ok q =>
    by_cases hlast : path.getLast? = some '/'
    · cases (update_of_endSlash hlocate hlast).symm.trans h
    · rw [withoutEndSlash_eq_self hlast] at hlocate
      rw [update_of_locate hlocate hlast] at h
      split at h
      · cases h
      next hkind => exact ⟨q, hlocate, hlast, hkind, (Except.ok.inj h).symm⟩

theorem ne_root_of_kind? (h : fs.kind? q ≠ some true) : q ≠ [] := by
  rintro rfl
  exact h rfl

theorem extends_update (h : fs.update path f = .ok fs') : Extends fs fs' := by
  obtain ⟨q, -, -, hkind, rfl⟩ := update_eq_ok h
  exact extends_set hkind _ _

theorem changesOnly_update (h : fs.update path f = .ok fs') :
    ChangesOnly (fun q => q = target fs.workingDirectory path ∧ fs.kind? q ≠ some true) fs fs' := by
  obtain ⟨q, hlocate, -, hkind, rfl⟩ := update_eq_ok h
  obtain ⟨-, rfl, -⟩ := locate_eq_ok_iff.1 hlocate
  exact ⟨rfl, fun p hp => at?_set_of_ne fs _ fun heq => hp ⟨heq.symm, heq ▸ hkind⟩⟩

/-- A file that was put there can be read. -/
theorem read_of_update (h : fs.update path f = .ok fs') :
    ∃ q, fs.locate path = .ok q ∧ fs'.read path = .ok (f (fs.content? q)) := by
  have hext := extends_update h
  obtain ⟨q, hlocate, -, hkind, rfl⟩ := update_eq_ok h
  refine ⟨q, hlocate, ?_⟩
  rw [read, entry_eq_ok_iff.2 ⟨q, hext.locate_eq_ok hlocate,
    at?_set_self fs _ (ne_root_of_kind? hkind)⟩]
  rfl

/-- Contents are put into a file in two stores that are alike. -/
theorem update_alike (h : Alike fs fs') (path : Text) (f f' : Option Content → Content) :
    (∃ e, fs.update path f = .error e ∧ fs'.update path f' = .error e) ∨
      ∃ fs₁ fs₁', fs.update path f = .ok fs₁ ∧ fs'.update path f' = .ok fs₁' ∧
        Alike fs₁ fs₁' := by
  have hlocate' := h.locate_eq (withoutEndSlash path)
  cases hlocate : fs.locate (withoutEndSlash path) with
  | error e =>
    exact .inl ⟨e, update_of_locate_error hlocate, update_of_locate_error (hlocate'.trans hlocate)⟩
  | ok q =>
    rw [hlocate] at hlocate'
    by_cases hlast : path.getLast? = some '/'
    · exact .inl ⟨_, update_of_endSlash hlocate hlast, update_of_endSlash hlocate' hlast⟩
    · rw [withoutEndSlash_eq_self hlast] at hlocate hlocate'
      rw [update_of_locate hlocate hlast, update_of_locate hlocate' hlast, h.kind]
      by_cases hkind : fs.kind? q = some true
      · rw [if_pos hkind, if_pos hkind]
        exact .inl ⟨_, rfl, rfl⟩
      · rw [if_neg hkind, if_neg hkind]
        exact .inr ⟨_, _, rfl, rfl, h.set (ne_root_of_kind? hkind)⟩

/-- A content can be put again into a file that it was put into. -/
theorem update_of_keeps {fs₀ : FileStore} (h : fs₀.update path f = .ok fs) {W : Place → Prop}
    (hkeeps : Keeps W fs fs') (hW : W (target fs.workingDirectory path)) :
    ∃ q, fs'.update path f' = .ok (fs'.set q ⟨.file (f' (fs'.content? q)), fs'.clock⟩) ∧
      fs'.kind? q = some false := by
  obtain ⟨q, hlocate, hlast, hkind, rfl⟩ := update_eq_ok h
  obtain ⟨-, rfl, -⟩ := locate_eq_ok_iff.1 hlocate
  have hfile : fs'.kind? (target fs₀.workingDirectory path) = some false :=
    hkeeps.file _ hW (kind?_of_at? (at?_set_self fs₀ _ (ne_root_of_kind? hkind)))
  have hlocate' := hkeeps.locate_eq_ok ((extends_set hkind _ _).locate_eq_ok hlocate)
  refine ⟨_, ?_, hfile⟩
  rw [update_of_locate hlocate' hlast, if_neg (by rw [hfile]; exact nofun)]

/-! ## Touching and removing -/

/-- Touching gives what stands at a path another time, and changes nothing else. -/
theorem touch_eq_ok {t : Instant} (h : fs.touch path t = .ok fs') :
    ∃ q e, fs.locate path = .ok q ∧ fs.at? q = some e ∧ fs' = fs.set q { e with modified := t } := by
  cases hlocate : fs.locate path with
  | error e =>
    rw [touch, hlocate] at h
    cases h
  | ok q =>
    rw [touch, hlocate] at h
    dsimp only [bind, Except.bind] at h
    cases hat : fs.at? q with
    | none =>
      rw [hat] at h
      cases h
    | some e =>
      rw [hat] at h
      exact ⟨q, e, rfl, hat, (Except.ok.inj h).symm⟩

/-- What is removed is a file, with all entries of its place. -/
theorem remove_eq_ok (h : fs.remove path = .ok fs') :
    ∃ q, fs.locate path = .ok q ∧ fs.kind? q = some false ∧
      fs' = { fs with entries := fs.entries.filter (·.1 ≠ q) } := by
  cases hlocate : fs.locate path with
  | error e =>
    rw [remove, hlocate] at h
    cases h
  | ok q =>
    rw [remove, hlocate] at h
    dsimp only [bind, Except.bind] at h
    cases hat : fs.at? q with
    | none =>
      rw [hat] at h
      cases h
    | some e =>
      obtain ⟨node, t⟩ := e
      rw [hat] at h
      cases node with
      | directory => cases h
      | file c => exact ⟨q, rfl, kind?_of_at? hat, (Except.ok.inj h).symm⟩

/-- Taking entries of other places out. -/
theorem at?_filter_of_ne (fs : FileStore) (h : p ≠ q) :
    FileStore.at? { fs with entries := fs.entries.filter (·.1 ≠ p) } q = fs.at? q := by
  by_cases hq : q = []
  · subst hq
    rfl
  · rw [at?_of_ne_nil _ hq, at?_of_ne_nil _ hq]
    dsimp only
    rw [find?_filter_ne h]

theorem at?_filter_self (fs : FileStore) (h : p ≠ []) :
    FileStore.at? { fs with entries := fs.entries.filter (·.1 ≠ p) } p = none := by
  rw [at?_of_ne_nil _ h, Option.map_eq_none_iff, List.find?_eq_none]
  intro e he
  simpa using (List.mem_filter.1 he).2

end FileStore

end TemplateTrace
