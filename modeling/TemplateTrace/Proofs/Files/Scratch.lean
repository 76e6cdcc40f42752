import TemplateTrace.Files.Scratch
import TemplateTrace.Proofs.Files.Directory

/-!
# Scratch files beside each other

All scratch files stand in one directory, under names that no path can be misread by. So what was
written for one check does not settle whether the file of another can be written.

- `Path.exists_route_join`: the names of a path below a directory.
- `target_scratchPath`, `locate_scratchPath`: scratch files stand beside each other.
- `FileStore.Writing`: the ways in which a scratch file is written, and `FileStore.writing`.
- `FileStore.Settles`: a directory whose making leaves nothing behind when it fails.
- `FileStore.writeScratch_again`: writing behind another scratch file has the same answer.
-/

namespace TemplateTrace

open FileStore

/-! ## Names below a directory -/

namespace Path

variable {wd : Place}

theorem isAbsolute_of_not_mem {n : Text} (hn : '/' ∉ n) : isAbsolute n = false := by
  cases n with
  | nil => rfl
  | cons c n =>
    have hc : c ≠ '/' := fun hc => hn (hc ▸ List.mem_cons_self)
    simpa [isAbsolute] using hc

/-- A name below a directory is the last one on its way. -/
theorem exists_route_join (wd : Place) (dir : Text) : ∃ start names,
    names.foldl enter start = target wd dir ∧
      ∀ n, '/' ∉ n → route wd (join dir n) = (start, names ++ [n]) := by
  obtain ⟨start, names, htarget, hroute⟩ := exists_route_under wd dir
  refine ⟨start, names, htarget, fun n hn => ?_⟩
  rw [join_eq_under dir (isAbsolute_of_not_mem hn), hroute n (isAbsolute_of_not_mem hn), parts,
    Text.splitOn_of_not_mem hn]

theorem target_join {dir n : Text} (hn : '/' ∉ n) :
    target wd (join dir n) = enter (target wd dir) n := by
  obtain ⟨start, names, htarget, hroute⟩ := exists_route_join wd dir
  rw [target, hroute n hn, List.foldl_append, htarget]
  rfl

/-- Names below one directory lead through the same places. -/
theorem through_join {dir n m : Text} (hn : '/' ∉ n) (hm : '/' ∉ m) :
    through wd (join dir n) = through wd (join dir m) := by
  obtain ⟨start, names, -, hroute⟩ := exists_route_join wd dir
  rw [through, through, hroute n hn, hroute m hm, throughFrom_append, throughFrom_append]
  rfl

theorem mem_join (dir : Text) {n : Text} (hn : '/' ∉ n) {c : Char} (hc : c ≠ '/') :
    c ∈ join dir n ↔ c ∈ dir ∨ c ∈ n := by
  rw [join, if_neg (by rw [isAbsolute_of_not_mem hn]; decide)]
  split
  · exact List.mem_append
  · simp [hc]

end Path

/-! ## The names of scratch files -/

/-- The name of a scratch file in its directory. -/
def scratchName (templatePath : Text) (stack : List Frame) : Text :=
  Sha256.hex (Utf8.encode (scratchKey templatePath stack)) ++ "-blade-compiled.php".toList

theorem scratchPath_eq (dir templatePath : Text) (stack : List Frame) :
    scratchPath dir templatePath stack = Path.join dir (scratchName templatePath stack) := rfl

variable {dir template template' : Text} {stack stack' : List Frame}

/-- A digest is written in letters and digits. -/
theorem isAlphanum_of_mem_hex {m : List UInt8} {c : Char} (h : c ∈ Sha256.hex m) :
    c.isAlphanum = true := by
  have hdigit : ∀ k : Fin 16, (Nat.digitChar k).isAlphanum = true := by decide
  obtain ⟨b, -, hc⟩ := List.mem_flatMap.1 h
  have hb : b.toNat < 256 := b.toNat_lt
  have hhigh := hdigit ⟨b.toNat / 16, by omega⟩
  have hlow := hdigit ⟨b.toNat % 16, by omega⟩
  simp only [Sha256.hexByte, List.mem_cons, List.not_mem_nil, or_false] at hc
  rcases hc with rfl | rfl
  · exact hhigh
  · exact hlow

/-- A name of letters, digits, dashes and dots. -/
theorem mem_scratchName {c : Char} (h : c ∈ scratchName template stack) : c ≠ '/' ∧ c ≠ '\x00' := by
  rcases List.mem_append.1 h with h | h
  · have halpha := isAlphanum_of_mem_hex h
    constructor
    · rintro rfl
      cases halpha
    · rintro rfl
      cases halpha
  · have hsuffix : '/' ∉ "-blade-compiled.php".toList ∧ '\x00' ∉ "-blade-compiled.php".toList := by
      decide
    constructor
    · rintro rfl
      exact hsuffix.1 h
    · rintro rfl
      exact hsuffix.2 h

theorem getLast?_scratchName : (scratchName template stack).getLast? = some 'p' := by
  rw [scratchName, List.getLast?_append]
  rfl

theorem not_mem_slash_scratchName : '/' ∉ scratchName template stack :=
  fun h => (mem_scratchName h).1 rfl

/-- A scratch file stands in the scratch directory, under the name for its template and stack. -/
theorem target_scratchPath (wd : Place) : Path.target wd (scratchPath dir template stack) =
    Path.target wd dir ++ [scratchName template stack] := by
  have hlast : (scratchName template stack).getLast? = some 'p' := getLast?_scratchName
  rw [scratchPath_eq, Path.target_join not_mem_slash_scratchName, Path.enter,
    if_neg, if_neg]
  · intro h
    rw [h] at hlast
    cases hlast
  · rintro (h | h) <;> rw [h] at hlast <;> cases hlast

/-- The path of a scratch file ends in its ending, and so in no slash. -/
theorem getLast?_scratchPath : (scratchPath dir template stack).getLast? ≠ some '/' := by
  have hlast : (scratchName template stack).getLast? = some 'p' := getLast?_scratchName
  rw [scratchPath_eq, Path.join]
  split
  · rw [hlast]
    decide
  · split
    · rw [List.getLast?_append, hlast]
      show some 'p' ≠ some '/'
      decide
    · rw [List.getLast?_append, List.getLast?_cons, hlast]
      show some 'p' ≠ some '/'
      decide

/-- Scratch files stand beside each other: where one can be reached, another can. -/
theorem locate_scratchPath {fs : FileStore} {q : Place}
    (h : fs.locate (scratchPath dir template stack) = .ok q) :
    fs.locate (scratchPath dir template' stack') =
      .ok (Path.target fs.workingDirectory (scratchPath dir template' stack')) := by
  obtain ⟨⟨hempty, hnul⟩, -, hthrough⟩ := locate_eq_ok_iff.1 h
  refine locate_eq_ok_iff.2 ⟨⟨?_, ?_⟩, rfl, ?_⟩
  · intro hnil
    have hlast : (scratchName template' stack').getLast? = some 'p' := getLast?_scratchName
    have hmem := (Path.mem_join dir not_mem_slash_scratchName (by decide)).2
      (.inr (List.mem_of_getLast? hlast))
    rw [← scratchPath_eq, hnil] at hmem
    cases hmem
  · intro hmem
    rw [scratchPath_eq, Path.mem_join dir not_mem_slash_scratchName (by decide)] at hmem hnul
    rcases hmem with hmem | hmem
    · exact hnul (.inl hmem)
    · exact (mem_scratchName hmem).2 rfl
  · rw [scratchPath_eq, Path.through_join not_mem_slash_scratchName not_mem_slash_scratchName,
      ← scratchPath_eq]
    exact hthrough

/-! ## Writing scratch files -/

namespace FileStore

variable {fs fs' : FileStore} {text text' : Text}

/-- The ways in which a scratch file is written: its directory cannot be made, the file cannot be
written, or it is there. -/
inductive Writing (fs : FileStore) (dir template : Text) (stack : List Frame) (text : Text) :
    Attempt PathError Text → Prop where
  | homeless {e : FileError} {fs₁ : FileStore} (hmake : fs.createDirAll dir = (.error e, fs₁)) :
      Writing fs dir template stack text (.error (dir, e), fs₁)
  | refused {e : FileError} {fs₁ : FileStore} (hmake : fs.createDirAll dir = (.ok (), fs₁))
      (hwrite : fs₁.write (scratchPath dir template stack) (.text text) = .error e) :
      Writing fs dir template stack text (.error (scratchPath dir template stack, e), fs₁)
  | written {fs₁ fs₂ : FileStore} (hmake : fs.createDirAll dir = (.ok (), fs₁))
      (hwrite : fs₁.write (scratchPath dir template stack) (.text text) = .ok fs₂) :
      Writing fs dir template stack text (.ok (scratchPath dir template stack), fs₂)

/-- How writing a scratch file ends, by how far it comes: up to the directory, or to the file. -/
theorem writing (fs : FileStore) (dir template : Text) (stack : List Frame) (text : Text) :
    Writing fs dir template stack text (fs.writeScratch dir template stack text) := by
  unfold writeScratch
  split
  next e fs₁ hmake => exact .homeless hmake
  next fs₁ hmake =>
    dsimp only
    split
    next e hwrite => exact .refused hmake hwrite
    next fs₂ hwrite => exact .written hmake hwrite

/-- Writing a scratch file leaves directories and files what they are, whether it succeeds or fails.
-/
theorem extends_writeScratch (fs : FileStore) (dir template : Text) (stack : List Frame)
    (text : Text) : Extends fs (fs.writeScratch dir template stack text).2 := by
  have hmakes := (makesOnly_createDirAll fs dir).toExtends
  have hwriting := fs.writing dir template stack text
  generalize fs.writeScratch dir template stack text = x at hwriting
  cases hwriting with
  | homeless hmake => rwa [hmake] at hmakes
  | refused hmake hwrite => rwa [hmake] at hmakes
  | written hmake hwrite =>
    rw [hmake] at hmakes
    exact hmakes.trans (extends_update hwrite)

/-- Nothing changes but the directories that are made, and the scratch file. -/
theorem changesOnly_writeScratch (fs : FileStore) (dir template : Text) (stack : List Frame)
    (text : Text) :
    ChangesOnly (fun q => (q ∈ Path.way fs.workingDirectory dir ∨
        q = Path.target fs.workingDirectory (scratchPath dir template stack)) ∧
      fs.kind? q ≠ some true) fs (fs.writeScratch dir template stack text).2 := by
  have hmakes := makesOnly_createDirAll fs dir
  have hdirs := hmakes.changesOnly.mono fun q ⟨hway, hkind⟩ =>
    (⟨.inl hway, hkind⟩ : (q ∈ Path.way fs.workingDirectory dir ∨
      q = Path.target fs.workingDirectory (scratchPath dir template stack)) ∧ _)
  have hwriting := fs.writing dir template stack text
  generalize fs.writeScratch dir template stack text = x at hwriting
  cases hwriting with
  | homeless hmake => rwa [hmake] at hdirs
  | refused hmake hwrite => rwa [hmake] at hdirs
  | written hmake hwrite =>
    rw [hmake] at hdirs hmakes
    refine hdirs.trans ((changesOnly_update hwrite).mono ?_)
    rintro q ⟨rfl, hkind⟩
    refine ⟨.inr (by rw [hmakes.workingDirectory]), fun hdir => hkind ?_⟩
    exact hmakes.toExtends.directory _ hdir

/-- The checker reads what was written. -/
theorem read_of_writeScratch {path : Text}
    (h : fs.writeScratch dir template stack text = (.ok path, fs')) :
    fs'.read path = .ok (.text text) := by
  have hwriting := fs.writing dir template stack text
  rw [h] at hwriting
  cases hwriting with
  | written hmake hwrite =>
    obtain ⟨q, -, hread⟩ := read_of_update hwrite
    exact hread

/-- Where a scratch file was written it is written again, as long as it is left where it is. -/
theorem writeScratch_of_keeps {path : Text} {fs₁ : FileStore}
    (h : fs.writeScratch dir template stack text = (.ok path, fs₁)) {W : Place → Prop}
    (hkeeps : Keeps W fs₁ fs')
    (hW : W (Path.target fs₁.workingDirectory (scratchPath dir template stack))) (text' : Text) :
    ∃ fs₂, fs'.writeScratch dir template stack text' = (.ok path, fs₂) := by
  have hwriting := fs.writing dir template stack text
  rw [h] at hwriting
  cases hwriting with
  | written hmake hwrite =>
    have hext := extends_update hwrite
    have hmade : fs'.createDirAll dir = (.ok (), fs') := createDirAll_of_isDirectory
      ((isDirectory_of_createDirAll hmake).imp id (hext.keeps_trans hkeeps).isDirectory)
    obtain ⟨q, hupdate, -⟩ := update_of_keeps hwrite hkeeps hW
    rw [writeScratch, hmade]
    dsimp only
    rw [write, hupdate]
    exact ⟨_, rfl⟩

/-- A scratch file is written in stores that are alike. -/
theorem writeScratch_alike (h : Alike fs fs') (dir template : Text) (stack : List Frame)
    (text text' : Text) :
    SameAnswer (fs.writeScratch dir template stack text)
      (fs'.writeScratch dir template stack text') := by
  unfold writeScratch
  rcases (createDirAll_alike h dir).cases with
    ⟨e, fs₁, fs₁', hmade, hmade', h₁⟩ | ⟨_, fs₁, fs₁', hmade, hmade', h₁⟩
  · rw [hmade, hmade']
    exact ⟨rfl, h₁⟩
  · rw [hmade, hmade']
    dsimp only
    rcases update_alike h₁ (scratchPath dir template stack) (fun _ => .text text)
      (fun _ => .text text') with ⟨e, he, he'⟩ | ⟨fs₂, fs₂', hok, hok', h₂⟩
    · rw [write, write, he, he']
      exact ⟨rfl, h₁⟩
    · rw [write, write, hok, hok']
      exact ⟨rfl, h₂⟩

/-- An attempt to make a directory that fails leaves nothing behind. -/
def Settles (fs : FileStore) (dir : Text) : Prop :=
  ∀ e fs', fs.createDirAll dir = (.error e, fs') → Alike fs fs'

/-- A directory that is there settles. -/
theorem settles_of_isDirectory (h : dir = [] ∨ fs.isDirectory dir = true) : fs.Settles dir := by
  intro e fs' hmake
  cases (createDirAll_of_isDirectory h).symm.trans hmake

theorem Settles.alike (h : fs.Settles dir) (halike : Alike fs fs') : fs'.Settles dir := by
  intro e fs₁' hmake'
  rcases (createDirAll_alike halike dir).cases with
    ⟨e', fs₁, fs₂', hmade, hmade', h₁⟩ | ⟨_, fs₁, fs₂', hmade, hmade', h₁⟩
  · cases hmake'.symm.trans hmade'
    exact halike.symm.trans ((h _ _ hmade).trans h₁)
  · cases hmake'.symm.trans hmade'

/-- Scratch files do not get in each other's way. Behind another one, a scratch file is written with
the answer that it has alone. -/
theorem writeScratch_again (h : fs.Settles dir) (template template' : Text)
    (stack stack' : List Frame) (text text' : Text) :
    ((fs.writeScratch dir template stack text).2.writeScratch dir template' stack' text').1 =
      (fs.writeScratch dir template' stack' text').1 := by
  have hwriting := fs.writing dir template stack text
  generalize fs.writeScratch dir template stack text = x at hwriting
  cases hwriting with
  | homeless hmake => exact (writeScratch_alike (h _ _ hmake) dir template' stack' text' text').1
  | @refused e fs₁ hmake hwrite =>
    -- the directory is there now, and there is nothing else
    have hmade := createDirAll_of_isDirectory (isDirectory_of_createDirAll hmake)
    show (fs₁.writeScratch dir template' stack' text').1 = _
    rw [writeScratch, writeScratch, hmade, hmake]
  | @written fs₁ fs₂ hmake hwrite =>
    have hext := extends_update hwrite
    have hmade : fs₂.createDirAll dir = (.ok (), fs₂) :=
      createDirAll_of_isDirectory ((isDirectory_of_createDirAll hmake).imp id hext.isDirectory)
    obtain ⟨q, hlocate, -, hkind, hset⟩ := update_eq_ok hwrite
    have hlocate₁ : fs₁.locate (scratchPath dir template' stack') =
        .ok (Path.target fs₁.workingDirectory (scratchPath dir template' stack')) :=
      locate_scratchPath hlocate
    have hlocate₂ := hext.locate_eq_ok hlocate₁
    -- the other file stands in the way of none that could be written before
    have hsame : fs₂.kind? (Path.target fs₁.workingDirectory (scratchPath dir template' stack')) =
        some true ↔ fs₁.kind? (Path.target fs₁.workingDirectory
          (scratchPath dir template' stack')) = some true := by
      constructor
      · intro hdir
        by_cases hq : q = Path.target fs₁.workingDirectory (scratchPath dir template' stack')
        · rw [hset, ← hq, kind?_of_at? (at?_set_self fs₁ _ (ne_root_of_kind? hkind))] at hdir
          cases hdir
        · rwa [hset, kind?, at?_set_of_ne fs₁ _ hq] at hdir
      · exact hext.directory _
    show (fs₂.writeScratch dir template' stack' text').1 = _
    rw [writeScratch, writeScratch, hmade, hmake]
    dsimp only
    rw [write, write, update_of_locate hlocate₁ getLast?_scratchPath,
      update_of_locate hlocate₂ getLast?_scratchPath]
    by_cases hdir : fs₁.kind? (Path.target fs₁.workingDirectory
        (scratchPath dir template' stack')) = some true
    · rw [if_pos hdir, if_pos (hsame.2 hdir)]
    · rw [if_neg hdir, if_neg fun h => hdir (hsame.1 h)]

/-- Writing a scratch file leaves the scratch directory settled. -/
theorem settles_writeScratch (h : fs.Settles dir) (template : Text) (stack : List Frame)
    (text : Text) : (fs.writeScratch dir template stack text).2.Settles dir := by
  have hwriting := fs.writing dir template stack text
  generalize fs.writeScratch dir template stack text = x at hwriting
  cases hwriting with
  | homeless hmake => exact h.alike (h _ _ hmake)
  | refused hmake hwrite => exact settles_of_isDirectory (isDirectory_of_createDirAll hmake)
  | written hmake hwrite =>
    exact settles_of_isDirectory
      ((isDirectory_of_createDirAll hmake).imp id (extends_update hwrite).isDirectory)

end FileStore

end TemplateTrace
