import Mathlib.Data.List.TakeWhile
import TemplateTrace.Proofs.Files.Way

/-!
# What stands where a path leads

A request sees nothing but the places on the way of its path. So what it answers follows from the
kinds of these places, directory or file, and from the entry at the last of them; a change elsewhere
does not change its answer.

- `FileStore.kind?`, `FileStore.content?`: what stands at a place.
- `FileStore.locate_eq_ok_iff`: when a path leads anywhere, and where it leads.
- `FileStore.locate_withoutEndSlash`, `locate_of_withoutEndSlash`: paths with closing slashes.
- `FileStore.entry_eq_ok_iff`, `FileStore.entry_congr`: the entry at a path.
- `FileStore.exists_entry_iff`, `isDirectory_iff`, `isFile_iff`: the kind of the entry at a path.
-/

namespace TemplateTrace

/-- Whether a directory stands there. -/
def Node.isDirectory : Node → Bool
  | .directory => true
  | .file _ => false

/-- What a file holds. -/
def Node.content? : Node → Option Content
  | .directory => none
  | .file c => some c

namespace FileStore

open TemplateTrace.Path

variable {fs fs' : FileStore} {path : Text} {p q : Place}

/-! ## What stands at a place -/

/-- What the file at a place holds, if a file stands there. -/
def content? (fs : FileStore) (place : Place) : Option Content :=
  (fs.at? place).bind (·.node.content?)

/-- Whether it is a directory that stands at a place, if something does. -/
def kind? (fs : FileStore) (place : Place) : Option Bool :=
  (fs.at? place).map (·.node.isDirectory)

theorem requireDirectory_congr (h : fs'.kind? q = fs.kind? q) :
    fs'.requireDirectory q = fs.requireDirectory q := by
  unfold kind? at h
  unfold requireDirectory
  generalize fs'.at? q = x at h ⊢
  generalize fs.at? q = y at h ⊢
  rcases x with _ | ⟨_ | c', t'⟩ <;> rcases y with _ | ⟨_ | c, t⟩ <;> first | rfl | cases h

theorem requireDirectory_eq_ok_iff : fs.requireDirectory q = .ok () ↔ fs.kind? q = some true := by
  unfold kind? requireDirectory
  rcases fs.at? q with _ | ⟨_ | c, t⟩ <;> simp [Node.isDirectory]

@[simp] theorem set_workingDirectory (fs : FileStore) (p : Place) (e : Entry) :
    (fs.set p e).workingDirectory = fs.workingDirectory := rfl

@[simp] theorem set_clock (fs : FileStore) (p : Place) (e : Entry) :
    (fs.set p e).clock = fs.clock := rfl

theorem at?_of_ne_nil (fs : FileStore) (h : q ≠ []) :
    fs.at? q = (fs.entries.find? (·.1 == q)).map (·.2) := if_neg h

theorem find?_filter_ne {es : List (Place × Entry)} (h : p ≠ q) :
    (es.filter (·.1 ≠ p)).find? (·.1 == q) = es.find? (·.1 == q) := by
  rw [List.find?_filter]
  congr 1
  funext e
  by_cases he : e.1 = q
  · simp [he, Ne.symm h]
  · simp [he]

theorem at?_set_self (fs : FileStore) (e : Entry) (h : p ≠ []) : (fs.set p e).at? p = some e := by
  rw [at?_of_ne_nil _ h, set]
  simp

theorem at?_set_of_ne (fs : FileStore) (e : Entry) (h : p ≠ q) :
    (fs.set p e).at? q = fs.at? q := by
  by_cases hq : q = []
  · subst hq
    rfl
  · rw [at?_of_ne_nil _ hq, at?_of_ne_nil _ hq, set]
    dsimp only
    rw [List.find?_cons_of_neg (by simpa using h), find?_filter_ne h]

theorem content?_set_of_ne (fs : FileStore) (e : Entry) (h : p ≠ q) :
    (fs.set p e).content? q = fs.content? q :=
  congrArg (Option.bind · _) (at?_set_of_ne fs e h)

theorem at?_clock (fs : FileStore) (t : Instant) (h : q ≠ []) :
    FileStore.at? { fs with clock := t } q = fs.at? q := by
  rw [at?_of_ne_nil _ h, at?_of_ne_nil _ h]

theorem kind?_congr (h : (fs'.at? q).map (·.node) = (fs.at? q).map (·.node)) :
    fs'.kind? q = fs.kind? q := by
  have hmap := congrArg (Option.map Node.isDirectory) h
  rwa [Option.map_map, Option.map_map] at hmap

theorem content?_congr (h : (fs'.at? q).map (·.node) = (fs.at? q).map (·.node)) :
    fs'.content? q = fs.content? q := by
  have hbind : ((fs'.at? q).map (·.node)).bind Node.content? =
      ((fs.at? q).map (·.node)).bind Node.content? := congrArg (Option.bind · _) h
  rwa [Option.bind_map, Option.bind_map] at hbind

theorem kind?_of_at? {e : Entry} (h : fs.at? q = some e) :
    fs.kind? q = some e.node.isDirectory := by
  rw [kind?, h]
  rfl

theorem kind?_eq_none_iff : fs.kind? q = none ↔ fs.at? q = none := by
  rw [kind?, Option.map_eq_none_iff]

/-! ## Closing slashes -/

/-- Only closing slashes are taken off a path. -/
theorem withoutEndSlash_spec (path : Text) :
    ∃ k, path = withoutEndSlash path ++ List.replicate k '/' := by
  unfold withoutEndSlash
  split
  · exact ⟨0, by simp⟩
  · have hsplit := List.takeWhile_append_dropWhile (p := (· == '/')) (l := path.reverse)
    refine ⟨(path.reverse.takeWhile (· == '/')).length, ?_⟩
    have hall : path.reverse.takeWhile (· == '/') =
        List.replicate (path.reverse.takeWhile (· == '/')).length '/' :=
      List.eq_replicate_of_mem fun c hc => by simpa using List.mem_takeWhile_imp hc
    conv => lhs; rw [← List.reverse_reverse path, ← hsplit, List.reverse_append, hall,
      List.reverse_replicate]
    rfl

theorem withoutEndSlash_ne_nil (h : path ≠ []) : withoutEndSlash path ≠ [] := by
  unfold withoutEndSlash
  split
  · exact h
  next hall =>
    intro hnil
    rw [Text.trimEnd, List.reverse_eq_nil_iff, List.dropWhile_eq_nil_iff] at hnil
    exact hall (List.all_eq_true.2 fun c hc => hnil c (List.mem_reverse.2 hc))

theorem withoutEndSlash_eq_self (h : path.getLast? ≠ some '/') : withoutEndSlash path = path := by
  obtain ⟨k, hk⟩ := withoutEndSlash_spec path
  cases k with
  | zero => rw [List.replicate_zero, List.append_nil] at hk; exact hk.symm
  | succ k =>
    rw [List.replicate_succ', ← List.append_assoc] at hk
    rw [hk, List.getLast?_concat] at h
    exact absurd rfl h

/-! ## Where a path leads -/


theorem walk_cons (fs : FileStore) (place : Place) (name : Text) (names : List Text) :
    fs.walk place (name :: names) =
      fs.requireDirectory place >>= fun _ => fs.walk (enter place name) names := by
  rw [walk, enter]
  split
  · rfl
  · split <;> rfl

/-- A walk sees the kinds of the places that it goes through, and nothing else of a store. -/
theorem walk_congr {place : Place} {names : List Text}
    (h : ∀ q ∈ throughFrom place names, fs'.kind? q = fs.kind? q) :
    fs'.walk place names = fs.walk place names := by
  induction names generalizing place with
  | nil => rfl
  | cons name names ih =>
    rw [walk_cons, walk_cons, requireDirectory_congr (h place List.mem_cons_self),
      ih fun q hq => h q (List.mem_cons_of_mem _ hq)]

/-- Names lead from a place to another when the places in front of each name are directories. -/
theorem walk_eq_ok_iff {place : Place} {names : List Text} :
    fs.walk place names = .ok q ↔
      names.foldl enter place = q ∧ ∀ p ∈ throughFrom place names, fs.kind? p = some true := by
  induction names generalizing place with
  | nil =>
    constructor
    · intro h
      exact ⟨Except.ok.inj h, fun p hp => (nomatch hp)⟩
    · rintro ⟨rfl, -⟩
      rfl
  | cons name names ih =>
    rw [walk_cons, throughFrom, List.forall_mem_cons, List.foldl_cons]
    cases hd : fs.requireDirectory place with
    | error e =>
      constructor
      · intro h
        cases h
      · rintro ⟨-, hplace, -⟩
        cases hd.symm.trans (requireDirectory_eq_ok_iff.2 hplace)
    | ok =>
      have hplace := requireDirectory_eq_ok_iff.1 hd
      show fs.walk (enter place name) names = .ok q ↔ _
      rw [ih, and_congr_right_iff]
      exact fun _ => ⟨fun h => ⟨hplace, h⟩, fun h => h.2⟩

/-- A path is walked from where it starts, by its names, if it can be a path at all. -/
theorem locate_eq (fs : FileStore) (path : Text) :
    fs.locate path = if path = [] then .error .notFound
      else if path.contains '\x00' then .error .nulInPath
      else fs.walk (route fs.workingDirectory path).1 (route fs.workingDirectory path).2 := by
  unfold locate
  split
  · rfl
  · split
    · rfl
    · split
      · rfl
      next hrelative => rw [route_of_relative _ hrelative]

/-- The answer depends on the places that the path leads through. -/
theorem locate_congr (hwd : fs'.workingDirectory = fs.workingDirectory)
    (h : ∀ q ∈ through fs.workingDirectory path, fs'.kind? q = fs.kind? q) :
    fs'.locate path = fs.locate path := by
  rw [locate_eq, locate_eq, hwd, walk_congr h]

/-- A path leads to its target if it can be a path, and if the places that it leads through are
directories. -/
theorem locate_eq_ok_iff : fs.locate path = .ok q ↔
    (path ≠ [] ∧ '\x00' ∉ path) ∧ target fs.workingDirectory path = q ∧
      ∀ p ∈ through fs.workingDirectory path, fs.kind? p = some true := by
  rw [locate_eq]
  by_cases hempty : path = []
  · rw [if_pos hempty]
    exact ⟨fun h => (nomatch h), fun h => absurd hempty h.1.1⟩
  · rw [if_neg hempty]
    by_cases hnul : path.contains '\x00' = true
    · rw [if_pos hnul]
      exact ⟨fun h => (nomatch h), fun h => absurd (List.contains_iff_mem.1 hnul) h.1.2⟩
    · rw [if_neg hnul, walk_eq_ok_iff]
      exact ⟨fun h => ⟨⟨hempty, fun hmem => hnul (List.contains_iff_mem.2 hmem)⟩, h⟩, (·.2)⟩

theorem target_withoutEndSlash (wd : Place) (path : Text) :
    target wd (withoutEndSlash path) = target wd path := by
  by_cases hempty : path = []
  · subst hempty
    rfl
  · obtain ⟨k, hk⟩ := withoutEndSlash_spec path
    conv => rhs; rw [hk]
    exact (through_append_slashes wd (withoutEndSlash_ne_nil hempty) k).1.symm

theorem through_withoutEndSlash {wd : Place} (h : q ∈ through wd (withoutEndSlash path)) :
    q ∈ through wd path := by
  by_cases hempty : path = []
  · subst hempty
    exact h
  · obtain ⟨k, hk⟩ := withoutEndSlash_spec path
    rw [hk]
    exact (through_append_slashes wd (withoutEndSlash_ne_nil hempty) k).2.1 q h

/-- A path leads to the same place without its closing slashes. -/
theorem locate_withoutEndSlash (h : fs.locate path = .ok q) :
    fs.locate (withoutEndSlash path) = .ok q := by
  obtain ⟨⟨hempty, hnul⟩, htarget, hthrough⟩ := locate_eq_ok_iff.1 h
  refine locate_eq_ok_iff.2 ⟨⟨withoutEndSlash_ne_nil hempty, fun hmem => hnul ?_⟩,
    (target_withoutEndSlash _ _).trans htarget, fun p hp => hthrough p (through_withoutEndSlash hp)⟩
  obtain ⟨k, hk⟩ := withoutEndSlash_spec path
  rw [hk]
  exact List.mem_append_left _ hmem

/-- A path with closing slashes leads to a directory as the path without them does. -/
theorem locate_of_withoutEndSlash (h : fs.locate (withoutEndSlash path) = .ok q)
    (hq : fs.kind? q = some true) : fs.locate path = .ok q := by
  obtain ⟨⟨hempty, hnul⟩, htarget, hthrough⟩ := locate_eq_ok_iff.1 h
  obtain ⟨k, hk⟩ := withoutEndSlash_spec path
  have hslashes := through_append_slashes fs.workingDirectory hempty k
  rw [← hk] at hslashes
  refine locate_eq_ok_iff.2 ⟨⟨fun hnil => ?_, fun hmem => ?_⟩, hslashes.1.trans htarget,
    fun p hp => ?_⟩
  · subst hnil
    exact hempty rfl
  · rw [hk, List.mem_append] at hmem
    rcases hmem with hmem | hmem
    · exact hnul hmem
    · exact absurd (List.eq_of_mem_replicate hmem) (by decide)
  · rcases hslashes.2.2 p hp with hp | rfl
    · exact hthrough p hp
    · rw [htarget]
      exact hq

/-! ## Questions -/

theorem entry_of_locate (h : fs.locate path = .ok q) :
    fs.entry path = (fs.at? q).elim (.error .notFound) .ok := by
  rw [entry, h]
  dsimp only [bind, Except.bind]
  cases fs.at? q with
  | none => rfl
  | some e => rfl

theorem entry_of_locate_error {e : FileError} (h : fs.locate path = .error e) :
    fs.entry path = .error e := by
  rw [entry, h]
  rfl

/-- The entry at a path is the one at the place that the path leads to. -/
theorem entry_eq_ok_iff {e : Entry} :
    fs.entry path = .ok e ↔ ∃ q, fs.locate path = .ok q ∧ fs.at? q = some e := by
  cases hlocate : fs.locate path with
  | error e =>
    rw [entry_of_locate_error hlocate]
    exact ⟨fun h => (nomatch h), fun ⟨q, h, _⟩ => (nomatch h)⟩
  | ok q =>
    rw [entry_of_locate hlocate]
    cases hat : fs.at? q with
    | none => exact ⟨fun h => (nomatch h), fun ⟨_, h, h'⟩ => by cases h; cases hat.symm.trans h'⟩
    | some e' =>
      constructor
      · intro h
        cases h
        exact ⟨q, rfl, hat⟩
      · rintro ⟨_, h, h'⟩
        cases h
        cases hat.symm.trans h'
        rfl

theorem at?_of_entry {e : Entry} (h : fs.entry path = .ok e) :
    fs.at? (target fs.workingDirectory path) = some e := by
  obtain ⟨q, hlocate, hat⟩ := entry_eq_ok_iff.1 h
  obtain ⟨-, rfl, -⟩ := locate_eq_ok_iff.1 hlocate
  exact hat

/-- The kind of the entry at a path is the kind of what stands at the place. -/
theorem exists_entry_iff {kind : Bool} :
    (∃ e, fs.entry path = .ok e ∧ e.node.isDirectory = kind) ↔
      ∃ q, fs.locate path = .ok q ∧ fs.kind? q = some kind := by
  constructor
  · rintro ⟨e, hentry, rfl⟩
    obtain ⟨q, hlocate, hat⟩ := entry_eq_ok_iff.1 hentry
    exact ⟨q, hlocate, kind?_of_at? hat⟩
  · rintro ⟨q, hlocate, hkind⟩
    obtain ⟨e, hat, hnode⟩ := Option.map_eq_some_iff.1 hkind
    exact ⟨e, entry_eq_ok_iff.2 ⟨q, hlocate, hat⟩, hnode⟩

/-- A path is one of a directory if it leads to one. -/
theorem isDirectory_iff :
    fs.isDirectory path = true ↔ ∃ q, fs.locate path = .ok q ∧ fs.kind? q = some true := by
  rw [← exists_entry_iff]
  unfold isDirectory
  split
  next t hentry => exact ⟨fun _ => ⟨_, hentry, rfl⟩, fun _ => rfl⟩
  next hentry =>
    refine ⟨fun h => (nomatch h), ?_⟩
    rintro ⟨⟨node, t⟩, hok, hnode⟩
    cases node with
    | directory => exact absurd hok (hentry t)
    | file c => cases hnode

/-- A path is one of a file if it leads to one. -/
theorem isFile_iff :
    fs.isFile path = true ↔ ∃ q, fs.locate path = .ok q ∧ fs.kind? q = some false := by
  rw [← exists_entry_iff]
  unfold isFile
  split
  next c t hentry => exact ⟨fun _ => ⟨_, hentry, rfl⟩, fun _ => rfl⟩
  next hentry =>
    refine ⟨fun h => (nomatch h), ?_⟩
    rintro ⟨⟨node, t⟩, hok, hnode⟩
    cases node with
    | directory => cases hnode
    | file c => exact absurd hok (hentry c t)

/-- The answer depends on the places on the way. -/
theorem entry_congr (hwd : fs'.workingDirectory = fs.workingDirectory)
    (h : ∀ q ∈ way fs.workingDirectory path, fs'.at? q = fs.at? q) :
    fs'.entry path = fs.entry path := by
  have hlocate : fs'.locate path = fs.locate path := by
    refine locate_congr hwd fun q hq => ?_
    rw [kind?, kind?, h q (mem_way.2 (.inl hq))]
  cases hq : fs.locate path with
  | error e => rw [entry_of_locate_error hq, entry_of_locate_error (hlocate.trans hq)]
  | ok q =>
    obtain ⟨-, rfl, -⟩ := locate_eq_ok_iff.1 hq
    rw [entry_of_locate hq, entry_of_locate (hlocate.trans hq), h _ target_mem_way]

theorem read_congr (h : fs'.entry path = fs.entry path) : fs'.read path = fs.read path := by
  rw [read, read, h]

theorem readText_congr (h : fs'.read path = fs.read path) :
    fs'.readText path = fs.readText path := by
  rw [readText, readText, h]

theorem modified_congr (h : fs'.entry path = fs.entry path) :
    fs'.modified path = fs.modified path := by
  rw [modified, modified, h]

/-- A time is that of an entry. -/
theorem entry_of_modified {t : Instant} (h : fs.modified path = .ok t) :
    ∃ e, fs.entry path = .ok e ∧ e.modified = t := by
  unfold FileStore.modified at h
  cases hentry : fs.entry path with
  | error e =>
    rw [hentry] at h
    cases h
  | ok e =>
    rw [hentry] at h
    exact ⟨e, rfl, Except.ok.inj h⟩

/-- What a file holds is read, whenever it was changed. -/
theorem read_of_entry {e : Entry} (h : fs.entry path = .ok e) :
    fs.read path = e.node.content?.elim (.error .isADirectory) .ok := by
  rw [read, h]
  dsimp only [bind, Except.bind]
  cases e.node with
  | directory => rfl
  | file c => rfl

theorem isFile_congr (h : fs'.entry path = fs.entry path) : fs'.isFile path = fs.isFile path := by
  rw [isFile, isFile, h]

end FileStore

end TemplateTrace
