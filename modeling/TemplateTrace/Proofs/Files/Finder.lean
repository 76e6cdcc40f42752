import TemplateTrace.Files.Finder
import TemplateTrace.Proofs.Files.Change
import TemplateTrace.Proofs.Marker.Extent

/-!
# Templates below their roots

A name says where it is looked for, and the first file is taken that it may mean there: root by root,
and ending by ending for each root. Blanks around what is looked for do not count. A name that starts
with a dot or a slash there makes an absolute path, in which no root has a part; every other name
leads to places below the roots alone.

- `Path.foldl_enter`: names without `..` lead downwards.
- `Path.Beneath`, `FileStore.beneath_of_isFile`: a file behind a directory stands below it.
- `ViewFinder.Asks`: the roots below which a name is looked for, and what is looked for there.
- `ViewFinder.candidate`, `ViewFinder.First`: what a name may mean, and the first of it that exists.
- `ViewFinder.locate?_first`: what a finder finds.
- `ViewFinder.locate?_elsewhere`: blanks around a name, a leading dot, an ending that leads up.
-/

namespace TemplateTrace

/-! ## Below a directory -/

namespace Path

/-- The place of a path is that of a base path, with more names behind it. -/
def Beneath (wd : Place) (base p : Text) : Prop :=
  ∃ names, names ≠ [] ∧ target wd p = target wd base ++ names

/-- Names without `..` lead downwards. -/
theorem foldl_enter {names : List Text} (h : ['.', '.'] ∉ names) (place : Place) :
    names.foldl enter place = place ++ names.filter fun n => n ≠ [] ∧ n ≠ ['.'] := by
  induction names generalizing place with
  | nil => exact (List.append_nil place).symm
  | cons n names ih =>
    rw [List.mem_cons, not_or] at h
    rw [List.foldl_cons, ih h.2, enter]
    by_cases hstay : n = [] ∨ n = ['.']
    · rw [if_pos hstay, List.filter_cons_of_neg]
      simpa [or_iff_not_imp_left] using hstay
    · rw [if_neg hstay, if_neg (Ne.symm h.1), List.filter_cons_of_pos]
      · simp
      · simpa [not_or] using hstay

/-- Text without dots in front of names adds no `..` to them. -/
theorem up_not_mem_parts {a b : Text} (ha : '.' ∉ a) (hb : ['.', '.'] ∉ parts b) :
    ['.', '.'] ∉ parts (a ++ b) := by
  induction a with
  | nil => exact hb
  | cons c a ih =>
    rw [List.mem_cons, not_or] at ha
    have hrest := ih ha.2
    by_cases hc : c = '/'
    · subst hc
      rw [List.cons_append, parts, Text.splitOn_cons_self, List.mem_cons, not_or]
      exact ⟨by decide, hrest⟩
    · rw [List.cons_append, parts, Text.splitOn_cons_ne hc, List.mem_cons, not_or]
      refine ⟨fun heq => ha.1 (List.cons.inj heq).1, fun hmem => hrest ?_⟩
      exact List.mem_of_mem_tail hmem

end Path

namespace FileStore

open TemplateTrace.Path

variable {fs : FileStore} {base p : Text}

/-- A file behind a directory stands below it, unless the way to it leads up. -/
theorem beneath_of_isFile (hp : isAbsolute p = false) (hup : ['.', '.'] ∉ parts p)
    (hfile : fs.isFile (under base p) = true) : Beneath fs.workingDirectory base (under base p) := by
  obtain ⟨start, names, hbase, hroute⟩ := exists_route_under fs.workingDirectory base
  obtain ⟨q, hlocate, hkind⟩ := isFile_iff.1 hfile
  obtain ⟨-, rfl, hthrough⟩ := locate_eq_ok_iff.1 hlocate
  have htarget : target fs.workingDirectory (under base p) =
      target fs.workingDirectory base ++ (parts p).filter fun n => n ≠ [] ∧ n ≠ ['.'] := by
    rw [target, hroute p hp, List.foldl_append, hbase, foldl_enter hup]
  refine ⟨_, fun hnil => ?_, htarget⟩
  -- the way leads through the base path, which then is a directory
  have hmem : target fs.workingDirectory base ∈ through fs.workingDirectory (under base p) := by
    rw [through, hroute p hp, throughFrom_append, hbase, List.mem_append]
    exact .inr (mem_throughFrom (Text.splitOn_ne_nil '/' p))
  rw [htarget, hnil, List.append_nil, hthrough _ hmem] at hkind
  cases hkind

end FileStore

/-! ## What a name asks for -/

namespace ViewFinder

variable {f : ViewFinder} {fs : FileStore} {roots : List Text} {part : Text}

/-- The roots below which a name is looked for, and what is looked for there: the name below the
view roots, or what is behind its first `::` below the roots registered for what is in front of it.
-/
inductive Asks (f : ViewFinder) : Text → List Text → Text → Prop where
  | plain {name : Text} (h : ¬ "::".toList <:+: name) : Asks f name f.roots name
  | hinted {ns rest : Text} (h : ¬ "::".toList <:+: ns ++ [':']) :
      Asks f (ns ++ "::".toList ++ rest) (f.rootsOf ns) rest

theorem exists_asks (f : ViewFinder) (name : Text) : ∃ roots part, f.Asks name roots part := by
  cases hbreak : Text.breakOn? "::".toList name with
  | none => exact ⟨_, _, .plain (Text.breakOn?_eq_none_iff.1 hbreak)⟩
  | some q =>
    obtain ⟨ns, rest⟩ := q
    obtain ⟨rfl, hfirst⟩ := (Text.breakOn?_eq_some_iff (by decide)).1 hbreak
    exact ⟨_, _, .hinted hfirst⟩

theorem Asks.candidates {name : Text} (h : f.Asks name roots part) :
    f.candidates name = f.candidatesIn roots part := by
  cases h with
  | plain h => rw [ViewFinder.candidates, Text.breakOn?_eq_none_iff.2 h]
  | @hinted ns rest h =>
    have hbreak : Text.breakOn? "::".toList (ns ++ "::".toList ++ part) = some (ns, part) :=
      (Text.breakOn?_eq_some_iff (by decide)).2 ⟨rfl, h⟩
    rw [ViewFinder.candidates, hbreak]

/-! ## What a name may mean -/

/-- The path of a name below a root under an ending. -/
def candidate (root part ending : Text) : Text := Path.under root (relative part ++ '.' :: ending)

/-- The first file that a name may mean: none is there under an ending in front, and none below a
root in front. -/
inductive First (f : ViewFinder) (fs : FileStore) (roots : List Text) (part : Text) : Text → Prop
    where
  | found {before after front back : List Text} {root ending : Text}
      (hroots : roots = before ++ root :: after)
      (hendings : f.extensions = front ++ ending :: back)
      (hfile : fs.isFile (candidate root part ending) = true)
      (hbefore : ∀ r ∈ before, ∀ e ∈ f.extensions, fs.isFile (candidate r part e) = false)
      (hfront : ∀ e ∈ front, fs.isFile (candidate root part e) = false) :
      First f fs roots part (candidate root part ending)

theorem not_mem_dot_relative (part : Text) : '.' ∉ relative part := by
  intro h
  obtain ⟨c, -, hc⟩ := List.mem_map.1 h
  split at hc
  · exact absurd hc (by decide)
  next hne => exact hne hc

/-- A name that starts neither with a dot nor with a slash makes no absolute path. -/
theorem isAbsolute_relative (h : ∀ c, (Text.strip part).head? = some c → c ≠ '.' ∧ c ≠ '/')
    (ending : Text) : Path.isAbsolute (relative part ++ '.' :: ending) = false := by
  rw [Path.isAbsolute, decide_eq_false_iff_not, relative]
  cases hs : Text.strip part with
  | nil =>
    intro hhead
    exact absurd (Option.some.inj hhead) (by decide)
  | cons c s =>
    rw [hs] at h
    obtain ⟨hdot, hslash⟩ := h c rfl
    rw [List.map_cons, if_neg hdot]
    exact fun hhead => hslash (Option.some.inj hhead)

/-- A part that starts with no dot or slash is looked up below every root, root after root and
ending after ending. -/
theorem candidatesIn_eq (h : ∀ c, (Text.strip part).head? = some c → c ≠ '.' ∧ c ≠ '/')
    (f : ViewFinder) (roots : List Text) : f.candidatesIn roots part =
      roots.flatMap fun root => f.extensions.map (candidate root part) := by
  unfold candidatesIn
  congr 1
  funext root
  refine List.map_congr_left fun ending _ => ?_
  exact Path.join_eq_under root (isAbsolute_relative h ending)

/-- A search below one root ends at the first ending under which there is a file. -/
theorem find?_endings_eq_some_iff {root p : Text} {endings : List Text} :
    (endings.map (candidate root part)).find? fs.isFile = some p ↔
      ∃ front ending back, endings = front ++ ending :: back ∧ p = candidate root part ending ∧
        fs.isFile p = true ∧ ∀ e ∈ front, fs.isFile (candidate root part e) = false := by
  rw [List.find?_map, Option.map_eq_some_iff]
  constructor
  · rintro ⟨ending, hfind, rfl⟩
    obtain ⟨hfile, front, back, hendings, hfront⟩ := List.find?_eq_some_iff_append.1 hfind
    exact ⟨front, ending, back, hendings, rfl, hfile, fun e he => by simpa using hfront e he⟩
  · rintro ⟨front, ending, back, hendings, rfl, hfile, hfront⟩
    refine ⟨ending, List.find?_eq_some_iff_append.2 ⟨hfile, front, back, hendings, ?_⟩, rfl⟩
    exact fun e he => by simpa using hfront e he

theorem find?_endings_eq_none_iff {root : Text} {endings : List Text} :
    (endings.map (candidate root part)).find? fs.isFile = none ↔
      ∀ ending ∈ endings, fs.isFile (candidate root part ending) = false := by
  simp

/-- Trying the endings below one root after another finds the first file of all. -/
theorem find?_candidates_eq_some_iff {p : Text} :
    (roots.flatMap fun root => f.extensions.map (candidate root part)).find? fs.isFile = some p ↔
      f.First fs roots part p := by
  rw [List.find?_flatMap, List.findSome?_eq_some_iff]
  constructor
  · rintro ⟨before, root, after, hroots, hroot, hbefore⟩
    obtain ⟨front, ending, back, hendings, rfl, hfile, hfront⟩ :=
      find?_endings_eq_some_iff.1 hroot
    exact .found hroots hendings hfile
      (fun r hr => find?_endings_eq_none_iff.1 (hbefore r hr)) hfront
  · rintro ⟨hroots, hendings, hfile, hbefore, hfront⟩
    exact ⟨_, _, _, hroots,
      find?_endings_eq_some_iff.2 ⟨_, _, _, hendings, rfl, hfile, hfront⟩,
      fun r hr => find?_endings_eq_none_iff.2 (hbefore r hr)⟩

theorem find?_candidates_eq_none_iff :
    (roots.flatMap fun root => f.extensions.map (candidate root part)).find? fs.isFile = none ↔
      ∀ root ∈ roots, ∀ ending ∈ f.extensions, fs.isFile (candidate root part ending) = false := by
  rw [List.find?_flatMap, List.findSome?_eq_none_iff]
  simp only [find?_endings_eq_none_iff]

/-! ## What is found -/

/-- **A finder takes the first file that a name may mean**, and nothing if there is none. The name
is no absolute path of a file, and what is looked for starts neither with a dot nor with a slash,
blanks apart. Then the path that is found is one of a name behind a root, and its place is below
that of the root unless the ending leads up again. -/
theorem locate?_first (f : ViewFinder) (fs : FileStore) {name : Text}
    (hname : ¬ (Path.isAbsolute name = true ∧ fs.isFile name = true)) :
    (∃ roots part, f.Asks name roots part) ∧
    ∀ roots part, f.Asks name roots part →
      (∀ c, (Text.strip part).head? = some c → c ≠ '.' ∧ c ≠ '/') →
      (∀ p, f.locate? fs name = some p ↔ f.First fs roots part p) ∧
      (f.locate? fs name = none ↔ ∀ root ∈ roots, ∀ ending ∈ f.extensions,
        fs.isFile (candidate root part ending) = false) ∧
      ∀ p, f.locate? fs name = some p → ∃ root ∈ roots, ∃ ending ∈ f.extensions,
        p = candidate root part ending ∧ (['.', '.'] ∉ Path.parts ('.' :: ending) →
          Path.Beneath fs.workingDirectory root p) := by
  refine ⟨f.exists_asks name, fun roots part hasks hpart => ?_⟩
  have hlocate : f.locate? fs name =
      (roots.flatMap fun root => f.extensions.map (candidate root part)).find? fs.isFile := by
    rw [locate?, if_neg (by rwa [Bool.and_eq_true]), hasks.candidates, candidatesIn_eq hpart]
  rw [hlocate]
  refine ⟨fun p => find?_candidates_eq_some_iff, find?_candidates_eq_none_iff, fun p hfound => ?_⟩
  cases find?_candidates_eq_some_iff.1 hfound with
  | @found before after front back root ending hroots hendings hfile _ _ =>
    refine ⟨root, by simp [hroots], ending, by simp [hendings], rfl, fun hending => ?_⟩
    exact FileStore.beneath_of_isFile (isAbsolute_relative hpart ending)
      (Path.up_not_mem_parts (not_mem_dot_relative part) hending) hfile

/-- A hinted name: the first root has no such file, and the second one has it under both endings. -/
theorem locate?_first_hinted :
    let file : Entry := ⟨.file (.text []), ⟨0, 0⟩⟩
    let directory : Entry := ⟨.directory, ⟨0, 0⟩⟩
    let fs : FileStore :=
      { entries := [(["w".toList], directory), (["w".toList, "m".toList], directory),
          (["w".toList, "m".toList, "a.html".toList], file),
          (["w".toList, "m".toList, "a.x.php".toList], file)]
        workingDirectory := ["w".toList], clock := ⟨0, 0⟩ }
    let f : ViewFinder :=
      { roots := [[]], extensions := ["x.php".toList, "html".toList],
        namespaces := ⟨[("ns".toList, ["v".toList, "m".toList])]⟩ }
    let roots := ["v".toList, "m".toList]
    ¬ (Path.isAbsolute "ns:: a ".toList = true ∧ fs.isFile "ns:: a ".toList = true) ∧
      f.Asks "ns:: a ".toList roots " a ".toList ∧
      f.First fs roots " a ".toList "m/a.x.php".toList ∧
      ∃ root ∈ roots, Path.Beneath fs.workingDirectory root "m/a.x.php".toList := by
  intro file directory fs f roots
  have hname : ¬ (Path.isAbsolute "ns:: a ".toList = true ∧ fs.isFile "ns:: a ".toList = true) := by
    decide
  have hcolons : ¬ "::".toList <:+: "ns".toList ++ [':'] := by decide
  have hasks : f.Asks "ns:: a ".toList roots " a ".toList := .hinted hcolons
  -- the part is trimmed before it is looked up, and starts with a letter
  have hpart : ∀ c, (Text.strip " a ".toList).head? = some c → c ≠ '.' ∧ c ≠ '/' := by
    have hstrip : (Text.strip " a ".toList).head? = some 'a' := by decide
    intro c hc
    obtain rfl := Option.some.inj (hstrip.symm.trans hc)
    decide
  have hendings : ∀ ending ∈ f.extensions, ['.', '.'] ∉ Path.parts ('.' :: ending) := by decide
  have hfound : f.locate? fs "ns:: a ".toList = some "m/a.x.php".toList := by decide +kernel
  obtain ⟨hfirst, -, hbeneath⟩ := (f.locate?_first fs hname).2 roots _ hasks hpart
  obtain ⟨root, hroot, ending, hending, -, hplace⟩ := hbeneath _ hfound
  exact ⟨hname, hasks, (hfirst _).1 hfound, root, hroot, hplace (hendings ending hending)⟩

/-- What the roots have no such file for is found all the same if blanks stand around the name, or
if a leading dot drops the root; and an ending can lead out of the root. -/
theorem locate?_elsewhere :
    let file : Entry := ⟨.file (.text []), ⟨0, 0⟩⟩
    let directory : Entry := ⟨.directory, ⟨0, 0⟩⟩
    let fs : FileStore :=
      { entries := [(["v".toList], directory), (["v".toList, "a.".toList], directory),
          (["v".toList, "a.php".toList], file), (["o".toList], directory),
          (["o".toList, "a.php".toList], file)]
        clock := ⟨0, 0⟩ }
    let f : ViewFinder := { roots := ["v".toList], extensions := ["php".toList], namespaces := {} }
    let up : ViewFinder := { f with extensions := ["/../../o/a.php".toList] }
    (f.Asks " a".toList f.roots " a".toList ∧ f.locate? fs " a".toList = some "v/a.php".toList ∧
      fs.isFile (Path.under "v".toList " a.php".toList) = false) ∧
    (f.Asks ".o.a".toList f.roots ".o.a".toList ∧
      f.locate? fs ".o.a".toList = some "/o/a.php".toList ∧
      fs.isFile (Path.under "v".toList "/o/a.php".toList) = false ∧
      ¬ Path.Beneath fs.workingDirectory "v".toList "/o/a.php".toList) ∧
    up.locate? fs "a".toList = some "v/a./../../o/a.php".toList ∧
      ¬ Path.Beneath fs.workingDirectory "v".toList "v/a./../../o/a.php".toList := by
  intro file directory fs f up
  have hplace : ∀ p, Path.target fs.workingDirectory p = ["o".toList, "a.php".toList] →
      ¬ Path.Beneath fs.workingDirectory "v".toList p := by
    rintro p hp ⟨names, -, hnames⟩
    have hroot : Path.target fs.workingDirectory "v".toList = ["v".toList] := by decide
    rw [hp, hroot] at hnames
    exact absurd (List.cons.inj hnames).1 (by decide)
  exact ⟨⟨.plain (by decide), by decide +kernel, by decide +kernel⟩,
    ⟨.plain (by decide), by decide +kernel, by decide +kernel, hplace _ (by decide +kernel)⟩,
    by decide +kernel, hplace _ (by decide +kernel)⟩

end ViewFinder

end TemplateTrace
