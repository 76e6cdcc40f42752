import TemplateTrace.Code.Line
import TemplateTrace.Proofs.Marker.Leading

/-!
# Code lines by their places

The split of a compiled text hands out code lines and forgets where they stood. Here each of them
has its place: the text behind it. Which pieces of code there are depends on the tags of host code
alone, and the marker of each is the one that governs its place.

- `Snippet`: a piece of code, trimmed, and the text behind it.
- `Snippet.scan`, `Snippet.runAfter`: the pieces of a line, and the code that is open at its end.
- `Snippet.ofLines`, `Snippet.inside`: the pieces of lines, and whether they end inside code.
- `Snippet.all`: the pieces of a compiled text.
- `CodeLine.split_spec`: the code lines of a split are its pieces, each under the marker nearest
  above.
-/

namespace TemplateTrace

instance Except.decEq {ε α : Type} [DecidableEq ε] [DecidableEq α] : DecidableEq (Except ε α)
  | .ok a, .ok b => decidable_of_iff (a = b) ⟨congrArg _, Except.ok.inj⟩
  | .error e, .error f => decidable_of_iff (e = f) ⟨congrArg _, Except.error.inj⟩
  | .ok _, .error _ => isFalse nofun
  | .error _, .ok _ => isFalse nofun

/-- A piece of code in a compiled text, trimmed, and the text behind it. -/
structure Snippet where
  code : Text
  /-- Whether the closing tag ended the piece. -/
  closed : Bool
  behind : Text
  deriving DecidableEq, Repr

namespace Snippet

/-- The piece as a code line has it. -/
def text (p : Snippet) : Text := p.code ++ if p.closed then [';'] else []

/-- The blanks at the end of a text. -/
def trailing (s : Text) : Text := (s.reverse.takeWhile Text.isBlank).reverse

/-- The piece that a run of code is, unless it is blank. -/
def cut (run : Text) (closed : Bool) (rest : Text) : List Snippet :=
  if Text.strip run = [] then []
  else [⟨Text.strip run, closed, trailing (Text.stripStart run) ++ rest⟩]

/-- The run of code that is open at the start of a line. -/
def start (inside : Bool) : Option Text := if inside then some [] else none

/-- The pieces in the rest of a line. The run is the code read so far, unless there is markup; the
text below the line stands behind all pieces. -/
def scan (run : Option Text) (tail below : Text) : List Snippet :=
  match run with
  | some run =>
    match h : Text.breakOn? codeClose tail with
    | none => cut (run ++ tail) false below
    | some (code, rest) =>
      have : rest.length < tail.length := by simp [Text.breakOn?_eq_some h, codeClose]; omega
      cut (run ++ code) true (codeClose ++ rest ++ below) ++ scan none rest below
  | none =>
    match h : Text.breakOn? codeOpen tail with
    | none => []
    | some (_, rest) =>
      have : rest.length < tail.length := by simp [Text.breakOn?_eq_some h, codeOpen]; omega
      scan (some []) rest below
termination_by tail.length

/-- The run of code that is open behind the rest of a line. -/
def runAfter (run : Option Text) (tail : Text) : Option Text :=
  match run with
  | some run =>
    match h : Text.breakOn? codeClose tail with
    | none => some (run ++ tail)
    | some (_, rest) =>
      have : rest.length < tail.length := by simp [Text.breakOn?_eq_some h, codeClose]; omega
      runAfter none rest
  | none =>
    match h : Text.breakOn? codeOpen tail with
    | none => none
    | some (_, rest) =>
      have : rest.length < tail.length := by simp [Text.breakOn?_eq_some h, codeOpen]; omega
      runAfter (some []) rest
termination_by tail.length

/-- Whether code is open behind lines. -/
def insideAfter (inside : Bool) : List Text → Bool
  | [] => inside
  | line :: lines => insideAfter (runAfter (start inside) (Marker.bare line)).isSome lines

/-- The pieces of lines. -/
def ofLines (inside : Bool) : List Text → List Snippet
  | [] => []
  | line :: lines =>
    scan (start inside) (Marker.bare line) (Text.below lines) ++
      ofLines (runAfter (start inside) (Marker.bare line)).isSome lines

/-- Whether code is open at the end of a compiled text. -/
def inside (s : Text) : Bool := insideAfter false (Text.lines s)

/-- The pieces of a compiled text. -/
def all (s : Text) : List Snippet := ofLines false (Text.lines s)

/-! ## One tag more -/

@[simp] theorem start_true : start true = some [] := rfl

@[simp] theorem start_false : start false = none := rfl

theorem scan_code_eq_cut {tail : Text} (h : Text.breakOn? codeClose tail = none)
    (run below : Text) : scan (some run) tail below = cut (run ++ tail) false below := by
  rw [scan]
  split
  · rfl
  next h' => rw [h] at h'; cases h'

/-- A tag that closes code ends a piece, and markup follows. -/
theorem scan_code_eq_append {tail code rest : Text}
    (h : Text.breakOn? codeClose tail = some (code, rest)) (run below : Text) :
    scan (some run) tail below =
      cut (run ++ code) true (codeClose ++ rest ++ below) ++ scan none rest below := by
  conv => lhs; rw [scan]
  split
  next h' => rw [h] at h'; cases h'
  next h' =>
    rw [h] at h'
    obtain ⟨rfl, rfl⟩ := by simpa using h'
    rfl

theorem scan_markup_eq_nil {tail : Text} (h : Text.breakOn? codeOpen tail = none)
    (below : Text) : scan none tail below = [] := by
  rw [scan]
  split
  · rfl
  next h' => rw [h] at h'; cases h'

/-- A tag that opens code ends markup, of which nothing is kept. -/
theorem scan_markup_eq_scan {tail skipped rest : Text}
    (h : Text.breakOn? codeOpen tail = some (skipped, rest)) (below : Text) :
    scan none tail below = scan (some []) rest below := by
  conv => lhs; rw [scan]
  split
  next h' => rw [h] at h'; cases h'
  next h' =>
    rw [h] at h'
    obtain ⟨rfl, rfl⟩ := by simpa using h'
    rfl

theorem runAfter_code_eq_some {tail : Text} (h : Text.breakOn? codeClose tail = none)
    (run : Text) : runAfter (some run) tail = some (run ++ tail) := by
  rw [runAfter]
  split
  · rfl
  next h' => rw [h] at h'; cases h'

/-- Behind a tag that closes code a line goes on in markup. -/
theorem runAfter_code_eq_markup {tail code rest : Text}
    (h : Text.breakOn? codeClose tail = some (code, rest)) (run : Text) :
    runAfter (some run) tail = runAfter none rest := by
  conv => lhs; rw [runAfter]
  split
  next h' => rw [h] at h'; cases h'
  next h' =>
    rw [h] at h'
    obtain ⟨-, rfl⟩ := by simpa using h'
    rfl

theorem runAfter_markup_eq_none {tail : Text} (h : Text.breakOn? codeOpen tail = none) :
    runAfter none tail = none := by
  conv => lhs; rw [runAfter]
  split
  · rfl
  next h' => rw [h] at h'; cases h'

/-- Behind a tag that opens code a line goes on in code. -/
theorem runAfter_markup_eq_code {tail skipped rest : Text}
    (h : Text.breakOn? codeOpen tail = some (skipped, rest)) :
    runAfter none tail = runAfter (some []) rest := by
  conv => lhs; rw [runAfter]
  split
  next h' => rw [h] at h'; cases h'
  next h' =>
    rw [h] at h'
    obtain ⟨-, rfl⟩ := by simpa using h'
    rfl

/-! ## The places of the pieces -/

/-- Blanks are taken off the end of the last part that has anything else. -/
theorem trimEnd_append {b : Text} (h : Text.trimEnd Text.isBlank b ≠ []) (a : Text) :
    Text.trimEnd Text.isBlank (a ++ b) = a ++ Text.trimEnd Text.isBlank b := by
  have hne : (b.reverse.dropWhile Text.isBlank).isEmpty = false := by
    rw [Text.trimEnd, Ne, List.reverse_eq_nil_iff] at h
    rw [List.isEmpty_eq_false_iff]
    exact h
  rw [Text.trimEnd, Text.trimEnd, List.reverse_append, List.dropWhile_append, hne,
    if_neg Bool.false_ne_true, List.reverse_append, List.reverse_reverse]

theorem trimEnd_append_trailing (s : Text) : Text.trimEnd Text.isBlank s ++ trailing s = s := by
  rw [Text.trimEnd, trailing, ← List.reverse_append, List.takeWhile_append_dropWhile,
    List.reverse_reverse]

/-- A piece is a part of its run, and the text behind it follows in the run and behind it. -/
theorem mem_cut {run rest : Text} {closed : Bool} {p : Snippet} (h : p ∈ cut run closed rest) :
    p.closed = closed ∧ p.code ≠ [] ∧
      ∃ u v, run = u ++ p.code ++ v ∧ p.behind = v ++ rest := by
  unfold cut at h
  split at h
  · cases h
  next hne =>
    obtain rfl := List.mem_singleton.1 h
    refine ⟨rfl, hne, run.takeWhile Text.isBlank, trailing (Text.stripStart run), ?_, rfl⟩
    show run = _ ++ Text.trimEnd Text.isBlank (Text.stripStart run) ++ _
    rw [List.append_assoc, trimEnd_append_trailing, List.takeWhile_append_dropWhile]

/-- The pieces of a line lie in the open run and the rest of the line. -/
theorem mem_scan {run : Option Text} {tail below : Text} {p : Snippet}
    (h : p ∈ scan run tail below) :
    p.code ≠ [] ∧ ∃ u v, run.getD [] ++ tail = u ++ p.code ++ v ∧ p.behind = v ++ below := by
  fun_induction scan run tail below with
  | case1 tail run hnone =>
    exact (mem_cut h).2
  | case2 tail run code rest hbreak _ ih =>
    have htail : tail = code ++ codeClose ++ rest := Text.breakOn?_eq_some hbreak
    rcases List.mem_append.1 h with h | h
    · obtain ⟨-, hne, u, v, hrun, hbehind⟩ := mem_cut h
      refine ⟨hne, u, v ++ codeClose ++ rest, ?_, by simp [hbehind]⟩
      show run ++ tail = _
      rw [htail, ← List.append_assoc, ← List.append_assoc, hrun]
      simp
    · obtain ⟨hne, u, v, hrest, hbehind⟩ := ih h
      refine ⟨hne, run ++ code ++ codeClose ++ u, v, ?_, hbehind⟩
      have hrest : rest = u ++ p.code ++ v := hrest
      show run ++ tail = _
      rw [htail, hrest]
      simp
  | case3 => cases h
  | case4 tail skipped rest hbreak _ ih =>
    have htail : tail = skipped ++ codeOpen ++ rest := Text.breakOn?_eq_some hbreak
    obtain ⟨hne, u, v, hrest, hbehind⟩ := ih h
    refine ⟨hne, skipped ++ codeOpen ++ u, v, ?_, hbehind⟩
    have hrest : rest = u ++ p.code ++ v := hrest
    show tail = _
    rw [htail, hrest]
    simp

theorem insideAfter_append (inside : Bool) (a b : List Text) :
    insideAfter inside (a ++ b) = insideAfter (insideAfter inside a) b := by
  induction a generalizing inside with
  | nil => rfl
  | cons line a ih => exact ih _

theorem getD_start (inside : Bool) : (start inside).getD [] = [] := by
  cases inside <;> rfl

/-- Each piece belongs to one line. -/
theorem mem_ofLines {inside : Bool} {lines : List Text} {p : Snippet}
    (h : p ∈ ofLines inside lines) :
    ∃ before line behind, lines = before ++ line :: behind ∧
      p ∈ scan (start (insideAfter inside before)) (Marker.bare line) (Text.below behind) := by
  induction lines generalizing inside with
  | nil => cases h
  | cons line lines ih =>
    rcases List.mem_append.1 h with h | h
    · exact ⟨[], line, lines, rfl, h⟩
    · obtain ⟨before, l, behind, rfl, hp⟩ := ih h
      exact ⟨line :: before, l, behind, rfl, hp⟩

/-- Within a piece the governing marker is the one of its line, and else the nearest above. -/
theorem lastMarker?_of_mem_scan {s line : Text} {before behind : List Text} {inside : Bool}
    (hs : Text.lines s = before ++ line :: behind) {p : Snippet}
    (hp : p ∈ scan (start inside) (Marker.bare line) (Text.below behind)) :
    ∃ front, s = front ++ (p.code ++ p.behind) ∧
      ∀ k, k <+: p.code → lastMarker? (front ++ k) = Marker.lastOf (before ++ [line]) := by
  obtain ⟨-, u, v, hbare, hbehind⟩ := mem_scan hp
  rw [getD_start] at hbare
  have hbare : Marker.bare line = u ++ p.code ++ v := hbare
  obtain ⟨comment, hline, hdecode⟩ := Marker.exists_comment line
  have hfree : ∀ l ∈ before ++ line :: behind, '\n' ∉ l := fun l hl =>
    Text.not_mem_of_mem_splitOn (hs ▸ hl)
  -- in front of the piece stand the lines above, the comment of its line, and the code up to it
  refine ⟨Text.above before ++ (comment ++ u), ?_, ?_⟩
  · rw [Text.eq_above_append hs, hline, hbare, hbehind]
    simp
  · rintro k ⟨k', hk⟩
    have hk : comment ++ (u ++ k) ++ (k' ++ v) = line := by
      conv => rhs; rw [hline, hbare, ← hk]
      simp
    have hbreak : '\n' ∉ comment ++ (u ++ k) := fun hmem =>
      hfree line (by simp) (hk ▸ List.mem_append_left _ hmem)
    have hpre : u ++ k <+: Marker.bare line := by
      refine ⟨k' ++ v, ?_⟩
      rw [hbare, ← ‹k ++ k' = p.code›]
      simp
    rw [List.append_assoc, List.append_assoc, Marker.lastMarker?_eq,
      Text.lines_above_append fun l hl => hfree l (List.mem_append_left _ hl), Text.lines,
      Text.splitOn_of_not_mem hbreak, Marker.lastOf_append, Marker.lastOf_append,
      Marker.lastOf_singleton, Marker.lastOf_singleton, hdecode _ hpre]

/-- A piece of a compiled text stands in it, and the marker that governs the text in front of it
governs all of it. -/
theorem exists_front {s : Text} {p : Snippet} (hp : p ∈ all s) :
    ∃ front, s = front ++ (p.code ++ p.behind) ∧
      ∀ k, k <+: p.code → lastMarker? (front ++ k) = lastMarker? front := by
  obtain ⟨before, line, behind, hs, hp⟩ := mem_ofLines hp
  obtain ⟨front, hfront, hmarker⟩ := lastMarker?_of_mem_scan hs hp
  refine ⟨front, hfront, fun k hk => ?_⟩
  have hempty := hmarker [] List.nil_prefix
  rw [List.append_nil] at hempty
  rw [hmarker k hk, hempty]

end Snippet

/-! ## The split -/

/-- A code line with the marker that has to govern its place. -/
def CodeLine.placed (c : CodeLine) : Option Marker × Text := (some c.marker, c.code)

namespace Splitter

/-- Inside code there is always a marker. -/
def Marked (st : Splitter) : Prop := st.insideCode = true → st.current.isSome = true

theorem Marked.outside {st : Splitter} (hst : st.Marked) (hcur : st.current = none) :
    st.insideCode = false := by
  cases hin : st.insideCode with
  | false => rfl
  | true =>
    have hsome := hst hin
    rw [hcur] at hsome
    cases hsome

/-- What the splitter keeps of a run are the pieces of the run under the marker. -/
theorem keep_eq (st : Splitter) (m : Marker) (run : Text) (closed : Bool) (rest : Text) :
    st.keep m run (if closed then [';'] else []) =
      { st with lines := st.lines ++ (Snippet.cut run closed rest).map fun p => ⟨m, p.text⟩ } := by
  unfold keep Snippet.cut
  split
  · show st = { st with lines := st.lines ++ [] }
    rw [List.append_nil]
  · rfl

/-- Walking over a line with a marker never fails. -/
theorem walk_eq (fault : MapError) (st : Splitter) (tail below : Text) {m : Marker}
    (hm : st.current = some m) :
    walk fault st tail = .ok
      { insideCode := (Snippet.runAfter (Snippet.start st.insideCode) tail).isSome
        current := some m
        lines := st.lines ++ (Snippet.scan (Snippet.start st.insideCode) tail below).map
          fun p => ⟨m, p.text⟩ } := by
  -- the cases follow the reader: inside code or in markup, and whether the next tag is there
  fun_induction walk fault st tail with
  | case1 st hin =>
    have hnone : Text.breakOn? codeClose [] = none := by decide
    rw [hin, Snippet.start_true, Snippet.scan_code_eq_cut hnone,
      Snippet.runAfter_code_eq_some hnone, ← hm]
    show Except.ok st = Except.ok ⟨true, st.current, st.lines ++ []⟩
    rw [← hin, List.append_nil]
  | case2 st tail hin hne hcur =>
    rw [hm] at hcur
    cases hcur
  | case3 st tail hin hne m' hcur hbreak =>
    obtain rfl : m = m' := Option.some.inj (hm.symm.trans hcur)
    have hkeep := keep_eq st m tail false below
    rw [show (if false = true then [';'] else []) = ([] : Text) from rfl] at hkeep
    rw [hkeep, hin, Snippet.start_true, Snippet.scan_code_eq_cut hbreak,
      Snippet.runAfter_code_eq_some hbreak, ← hm]
    rfl
  | case4 st tail hin hne m' hcur code rest hbreak hlt ih =>
    obtain rfl : m = m' := Option.some.inj (hm.symm.trans hcur)
    have hkeep := keep_eq st m code true (codeClose ++ rest ++ below)
    rw [show (if true = true then [';'] else []) = [';'] from rfl] at hkeep
    rw [hkeep] at ih ⊢
    rw [ih hm, hin, Snippet.start_true, Snippet.scan_code_eq_append hbreak,
      Snippet.runAfter_code_eq_markup hbreak, List.nil_append, List.map_append,
      ← List.append_assoc]
    rfl
  | case5 st tail hin hbreak =>
    rw [hin, Snippet.start_false, Snippet.scan_markup_eq_nil hbreak,
      Snippet.runAfter_markup_eq_none hbreak, ← hm]
    show Except.ok st = Except.ok ⟨false, st.current, st.lines ++ []⟩
    rw [← hin, List.append_nil]
  | case6 st tail hin skipped rest hbreak hlt hcur =>
    rw [hm] at hcur
    cases hcur
  | case7 st tail hin skipped rest hbreak hlt m' hcur ih =>
    rw [ih hm, hin, Snippet.start_false, Snippet.scan_markup_eq_scan hbreak,
      Snippet.runAfter_markup_eq_code hbreak]
    rfl

/-- The marker that governs a line: its own, or else the one nearest above. -/
def lead (st : Splitter) (line : Text) : Option Marker :=
  ((Marker.decode? line).map (·.1)).or st.current

/-- A line that is fed behind a marker adds the pieces of the line, each at the position of the
marker. -/
theorem feed_eq (st : Splitter) (index : Nat) (line below : Text) {m : Marker}
    (hm : st.lead line = some m) :
    st.feed index line = .ok
      { insideCode := (Snippet.runAfter (Snippet.start st.insideCode) (Marker.bare line)).isSome
        current := some m
        lines := st.lines ++
          (Snippet.scan (Snippet.start st.insideCode) (Marker.bare line) below).map
            fun p => ⟨m, p.text⟩ } := by
  unfold feed Marker.bare
  unfold lead at hm
  cases hd : Marker.decode? line with
  | none =>
    rw [hd] at hm
    exact walk_eq _ st line below hm
  | some p =>
    obtain ⟨m', rest⟩ := p
    rw [hd] at hm
    obtain rfl : m' = m := Option.some.inj hm
    exact walk_eq _ { st with current := some m' } rest below rfl

theorem lead_eq_none_iff {st : Splitter} {line : Text} :
    st.lead line = none ↔ Marker.decode? line = none ∧ st.current = none := by
  rw [lead, Option.or_eq_none_iff, Option.map_eq_none_iff]

/-- Without a marker only markup is taken in. -/
theorem feed_eq_ok_iff {st st' : Splitter} {index : Nat} {line : Text} (hst : st.Marked)
    (hlead : st.lead line = none) :
    st.feed index line = .ok st' ↔
      st' = st ∧ st.insideCode = false ∧ Text.breakOn? codeOpen (Marker.bare line) = none := by
  obtain ⟨hd, hcur⟩ := lead_eq_none_iff.1 hlead
  have hin := hst.outside hcur
  unfold feed Marker.bare
  rw [hd]
  dsimp only
  rw [walk, hin]
  dsimp only
  split
  next hbreak => exact ⟨fun h => ⟨(Except.ok.inj h).symm, rfl, hbreak⟩, fun h => by rw [h.1]⟩
  next hbreak =>
    rw [hcur]
    constructor
    · intro h
      cases h
    · rintro ⟨-, -, hnone⟩
      rw [hbreak] at hnone
      cases hnone

/-- What one line adds: its pieces, each under the marker that governs the line. -/
theorem feed_spec {st st' : Splitter} {index : Nat} {line : Text} (hst : st.Marked)
    (h : st.feed index line = .ok st') (below : Text) :
    st'.insideCode =
        (Snippet.runAfter (Snippet.start st.insideCode) (Marker.bare line)).isSome ∧
      st'.current = st.lead line ∧ st'.Marked ∧
      st'.lines.map CodeLine.placed = st.lines.map CodeLine.placed ++
        (Snippet.scan (Snippet.start st.insideCode) (Marker.bare line) below).map
          fun p => (st.lead line, p.text) := by
  cases hlead : st.lead line with
  | none =>
    obtain ⟨rfl, hin, hbreak⟩ := (feed_eq_ok_iff hst hlead).1 h
    rw [hin, Snippet.start_false, Snippet.runAfter_markup_eq_none hbreak,
      Snippet.scan_markup_eq_nil hbreak]
    exact ⟨rfl, (lead_eq_none_iff.1 hlead).2, hst, (List.append_nil _).symm⟩
  | some m =>
    rw [feed_eq st index line below hlead] at h
    obtain rfl := Except.ok.inj h
    refine ⟨rfl, rfl, fun _ => rfl, ?_⟩
    rw [List.map_append, List.map_map]
    rfl

/-- A run over lines is a run over the first one and a run over the others. -/
theorem feedAll_cons_eq_ok_iff {st st' : Splitter} {index : Nat} {line : Text}
    {lines : List Text} :
    st.feedAll index (line :: lines) = .ok st' ↔
      ∃ mid, st.feed index line = .ok mid ∧ mid.feedAll (index + 1) lines = .ok st' := by
  rw [feedAll]
  cases st.feed index line with
  | error e =>
    constructor
    · intro h
      cases h
    · rintro ⟨mid, h, -⟩
      cases h
  | ok mid =>
    constructor
    · exact fun h => ⟨mid, rfl, h⟩
    · rintro ⟨mid', h, h'⟩
      rwa [← Except.ok.inj h] at h'

/-- Lines are fed one after another, so that any of them can be fed first. -/
theorem feedAll_append (st : Splitter) (index : Nat) (a b : List Text) :
    st.feedAll index (a ++ b) =
      (st.feedAll index a).bind fun st' => st'.feedAll (index + a.length) b := by
  induction a generalizing st index with
  | nil => rfl
  | cons line a ih =>
    show (st.feed index line).bind (fun st' => st'.feedAll (index + 1) (a ++ b)) =
      ((st.feed index line).bind fun st' => st'.feedAll (index + 1) a).bind _
    cases st.feed index line with
    | error e => rfl
    | ok st' =>
      show st'.feedAll (index + 1) (a ++ b) = _
      rw [ih, List.length_cons, Nat.add_right_comm, Nat.add_assoc]
      rfl

/-- Once there is a marker, no line fails. -/
theorem exists_feedAll {st : Splitter} (h : st.current.isSome = true) (index : Nat)
    (lines : List Text) : ∃ st', st.feedAll index lines = .ok st' := by
  induction lines generalizing st index with
  | nil => exact ⟨st, rfl⟩
  | cons line lines ih =>
    obtain ⟨m, hm⟩ : ∃ m, st.lead line = some m := by
      unfold lead
      cases hd : Marker.decode? line with
      | none => exact Option.isSome_iff_exists.1 h
      | some p => exact ⟨p.1, rfl⟩
    obtain ⟨mid, hfeed, hcur⟩ : ∃ mid, st.feed index line = .ok mid ∧ mid.current = some m :=
      ⟨_, feed_eq st index line [] hm, rfl⟩
    obtain ⟨st', hst'⟩ := ih (by rw [hcur]; rfl) (index + 1)
    exact ⟨st', feedAll_cons_eq_ok_iff.2 ⟨mid, hfeed, hst'⟩⟩

/-- The state behind lines. -/
theorem feedAll_state {st st' : Splitter} {index : Nat} {lines : List Text} (hst : st.Marked)
    (h : st.feedAll index lines = .ok st') :
    st'.insideCode = Snippet.insideAfter st.insideCode lines ∧
      st'.current = (Marker.lastOf lines).or st.current ∧ st'.Marked := by
  induction lines generalizing st index with
  | nil =>
    obtain rfl := Except.ok.inj h
    exact ⟨rfl, rfl, hst⟩
  | cons line lines ih =>
    obtain ⟨mid, hfeed, hrest⟩ := feedAll_cons_eq_ok_iff.1 h
    obtain ⟨hin, hlead, hmid, -⟩ := feed_spec hst hfeed []
    obtain ⟨hin', hcur', hst'⟩ := ih hmid hrest
    refine ⟨by rw [hin', hin]; rfl, ?_, hst'⟩
    rw [hcur', hlead, lead, Marker.lastOf_cons, Option.or_assoc]

/-- What lines add to a state behind the lines `before`, in the text that all of them are: their
pieces, each under the marker that governs its place. -/
theorem feedAll_lines {s : Text} {before lines : List Text} (hs : Text.lines s = before ++ lines)
    {st st' : Splitter} {index : Nat} (hst : st.Marked)
    (hcur : st.current = Marker.lastOf before) (h : st.feedAll index lines = .ok st') :
    st'.lines.map CodeLine.placed = st.lines.map CodeLine.placed ++
      (Snippet.ofLines st.insideCode lines).map
        fun p => (lastMarker? (Text.upTo s (p.code ++ p.behind)), p.text) := by
  induction lines generalizing before st index with
  | nil =>
    obtain rfl := Except.ok.inj h
    exact (List.append_nil _).symm
  | cons line lines ih =>
    obtain ⟨mid, hfeed, hrest⟩ := feedAll_cons_eq_ok_iff.1 h
    obtain ⟨hin, hlead, hmid, hadd⟩ := feed_spec hst hfeed (Text.below lines)
    have hlast : st.lead line = Marker.lastOf (before ++ [line]) := by
      rw [lead, hcur, Marker.lastOf_append, Marker.lastOf_singleton]
    -- the line goes from behind the state to in front of it
    have hs' : Text.lines s = (before ++ [line]) ++ lines := by rw [hs, List.append_assoc]; rfl
    rw [ih hs' hmid (hlead.trans hlast) hrest, hadd, Snippet.ofLines, List.map_append,
      List.append_assoc, hin]
    -- the marker that leads the line governs the place of each of its pieces
    congr 2
    refine List.map_congr_left fun p hp => ?_
    obtain ⟨front, hfront, hmarker⟩ := Snippet.lastMarker?_of_mem_scan hs hp
    have hempty := hmarker [] List.nil_prefix
    rw [hlast, ← hempty, List.append_nil]
    conv => rhs; rw [hfront, Text.upTo_append]

theorem marked_init : ({} : Splitter).Marked := fun hin => by cases hin

end Splitter

theorem CodeLine.split_eq_ok_iff {s : Text} {lines : List CodeLine} :
    CodeLine.split s = .ok lines ↔
      ∃ st, ({} : Splitter).feedAll 0 (Text.lines s) = .ok st ∧ st.lines = lines := by
  unfold CodeLine.split
  cases ({} : Splitter).feedAll 0 (Text.lines s) with
  | error e => simp [Except.map]
  | ok st => simp [Except.map]

/-- **The code lines of a split are the pieces of the text**, in order, each under the marker that
governs its place. -/
theorem CodeLine.split_spec {s : Text} {lines : List CodeLine} (h : CodeLine.split s = .ok lines) :
    lines.map CodeLine.placed = (Snippet.all s).map
      fun p => (lastMarker? (Text.upTo s (p.code ++ p.behind)), p.text) := by
  obtain ⟨st, hst, rfl⟩ := CodeLine.split_eq_ok_iff.1 h
  have hs : Text.lines s = [] ++ Text.lines s := rfl
  exact Splitter.feedAll_lines hs Splitter.marked_init rfl hst

/-- The code line with index `k` is the piece with that index. -/
theorem CodeLine.exists_snippet {s : Text} {lines : List CodeLine}
    (h : CodeLine.split s = .ok lines) {k : Nat} (hk : k < lines.length) :
    ∃ p, (Snippet.all s)[k]? = some p ∧ p.text = lines[k].code ∧
      lastMarker? (Text.upTo s (p.code ++ p.behind)) = some lines[k].marker := by
  have hget := congrArg (·[k]?) (split_spec h)
  simp only [List.getElem?_map, List.getElem?_eq_getElem hk, Option.map_some] at hget
  obtain ⟨p, hp, heq⟩ := Option.map_eq_some_iff.1 hget.symm
  obtain ⟨hmarker, hcode⟩ := Prod.mk.inj heq
  exact ⟨p, hp, hcode, hmarker⟩

/-- The code lines and the pieces that are paired up have the same place. -/
theorem CodeLine.placed_of_mem_zip {pieces : List Snippet} {lines : List CodeLine}
    {place : Snippet → Option Marker × Text} (h : lines.map CodeLine.placed = pieces.map place)
    {p : Snippet} {c : CodeLine} (hmem : (p, c) ∈ pieces.zip lines) : c.placed = place p := by
  obtain ⟨k, hk⟩ := List.mem_iff_getElem?.1 hmem
  obtain ⟨hp, hc⟩ := List.getElem?_zip_eq_some.1 hk
  have hget := congrArg (·[k]?) h
  simp only [List.getElem?_map, hp, hc, Option.map_some, Option.some.injEq] at hget
  exact hget

/-- Every piece is paired up with a code line. -/
theorem CodeLine.exists_mem_zip_of_map {pieces : List Snippet} {lines : List CodeLine}
    {place : Snippet → Option Marker × Text} (h : lines.map CodeLine.placed = pieces.map place)
    {p : Snippet} (hp : p ∈ pieces) : ∃ c, (p, c) ∈ pieces.zip lines := by
  obtain ⟨k, hk⟩ := List.mem_iff_getElem?.1 hp
  have hget := congrArg (·[k]?) h
  simp only [List.getElem?_map, hk, Option.map_some] at hget
  obtain ⟨c, hc, -⟩ := Option.map_eq_some_iff.1 hget
  exact ⟨c, List.mem_iff_getElem?.2 ⟨k, List.getElem?_zip_eq_some.2 ⟨hk, hc⟩⟩⟩

/-- A piece and the code line that it is have one text and one marker. -/
theorem CodeLine.spec_of_mem_zip {s : Text} {lines : List CodeLine}
    (h : CodeLine.split s = .ok lines) {p : Snippet} {c : CodeLine}
    (hmem : (p, c) ∈ (Snippet.all s).zip lines) :
    c.code = p.text ∧ some c.marker = lastMarker? (Text.upTo s (p.code ++ p.behind)) := by
  have hplaced := placed_of_mem_zip (split_spec h) hmem
  exact ⟨congrArg Prod.snd hplaced, congrArg Prod.fst hplaced⟩

theorem CodeLine.exists_mem_zip {s : Text} {lines : List CodeLine}
    (h : CodeLine.split s = .ok lines) {p : Snippet} (hp : p ∈ Snippet.all s) :
    ∃ c, (p, c) ∈ (Snippet.all s).zip lines := exists_mem_zip_of_map (split_spec h) hp

end TemplateTrace
