import TemplateTrace.Proofs.Code.Snippet

/-!
# Regions of host code

What the split of a compiled text is, said without a walk over its lines: take the marker in front
of every line away, find the stretches of code by one scan of the whole text from tag to tag, and
cut each of them at the line feeds. The line-by-line machine agrees with this, because no tag has a
line feed in it, so that the scan can be stopped at the end of a line and resumed on the next one.

- `Region`, `Region.scan`: the code between two tags, and the regions of a text from left to right.
- `Region.Piece`, `Region.pieces`: what of a region is on one line.
- `Region.bareText`, `Region.markerAt`: a text without its leading markers, and the marker on or
  above a row.
- `Region.kept_continue`: the whole-text scan, one line at a time.
- `CodeLine.split_iff_regions`: when a split succeeds and with which code lines, and when it fails
  and where.
-/

namespace TemplateTrace

/-- A part without line feeds occurs in front of a line feed, or else behind it. -/
theorem Text.breakOn?_append_newline {p : Text} (hne : p ≠ []) (hp : '\n' ∉ p) (a b : Text) :
    Text.breakOn? p (a ++ '\n' :: b) =
      ((Text.breakOn? p a).map fun q => (q.1, q.2 ++ '\n' :: b)).or
        ((Text.breakOn? p b).map fun q => (a ++ '\n' :: q.1, q.2)) := by
  cases ha : Text.breakOn? p a with
  | some q => exact Text.breakOn?_append ha ('\n' :: b)
  | none =>
    show _ = (Text.breakOn? p b).map _
    -- an occurrence that starts in front of the line feed would run across it
    have hstart : ∀ s : Text, Text.after? p s = none → Text.after? p (s ++ '\n' :: b) = none := by
      intro s hs
      rw [Option.eq_none_iff_forall_ne_some] at hs ⊢
      intro r hr
      rcases List.append_eq_append_iff.1 (Text.after?_eq_some_iff.1 hr) with
        ⟨u, rfl, hu⟩ | ⟨u, hu, -⟩
      · cases u with
        | nil => exact hs [] (Text.after?_eq_some_iff.2 (by simp))
        | cons c u =>
          obtain ⟨rfl, -⟩ := by simpa using hu
          exact hp (by simp)
      · exact hs u (Text.after?_eq_some_iff.2 hu)
    induction a with
    | nil =>
      have hempty : Text.after? p [] = none := by
        cases p with
        | nil => exact absurd rfl hne
        | cons c p => rfl
      have hline : Text.after? p ('\n' :: b) = none := hstart [] hempty
      rw [List.nil_append, Text.breakOn?, hline]
      rfl
    | cons c a ih =>
      rw [Text.breakOn?] at ha
      split at ha
      · cases ha
      next hnone =>
        rw [List.cons_append, Text.breakOn?, ← List.cons_append, hstart _ hnone,
          ih (Option.map_eq_none_iff.1 ha), Option.map_map]
        rfl

/-- A region of host code: the row on which it opens, its text between the tags, and whether there
is a closing tag. -/
structure Region where
  row : Nat
  code : Text
  closed : Bool
  deriving DecidableEq, Repr

namespace Region

/-- What follows the first region of a text is shorter than the text. -/
theorem length_behind_lt {s markup inside code rest : Text}
    (h : Text.breakOn? codeOpen s = some (markup, inside))
    (h' : Text.breakOn? codeClose inside = some (code, rest)) : rest.length < s.length := by
  simp [Text.breakOn?_eq_some h, Text.breakOn?_eq_some h', codeOpen, codeClose]
  omega

/-- The regions of a text whose first line has the given row: from an opening tag to the next
closing tag, and on behind it. -/
def scan (row : Nat) (s : Text) : List Region :=
  match h : Text.breakOn? codeOpen s with
  | none => []
  | some (markup, inside) =>
    match h' : Text.breakOn? codeClose inside with
    | none => [⟨row + markup.count '\n', inside, false⟩]
    | some (code, rest) =>
      have := length_behind_lt h h'
      ⟨row + markup.count '\n', code, true⟩ ::
        scan (row + markup.count '\n' + code.count '\n') rest
termination_by s.length

/-- What of a region is on one line. -/
structure Piece where
  row : Nat
  code : Text
  /-- Whether the closing tag ends the piece. -/
  ended : Bool
  deriving DecidableEq, Repr

/-- The piece as a code line has it. -/
def Piece.text (p : Piece) : Text := Text.strip p.code ++ if p.ended then [';'] else []

/-- Lines as pieces, of which the last one may be ended. -/
def piecesOf (row : Nat) (closed : Bool) : List Text → List Piece
  | [] => []
  | [line] => [⟨row, line, closed⟩]
  | line :: lines => ⟨row, line, false⟩ :: piecesOf (row + 1) closed lines

/-- The pieces of a region, line by line. -/
def pieces (r : Region) : List Piece := piecesOf r.row r.closed (Text.lines r.code)

/-- A text without the markers that lead its lines. -/
def bareText (s : Text) : Text := Text.joinWith ['\n'] ((Text.lines s).map Marker.bare)

/-- The regions of a compiled text. -/
def all (s : Text) : List Region := scan 0 (bareText s)

/-- The marker that leads a row, or else the nearest row above that is led by one. -/
def markerAt (s : Text) (row : Nat) : Option Marker :=
  Marker.lastOf ((Text.lines s).take (row + 1))

/-- The pieces that are not blank, by row and text. -/
def kept (ps : List Piece) : List (Nat × Text) :=
  (ps.filter (Text.strip ·.code ≠ [])).map fun p => (p.row, p.text)

/-- Whether a region opens on a row with no marker on or above it. -/
def OpensUnmarked (s : Text) (row : Nat) : Prop :=
  (∃ r ∈ all s, r.row = row) ∧ markerAt s row = none

/-! ## One tag at a time -/

theorem scan_eq_nil {s : Text} (h : Text.breakOn? codeOpen s = none) (row : Nat) :
    scan row s = [] := by
  rw [scan]
  split
  · rfl
  next h' =>
    rw [h] at h'
    cases h'

/-- A last region that no tag closes takes the rest of the text. -/
theorem scan_eq_open {s markup inside : Text}
    (h : Text.breakOn? codeOpen s = some (markup, inside))
    (h' : Text.breakOn? codeClose inside = none) (row : Nat) :
    scan row s = [⟨row + markup.count '\n', inside, false⟩] := by
  rw [scan]
  split
  next hnone =>
    rw [h] at hnone
    cases hnone
  next heq =>
    rw [h] at heq
    obtain ⟨rfl, rfl⟩ := by simpa using heq
    split
    · rfl
    next hsome =>
      rw [h'] at hsome
      cases hsome

/-- A region between two tags, and those behind its closing tag. -/
theorem scan_eq_cons {s markup inside code rest : Text}
    (h : Text.breakOn? codeOpen s = some (markup, inside))
    (h' : Text.breakOn? codeClose inside = some (code, rest)) (row : Nat) :
    scan row s = ⟨row + markup.count '\n', code, true⟩ ::
      scan (row + markup.count '\n' + code.count '\n') rest := by
  conv => lhs; rw [scan]
  split
  next hnone =>
    rw [h] at hnone
    cases hnone
  next heq =>
    rw [h] at heq
    obtain ⟨rfl, rfl⟩ := by simpa using heq
    split
    next hnone =>
      rw [h'] at hnone
      cases hnone
    next heq' =>
      rw [h'] at heq'
      obtain ⟨rfl, rfl⟩ := by simpa using heq'
      rfl

/-- The pieces of a text that starts inside code, or in markup. -/
def continued (inside : Bool) (row : Nat) (s : Text) : List Piece :=
  if inside then
    match Text.breakOn? codeClose s with
    | none => piecesOf row false (Text.lines s)
    | some (code, rest) =>
      piecesOf row true (Text.lines code) ++ (scan (row + code.count '\n') rest).flatMap pieces
  else (scan row s).flatMap pieces

theorem continued_markup (row : Nat) (s : Text) :
    continued false row s = (scan row s).flatMap pieces := rfl

theorem continued_unclosed {s : Text} (h : Text.breakOn? codeClose s = none) (row : Nat) :
    continued true row s = piecesOf row false (Text.lines s) := by
  rw [continued, if_pos rfl, h]

theorem continued_closed {s code rest : Text} (h : Text.breakOn? codeClose s = some (code, rest))
    (row : Nat) :
    continued true row s =
      piecesOf row true (Text.lines code) ++ continued false (row + code.count '\n') rest := by
  rw [continued, if_pos rfl, h, continued_markup]

/-- Behind an opening tag the text goes on inside code. -/
theorem continued_open {s markup inside : Text}
    (h : Text.breakOn? codeOpen s = some (markup, inside)) (row : Nat) :
    continued false row s = continued true (row + markup.count '\n') inside := by
  rw [continued_markup]
  cases h' : Text.breakOn? codeClose inside with
  | none => rw [scan_eq_open h h', continued_unclosed h', List.flatMap_singleton]; rfl
  | some p => rw [scan_eq_cons h h', continued_closed h', List.flatMap_cons]; rfl

/-! ## One line at a time -/

theorem codeOpen_ne_nil : codeOpen ≠ [] := by decide

theorem codeClose_ne_nil : codeClose ≠ [] := by decide

theorem not_mem_newline_codeOpen : '\n' ∉ codeOpen := by decide

theorem not_mem_newline_codeClose : '\n' ∉ codeClose := by decide

theorem piecesOf_cons (row : Nat) (closed : Bool) (line : Text) {lines : List Text}
    (h : lines ≠ []) :
    piecesOf row closed (line :: lines) =
      ⟨row, line, false⟩ :: piecesOf (row + 1) closed lines := by
  cases lines with
  | nil => exact absurd rfl h
  | cons l ls => rfl

/-- Code in front of a line feed is a piece of its own. -/
theorem piecesOf_lines_append {line : Text} (h : '\n' ∉ line) (row : Nat) (closed : Bool)
    (s : Text) :
    piecesOf row closed (Text.lines (line ++ '\n' :: s)) =
      ⟨row, line, false⟩ :: piecesOf (row + 1) closed (Text.lines s) := by
  rw [Text.lines_append_cons, Text.lines, Text.splitOn_of_not_mem h, List.singleton_append]
  exact piecesOf_cons row closed line (Text.splitOn_ne_nil '\n' s)

theorem count_newline_append {line : Text} (h : '\n' ∉ line) (s : Text) :
    (line ++ '\n' :: s).count '\n' = 1 + s.count '\n' := by
  rw [List.count_append, List.count_cons_self, List.count_eq_zero_of_not_mem h]
  omega

/-- A line of markup opens no region. -/
theorem scan_append_newline {line : Text} (hline : '\n' ∉ line)
    (h : Text.breakOn? codeOpen line = none) (row : Nat) (s : Text) :
    scan row (line ++ '\n' :: s) = scan (row + 1) s := by
  have hall := Text.breakOn?_append_newline codeOpen_ne_nil not_mem_newline_codeOpen line s
  rw [h, Option.map_none, Option.none_or] at hall
  cases hs : Text.breakOn? codeOpen s with
  | none =>
    rw [hs] at hall
    rw [scan_eq_nil hall, scan_eq_nil hs]
  | some p =>
    obtain ⟨markup, inside⟩ := p
    rw [hs] at hall
    cases hclose : Text.breakOn? codeClose inside with
    | none =>
      rw [scan_eq_open hall hclose, scan_eq_open hs hclose, count_newline_append hline,
        ← Nat.add_assoc]
    | some q =>
      rw [scan_eq_cons hall hclose, scan_eq_cons hs hclose, count_newline_append hline,
        ← Nat.add_assoc]

theorem kept_append (a b : List Piece) : kept (a ++ b) = kept a ++ kept b := by
  rw [kept, List.filter_append, List.map_append]
  rfl

/-- A run of code on a line is kept as a piece just when it is cut out as one. -/
theorem kept_singleton (row : Nat) (run : Text) (ended : Bool) (rest : Text) :
    kept [⟨row, run, ended⟩] = (Snippet.cut run ended rest).map fun p => (row, p.text) := by
  unfold kept Snippet.cut
  by_cases h : Text.strip run = []
  · rw [if_pos h, List.filter_cons_of_neg (by simpa using h)]
    rfl
  · rw [if_neg h, List.filter_cons_of_pos (by simpa using h)]
    rfl

/-- What is kept of a text, line by line: the pieces of a line, and what is kept behind it, given
how a line without tags goes on. The run in front of each tag starts on the line. -/
theorem kept_append_of_tail (row : Nat) (behind : Text) (next : Bool → List (Nat × Text))
    (hcode : ∀ tail, '\n' ∉ tail → Text.breakOn? codeClose tail = none →
      kept (continued true row (tail ++ behind)) = kept [⟨row, tail, false⟩] ++ next true)
    (hmarkup : ∀ tail, '\n' ∉ tail → Text.breakOn? codeOpen tail = none →
      kept (continued false row (tail ++ behind)) = next false)
    {inside : Bool} {line : Text} (hline : '\n' ∉ line) (below : Text) :
    kept (continued inside row (line ++ behind)) =
      ((Snippet.scan (Snippet.start inside) line below).map fun p => (row, p.text)) ++
        next (Snippet.runAfter (Snippet.start inside) line).isSome := by
  -- by the tags of the line
  generalize hrun : Snippet.start inside = run
  fun_induction Snippet.scan run line below generalizing inside with
  | case1 tail run hbreak =>
    cases inside with
    | false => cases hrun
    | true =>
      obtain rfl : [] = run := Option.some.inj hrun
      rw [Snippet.runAfter_code_eq_some hbreak, List.nil_append, Option.isSome_some,
        ← kept_singleton row tail false below]
      exact hcode tail hline hbreak
  | case2 tail run code rest hbreak _ ih =>
    cases inside with
    | false => cases hrun
    | true =>
      obtain rfl : [] = run := Option.some.inj hrun
      obtain ⟨hfree, hrest⟩ := Text.not_mem_of_breakOn? hbreak hline
      have hfirst := kept_singleton row code true (codeClose ++ rest ++ below)
      rw [Snippet.runAfter_code_eq_markup hbreak, continued_closed (Text.breakOn?_append hbreak _),
        Text.lines, Text.splitOn_of_not_mem hfree, List.count_eq_zero_of_not_mem hfree,
        List.nil_append, List.map_append, ← hfirst, kept_append, List.append_assoc]
      exact congrArg _ (ih hrest rfl)
  | case3 tail hbreak =>
    cases inside with
    | true => cases hrun
    | false =>
      rw [Snippet.runAfter_markup_eq_none hbreak, List.map_nil, List.nil_append]
      exact hmarkup tail hline hbreak
  | case4 tail markup rest hbreak _ ih =>
    cases inside with
    | true => cases hrun
    | false =>
      obtain ⟨hfree, hrest⟩ := Text.not_mem_of_breakOn? hbreak hline
      rw [Snippet.runAfter_markup_eq_code hbreak, continued_open (Text.breakOn?_append hbreak _),
        List.count_eq_zero_of_not_mem hfree]
      exact ih hrest rfl

/-- A text that goes on behind a line feed is, up to there, what its first line is. -/
theorem kept_continue {inside : Bool} {line : Text} (hline : '\n' ∉ line) (row : Nat)
    (below s : Text) :
    kept (continued inside row (line ++ '\n' :: s)) =
      ((Snippet.scan (Snippet.start inside) line below).map fun p => (row, p.text)) ++
        kept (continued (Snippet.runAfter (Snippet.start inside) line).isSome (row + 1) s) := by
  refine kept_append_of_tail row ('\n' :: s) (fun inside => kept (continued inside (row + 1) s))
    (fun tail hfree hbreak => ?_) (fun tail hfree hbreak => ?_) hline below
  · -- the code runs on below, to a closing tag or to the end
    have hall := Text.breakOn?_append_newline codeClose_ne_nil not_mem_newline_codeClose tail s
    rw [hbreak, Option.map_none, Option.none_or] at hall
    rw [← kept_append]
    congr 1
    cases hs : Text.breakOn? codeClose s with
    | none =>
      rw [hs] at hall
      rw [continued_unclosed hall, continued_unclosed hs, piecesOf_lines_append hfree]
      rfl
    | some p =>
      rw [hs] at hall
      rw [continued_closed hall, continued_closed hs, piecesOf_lines_append hfree,
        count_newline_append hfree, ← Nat.add_assoc]
      rfl
  · rw [continued_markup, scan_append_newline hfree hbreak]
    rfl

/-- The last line of a text is what it is on its own. -/
theorem kept_last {inside : Bool} {line : Text} (hline : '\n' ∉ line) (row : Nat) (below : Text) :
    kept (continued inside row line) =
      (Snippet.scan (Snippet.start inside) line below).map fun p => (row, p.text) := by
  have hkept : kept (continued inside row (line ++ [])) = _ :=
    kept_append_of_tail row [] (fun _ => []) (fun tail hfree hbreak => ?_)
      (fun tail _ hbreak => ?_) hline below
  · rwa [List.append_nil, List.append_nil] at hkept
  · rw [List.append_nil, List.append_nil, continued_unclosed hbreak, Text.lines,
      Text.splitOn_of_not_mem hfree]
    rfl
  · rw [List.append_nil, continued_markup, scan_eq_nil hbreak]
    rfl

/-! ## The pieces row by row -/

/-- The pieces of lines by row and text, as the walk over the lines finds them. -/
def rows (inside : Bool) (row : Nat) : List Text → List (Nat × Text)
  | [] => []
  | line :: lines =>
    ((Snippet.scan (Snippet.start inside) (Marker.bare line) (Text.below lines)).map
        fun p => (row, p.text)) ++
      rows (Snippet.runAfter (Snippet.start inside) (Marker.bare line)).isSome (row + 1) lines

theorem not_mem_newline_bare {line : Text} (h : '\n' ∉ line) : '\n' ∉ Marker.bare line := by
  obtain ⟨comment, hline, -⟩ := Marker.exists_comment line
  intro hmem
  rw [hline] at h
  exact h (List.mem_append_right _ hmem)

/-- The whole-text scan finds what the walk over the lines finds. -/
theorem kept_continued_lines {lines : List Text} (hne : lines ≠ []) (h : ∀ l ∈ lines, '\n' ∉ l)
    (inside : Bool) (row : Nat) :
    kept (continued inside row (Text.joinWith ['\n'] (lines.map Marker.bare))) =
      rows inside row lines := by
  induction lines generalizing inside row with
  | nil => exact absurd rfl hne
  | cons line lines ih =>
    have hline := not_mem_newline_bare (h line List.mem_cons_self)
    cases lines with
    | nil =>
      rw [rows, rows, List.append_nil]
      exact kept_last hline row _
    | cons l ls =>
      rw [rows, ← ih (List.cons_ne_nil _ _) fun l' hl' => h l' (List.mem_cons_of_mem _ hl'),
        ← kept_continue hline, List.map_cons, List.map_cons, Text.joinWith, List.append_assoc]
      · rfl
      · exact List.cons_ne_nil _ _

theorem rows_eq (s : Text) : rows false 0 (Text.lines s) = kept ((all s).flatMap pieces) := by
  have hfree : ∀ l ∈ Text.lines s, '\n' ∉ l := fun l hl => Text.not_mem_of_mem_splitOn hl
  exact (kept_continued_lines (Text.splitOn_ne_nil '\n' s) hfree false 0).symm

/-! ## Where regions open -/

/-- Regions are on the row of the text or below it. -/
theorem row_le_of_mem_scan {r : Region} {row : Nat} {s : Text} (h : r ∈ scan row s) :
    row ≤ r.row := by
  fun_induction scan row s with
  | case1 => cases h
  | case2 =>
    rw [List.mem_singleton.1 h]
    exact Nat.le_add_right _ _
  | case3 row s markup inside _ code rest _ _ ih =>
    rcases List.mem_cons.1 h with rfl | h
    · exact Nat.le_add_right _ _
    · have := ih h
      omega

/-- The first region opens on the first line with an opening tag, and all others below. -/
theorem scan_joinWith {lines : List Text} (hne : lines ≠ []) (h : ∀ l ∈ lines, '\n' ∉ l)
    (row : Nat) :
    (scan row (Text.joinWith ['\n'] lines) = [] ∧
        ∀ l ∈ lines, Text.breakOn? codeOpen l = none) ∨
      ∃ before line behind, lines = before ++ line :: behind ∧
        (∀ l ∈ before, Text.breakOn? codeOpen l = none) ∧
        Text.breakOn? codeOpen line ≠ none ∧
        (∃ r ∈ scan row (Text.joinWith ['\n'] lines), r.row = row + before.length) ∧
        ∀ r ∈ scan row (Text.joinWith ['\n'] lines), row + before.length ≤ r.row := by
  induction lines generalizing row with
  | nil => exact absurd rfl hne
  | cons line lines ih =>
    have hline := h line List.mem_cons_self
    cases hbreak : Text.breakOn? codeOpen line with
    | some p =>
      -- a tag opens on the first line: its region starts there, and the others below it
      obtain ⟨markup, inside⟩ := p
      have htext : ∃ more, Text.joinWith ['\n'] (line :: lines) = line ++ more := by
        -- no tag opens on the first line, and the rest of the text starts one row below
        cases lines with
        | nil => exact ⟨[], (List.append_nil line).symm⟩
        | cons l ls => exact ⟨'\n' :: Text.joinWith ['\n'] (l :: ls), by simp [Text.joinWith]⟩
      obtain ⟨more, htext⟩ := htext
      have hmarkup : markup.count '\n' = 0 :=
        List.count_eq_zero.2 (Text.not_mem_of_breakOn? hbreak hline).1
      refine .inr ⟨[], line, lines, rfl, List.forall_mem_nil _, by simp [hbreak], ?_,
        fun r hr => row_le_of_mem_scan hr⟩
      rw [htext]
      have hopen := Text.breakOn?_append hbreak more
      cases hclose : Text.breakOn? codeClose (inside ++ more) with
      | none =>
        rw [scan_eq_open hopen hclose, hmarkup]
        exact ⟨_, List.mem_cons_self, rfl⟩
      | some q =>
        rw [scan_eq_cons hopen hclose, hmarkup]
        exact ⟨_, List.mem_cons_self, rfl⟩
    | none =>
      cases lines with
      | nil =>
        refine .inl ⟨scan_eq_nil hbreak row, fun l hl => ?_⟩
        rwa [List.mem_singleton.1 hl]
      | cons l ls =>
        have htext : Text.joinWith ['\n'] (line :: l :: ls) =
            line ++ '\n' :: Text.joinWith ['\n'] (l :: ls) := by
          simp [Text.joinWith]
        rw [htext, scan_append_newline hline hbreak]
        rcases ih (List.cons_ne_nil _ _) (fun l' hl' => h l' (List.mem_cons_of_mem _ hl'))
          (row + 1) with ⟨hnil, hnone⟩ | ⟨before, line', behind, hlines, hnone, hopen, hfirst, hall⟩
        · exact .inl ⟨hnil, List.forall_mem_cons.2 ⟨hbreak, hnone⟩⟩
        · refine .inr ⟨line :: before, line', behind, by rw [hlines, List.cons_append],
            List.forall_mem_cons.2 ⟨hbreak, hnone⟩, hopen, ?_⟩
          rw [List.length_cons, Nat.add_comm before.length, ← Nat.add_assoc]
          exact ⟨hfirst, hall⟩

/-- A compiled text has no region and no line with an opening tag, or else its first region opens
on the first such line. -/
theorem first_row (s : Text) :
    (all s = [] ∧ ∀ l ∈ Text.lines s, Text.breakOn? codeOpen (Marker.bare l) = none) ∨
      ∃ before line behind, Text.lines s = before ++ line :: behind ∧
        (∀ l ∈ before, Text.breakOn? codeOpen (Marker.bare l) = none) ∧
        Text.breakOn? codeOpen (Marker.bare line) ≠ none ∧
        (∃ r ∈ all s, r.row = before.length) ∧ ∀ r ∈ all s, before.length ≤ r.row := by
  have hne : (Text.lines s).map Marker.bare ≠ [] := by
    rw [Ne, List.map_eq_nil_iff]
    exact Text.splitOn_ne_nil '\n' s
  have hfree : ∀ l ∈ (Text.lines s).map Marker.bare, '\n' ∉ l := by
    intro l hl
    obtain ⟨l', hl', rfl⟩ := List.mem_map.1 hl
    exact not_mem_newline_bare (Text.not_mem_of_mem_splitOn hl')
  rcases scan_joinWith hne hfree 0 with ⟨hnil, hnone⟩ |
    ⟨before, line, behind, hlines, hnone, hopen, hfirst, hall⟩
  · exact .inl ⟨hnil, fun l hl => hnone _ (List.mem_map_of_mem hl)⟩
  · obtain ⟨before', rest, hs, rfl, hrest⟩ := List.map_eq_append_iff.1 hlines
    obtain ⟨line', behind', rfl, rfl, rfl⟩ := List.map_eq_cons_iff.1 hrest
    rw [List.length_map, Nat.zero_add] at hfirst hall
    exact .inr ⟨before', line', behind', hs, fun l hl => hnone _ (List.mem_map_of_mem hl), hopen,
      hfirst, hall⟩

theorem markerAt_eq_none_iff {s : Text} {row : Nat} :
    markerAt s row = none ↔ ∀ l ∈ (Text.lines s).take (row + 1), Marker.decode? l = none := by
  rw [markerAt, Marker.lastOf, List.findSome?_eq_none_iff]
  simp only [List.mem_reverse, Option.map_eq_none_iff]

end Region

/-! ## The split -/

namespace Splitter

/-- What lines add to a state behind the rows above them, each piece under the marker that governs
its row. -/
theorem feedAll_rows {s : Text} {above lines : List Text} (hs : Text.lines s = above ++ lines)
    {st st' : Splitter} {index : Nat} (hst : st.Marked)
    (hcur : st.current = Marker.lastOf above) (h : st.feedAll index lines = .ok st') :
    st'.lines.map CodeLine.placed = st.lines.map CodeLine.placed ++
      (Region.rows st.insideCode above.length lines).map
        fun p => (Region.markerAt s p.1, p.2) := by
  induction lines generalizing above st index with
  | nil =>
    obtain rfl := Except.ok.inj h
    exact (List.append_nil _).symm
  | cons line lines ih =>
    obtain ⟨mid, hfeed, hrest⟩ := feedAll_cons_eq_ok_iff.1 h
    obtain ⟨hin, hlead, hmid, hadd⟩ := feed_spec hst hfeed (Text.below lines)
    have hlast : st.lead line = Marker.lastOf (above ++ [line]) := by
      rw [lead, hcur, Marker.lastOf_append, Marker.lastOf_singleton]
    have hrow : Region.markerAt s above.length = st.lead line := by
      rw [hlast, Region.markerAt, Text.take_lines hs]
    have hs' : Text.lines s = (above ++ [line]) ++ lines := by rw [hs, List.append_assoc]; rfl
    rw [ih hs' hmid (hlead.trans hlast) hrest, hadd, Region.rows, List.map_append, List.map_map,
      List.append_assoc, hin, List.length_append, List.length_singleton]
    congr 2
    exact List.map_congr_left fun p _ => by rw [← hrow]; rfl

/-- The first line with an opening tag under no marker stops the walk. -/
theorem feedAll_eq_error {before behind : List Text} {line : Text}
    (hbefore : ∀ l ∈ before, Marker.decode? l = none ∧
      Text.breakOn? codeOpen (Marker.bare l) = none)
    (hline : Marker.decode? line = none) (hopen : Text.breakOn? codeOpen (Marker.bare line) ≠ none)
    (index : Nat) :
    ({} : Splitter).feedAll index (before ++ line :: behind) =
      .error (.missingMarker (index + before.length + 1) line) := by
  induction before generalizing index with
  | nil =>
    -- the line itself: its tag opens before any marker
    have hbare : Marker.bare line = line := by rw [Marker.bare, hline]
    rw [hbare] at hopen
    obtain ⟨p, hp⟩ := Option.ne_none_iff_exists'.1 hopen
    have hfeed : ({} : Splitter).feed index line = .error (.missingMarker (index + 1) line) := by
      rw [feed, hline]
      show walk _ {} line = _
      rw [walk]
      dsimp only
      split
      next hnone =>
        rw [hp] at hnone
        cases hnone
      · rfl
    rw [List.nil_append, feedAll, hfeed]
    rfl
  | cons l before ih =>
    -- a line above it is markup, and leaves the first state
    obtain ⟨hl, hmarkup⟩ := hbefore l List.mem_cons_self
    have hlead : ({} : Splitter).lead l = none := lead_eq_none_iff.2 ⟨hl, rfl⟩
    have hfeed : ({} : Splitter).feed index l = .ok {} :=
      (feed_eq_ok_iff marked_init hlead).2 ⟨rfl, rfl, hmarkup⟩
    rw [List.cons_append, feedAll, hfeed]
    show ({} : Splitter).feedAll (index + 1) (before ++ line :: behind) = _
    rw [ih (fun l' hl' => hbefore l' (List.mem_cons_of_mem _ hl')), List.length_cons]
    congr 2
    omega

/-- A walk that no line stops. -/
theorem exists_feedAll_of_forall {lines : List Text}
    (h : ∀ before line behind, lines = before ++ line :: behind →
      (∀ l ∈ before ++ [line], Marker.decode? l = none) →
      Text.breakOn? codeOpen (Marker.bare line) = none) (index : Nat) :
    ∃ st, ({} : Splitter).feedAll index lines = .ok st := by
  induction lines generalizing index with
  | nil => exact ⟨{}, rfl⟩
  | cons line lines ih =>
    cases hd : Marker.decode? line with
    | none =>
      have hmarkup := h [] line lines rfl (by simpa using hd)
      have hlead : ({} : Splitter).lead line = none := lead_eq_none_iff.2 ⟨hd, rfl⟩
      have hfeed : ({} : Splitter).feed index line = .ok {} :=
        (feed_eq_ok_iff marked_init hlead).2 ⟨rfl, rfl, hmarkup⟩
      obtain ⟨st, hst⟩ := ih (fun before l behind hl hnone => by
        refine h (line :: before) l behind (by rw [hl, List.cons_append]) ?_
        exact List.forall_mem_cons.2 ⟨hd, hnone⟩) (index + 1)
      exact ⟨st, feedAll_cons_eq_ok_iff.2 ⟨_, hfeed, hst⟩⟩
    | some p =>
      -- from the first marker on no line fails
      have hlead : ({} : Splitter).lead line = some p.1 := by
        rw [lead, hd]
        rfl
      obtain ⟨mid, hfeed, hcur⟩ : ∃ mid, ({} : Splitter).feed index line = .ok mid ∧
          mid.current = some p.1 := ⟨_, feed_eq _ index line [] hlead, rfl⟩
      obtain ⟨st, hst⟩ := exists_feedAll (by rw [hcur]; rfl) (index + 1) lines
      exact ⟨st, feedAll_cons_eq_ok_iff.2 ⟨mid, hfeed, hst⟩⟩

end Splitter

namespace CodeLine

theorem placed_injective : Function.Injective placed := by
  rintro ⟨m, code⟩ ⟨m', code'⟩ h
  obtain ⟨hm, hcode⟩ := Prod.mk.inj h
  obtain rfl : m = m' := Option.some.inj hm
  obtain rfl : code = code' := hcode
  rfl

/-- The code lines of a split by rows. -/
theorem map_placed_of_split {s : Text} {lines : List CodeLine} (h : split s = .ok lines) :
    lines.map placed = (Region.kept ((Region.all s).flatMap Region.pieces)).map
      fun p => (Region.markerAt s p.1, p.2) := by
  obtain ⟨st, hst, rfl⟩ := split_eq_ok_iff.1 h
  have hs : Text.lines s = [] ++ Text.lines s := rfl
  rw [← Region.rows_eq]
  exact Splitter.feedAll_rows hs Splitter.marked_init rfl hst

/-- A region that opens under no marker stops the split at the first such row. -/
theorem split_of_opensUnmarked {s : Text} {row : Nat} (h : Region.OpensUnmarked s row) :
    ∃ first line, Region.OpensUnmarked s first ∧
      (∀ row' < first, ¬ Region.OpensUnmarked s row') ∧ (Text.lines s)[first]? = some line ∧
      split s = .error (.missingMarker (first + 1) line) := by
  obtain ⟨⟨r, hr, rfl⟩, hmarker⟩ := h
  rcases Region.first_row s with ⟨hnil, -⟩ |
    ⟨before, line, behind, hlines, hnone, hopen, hfirst, hall⟩
  · rw [hnil] at hr
    cases hr
  -- no marker leads a line down to the first region, which opens no later than the given one
  have hbare : ∀ l ∈ before ++ [line], Marker.decode? l = none := by
    intro l hl
    rw [← Text.take_lines hlines] at hl
    refine Region.markerAt_eq_none_iff.1 hmarker l ?_
    exact List.take_subset_take_left _ (Nat.succ_le_succ (hall r hr)) hl
  refine ⟨before.length, line, ⟨hfirst, Region.markerAt_eq_none_iff.2 ?_⟩, ?_, ?_, ?_⟩
  · rwa [Text.take_lines hlines]
  · rintro row' hlt ⟨⟨r', hr', rfl⟩, -⟩
    have := hall r' hr'
    omega
  · rw [hlines, List.getElem?_append_right (Nat.le_refl _), Nat.sub_self]
    rfl
  · have hbefore : ∀ l ∈ before, Marker.decode? l = none ∧
        Text.breakOn? codeOpen (Marker.bare l) = none :=
      fun l hl => ⟨hbare l (List.mem_append_left _ hl), hnone l hl⟩
    rw [split, hlines, Splitter.feedAll_eq_error hbefore (hbare line (by simp)) hopen, Nat.zero_add]
    rfl

/-- Nothing else stops it. -/
theorem exists_split {s : Text} (h : ∀ row, ¬ Region.OpensUnmarked s row) :
    ∃ lines, split s = .ok lines := by
  obtain ⟨st, hst⟩ : ∃ st, ({} : Splitter).feedAll 0 (Text.lines s) = .ok st := by
    refine Splitter.exists_feedAll_of_forall (fun before line behind hlines hbare => ?_) 0
    refine Classical.byContradiction fun hopen => ?_
    rcases Region.first_row s with ⟨-, hnone⟩ |
      ⟨before', line', behind', hlines', hnone, -, hfirst, -⟩
    · exact hopen (hnone line (by simp [hlines]))
    -- the first region opens no later than this line, so that no marker stands above it
    have hle : before'.length ≤ before.length := by
      refine Nat.le_of_not_lt fun hlt => hopen (hnone line ?_)
      have hget : (before' ++ line' :: behind')[before.length]? = some line := by
        rw [← hlines', hlines, List.getElem?_append_right (Nat.le_refl _), Nat.sub_self]
        rfl
      rw [List.getElem?_append_left hlt] at hget
      exact List.mem_of_getElem? hget
    refine h before'.length ⟨hfirst, Region.markerAt_eq_none_iff.2 fun l hl => hbare l ?_⟩
    rw [← Text.take_lines hlines]
    exact List.take_subset_take_left _ (Nat.succ_le_succ hle) hl
  exact ⟨st.lines, split_eq_ok_iff.2 ⟨st, hst, rfl⟩⟩

/-- **A split is the regions of the text, cut into lines.** It succeeds just when every region opens
on a row with a marker on or above it; its code lines are then the pieces that are not blank, in
order, trimmed, with a `;` when the closing tag ends them, each under the marker on or above its
row. Otherwise it names the first row on which a region opens without one. -/
theorem split_iff_regions (s : Text) :
    (∀ lines, split s = .ok lines ↔ (∀ row, ¬ Region.OpensUnmarked s row) ∧
      lines.map (fun c => (some c.marker, c.code)) =
        (((Region.all s).flatMap Region.pieces).filter (Text.strip ·.code ≠ [])).map
          fun p => (Region.markerAt s p.row, p.text)) ∧
    ∀ e, split s = .error e ↔ ∃ row line, Region.OpensUnmarked s row ∧
      (∀ row' < row, ¬ Region.OpensUnmarked s row') ∧ (Text.lines s)[row]? = some line ∧
      e = .missingMarker (row + 1) line := by
  -- what is kept is what the regions say, row by row
  have hkept : ∀ lines : List CodeLine, split s = .ok lines →
      lines.map (fun c => (some c.marker, c.code)) =
        (((Region.all s).flatMap Region.pieces).filter (Text.strip ·.code ≠ [])).map
          fun p => (Region.markerAt s p.row, p.text) := by
    intro lines h
    have hplaced := map_placed_of_split h
    rw [Region.kept, List.map_map] at hplaced
    exact hplaced
  constructor
  · intro lines
    constructor
    · intro h
      refine ⟨fun row hrow => ?_, hkept lines h⟩
      obtain ⟨_, _, -, -, -, herror⟩ := split_of_opensUnmarked hrow
      rw [h] at herror
      cases herror
    · rintro ⟨hall, heq⟩
      obtain ⟨lines', h⟩ := exists_split hall
      have hsame := heq.trans (hkept lines' h).symm
      rw [h, (List.map_inj_right fun _ _ hp => placed_injective hp).1 hsame]
  · intro e
    constructor
    · intro h
      -- an error comes from some line that opens unmarked, and so from the first of them
      obtain ⟨row, hrow⟩ : ∃ row, Region.OpensUnmarked s row := by
        refine Classical.byContradiction fun hnone => ?_
        obtain ⟨lines, hok⟩ := exists_split fun row hrow => hnone ⟨row, hrow⟩
        rw [h] at hok
        cases hok
      obtain ⟨first, line, hfirst, hleast, hline, herror⟩ := split_of_opensUnmarked hrow
      rw [h] at herror
      exact ⟨first, line, hfirst, hleast, hline, Except.error.inj herror⟩
    · rintro ⟨row, line, hrow, hleast, hline, rfl⟩
      obtain ⟨first, line', hfirst, hleast', hline', herror⟩ := split_of_opensUnmarked hrow
      -- there is one first such line
      obtain rfl : row = first := by
        rcases Nat.lt_trichotomy row first with hlt | heq | hlt
        · exact absurd hrow (hleast' row hlt)
        · exact heq
        · exact absurd hfirst (hleast first hlt)
      rw [herror, Option.some.inj (hline.symm.trans hline')]

end CodeLine

end TemplateTrace
