import TemplateTrace.Proofs.Check.BackMapping
import TemplateTrace.Proofs.Code.Events
import TemplateTrace.Proofs.Code.Region
import TemplateTrace.Proofs.Include.Statements

/-!
# Rows of the checker file

The checker counts the physical lines of the file, and back-mapping searches the lines that the file
was made of. They are the same lines as long as no line of the file has a line feed in it. The code
that is cut out of a compiled text has none, and neither unwrapping escapes nor exposing loops adds
one; only texts that are put into declarations as they are, the names and types of bindings and the
type of the loop helper, can bring one along.

- `CodeLine.not_mem_newline_of_split`, `Code.not_mem_newline_unwrapEscapes`: code is cut at line
  feeds, and unwrapping escapes adds none.
- `Code.Exposes.newline`: exposing loops adds line feeds of the declared type only.
- `CheckerFile.lines_text_iff`: when the physical lines are the lines of the file.
- `CheckerFile.lines_text_synthesize`: which bindings and loop types keep them the same.
-/

namespace TemplateTrace

/-! ## Code without line feeds -/

namespace Region

/-- A piece of a region is one of its lines. -/
theorem code_mem_of_mem_piecesOf {row : Nat} {closed : Bool} {lines : List Text} {p : Piece}
    (h : p ∈ piecesOf row closed lines) : p.code ∈ lines := by
  induction lines generalizing row with
  | nil => cases h
  | cons line lines ih =>
    cases lines with
    | nil =>
      rw [List.mem_singleton.1 h]
      exact List.mem_singleton_self _
    | cons line' lines =>
      rcases List.mem_cons.1 h with rfl | h
      · exact List.mem_cons_self
      · exact List.mem_cons_of_mem _ (ih h)

end Region

/-- The code that is cut out of a compiled text is one line each. -/
theorem CodeLine.not_mem_newline_of_split {compiled : Text} {lines : List CodeLine}
    (h : split compiled = .ok lines) {line : CodeLine} (hline : line ∈ lines) :
    '\n' ∉ line.code := by
  have hplaced : line.placed ∈ lines.map placed := List.mem_map_of_mem hline
  rw [map_placed_of_split h] at hplaced
  obtain ⟨q, hq, heq⟩ := List.mem_map.1 hplaced
  obtain ⟨p, hp, rfl⟩ := List.mem_map.1 hq
  obtain ⟨r, -, hp⟩ := List.mem_flatMap.1 (List.mem_filter.1 hp).1
  have hfree : '\n' ∉ p.code := Text.not_mem_of_mem_splitOn (Region.code_mem_of_mem_piecesOf hp)
  have hcode : line.code = p.text := (Prod.mk.inj heq).2.symm
  rw [hcode, Region.Piece.text, List.mem_append, not_or]
  refine ⟨Text.not_mem_strip hfree, ?_⟩
  cases p.ended <;> decide

namespace Code

/-- Taking escapes away leaves one line one line: all that is added is `echo` and a blank. -/
theorem not_mem_newline_unwrapFrom {prev : Option Char} {s : Text} (h : '\n' ∉ s) :
    '\n' ∉ unwrapFrom prev s := by
  fun_induction unwrapFrom prev s with
  | case1 => exact h
  | case2 => exact h
  | case3 prev s before rest hsearch inner after hclose hlt hle hend echo ih =>
    obtain ⟨word, rfl⟩ := Head.exists_word_of_search hsearch
    obtain ⟨d, -, rfl, -⟩ := enclosed?_iff.1 hclose
    simp only [List.mem_append, List.mem_cons, not_or] at h
    obtain ⟨hbefore, -, hinner, -, hafter⟩ := h
    have hecho : '\n' ∉ echo := by
      intro hmem
      rcases List.mem_append.1 hmem with hmem | hmem
      · exact absurd hmem (by decide)
      · exact Text.not_mem_strip hinner hmem
    simp only [List.mem_append, not_or]
    exact ⟨⟨hbefore, hecho⟩, ih hafter⟩
  | case4 prev s before rest hsearch inner after hclose hlt hle hend ih =>
    obtain ⟨word, rfl⟩ := Head.exists_word_of_search hsearch
    rw [← List.append_assoc, List.mem_append, not_or] at h
    rw [Text.upTo_append_append, List.mem_append, not_or]
    exact ⟨h.1, ih h.2⟩

/-- Unwrapping escapes adds no line feeds. -/
theorem not_mem_newline_unwrapEscapes {s : Text} (h : '\n' ∉ s) : '\n' ∉ unwrapEscapes s :=
  not_mem_newline_unwrapFrom h

theorem mem_newline_loopDeclaration {loopType : Text} (h : '\n' ∈ loopDeclaration loopType) :
    '\n' ∈ loopType := by
  rcases List.mem_append.1 h with h | h
  · rcases List.mem_append.1 h with h | h
    · exact absurd h (by decide)
    · exact h
  · exact absurd h (by decide)

theorem not_mem_newline_loopOver {source : Text} (h : '\n' ∉ source) : '\n' ∉ loopOver source := by
  intro hmem
  rcases List.mem_append.1 hmem with hmem | hmem
  · rcases List.mem_append.1 hmem with hmem | hmem
    · exact absurd hmem (by decide)
    · exact h hmem
  · exact absurd hmem (by decide)

/-- A text, if there is one, without line feeds. -/
abbrev OneLine (s : Option Text) : Prop := ∀ t, s = some t → '\n' ∉ t

/-- Exposing loops adds no line feeds but those of the declared type. -/
theorem Exposes.newline {loopType : Text} {prev : Option Char} {scopes out : LoopScopes}
    {s t : Text} (h : Exposes loopType prev scopes s t out) (hs : '\n' ∉ s)
    (hscopes : OneLine scopes.pending) :
    OneLine out.pending ∧ ('\n' ∈ t → '\n' ∈ loopType ∧ loopDeclaration loopType <:+: t) := by
  -- what is written in front of the next event has no line feed, or it has the declaration in it
  have hbehind : ∀ {done t : Text}, '\n' ∉ done →
      ('\n' ∈ t → '\n' ∈ loopType ∧ loopDeclaration loopType <:+: t) →
      '\n' ∈ done ++ t → '\n' ∈ loopType ∧ loopDeclaration loopType <:+: done ++ t := by
    intro done t hdone ht hmem
    obtain ⟨htype, hinfix⟩ := ht ((List.mem_append.1 hmem).resolve_left hdone)
    exact ⟨htype, hinfix.trans (List.suffix_append done t).isInfix⟩
  induction h with
  | rest => exact ⟨hscopes, fun hmem => absurd hmem hs⟩
  | @assign prev scopes out before word rest t hsearch h ih =>
    rw [← statement_append rest] at hs
    simp only [List.mem_append, not_or] at hs
    obtain ⟨hbefore, hword, hstatement, hrest⟩ := hs
    obtain ⟨hout, ht⟩ := ih hrest fun e he => by
      rw [← Option.some.inj he]
      exact Text.not_mem_strip hstatement
    refine ⟨hout, hbehind ?_ ht⟩
    simp only [List.mem_append, not_or]
    exact ⟨⟨hbefore, hword⟩, hstatement⟩
  | templateLoop hsearch hsource hinner h ih =>
    simp only [List.mem_append, not_or] at hs
    obtain ⟨hbefore, -, hrest⟩ := hs
    obtain ⟨hout, ht⟩ := ih hrest fun e he => by cases he
    refine ⟨hout, hbehind ?_ ht⟩
    rw [List.mem_append, not_or]
    exact ⟨hbefore, not_mem_newline_loopOver (hscopes _ hsource)⟩
  | @outerLoop prev scopes out before word header rest source t _ hsource _ _ h ih =>
    simp only [List.mem_append, not_or] at hs
    obtain ⟨hbefore, -, hheaderLine, hrest⟩ := hs
    obtain ⟨hout, ht⟩ := ih hrest fun e he => by cases he
    refine ⟨hout, fun hmem => ⟨?_, ⟨before ++ loopOver source ++ header, t, rfl⟩⟩⟩
    simp only [List.mem_append] at hmem
    rcases hmem with (((hmem | hmem) | hmem) | hmem) | hmem
    · exact absurd hmem hbefore
    · exact absurd hmem (not_mem_newline_loopOver (hscopes _ hsource))
    · exact absurd hmem hheaderLine
    · exact mem_newline_loopDeclaration hmem
    · exact (ht hmem).1
  | plainLoop hsearch h ih =>
    simp only [List.mem_append, not_or] at hs
    obtain ⟨hbefore, hword, hrest⟩ := hs
    obtain ⟨hout, ht⟩ := ih hrest hscopes
    refine ⟨hout, hbehind ?_ ht⟩
    rw [List.mem_append, not_or]
    exact ⟨hbefore, hword⟩
  | outerEnd hsearch hopened houter h ih =>
    simp only [List.mem_append, not_or] at hs
    obtain ⟨hbefore, hword, hrest⟩ := hs
    obtain ⟨hout, ht⟩ := ih hrest hscopes
    refine ⟨hout, hbehind ?_ ht⟩
    rw [List.mem_append, List.mem_append, not_or, not_or]
    exact ⟨⟨hbefore, by decide⟩, hword⟩
  | endLoop hsearch hopened h ih =>
    simp only [List.mem_append, not_or] at hs
    obtain ⟨hbefore, hword, hrest⟩ := hs
    obtain ⟨hout, ht⟩ := ih hrest hscopes
    refine ⟨hout, hbehind ?_ ht⟩
    rw [List.mem_append, not_or]
    exact ⟨hbefore, hword⟩

end Code

namespace CodeLine

/-- A line feed in exposed code comes with a declaration of the loop helper's type. -/
theorem newline_of_exposeFrom {loopType : Text} {scopes : Code.LoopScopes}
    {lines exposed : List CodeLine} (h : exposeFrom loopType scopes lines = (exposed, none))
    (hlines : ∀ line ∈ lines, '\n' ∉ line.code) (hscopes : Code.OneLine scopes.pending)
    {line : CodeLine} (hline : line ∈ exposed) (hmem : '\n' ∈ line.code) :
    '\n' ∈ loopType ∧ Code.loopDeclaration loopType <:+: line.code := by
  induction lines generalizing scopes exposed with
  | nil =>
    obtain rfl := (Prod.mk.inj h).1
    cases hline
  | cons first lines ih =>
    obtain ⟨code, between, exposed', hcode, hfrom, rfl⟩ := exists_of_exposeFrom_cons h
    have hfirst := Code.not_mem_newline_unwrapEscapes (hlines first List.mem_cons_self)
    obtain ⟨hout, hnewline⟩ := hcode.newline hfirst hscopes
    rcases List.mem_cons.1 hline with rfl | hline
    · exact hnewline hmem
    · exact ih hfrom (fun l hl => hlines l (List.mem_cons_of_mem first hl)) hout hline

/-- The exposed code of a compiled text has a line feed where a declaration with one was added. -/
theorem newline_iff {compiled loopType : Text} {lines exposed : List CodeLine}
    (hsplit : split compiled = .ok lines) (hexpose : expose loopType lines = .ok exposed)
    {line : CodeLine} (hline : line ∈ exposed) :
    '\n' ∈ line.code ↔ '\n' ∈ loopType ∧ Code.loopDeclaration loopType <:+: line.code := by
  constructor
  · intro hmem
    exact newline_of_exposeFrom (exposeFrom_of_expose hexpose)
      (fun l hl => not_mem_newline_of_split hsplit hl) (fun t ht => by cases ht) hline hmem
  · rintro ⟨htype, hinfix⟩
    exact hinfix.subset (List.mem_append_left _ (List.mem_append_right _ htype))

end CodeLine

/-! ## Physical lines -/

namespace CheckerFile

/-- A checker file has the rows that are put into it just when each of them is one line. -/
theorem lines_text_iff {f : CheckerFile} (hne : f.lines ≠ []) :
    Text.lines f.text = f.lines ++ [[]] ↔ ∀ l ∈ f.lines, '\n' ∉ l := by
  have htext : Text.lines f.text = Text.lines (Text.joinWith ['\n'] f.lines) ++ [[]] :=
    Text.lines_append_cons _ []
  rw [htext, List.append_left_inj]
  constructor
  · intro h l hl
    rw [← h] at hl
    exact Text.not_mem_of_mem_splitOn hl
  · exact Text.lines_joinWith hne

theorem not_mem_newline_declaration {b : TypeBinding} :
    '\n' ∉ b.declaration ↔ '\n' ∉ b.name ∧ '\n' ∉ b.type := by
  have hparts : ∀ {open' sign close : Text}, '\n' ∉ open' → '\n' ∉ sign → '\n' ∉ close →
      ('\n' ∉ open' ++ b.type ++ sign ++ b.name ++ close ↔ '\n' ∉ b.name ∧ '\n' ∉ b.type) := by
    intro open' sign close hopen hsign hclose
    simp only [List.mem_append, hopen, hsign, hclose, false_or, or_false, not_or, and_comm]
  exact hparts (by decide) (by decide) (by decide)

theorem forall_mem_rows {line : CodeLine} {p : Text → Prop} :
    (∀ l ∈ rows line, p l) ↔ p line.marker.encode ∧ p line.code := by
  simp [rows]

/-- **The physical lines of the checker file are its lines** exactly when no line feed is put into
a declaration: not by the name or the type of a binding, and not by the type of the loop helper
where a loop declares it. -/
theorem lines_text_synthesize {compiled loopType : Text} {lines exposed : List CodeLine}
    (hsplit : CodeLine.split compiled = .ok lines)
    (hexpose : CodeLine.expose loopType lines = .ok exposed) (bindings : TypeBindings) :
    Text.lines (synthesize bindings exposed).text = (synthesize bindings exposed).lines ++ [[]] ↔
      (∀ b ∈ bindings.entries, '\n' ∉ b.name ∧ '\n' ∉ b.type) ∧
      ('\n' ∈ loopType →
        ∀ line ∈ exposed, ¬ Code.loopDeclaration loopType <:+: line.code) := by
  have hcodes : (∀ line ∈ exposed, '\n' ∉ line.code) ↔ ('\n' ∈ loopType →
      ∀ line ∈ exposed, ¬ Code.loopDeclaration loopType <:+: line.code) := by
    constructor
    · intro h htype line hline hinfix
      exact h line hline ((CodeLine.newline_iff hsplit hexpose hline).2 ⟨htype, hinfix⟩)
    · intro h line hline hmem
      obtain ⟨htype, hinfix⟩ := (CodeLine.newline_iff hsplit hexpose hline).1 hmem
      exact h htype line hline hinfix
  have hopen : '\n' ∉ codeOpen := by decide
  have hne : (synthesize bindings exposed).lines ≠ [] := List.cons_ne_nil _ _
  rw [lines_text_iff hne, synthesize_lines, header, TypeBindings.declarations,
    ← hcodes]
  simp only [List.forall_mem_append, List.forall_mem_cons, List.forall_mem_map,
    List.forall_mem_flatMap, forall_mem_rows, not_mem_newline_declaration,
    Marker.not_mem_newline_encode, hopen, not_false_eq_true, true_and]

/-- A loop helper whose type has no line feed is declared on the line of its loop. -/
theorem lines_text_synthesize_loop :
    let m : Marker := ⟨"a".toList, "/a".toList, 1, []⟩
    let compiled := m.encode ++
      "<?php $__currentLoopData = $a; foreach($__currentLoopData as $b): ?>".toList
    let code : CodeLine :=
      ⟨m, "$__currentLoopData = $a; foreach($__currentLoopData as $b):;".toList⟩
    let exposed : CodeLine :=
      ⟨m, "$__currentLoopData = $a; foreach($a as $b): /** @var Loop $loop */;".toList⟩
    let file := synthesize { entries := [⟨"x".toList, "int".toList⟩] } [exposed]
    CodeLine.split compiled = .ok [code] ∧
      CodeLine.expose "Loop".toList [code] = .ok [exposed] ∧
      Text.lines file.text = file.lines ++ [[]] := by
  intro m compiled code exposed file
  have hsplit : CodeLine.split compiled = .ok [code] := by decide +kernel
  have hexpose : CodeLine.expose "Loop".toList [code] = .ok [exposed] := by decide +kernel
  refine ⟨hsplit, hexpose, (lines_text_synthesize hsplit hexpose _).2 ⟨by decide, ?_⟩⟩
  exact fun h => absurd h (by decide)

/-- A type that is written over several lines moves all lines below it. -/
theorem exists_lines_text_ne :
    ∃ (compiled : Text) (exposed : List CodeLine) (bindings : TypeBindings),
      CodeLine.split compiled = .ok exposed ∧ CodeLine.expose [] exposed = .ok exposed ∧
      Text.lines (synthesize bindings exposed).text ≠
        (synthesize bindings exposed).lines ++ [[]] := by
  let m : Marker := ⟨"a".toList, "/a".toList, 1, []⟩
  let line : CodeLine := ⟨m, "a();;".toList⟩
  have hsplit : CodeLine.split (m.encode ++ "<?php a(); ?>".toList) = .ok [line] := by
    decide +kernel
  have hexpose : CodeLine.expose [] [line] = .ok [line] := by decide +kernel
  let type := "array\x7b\nid: int\n\x7d".toList
  refine ⟨_, _, { entries := [⟨"x".toList, type⟩] }, hsplit, hexpose, ?_⟩
  decide +kernel

end CheckerFile

end TemplateTrace
