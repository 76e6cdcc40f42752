import TemplateTrace.Proofs.Code.Snippet
import TemplateTrace.Proofs.Text.Trimming

/-!
# Lines fed one by one

A splitter is one state that changes from line to line, and its owner may go on after a line that
failed. Here a line is taken in as such an owner sees it: the answer, and the state that is there
afterwards, also when the answer is an error. A line fails before it has changed anything, and so
whatever is fed, the state stays one that a run without failures could have left.

- `Splitter.walkInPlace`, `Splitter.feedInPlace`: one line, with the state that it leaves behind.
- `Splitter.feedInPlace_eq`: the answer is the one of `feed`, and a line that fails leaves the state
  as it was.
- `Splitter.feedOn`, `Splitter.feedOnAll`: lines taken in, whether or not they fail.
- `Tidy`: code as the code lines hold it.
- `Splitter.Sound`: what holds of the state behind the lines that were fed, whichever they were.
- `Splitter.fed_history`: a splitter after any history of lines.
-/

namespace TemplateTrace

namespace Splitter

/-! ## The state that a line leaves behind -/

/-- Walks over the rest of a line as `walk` does, and hands out the state reached with the answer,
also with an error. -/
def walkInPlace (fault : MapError) (st : Splitter) (tail : Text) :
    Except MapError Unit × Splitter :=
  if tail = [] then (.ok (), st)
  else match st.insideCode with
  | true =>
    match st.current with
    | none => (.error fault, st)
    | some marker =>
      match h : Text.breakOn? codeClose tail with
      | none => (.ok (), st.keep marker tail [])
      | some (code, rest) =>
        have : rest.length < tail.length := by simp [Text.breakOn?_eq_some h, codeClose]; omega
        walkInPlace fault { st.keep marker code [';'] with insideCode := false } rest
  | false =>
    match h : Text.breakOn? codeOpen tail with
    | none => (.ok (), st)
    | some (_, rest) =>
      have : rest.length < tail.length := by simp [Text.breakOn?_eq_some h, codeOpen]; omega
      match st.current with
      | none => (.error fault, st)
      | some _ => walkInPlace fault { st with insideCode := true } rest
termination_by tail.length

/-- Takes in one compiled line. The marker is set before the rest of the line is walked over. -/
def feedInPlace (st : Splitter) (index : Nat) (line : Text) : Except MapError Unit × Splitter :=
  let fault := .missingMarker (index + 1) line
  match Marker.decode? line with
  | some (marker, rest) => walkInPlace fault { st with current := some marker } rest
  | none => walkInPlace fault st line

/-- The state is all that tells the two apart: their answers are the same. -/
theorem walk_eq_map (fault : MapError) (st : Splitter) (tail : Text) :
    walk fault st tail =
      (walkInPlace fault st tail).1.map fun _ => (walkInPlace fault st tail).2 := by
  -- the cases follow the reader, and `walk` takes the same one
  fun_induction walkInPlace fault st tail with
  | case1 st =>
    rw [walk]
    cases st.insideCode <;> rfl
  | case2 st tail hne hin hcur =>
    rw [walk, hin]
    simp only [if_neg hne, hcur]
    rfl
  | case3 st tail hne hin m hcur hbreak =>
    rw [walk, hin]
    simp only [if_neg hne, hcur]
    split
    next => rfl
    next h' => rw [hbreak] at h'; cases h'
  | case4 st tail hne hin m hcur code rest hbreak _ ih =>
    rw [walk, hin]
    simp only [if_neg hne, hcur]
    split
    next h' => rw [hbreak] at h'; cases h'
    next h' =>
      rw [hbreak] at h'
      obtain ⟨rfl, rfl⟩ := by simpa using h'
      exact ih
  | case5 st tail hne hin hbreak =>
    rw [walk, hin]
    dsimp only
    split
    next => rfl
    next h' => rw [hbreak] at h'; cases h'
  | case6 st tail hne hin skipped rest hbreak _ hcur =>
    rw [walk, hin]
    dsimp only
    split
    next h' => rw [hbreak] at h'; cases h'
    next => rw [hcur]; rfl
  | case7 st tail hne hin skipped rest hbreak _ m hcur ih =>
    rw [walk, hin]
    dsimp only
    split
    next h' => rw [hbreak] at h'; cases h'
    next h' =>
      rw [hbreak] at h'
      obtain ⟨-, rfl⟩ := by simpa using h'
      simp only [hcur]
      rw [hcur] at ih
      exact ih

theorem keep_current (st : Splitter) (m : Marker) (code ending : Text) :
    (st.keep m code ending).current = st.current := by
  rw [keep]
  split <;> rfl

/-- A walk fails for want of a marker, and then it has changed nothing: behind its first step there
is a marker. -/
theorem walkInPlace_error {fault e : MapError} {st : Splitter} {tail : Text}
    (h : (walkInPlace fault st tail).1 = .error e) :
    st.current = none ∧ (walkInPlace fault st tail).2 = st := by
  fun_induction walkInPlace fault st tail with
  | case1 => cases h
  | case2 st tail hne hin hcur => exact ⟨hcur, rfl⟩
  | case3 => cases h
  | case4 st tail hne hin m hcur code rest hbreak _ ih =>
    have hkeep : (st.keep m code [';']).current = none := (ih h).1
    rw [keep_current, hcur] at hkeep
    cases hkeep
  | case5 => cases h
  | case6 st tail hne hin skipped rest hbreak _ hcur => exact ⟨hcur, rfl⟩
  | case7 st tail hne hin skipped rest hbreak _ m hcur ih =>
    have hnone : st.current = none := (ih h).1
    rw [hcur] at hnone
    cases hnone

theorem feed_eq_map (st : Splitter) (index : Nat) (line : Text) :
    st.feed index line = (st.feedInPlace index line).1.map fun _ =>
      (st.feedInPlace index line).2 := by
  unfold feed feedInPlace
  cases Marker.decode? line with
  | none => exact walk_eq_map _ st line
  | some q => exact walk_eq_map _ { st with current := some q.1 } q.2

/-- A line that fails has no marker, nor has any line in front of it, and it changes nothing. -/
theorem feedInPlace_error {st : Splitter} {index : Nat} {line : Text} {e : MapError}
    (h : (st.feedInPlace index line).1 = .error e) :
    st.lead line = none ∧ (st.feedInPlace index line).2 = st := by
  rw [lead_eq_none_iff]
  unfold feedInPlace at h ⊢
  cases hd : Marker.decode? line with
  | none =>
    rw [hd] at h
    obtain ⟨hcur, hstate⟩ := walkInPlace_error h
    exact ⟨⟨rfl, hcur⟩, hstate⟩
  | some q =>
    rw [hd] at h
    cases (walkInPlace_error h).1

/-! ## Lines that fail -/

/-- Takes in a line and stays as it was if the line fails. -/
def feedOn (st : Splitter) (index : Nat) (line : Text) : Splitter :=
  match st.feed index line with
  | .ok st' => st'
  | .error _ => st

/-- Takes in lines one after another, whether or not they fail. -/
def feedOnAll (st : Splitter) (index : Nat) : List Text → Splitter
  | [] => st
  | line :: lines => (st.feedOn index line).feedOnAll (index + 1) lines

/-- What a line leaves behind is known from `feed` alone. -/
theorem feedInPlace_eq (st : Splitter) (index : Nat) (line : Text) :
    st.feedInPlace index line = ((st.feed index line).map fun _ => (), st.feedOn index line) := by
  rw [feedOn, feed_eq_map]
  cases h : (st.feedInPlace index line).1 with
  | ok u => exact Prod.ext h rfl
  | error e => exact Prod.ext h (feedInPlace_error h).2

/-- Lines that do not fail are taken in as ever. -/
theorem feedOnAll_of_feedAll {st st' : Splitter} {index : Nat} {lines : List Text}
    (h : st.feedAll index lines = .ok st') : st.feedOnAll index lines = st' := by
  induction lines generalizing st index with
  | nil => exact Except.ok.inj h
  | cons line lines ih =>
    obtain ⟨mid, hfeed, hrest⟩ := feedAll_cons_eq_ok_iff.1 h
    rw [feedOnAll, feedOn, hfeed]
    exact ih hrest

/-- A line without a marker leaves nothing behind when there is no marker above it. -/
theorem feedOn_of_lead {st : Splitter} (hst : st.Marked) {line : Text} (h : st.lead line = none)
    (index : Nat) : st.feedOn index line = st := by
  rw [feedOn]
  cases hfeed : st.feed index line with
  | error e => rfl
  | ok st' => exact ((feed_eq_ok_iff hst h).1 hfeed).1

end Splitter

/-! ## The code that is kept -/

/-- Code as a code line holds it: not blank, trimmed, and without a closing tag. -/
structure Tidy (code : Text) : Prop where
  ne_nil : code ≠ []
  head : ∀ c, code.head? = some c → Text.isBlank c = false
  last : ∀ c, code.getLast? = some c → Text.isBlank c = false
  unclosed : ¬ codeClose <:+: code

theorem Tidy.strip {run : Text} (hne : Text.strip run ≠ []) (hrun : ¬ codeClose <:+: run) :
    Tidy (Text.strip run) where
  ne_nil := hne
  head _ := Text.isBlank_head?_strip
  last _ := Text.isBlank_getLast?_strip
  unclosed h := hrun (h.trans (Text.strip_infix_self run))

/-- The semicolon in place of a closing tag closes nothing. -/
theorem Tidy.semicolon {code : Text} (h : Tidy code) : Tidy (code ++ [';']) where
  ne_nil := List.append_ne_nil_of_left_ne_nil h.ne_nil _
  head c hc := by
    rw [List.head?_append, List.head?_eq_some_head h.ne_nil] at hc
    exact h.head c ((List.head?_eq_some_head h.ne_nil).trans hc)
  last c hc := by
    rw [List.getLast?_concat] at hc
    obtain rfl := Option.some.inj hc
    decide
  unclosed hclose := h.unclosed (Text.infix_of_infix_concat (p := ['?']) (by decide) hclose)

namespace Snippet

/-- A piece that is cut out of a run without closing tags is tidy. -/
theorem tidy_of_mem_cut {run rest : Text} {closed : Bool} {p : Snippet}
    (h : p ∈ cut run closed rest) (hrun : ¬ codeClose <:+: run) : Tidy p.text := by
  unfold cut at h
  split at h
  · cases h
  next hne =>
    obtain rfl := List.mem_singleton.1 h
    have htidy := Tidy.strip hne hrun
    cases closed with
    | true => exact htidy.semicolon
    | false =>
      show Tidy (Text.strip run ++ [])
      rwa [List.append_nil]

/-- The pieces of a line are tidy: no tag closes the runs that they are cut from. -/
theorem tidy_of_mem_scan {run : Option Text} {tail below : Text} {p : Snippet}
    (hrun : run.getD [] = []) (h : p ∈ scan run tail below) : Tidy p.text := by
  fun_induction scan run tail below with
  | case1 tail run hnone =>
    obtain rfl : run = [] := hrun
    exact tidy_of_mem_cut h (Text.breakOn?_eq_none_iff.1 hnone)
  | case2 tail run code rest hbreak _ ih =>
    obtain rfl : run = [] := hrun
    rcases List.mem_append.1 h with h | h
    · exact tidy_of_mem_cut h (Text.not_infix_of_breakOn? (by decide) hbreak)
    · exact ih rfl h
  | case3 => cases h
  | case4 tail skipped rest hbreak _ ih => exact ih rfl h

/-- A piece has a line feed only if the line has one. -/
theorem newline_not_mem_text {run : Option Text} {tail below : Text} {p : Snippet}
    (hrun : run.getD [] = []) (h : p ∈ scan run tail below) (htail : '\n' ∉ tail) :
    '\n' ∉ p.text := by
  obtain ⟨-, u, v, hpiece, -⟩ := mem_scan h
  rw [hrun, List.nil_append] at hpiece
  rw [text, List.mem_append]
  rintro (hmem | hmem)
  · rw [hpiece] at htail
    exact htail (by simp [hmem])
  · split at hmem
    · exact absurd hmem (by decide)
    · cases hmem

end Snippet

namespace Splitter

/-! ## One line more -/

/-- What holds of a splitter behind the lines `seen`. -/
structure Sound (seen : List Text) (st : Splitter) : Prop where
  marked : st.Marked
  current : st.current = Marker.lastOf seen
  tidy : ∀ c ∈ st.lines, Tidy c.code
  oneLine : (∀ line ∈ seen, '\n' ∉ line) → ∀ c ∈ st.lines, '\n' ∉ c.code

theorem Sound.lead {seen : List Text} {st : Splitter} (h : st.Sound seen) (line : Text) :
    st.lead line = Marker.lastOf (seen ++ [line]) := by
  rw [Splitter.lead, h.current, Marker.lastOf_append, Marker.lastOf_singleton]

/-- The code lines that a line adds stand behind those that are there. -/
theorem prefix_feedOn {st : Splitter} (hst : st.Marked) (index : Nat) (line : Text) :
    st.lines <+: (st.feedOn index line).lines := by
  cases hlead : st.lead line with
  | none => exact ⟨[], by rw [List.append_nil, feedOn_of_lead hst hlead]⟩
  | some m =>
    rw [feedOn, feed_eq st index line [] hlead]
    exact List.prefix_append _ _

/-- With no marker so far a line changes nothing, and it fails if code opens in it. -/
theorem feedInPlace_of_lead {st : Splitter} (hst : st.Marked) {line : Text}
    (h : st.lead line = none) (index : Nat) :
    st.feedInPlace index line =
      (if Text.breakOn? codeOpen line = none then .ok ()
        else .error (.missingMarker (index + 1) line), st) := by
  rw [feedInPlace_eq, feedOn_of_lead hst h]
  obtain ⟨hd, hcur⟩ := lead_eq_none_iff.1 h
  rw [feed, hd]
  dsimp only
  rw [walk, hst.outside hcur]
  dsimp only
  split
  next hbreak =>
    rw [if_pos hbreak]
    rfl
  next hbreak =>
    rw [if_neg (by rw [hbreak]; exact Option.some_ne_none _), hcur]
    rfl

/-- A state that is sound behind some lines is sound behind one more: its marker is the last one,
and the code lines that are added are tidy, and one line each. -/
theorem Sound.feedOn {seen : List Text} {st : Splitter} (h : st.Sound seen) (index : Nat)
    (line : Text) : (st.feedOn index line).Sound (seen ++ [line]) := by
  cases hlead : st.lead line with
  | none =>
    rw [feedOn_of_lead h.marked hlead]
    refine ⟨h.marked, ?_, h.tidy, fun hseen => h.oneLine fun l hl => ?_⟩
    · rw [← h.lead, hlead, (lead_eq_none_iff.1 hlead).2]
    · exact hseen l (List.mem_append_left _ hl)
  | some m =>
    rw [Splitter.feedOn, feed_eq st index line [] hlead]
    refine ⟨fun _ => rfl, by rw [← h.lead, hlead], fun c hc => ?tidy, fun hseen c hc => ?oneLine⟩
    case tidy =>
      rcases List.mem_append.1 hc with hc | hc
      · exact h.tidy c hc
      · obtain ⟨p, hp, rfl⟩ := List.mem_map.1 hc
        exact Snippet.tidy_of_mem_scan (Snippet.getD_start _) hp
    case oneLine =>
      rcases List.mem_append.1 hc with hc | hc
      · exact h.oneLine (fun l hl => hseen l (List.mem_append_left _ hl)) c hc
      · obtain ⟨p, hp, rfl⟩ := List.mem_map.1 hc
        refine Snippet.newline_not_mem_text (Snippet.getD_start _) hp fun hmem => ?_
        obtain ⟨comment, hline, -⟩ := Marker.exists_comment line
        refine hseen line (by simp) ?_
        rw [hline]
        exact List.mem_append_right _ hmem

/-- A line fails exactly if code opens in it before any marker was seen, and that is in markup. -/
theorem Sound.feedInPlace_eq_error_iff {seen : List Text} {st st' : Splitter} (h : st.Sound seen)
    {index : Nat} {line : Text} {e : MapError} :
    st.feedInPlace index line = (.error e, st') ↔
      (Marker.lastOf (seen ++ [line]) = none ∧ codeOpen <:+: line) ∧
        e = .missingMarker (index + 1) line ∧ st.insideCode = false ∧ st' = st := by
  cases hlead : st.lead line with
  | none =>
    have hin := h.marked.outside (lead_eq_none_iff.1 hlead).2
    rw [feedInPlace_of_lead h.marked hlead, ← h.lead, hlead, Prod.mk.injEq]
    by_cases hclosed : Text.breakOn? codeOpen line = none
    · rw [if_pos hclosed]
      constructor
      · rintro ⟨hok, -⟩
        cases hok
      · rintro ⟨⟨-, hopen⟩, -⟩
        exact absurd hopen (Text.breakOn?_eq_none_iff.1 hclosed)
    · have hopen : codeOpen <:+: line := not_not.1 fun hnot =>
        hclosed (Text.breakOn?_eq_none_iff.2 hnot)
      rw [if_neg hclosed, Except.error.injEq]
      exact ⟨fun ⟨he, hst'⟩ => ⟨⟨rfl, hopen⟩, he.symm, hin, hst'.symm⟩,
        fun ⟨_, he, _, hst'⟩ => ⟨he.symm, hst'.symm⟩⟩
  | some m =>
    rw [feedInPlace_eq, feed_eq st index line [] hlead, ← h.lead, hlead]
    constructor
    · intro herror
      cases (Prod.mk.inj herror).1
    · rintro ⟨⟨hnone, -⟩, -⟩
      cases hnone

/-! ## Any number of lines -/

/-- Takes in lines with their indices, each in the state that the one before it left behind. -/
def fed (st : Splitter) : List (Nat × Text) → Splitter
  | [] => st
  | (index, line) :: feeds => (st.feedInPlace index line).2.fed feeds

theorem fed_append (st : Splitter) (feeds more : List (Nat × Text)) :
    st.fed (feeds ++ more) = (st.fed feeds).fed more := by
  induction feeds generalizing st with
  | nil => rfl
  | cons f feeds ih => exact ih _

/-- A state that is sound behind some lines is sound behind all that are fed to it, by induction on
them. -/
theorem Sound.fed {seen : List Text} {st : Splitter} (h : st.Sound seen)
    (feeds : List (Nat × Text)) : (st.fed feeds).Sound (seen ++ feeds.map (·.2)) := by
  induction feeds generalizing seen st with
  | nil =>
    rw [List.map_nil, List.append_nil]
    exact h
  | cons f feeds ih =>
    have hnext := ih (h.feedOn f.1 f.2)
    rw [List.append_assoc] at hnext
    rw [Splitter.fed, feedInPlace_eq]
    exact hnext

theorem Sound.prefix_fed {seen : List Text} {st : Splitter} (h : st.Sound seen)
    (feeds : List (Nat × Text)) : st.lines <+: (st.fed feeds).lines := by
  induction feeds generalizing seen st with
  | nil => exact List.prefix_rfl
  | cons f feeds ih =>
    rw [Splitter.fed, feedInPlace_eq]
    exact (prefix_feedOn h.marked f.1 f.2).trans (ih (h.feedOn f.1 f.2))

theorem sound_init : ({} : Splitter).Sound [] where
  marked := marked_init
  current := rfl
  tidy c hc := by cases hc
  oneLine _ c hc := by cases hc

/-- **A splitter is consistent after any history of lines**, whether or not they failed. Inside
code a marker was seen; so a line fails only in markup, namely if code opens in it before any
marker was seen, and then it leaves the state as it was. No code line is changed or taken back by
the lines that follow. And each holds trimmed code that is not blank, without a closing tag, and
without a line feed if no line that was fed has one. -/
theorem fed_history (feeds : List (Nat × Text)) :
    let st := ({} : Splitter).fed feeds
    (∀ index line, st.feed index line = (st.feedInPlace index line).1.map fun _ =>
      (st.feedInPlace index line).2) ∧
    (st.current = Marker.lastOf (feeds.map (·.2)) ∧
      (st.insideCode = true → st.current.isSome = true)) ∧
    (∀ index line e st', st.feedInPlace index line = (.error e, st') ↔
      (Marker.lastOf (feeds.map (·.2) ++ [line]) = none ∧ codeOpen <:+: line) ∧
        e = .missingMarker (index + 1) line ∧ st.insideCode = false ∧ st' = st) ∧
    (∀ more, st.lines <+: (({} : Splitter).fed (feeds ++ more)).lines) ∧
    ∀ c ∈ st.lines, Tidy c.code ∧ ((∀ f ∈ feeds, '\n' ∉ f.2) → '\n' ∉ c.code) := by
  intro st
  have hsound : st.Sound (feeds.map (·.2)) := sound_init.fed feeds
  refine ⟨st.feed_eq_map, ⟨hsound.current, hsound.marked⟩,
    fun index line e st' => hsound.feedInPlace_eq_error_iff, fun more => ?kept,
    fun c hc => ⟨hsound.tidy c hc, fun hfeeds => ?oneLine⟩⟩
  case kept =>
    rw [fed_append]
    exact hsound.prefix_fed more
  case oneLine =>
    refine hsound.oneLine (fun line hline => ?_) c hc
    obtain ⟨f, hf, rfl⟩ := List.mem_map.1 hline
    exact hfeeds f hf

end Splitter

end TemplateTrace
