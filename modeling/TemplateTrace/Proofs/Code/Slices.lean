import TemplateTrace.Proofs.Code.Feeding
import TemplateTrace.Proofs.Marker.Tags
import TemplateTrace.Proofs.Text.Offsets

/-!
# Lines and markers by byte offsets

Compiled code is read line by line, and each line is sliced: behind its marker, at the tags that
open and close code, and around the markers that are left out. The readers stand here with these
slices made by byte offsets, and they read the same.

- `Marker.decodeByOffset?`, `lastMarkerByOffset?`: the marker of a line, and of a place.
- `stripByOffset`: a text without its markers, put together from slices.
- `Splitter.walkRound`, `Splitter.feedByOffset`: a line, from tag to tag.
- `CodeLine.splitByOffset_eq`: the code lines of a compiled text.
-/

namespace TemplateTrace

/-! ## Markers -/

/-- A comment stands in front of what its reader leaves. -/
theorem Marker.exists_of_shape? {s r : Text} {p : Shape} (h : shape? s = some (p, r)) :
    ∃ w, w ≠ [] ∧ s = w ++ r := by
  obtain ⟨v, hs, -⟩ := shape?_local h
  exact ⟨v ++ " */".toList, by simp, hs⟩

/-- The marker at the start of a line, and the line sliced behind it. -/
def Marker.decodeByOffset? (line : Text) : Checked (Option (Marker × Text)) :=
  match shape? line with
  | none => return none
  | some (shape, rest) =>
    match shape.marker? with
    | none => return none
    | some marker => do return some (marker, ← line.sliceFrom (Text.bytes line - Text.bytes rest))

/-- Decoding a marker by offsets is decoding it: the comment ends at the end of a character. -/
theorem Marker.decodeByOffset?_eq (line : Text) : decodeByOffset? line = .ok (decode? line) := by
  unfold decodeByOffset? decode?
  cases hshape : shape? line with
  | none => rfl
  | some found =>
    obtain ⟨shape, rest⟩ := found
    obtain ⟨w, -, hline⟩ := exists_of_shape? hshape
    have hrest : line.sliceFrom (Text.bytes line - Text.bytes rest) = .ok rest := by
      have hcut : line.Cuts (Text.bytes line - Text.bytes rest) w rest :=
        ⟨hline, by rw [hline, Text.bytes_append, Nat.add_sub_cancel]⟩
      exact hcut.sliceFrom
    cases hmarker : shape.marker? with
    | none => simp [hmarker, Checked.pure_eq]
    | some marker =>
      simp only [hrest, hmarker, Checked.ok_bind, Checked.pure_eq, Option.bind_eq_bind,
        Option.bind_some, Option.pure_def]

/-- The marker that governs the place at a byte offset. -/
def lastMarkerByOffset? (s : Text) (i : Nat) : Checked (Option Marker) := do
  let front ← s.sliceTo i
  (Text.lines front).reverse.findSomeM? fun line => do
    return (← Marker.decodeByOffset? line).map (·.1)

/-- Looking for the marker above an offset is looking for the last one of the text in front of it.
-/
theorem Text.Cuts.lastMarkerByOffset? {s a b : Text} {i : Nat} (h : s.Cuts i a b) :
    lastMarkerByOffset? s i = .ok (lastMarker? a) := by
  rw [TemplateTrace.lastMarkerByOffset?, h.sliceTo]
  show (Text.lines a).reverse.findSomeM? _ = _
  rw [lastMarker?]
  induction (Text.lines a).reverse with
  | nil => rfl
  | cons line lines ih =>
    rw [List.findSomeM?, List.findSome?, Marker.decodeByOffset?_eq]
    cases hdecode : Marker.decode? line with
    | none => exact ih
    | some found => rfl

/-! ## A text without its markers -/

/-- One round of leaving markers out: the text up to the next one is kept. The state is the text
that was kept, and the offset behind the last marker. -/
def stripRound (s : Text) (st : Text × Nat) : Checked (Round (Text × Nat) Text) := do
  match ← s.matchFrom (fun _ t => Marker.shape? t) (·.2) st.2 with
  | none => return .done (st.1 ++ (← s.sliceFrom st.2))
  | some found => return .again (st.1 ++ (← s.slice st.2 found.start), found.stop)

/-- A text without its markers, put together from slices. -/
def stripByOffset (s : Text) : Checked Text :=
  Checked.loop (fun st => Text.bytes s - st.2) (stripRound s) ([], 0)

/-- A text without marker comments is left as it is. -/
theorem stripMarkers_of_search_none {prev : Option Char} {s : Text}
    (h : Text.search (fun _ t => Marker.shape? t) prev s = none) : stripMarkers s = s := by
  induction s generalizing prev with
  | nil => exact stripMarkers_nil
  | cons c s ih =>
    rw [Text.search] at h
    split at h
    · cases h
    next hshape => rw [stripMarkers_cons hshape, ih (Option.map_eq_none_iff.1 h)]

/-- The next comment is taken out, and those behind it in the rest. -/
theorem stripMarkers_of_search {prev : Option Char} {s before r : Text} {p : Marker.Shape}
    (h : Text.search (fun _ t => Marker.shape? t) prev s = some (before, p, r)) :
    stripMarkers s = before ++ stripMarkers r := by
  induction s generalizing prev before with
  | nil =>
    obtain ⟨found, hshape, heq⟩ := Option.map_eq_some_iff.1 h
    cases heq
    rw [stripMarkers_of_shape? hshape, List.nil_append]
  | cons c s ih =>
    rw [Text.search] at h
    split at h
    next hshape =>
      cases h
      rw [stripMarkers_of_shape? hshape, List.nil_append]
    next hshape =>
      obtain ⟨⟨before', found⟩, hfound, heq⟩ := Option.map_eq_some_iff.1 h
      cases heq
      rw [stripMarkers_cons hshape, ih hfound, List.cons_append]

/-- The rounds that take markers out by offsets approach the text without markers: each round passes
the next comment, and what is left gets shorter. -/
theorem approaches_stripRound (s : Text) :
    Approaches (fun st => Text.bytes s - st.2) (stripRound s)
      fun st out => ∃ a b, s.Cuts st.2 a b ∧ out = st.1 ++ stripMarkers b := by
  rintro ⟨kept, i⟩ _ ⟨a, b, hpos, rfl⟩
  replace hpos : s.Cuts i a b := hpos
  cases hsearch : Text.search (fun _ t => Marker.shape? t) (Text.lastOr none a) b with
  | none =>
    left
    simp only [stripRound, hpos.matchFrom_eq_none hsearch, hpos.sliceFrom,
      stripMarkers_of_search_none hsearch, Checked.ok_bind, Checked.pure_eq]
  | some found =>
    obtain ⟨before, shape, r⟩ := found
    right
    obtain ⟨_, t, rfl, hshape⟩ := Text.search_eq_some hsearch
    obtain ⟨w, hw, rfl⟩ := Marker.exists_of_shape? hshape
    obtain ⟨start, stop, hmatch, hstart, hstop⟩ := hpos.exists_match (·.2) hsearch rfl
    refine ⟨(kept ++ before, stop), ?_, ?_, _, _, hstop, ?_⟩
    · simp only [stripRound, hmatch, hpos.slice hstart, Checked.ok_bind, Checked.pure_eq]
    · dsimp only
      rw [hpos.bytes_sub, hstop.bytes_sub, ← List.append_assoc]
      exact Text.bytes_lt_append (by simp [hw]) r
    · rw [stripMarkers_of_search hsearch, List.append_assoc]

theorem stripByOffset_eq (s : Text) : stripByOffset s = .ok (stripMarkers s) :=
  (approaches_stripRound s).loop_eq ⟨[], s, .start s, rfl⟩

/-! ## Compiled lines -/

/-- The byte offset of the first occurrence of a part cuts the text in front of it. -/
theorem Text.offsetOf?_eq_some {p s a b : Text} (h : breakOn? p s = some (a, b)) :
    offsetOf? p s = some (bytes a) ∧ s.Cuts (bytes a) a (p ++ b) ∧
      s.Cuts (bytes a + bytes p) (a ++ p) b := by
  have hs : s.Cuts (bytes a) a (p ++ b) :=
    ⟨by rw [breakOn?_eq_some h, List.append_assoc], rfl⟩
  exact ⟨by rw [offsetOf?, h]; rfl, hs, hs.past⟩

namespace Splitter

/-- One round of walking over the rest of a line: up to the next tag. -/
def walkRound (fault : MapError) (c : Splitter × Text) :
    Checked (Round (Splitter × Text) (Except MapError Splitter)) :=
  let (st, tail) := c
  if tail = [] then return .done (.ok st)
  else match st.insideCode with
  | true =>
    match st.current with
    | none => return .done (.error fault)
    | some marker =>
      match Text.offsetOf? codeClose tail with
      | none => return .done (.ok (st.keep marker tail []))
      | some i => do
        let code ← tail.sliceTo i
        let rest ← tail.sliceFrom (i + Text.bytes codeClose)
        return .again ({ st.keep marker code [';'] with insideCode := false }, rest)
  | false =>
    match Text.offsetOf? codeOpen tail with
    | none => return .done (.ok st)
    | some i =>
      match st.current with
      | none => return .done (.error fault)
      | some _ => do
        let rest ← tail.sliceFrom (i + Text.bytes codeOpen)
        return .again ({ st with insideCode := true }, rest)

/-- The rounds that walk over a line by offsets approach the walk: each round passes a tag, and what
is left gets shorter. -/
theorem approaches_walkRound (fault : MapError) :
    Approaches (fun c => Text.bytes c.2) (walkRound fault)
      fun c answer => answer = walk fault c.1 c.2 := by
  rintro ⟨st, tail⟩ _ rfl
  rw [walk_eq_map]
  have hnone : ∀ {p : Text}, Text.breakOn? p tail = none → Text.offsetOf? p tail = none := by
    intro p hp
    rw [Text.offsetOf?, hp]
    rfl
  fun_cases walkInPlace fault st tail with
  | case1 htail =>
    -- the end of the line
    left
    rw [walkRound, if_pos htail]
    rfl
  | case2 hne hin hcur =>
    left
    simp only [walkRound, if_neg hne, hin, hcur]
    rfl
  | case3 hne hin marker hcur hbreak =>
    -- no tag closes the run, which goes on below the line
    left
    simp only [walkRound, if_neg hne, hin, hcur, hnone hbreak]
    rfl
  | case4 hne hin marker hcur code rest hbreak =>
    -- the run is closed, and the walk goes on behind the tag
    right
    obtain ⟨hoffset, hcode, hrest⟩ := Text.offsetOf?_eq_some hbreak
    refine ⟨(_, rest), ?_, ?_, (walk_eq_map _ _ _).symm⟩
    · simp only [walkRound, if_neg hne, hin, hcur, hoffset, hcode.sliceTo, hrest.sliceFrom,
        Checked.ok_bind, Checked.pure_eq]
    · rw [hrest.text_eq]
      exact Text.bytes_lt_append (by simp [codeClose]) rest
  | case5 hne hin hbreak =>
    -- no tag opens: the rest is markup
    left
    simp only [walkRound, if_neg hne, hin, hnone hbreak]
    rfl
  | case6 hne hin skipped rest hbreak _ hcur =>
    -- a tag opens in front of any marker, which is the fault
    left
    simp only [walkRound, if_neg hne, hin, hcur, (Text.offsetOf?_eq_some hbreak).1]
    rfl
  | case7 hne hin skipped rest hbreak _ marker hcur =>
    -- a tag opens, and the walk goes on behind it
    right
    obtain ⟨hoffset, -, hrest⟩ := Text.offsetOf?_eq_some hbreak
    refine ⟨(_, rest), ?_, ?_, (walk_eq_map _ _ _).symm⟩
    · simp only [walkRound, if_neg hne, hin, hcur, hoffset, hrest.sliceFrom, Checked.ok_bind,
        Checked.pure_eq]
    · rw [hrest.text_eq]
      exact Text.bytes_lt_append (by simp [codeOpen]) rest

/-- Takes in one compiled line, sliced at its marker and its tags. -/
def feedByOffset (st : Splitter) (index : Nat) (line : Text) :
    Checked (Except MapError Splitter) := do
  let walk := Checked.loop (fun c => Text.bytes c.2) (walkRound (.missingMarker (index + 1) line))
  match ← Marker.decodeByOffset? line with
  | some (marker, rest) => walk ({ st with current := some marker }, rest)
  | none => walk (st, line)

theorem feedByOffset_eq (st : Splitter) (index : Nat) (line : Text) :
    st.feedByOffset index line = .ok (st.feed index line) := by
  rw [feedByOffset, Marker.decodeByOffset?_eq, feed]
  cases Marker.decode? line with
  | none => exact (approaches_walkRound _).loop_eq rfl
  | some found => exact (approaches_walkRound _).loop_eq rfl

/-- Takes in lines one after another. -/
def feedAllByOffset (st : Splitter) (index : Nat) : List Text → Checked (Except MapError Splitter)
  | [] => return .ok st
  | line :: lines => do
    match ← st.feedByOffset index line with
    | .error e => return .error e
    | .ok st => st.feedAllByOffset (index + 1) lines

/-- Feeding lines by offsets is feeding them, by induction on the lines. -/
theorem feedAllByOffset_eq (st : Splitter) (index : Nat) (lines : List Text) :
    st.feedAllByOffset index lines = .ok (st.feedAll index lines) := by
  induction lines generalizing st index with
  | nil => rfl
  | cons line lines ih =>
    rw [feedAllByOffset, feedByOffset_eq, feedAll]
    cases st.feed index line with
    | error e => rfl
    | ok st => exact ih st (index + 1)

end Splitter

/-- The code lines of a compiled text, sliced from its lines. -/
def CodeLine.splitByOffset (compiled : Text) : Checked (Except MapError (List CodeLine)) := do
  return (← ({} : Splitter).feedAllByOffset 0 (Text.lines compiled)).map (·.lines)

theorem CodeLine.splitByOffset_eq (compiled : Text) :
    splitByOffset compiled = .ok (split compiled) := by
  rw [splitByOffset, Splitter.feedAllByOffset_eq]
  rfl

end TemplateTrace
