import TemplateTrace.Process.Command
import TemplateTrace.Proofs.Json.Compact
import TemplateTrace.Proofs.Marker.RoundTrip
import TemplateTrace.Proofs.Text.Lines
import TemplateTrace.Proofs.Text.Trimming

/-!
# Reports read back

A checker hands its diagnostics over as one JSON array, or as one JSON object per line; which of the
two a report is shows at its first character that is no blank. Whatever the messages say, line feeds,
brackets and quotes among it, either form reads back as the diagnostics that were written, and
neither blanks around the report and its lines nor blank lines change that.

- `Text.inked`: the lines that are not blank, trimmed.
- `Text.inked_lines_strip`, `Text.inked_endedLines`: they do not depend on how a text is trimmed and
  cut into lines.
- `Json.finiteLiteral_decimal`: a number of 64 bits is a finite one.
- `Origin.ofJson?_toJson`, `RawDiagnostic.ofJson?_toJson`: single values read back.
- `RawDiagnostic.Listed`: lines with one object each, and blanks.
- `RawDiagnostic.parseReport?_written`: both forms of a report read back.
-/

namespace TemplateTrace

/-! ## Lines that are not blank -/

namespace Text

/-- The lines that are not blank, trimmed. -/
def inked (ls : List Text) : List Text := (ls.map strip).filter (· ≠ [])

theorem inked_append (a b : List Text) : inked (a ++ b) = inked a ++ inked b := by
  rw [inked, List.map_append, List.filter_append]
  rfl

theorem inked_singleton_of_ne {l : Text} (h : strip l ≠ []) : inked [l] = [strip l] := by
  simp [inked, h]

/-- Only what is left of a line after trimming counts. -/
theorem inked_singleton_congr {l l' : Text} (h : strip l = strip l') : inked [l] = inked [l'] := by
  simp [inked, h]

theorem inked_eq_nil {ls : List Text} (h : ∀ l ∈ ls, ∀ c ∈ l, isBlank c = true) :
    inked ls = [] := by
  rw [inked, List.filter_eq_nil_iff]
  intro l' hl'
  obtain ⟨l, hl, rfl⟩ := List.mem_map.1 hl'
  simp [strip_eq_nil (h l hl)]

theorem mem_of_mem_lines {s l : Text} {c : Char} (hl : l ∈ lines s) (hc : c ∈ l) : c ∈ s := by
  obtain ⟨before, behind, hs⟩ := List.append_of_mem hl
  rw [eq_above_append hs]
  simp [hc]

section Blanks

variable {b : Text} (hb : ∀ c ∈ b, isBlank c = true) (s : Text)
include hb

theorem blank_lines : ∀ l ∈ lines b, ∀ c ∈ l, isBlank c = true :=
  fun _ hl c hc => hb c (mem_of_mem_lines hl hc)

/-- Blanks behind a text add no line that is not blank. -/
theorem inked_lines_append_blanks : inked (lines (s ++ b)) = inked (lines s) := by
  have hlines := blank_lines hb
  have hjoint : strip (lastLine s ++ firstLine b) = strip (lastLine s) := by
    refine strip_append_right (hlines _ ?_) (lastLine s)
    rw [← firstLine_cons_tail_lines b]
    exact List.mem_cons_self
  have htail : inked (lines b).tail = [] :=
    inked_eq_nil fun l hl => hlines l (List.mem_of_mem_tail hl)
  calc inked (lines (s ++ b))
      = inked (lines s).dropLast ++ (inked [lastLine s ++ firstLine b] ++
          inked (lines b).tail) := by
        rw [lines_append, inked_append, ← List.singleton_append, inked_append]
    _ = inked (lines s).dropLast ++ inked [lastLine s] := by
        rw [htail, List.append_nil, inked_singleton_congr hjoint]
    _ = inked (lines s) := by
        rw [← inked_append, dropLast_lines_append_lastLine]

/-- Blanks in front of a text add no line that is not blank. -/
theorem inked_lines_blanks_append : inked (lines (b ++ s)) = inked (lines s) := by
  have hlines := blank_lines hb
  have hjoint : strip (lastLine b ++ firstLine s) = strip (firstLine s) := by
    refine strip_append_left (hlines _ ?_) (firstLine s)
    rw [← dropLast_lines_append_lastLine b]
    exact List.mem_append_right _ (List.mem_singleton_self _)
  have hfront : inked (lines b).dropLast = [] :=
    inked_eq_nil fun l hl => hlines l ((List.dropLast_sublist _).subset hl)
  calc inked (lines (b ++ s))
      = inked (lines b).dropLast ++ (inked [lastLine b ++ firstLine s] ++
          inked (lines s).tail) := by
        rw [lines_append, inked_append, ← List.singleton_append, inked_append]
    _ = inked [firstLine s] ++ inked (lines s).tail := by
        rw [hfront, List.nil_append, inked_singleton_congr hjoint]
    _ = inked (lines s) := by
        rw [← inked_append, List.singleton_append, firstLine_cons_tail_lines]

end Blanks

theorem inked_lines_strip (s : Text) : inked (lines (strip s)) = inked (lines s) := by
  obtain ⟨b, b', hs, hb, hb'⟩ := exists_strip s
  conv => rhs; rw [hs]
  rw [inked_lines_append_blanks hb', inked_lines_blanks_append hb]

/-- A carriage return at the end of a line is a blank, and an empty last line is a blank one. -/
theorem inked_endedLines (s : Text) : inked (endedLines s) = inked (lines s) := by
  have hreturn : ∀ l : Text, strip (dropReturn l) = strip l := by
    intro l
    rw [dropReturn]
    split
    next h =>
      obtain ⟨a, rfl⟩ := List.getLast?_eq_some_iff.1 h
      have hblank : ∀ c ∈ ['\r'], isBlank c = true := by
        intro c hc
        rw [List.mem_singleton.1 hc]
        decide
      rw [List.dropLast_concat, strip_append_right hblank]
    · rfl
  have hfront : inked ((lines s).dropLast.map dropReturn) = inked (lines s).dropLast := by
    rw [inked, inked, List.map_map]
    congr 1
    exact List.map_congr_left fun l _ => hreturn l
  have hlast : inked (if lastLine s = [] then [] else [lastLine s]) = inked [lastLine s] := by
    split
    next h => rw [h]; rfl
    · rfl
  calc inked (endedLines s)
      = inked ((lines s).dropLast.map dropReturn) ++
          inked (if lastLine s = [] then [] else [lastLine s]) := inked_append _ _
    _ = inked (lines s) := by
        rw [hfront, hlast, ← inked_append, dropLast_lines_append_lastLine]

theorem head?_strip_cons {c : Char} (hc : isBlank c = false) (s : Text) :
    (strip (c :: s)).head? = some c := by
  obtain ⟨b, b', hs, hb, -⟩ := exists_strip (c :: s)
  have hne := strip_ne_nil (s := c :: s) List.mem_cons_self hc
  cases b with
  | nil =>
    cases ht : strip (c :: s) with
    | nil => exact absurd ht hne
    | cons d t =>
      rw [ht] at hs
      exact congrArg some (List.cons.inj hs).1.symm
  | cons d b =>
    obtain ⟨rfl, -⟩ := List.cons.inj hs
    rw [hb c List.mem_cons_self] at hc
    cases hc

/-- A text starts, blanks apart, as its first line that is not blank does. -/
theorem head?_strip (s : Text) : (strip s).head? = (inked (lines s)).head?.bind List.head? := by
  rw [← inked_lines_strip]
  cases hs : strip s with
  | nil => rfl
  | cons c t =>
    have hc : isBlank c = false := isBlank_head?_strip (s := s) (by rw [hs]; rfl)
    have hbreak : c ≠ '\n' := by
      rintro rfl
      cases hc
    have hhead := head?_strip_cons hc (firstLine t)
    have hne : strip (c :: firstLine t) ≠ [] := fun hnil => by
      rw [hnil] at hhead
      cases hhead
    have hlines : lines (c :: t) = [c :: firstLine t] ++ (lines t).tail :=
      splitOn_cons_ne hbreak t
    rw [hlines, inked_append, inked_singleton_of_ne hne]
    exact hhead.symm

end Text

/-! ## Values that are kept whole -/

namespace Json

theorem le_appendDigits (m : Nat) (ds : Text) : m ≤ Text.appendDigits m ds := by
  induction ds generalizing m with
  | nil => exact Nat.le_refl m
  | cons c ds ih =>
    have hnext : m ≤ m * 10 + Text.digitValue c := by omega
    exact hnext.trans (ih _)

/-- No digit of a number of 64 bits is left over. -/
theorem leadingDigits_eq {m : Nat} {ds : Text} (h : Text.appendDigits m ds < UInt64.size) :
    leadingDigits m ds = (Text.appendDigits m ds, 0) := by
  induction ds generalizing m with
  | nil => rfl
  | cons c ds ih =>
    have hnext : m * 10 + Text.digitValue c < UInt64.size := (le_appendDigits _ ds).trans_lt h
    show (if m * 10 + Text.digitValue c < UInt64.size then leadingDigits _ ds else _) = _
    rw [if_pos hnext]
    exact ih h

theorem fitsDouble_of_nonpos {e : Int} (h : e ≤ 0) (m : Nat) : fitsDouble m e = true := by
  rw [fitsDouble, decide_eq_true h, Bool.or_true, Bool.true_or]

/-- A 64-bit number in digits is finite as a floating-point number. -/
theorem finiteLiteral_decimal {n : Nat} (h : n < UInt64.size) :
    finiteLiteral (Text.decimal n) = true := by
  obtain ⟨htake, hdrop⟩ := takeWhile_isDigit_decimal (n := n) (r := []) (by simp)
  rw [List.append_nil] at htake hdrop
  have hsign : (Text.decimal n).head? ≠ some '-' := by
    intro hhead
    have hdigit := Text.isDigit_of_mem_decimal (List.mem_of_head? hhead)
    exact absurd hdigit (by decide)
  have hdigits : leadingDigits 0 (Text.decimal n) = (Text.appendDigits 0 (Text.decimal n), 0) :=
    leadingDigits_eq (by rwa [Text.appendDigits_decimal])
  simp [finiteLiteral, hsign, htake, hdrop, hdigits, leadingDigits, fitsDouble_of_nonpos]

theorem finiteLiteral_word32 (n : UInt32) : finiteLiteral (Text.decimal n.toNat) = true :=
  finiteLiteral_decimal (n.toNat_lt_size.trans (by decide))

end Json

theorem Frame.toJson_kept (f : Frame) : f.toJson.depth = 1 ∧ f.toJson.wellValued = true := by
  have hline := Json.finiteLiteral_word32 f.line
  obtain ⟨file, line, name⟩ := f
  have hname : (Json.ofText? name).depth = 0 ∧ (Json.ofText? name).wellValued = true := by
    cases name <;> exact ⟨rfl, rfl⟩
  simp [toJson, Json.depth, Json.depthFields, Json.wellValued, Json.wellValuedFields, hline, hname]

/-- The JSON of a stack is shallow, and its numbers are in range. -/
theorem stackToJson_kept (stack : List Frame) :
    (stackToJson stack).depth ≤ 2 ∧ (stackToJson stack).wellValued = true := by
  show Json.depthItems (stack.map Frame.toJson) + 1 ≤ 2 ∧
    Json.wellValuedItems (stack.map Frame.toJson) = true
  induction stack with
  | nil => exact ⟨by decide, rfl⟩
  | cons f stack ih =>
    obtain ⟨hdepth, hvalued⟩ := f.toJson_kept
    rw [List.map_cons, Json.depthItems, Json.wellValuedItems, hdepth, hvalued]
    exact ⟨by omega, ih.2⟩

/-! ## Single diagnostics -/

/-- A marker is read back from the fields that it writes. -/
theorem Marker.ofJson?_jsonFields (m : Marker) : Marker.ofJson? (.object m.jsonFields) = some m := by
  have hrecord : Json.record? ["template_name".toList, "template_path".toList, "line".toList,
      "stack".toList] (.object m.jsonFields) =
        some [some (.string m.template), some (.string m.path), some (.nat m.line.toNat),
          some (stackToJson m.stack)] := rfl
  simp only [Marker.ofJson?, hrecord, Json.toText?, Json.word32?_toNat, stackOfJson?_stackToJson,
    Option.bind_eq_bind, Option.bind_some]
  rfl

namespace Origin

theorem plain_toJson (o : Origin) : o.toJson.plain = true := by
  cases o with
  | pending => rfl
  | resolved m =>
    show Json.plainFields (("kind".toList, .string "resolved".toList) :: m.jsonFields) = true
    simp [Marker.jsonFields, Json.plainFields, Json.plain, plain_stackToJson]

/-- The JSON of an origin is shallow, and its numbers are in range. -/
theorem toJson_kept (o : Origin) : o.toJson.depth ≤ 3 ∧ o.toJson.wellValued = true := by
  cases o with
  | pending => exact ⟨by decide, rfl⟩
  | resolved m =>
    have hline := Json.finiteLiteral_word32 m.line
    obtain ⟨hdepth, hvalued⟩ := stackToJson_kept m.stack
    constructor
    · simp only [toJson, Marker.jsonFields, Json.depth, Json.depthFields]
      omega
    · simp [toJson, Marker.jsonFields, Json.wellValued, Json.wellValuedFields, hline, hvalued]

/-- An origin reads back where three levels of nesting are left for it. -/
theorem ofJson?_toJson {room : Nat} (hroom : 3 ≤ room) (o : Origin) :
    ofJson? room o.toJson = some o := by
  obtain ⟨hdepth, hvalued⟩ := o.toJson_kept
  unfold ofJson?
  rw [if_pos ⟨hvalued, hdepth.trans hroom⟩]
  cases o with
  | pending => rfl
  | resolved m =>
    show (Marker.ofJson? (.object m.jsonFields)).map resolved = _
    rw [Marker.ofJson?_jsonFields]
    rfl

end Origin

namespace RawDiagnostic

theorem plain_toJson (d : RawDiagnostic) : d.toJson.plain = true := by
  have hidentifier : (Json.ofText? d.identifier).plain = true := by
    cases d.identifier <;> rfl
  simp [toJson, Json.plain, Json.plainFields, hidentifier, d.origin.plain_toJson]

/-- A diagnostic that is written as JSON is read back. -/
theorem ofJson?_toJson {room : Nat} (hroom : 3 ≤ room) (d : RawDiagnostic) :
    ofJson? room d.toJson = some d := by
  have hrecord : Json.record? ["message".toList, "line".toList, "identifier".toList,
      "origin".toList] d.toJson = some [some (.string d.message), some (.nat d.line.toNat),
        some (Json.ofText? d.identifier), some d.origin.toJson] := rfl
  simp only [ofJson?, hrecord, Json.toText?, Json.word32?_toNat, Json.optionalText?_ofText?,
    Fields.orElse?, Origin.ofJson?_toJson hroom, Option.bind_eq_bind, Option.bind_some]
  rfl

/-- A diagnostic as one line of a report. -/
def written (d : RawDiagnostic) : Text := d.toJson.compact

theorem strip_written (d : RawDiagnostic) : Text.strip d.written = d.written :=
  Text.strip_enclosed (a := '\x7b') (c := '\x7d') (by decide) (by decide) _

theorem written_ne_nil (d : RawDiagnostic) : d.written ≠ [] := List.cons_ne_nil _ _

theorem not_mem_newline_written (d : RawDiagnostic) : '\n' ∉ d.written :=
  Json.not_mem_newline_compact _ d.plain_toJson

/-! ## Reports -/

/-- Lines with one diagnostic each, in order, blanks around them, and blank lines among them. -/
inductive Listed : List RawDiagnostic → List Text → Prop where
  | nil : Listed [] []
  | blank {b : Text} {ds : List RawDiagnostic} {lines : List Text}
      (hb : ∀ c ∈ b, Text.isBlank c = true) : Listed ds lines → Listed ds (b :: lines)
  | object {b b' : Text} {ds : List RawDiagnostic} {lines : List Text} (d : RawDiagnostic)
      (hb : ∀ c ∈ b, Text.isBlank c = true) (hb' : ∀ c ∈ b', Text.isBlank c = true) :
      Listed ds lines → Listed (d :: ds) ((b ++ (d.written ++ b')) :: lines)

/-- The lines of a report that are not blank are those of its diagnostics, in order. -/
theorem Listed.inked {ds : List RawDiagnostic} {lines : List Text} (h : Listed ds lines) :
    Text.inked lines = ds.map written := by
  induction h with
  | nil => rfl
  | @blank b ds lines hb _ ih =>
    have hfront : Text.inked [b] = [] := Text.inked_eq_nil (by simpa using hb)
    rw [← List.singleton_append, Text.inked_append, hfront, ih, List.nil_append]
  | @object b b' ds lines d hb hb' _ ih =>
    have hline : Text.strip (b ++ (d.written ++ b')) = d.written := by
      rw [Text.strip_append_blanks hb hb', strip_written]
    have hfront : Text.inked [b ++ (d.written ++ b')] = [d.written] := by
      rw [Text.inked_singleton_of_ne (by rw [hline]; exact d.written_ne_nil), hline]
    rw [← List.singleton_append, Text.inked_append, hfront, ih]
    rfl

/-- Diagnostics on lines of their own, with nothing else in the report. -/
theorem listed_written (ds : List RawDiagnostic) : Listed ds (ds.map written) := by
  induction ds with
  | nil => exact .nil
  | cons d ds ih =>
    have hline : Listed (d :: ds) (([] ++ (d.written ++ [])) :: ds.map written) :=
      .object d (by simp) (by simp) ih
    rwa [List.nil_append, List.append_nil] at hline

/-- An array of diagnostics reads back, with blanks around it or without. -/
theorem parseReport?_array {b b' : Text} (hb : ∀ c ∈ b, Text.isBlank c = true)
    (hb' : ∀ c ∈ b', Text.isBlank c = true) (ds : List RawDiagnostic) :
    parseReport? (b ++ ((Json.array (ds.map toJson)).compact ++ b')) = some ds := by
  have hstrip : Text.strip (b ++ ((Json.array (ds.map toJson)).compact ++ b')) =
      (Json.array (ds.map toJson)).compact := by
    rw [Text.strip_append_blanks hb hb']
    exact Text.strip_enclosed (a := '[') (c := ']') (by decide) (by decide) _
  have hhead : (Json.array (ds.map toJson)).compact.head? = some '[' := rfl
  have hread : Json.parse? (Json.array (ds.map toJson)).compact =
      some (.array (ds.map toJson)) := Json.parse?_compact (Json.plainItems_map plain_toJson ds)
  rw [parseReport?, hstrip, if_pos hhead, hread]
  exact mapM_map_eq_some (ofJson?_toJson (by decide)) ds

/-- Lines with one diagnostic each read back. -/
theorem parseReport?_lines {report : Text} {ds : List RawDiagnostic}
    (h : Listed ds (Text.lines report)) : parseReport? report = some ds := by
  have hhead : (Text.strip report).head? ≠ some '[' := by
    rw [Text.head?_strip, h.inked]
    cases ds with
    | nil => exact fun hnone => by cases hnone
    | cons d ds =>
      have hbrace : d.written.head? = some '\x7b' := rfl
      show d.written.head? ≠ some '['
      rw [hbrace]
      decide
  have hinked : Text.inked (Text.endedLines (Text.strip report)) = ds.map written := by
    rw [Text.inked_endedLines, Text.inked_lines_strip, h.inked]
  rw [parseReport?, if_neg hhead]
  show (Text.inked (Text.endedLines (Text.strip report))).mapM _ = some ds
  rw [hinked]
  refine mapM_map_eq_some (fun d => ?_) ds
  rw [written, Json.parse?_compact d.plain_toJson]
  exact ofJson?_toJson (by decide) d

/-- **A report reads back as the diagnostics that were written**, in order and none dropped: from
one JSON array with any blanks around it, from one JSON object per line, and from any lines of which
each is blank or is such an object with blanks around it. -/
theorem parseReport?_written (ds : List RawDiagnostic) :
    (∀ b b' : Text, (∀ c ∈ b ++ b', Text.isBlank c = true) →
      parseReport? (b ++ ((Json.array (ds.map toJson)).compact ++ b')) = some ds) ∧
    parseReport? (Text.joinWith ['\n'] (ds.map written)) = some ds ∧
    ∀ report, Listed ds (Text.lines report) → parseReport? report = some ds := by
  refine ⟨fun b b' hblank => ?array, ?lines, fun report h => parseReport?_lines h⟩
  case array =>
    exact parseReport?_array (fun c hc => hblank c (List.mem_append_left _ hc))
      (fun c hc => hblank c (List.mem_append_right _ hc)) ds
  case lines =>
    cases ds with
    | nil => rfl
    | cons d ds =>
      refine parseReport?_lines ?_
      have hlines : Text.lines (Text.joinWith ['\n'] ((d :: ds).map written)) =
          (d :: ds).map written := by
        refine Text.lines_joinWith (List.cons_ne_nil _ _) fun l hl => ?_
        obtain ⟨d', -, rfl⟩ := List.mem_map.1 hl
        exact d'.not_mem_newline_written
      rw [hlines]
      exact listed_written _

/-- A message may say what a report is made of. -/
example :
    let d : RawDiagnostic := ⟨"]\n[\"".toList, 3, none, .resolved ⟨['t'], ['p'], 1, []⟩⟩
    parseReport? ("\n\t".toList ++ d.written ++ "\r\n \n".toList ++ d.written) = some [d, d] := by
  decide +kernel

end RawDiagnostic

end TemplateTrace
