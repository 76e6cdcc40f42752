import TemplateTrace.Include.Expansion
import TemplateTrace.Proofs.Code.Rest
import TemplateTrace.Proofs.Include.Statements
import TemplateTrace.Proofs.Marker.Leading
import TemplateTrace.Proofs.Marker.RoundTrip

/-!
# One step of expansion

Expansion finds a call, puts its replacement in its place and goes on in front of the replacement.
What a call is, what can stand in its place and what a step does are said here once.

- `IncludeSite.find_eq_some_iff`: what is read when a call is found.
- `IncludeSite.find_spec`: a call and the texts around it are the text that was searched.
- `Expander.replacement`, `Expander.expand_succ`: a step, by what replaces the call.
- `Expander.lines_enclosed`, `Expander.mem_lines_enclosed`, `Expander.lastLine_enclosed`: the lines
  around a fragment, and the line behind it.
-/

namespace TemplateTrace

namespace IncludeSite

theorem head_eq : head = head.dropLast ++ [.word "(".toList] := rfl

theorem tail_eq : tail = tail.dropLast ++ [.word ";".toList] := rfl

/-- What is read when a call is found. -/
theorem find_eq_some_iff {prev : Option Char} {s : Text} {site : IncludeSite} :
    find prev s = .ok (some site) ↔ ∃ arguments inner after,
      Text.search head.wordRest? prev s = some (site.before, arguments) ∧
      Code.enclosed? ('(' :: arguments) = some (inner, after) ∧
      tail.rest? after = some site.rest ∧
      IncludeCall.ofArguments (stripMarkers inner) = .ok site.call ∧
      site.text = Text.upTo (s.drop site.before.length) site.rest := by
  constructor
  · intro h
    unfold find at h
    split at h
    · cases h
    next before arguments hsearch =>
    dsimp only at h
    split at h
    · cases h
    next inner after hinner =>
    split at h
    · cases h
    next rest hrest =>
    split at h
    · cases h
    next call hcall =>
    obtain rfl := Option.some.inj (Except.ok.inj h)
    exact ⟨arguments, inner, after, hsearch, hinner, hrest, hcall, rfl⟩
  · rintro ⟨arguments, inner, after, hsearch, hinner, hrest, hcall, htext⟩
    unfold find
    rw [hsearch]
    dsimp only
    rw [hinner]
    dsimp only
    rw [hrest]
    dsimp only
    rw [hcall, ← htext]

/-- A call stands between the texts around it. It starts with a head where a word can start, it
ends with a `;`, and what it passes is one line each. -/
theorem find_spec {prev : Option Char} {s : Text} {site : IncludeSite}
    (h : find prev s = .ok (some site)) :
    s = site.before ++ (site.text ++ site.rest) ∧ site.text.getLast? = some ';' ∧
      site.call.OneLine ∧
      (head.wordRest? (Text.lastOr prev site.before) (site.text ++ site.rest)).isSome = true := by
  obtain ⟨arguments, inner, after, hs, he, hr, hcall, htext⟩ := find_eq_some_iff.1 h
  obtain ⟨t, rfl, ht⟩ := Text.search_eq_some_lastOr hs
  rw [List.drop_left] at htext
  have hargs : arguments <:+ t :=
    Code.Head.suffix_rest? (Code.Head.wordRest?_eq_some_iff.1 ht).2
  -- the three readers leave ends of the text, so that the call is what stands in front of them
  rw [tail_eq] at hr
  obtain ⟨u, hu⟩ := Code.Head.exists_append_word hr
  obtain ⟨v, hv⟩ := Code.suffix_enclosed? he
  obtain ⟨w, hw⟩ := hargs
  have hbody : arguments = v ++ u ++ ";".toList ++ site.rest := by
    rw [← hv, hu]
    simp only [List.append_assoc]
  have hstart : t = w ++ (v ++ u ++ ";".toList) ++ site.rest := by
    rw [← hw, hbody]
    simp only [List.append_assoc]
  rw [hstart, Text.upTo_append] at htext
  have htext' : site.text ++ site.rest = t := by
    rw [htext, hstart]
  refine ⟨by rw [htext'], ?_, IncludeCall.oneLine_of_ofArguments hcall, ?_⟩
  · rw [htext, List.getLast?_append, List.getLast?_append]
    rfl
  · rw [htext', ht]
    rfl

/-- A text with a call in it, cut in front of the call. -/
theorem append_eq_of_find {prev : Option Char} {s : Text} {site : IncludeSite}
    (h : find prev s = .ok (some site)) (done : Text) :
    done ++ s = done ++ site.before ++ (site.text ++ site.rest) := by
  conv => lhs; rw [(find_spec h).1]
  rw [List.append_assoc]

end IncludeSite

namespace Expander

/-! ## Steps -/

/-- What stands in the place of a call. -/
def replacement (x : Expander) (chain : List Text) (before : Text) (site : IncludeSite)
    (steps : Nat) : Bounded Text :=
  match site.call.target with
  | .dynamic _ => pure []
  | .literal name => x.splice chain before site name steps

/-- A step puts the replacement of the next call in its place. -/
theorem expand_succ (x : Expander) (chain : List Text) {done rest : Text} {site : IncludeSite}
    (h : IncludeSite.find (Text.lastOr none done) rest = .ok (some site)) (steps : Nat) :
    x.expand chain done rest (steps + 1) =
      x.replacement chain (done ++ site.before) site steps >>= fun r =>
        x.expand chain (done ++ site.before) (r ++ site.rest) steps := by
  rw [expand, h, replacement]
  show (match site.call.target with
    | .dynamic _ => _
    | .literal name => _) = _
  cases site.call.target <;> rfl

theorem expand_of_find_eq_none (x : Expander) (chain : List Text) {done rest : Text}
    (h : IncludeSite.find (Text.lastOr none done) rest = .ok none) (steps : Nat) :
    x.expand chain done rest (steps + 1) = ended (.ok (done ++ rest)) := by
  rw [expand, h]
  rfl

theorem parentOf_eq_ok {chain : List Text} {before call : Text} {parent : Marker}
    (h : parentOf chain before call = .ok parent) : lastMarker? before = some parent := by
  unfold parentOf at h
  split at h
  next m hm =>
    rw [hm, Except.ok.inj h]
  · cases h

/-! ## The lines around a fragment -/

/-- A text around an enclosed fragment: the code in front with its closing tag, the fragment on
lines of its own, and the line that opens code again. -/
theorem lines_enclosed (x enter fragment : Text) (parent : Marker) (leave y : Text) :
    Text.lines (x ++ enclosed enter fragment parent leave ++ y) =
      Text.lines (x ++ enter ++ " ?>".toList) ++ (Text.lines fragment ++
        Text.lines (parent.encode ++ "<?php ".toList ++ leave ++ y)) := by
  rw [← Text.lines_append_cons, ← Text.lines_append_cons, enclosed,
    show " ?>\n".toList = " ?>".toList ++ ['\n'] by decide]
  simp only [List.append_assoc, List.cons_append, List.nil_append]

/-- The code in front of a fragment stays on one line to its closing tag. -/
theorem not_mem_newline_closed {enter : Text} (henter : '\n' ∉ enter) :
    '\n' ∉ enter ++ " ?>".toList := by
  rw [List.mem_append, not_or]
  exact ⟨henter, by decide⟩

/-- Code is opened again behind a fragment on one line. -/
theorem not_mem_newline_reopened (parent : Marker) {leave : Text} (hleave : '\n' ∉ leave) :
    '\n' ∉ parent.encode ++ ("<?php ".toList ++ leave) := by
  rw [List.mem_append, List.mem_append, not_or, not_or]
  exact ⟨parent.not_mem_newline_encode, by decide, hleave⟩

/-- A line of a text around an enclosed fragment is one above the place, the line of the place, one
of the fragment, the line behind it, or one below. -/
theorem mem_lines_enclosed {x enter fragment : Text} {parent : Marker} {leave y line : Text}
    (henter : '\n' ∉ enter) (hleave : '\n' ∉ leave) :
    line ∈ Text.lines (x ++ enclosed enter fragment parent leave ++ y) ↔
      line ∈ (Text.lines x).dropLast ∨ line = Text.lastLine x ++ (enter ++ " ?>".toList) ∨
      line ∈ Text.lines fragment ∨
      line = parent.encode ++ ("<?php ".toList ++ leave) ++ Text.firstLine y ∨
      line ∈ (Text.lines y).tail := by
  rw [lines_enclosed, List.append_assoc x,
    Text.lines_append_line x (not_mem_newline_closed henter), List.append_assoc parent.encode,
    Text.lines_append_of_not_mem (not_mem_newline_reopened parent hleave)]
  simp only [List.mem_append, List.mem_cons, List.not_mem_nil, or_false, or_assoc]

/-- Behind a fragment the line starts with the marker of the call, an opening tag and the statements
that restore the caller's variables. -/
theorem lastLine_enclosed (before enter fragment : Text) (parent : Marker) {leave : Text}
    (hleave : '\n' ∉ leave) :
    Text.lastLine (before ++ enclosed enter fragment parent leave) =
      parent.encode ++ ("<?php ".toList ++ leave) := by
  have hcut : before ++ enclosed enter fragment parent leave =
      (before ++ enter ++ " ?>\n".toList ++ fragment) ++
        '\n' :: (parent.encode ++ ("<?php ".toList ++ leave)) := by
    unfold enclosed
    simp only [List.append_assoc, List.cons_append]
  rw [hcut, Text.lastLine_append_cons,
    Text.lastLine_of_not_mem (not_mem_newline_reopened parent hleave)]

/-- The marker that leads the last line governs what follows. -/
theorem lastMarker?_of_lastLine {s y : Text} {m : Marker} (h : Text.lastLine s = m.encode ++ y) :
    lastMarker? s = some m := by
  rw [Marker.lastOf_lines, h, Marker.lastOf_singleton, Marker.decode?_encode_append]
  rfl

/-- The marker behind a fragment is the one that governs the call. -/
theorem lastMarker?_enclosed (before enter fragment : Text) (parent : Marker) {leave : Text}
    (hleave : '\n' ∉ leave) :
    lastMarker? (before ++ enclosed enter fragment parent leave) = some parent :=
  lastMarker?_of_lastLine (lastLine_enclosed before enter fragment parent hleave)

end Expander

end TemplateTrace
